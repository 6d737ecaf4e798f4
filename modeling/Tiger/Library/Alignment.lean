import Mathlib.Data.Set.Basic
import Mathlib.Tactic.Ring

/-!
# Aligned blocks of places

Places on a line that are `d` apart, counted from `o`, are taken together `n` at a time.
The block of a place is the set of the places with the same number `(x - o) / d / n`.

Blocks of one size are equal or disjoint, and a block lies in the block of every multiple
of its size. `mem_placesFrom_iff` is the other way to say a block: `n` places from its first
one on.
-/

set_option autoImplicit false

namespace Tiger.Library

/-- The block of `n` places that `x` is in. -/
def alignedBlock (o d : ℤ) (n : ℕ) (x : ℤ) : Set ℤ :=
  {y | d ∣ y - o ∧ (y - o) / d / n = (x - o) / d / n}

/-- `n` places from `a` on. -/
def placesFrom (a d : ℤ) (n : ℕ) : List ℤ := (List.range n).map fun i : ℕ => a + d * i

variable {o d : ℤ} {n : ℕ} {x y : ℤ}

/-- A place lies in its own block. -/
theorem mem_alignedBlock_self (h : d ∣ x - o) : x ∈ alignedBlock o d n x := ⟨h, rfl⟩

/-- A block lies in the block of a multiple of its size. -/
theorem alignedBlock_subset (m : ℕ) : alignedBlock o d n x ⊆ alignedBlock o d (n * m) x := by
  rintro y ⟨hy, hnumber⟩
  refine ⟨hy, ?_⟩
  have hn : (0 : ℤ) ≤ n := by omega
  rw [Int.natCast_mul, ← Int.ediv_ediv_of_nonneg hn, ← Int.ediv_ediv_of_nonneg hn, hnumber]

/-- Two blocks of one size have all places in common or none. -/
theorem notMem_alignedBlock (h : (x - o) / d / n ≠ (y - o) / d / n) {z : ℤ}
    (hz : z ∈ alignedBlock o d n x) : z ∉ alignedBlock o d n y :=
  fun hy => h (hz.2.symm.trans hy.2)

/-- The places from `a` on are `a + d * i` for `i` below their number. -/
theorem mem_placesFrom {a : ℤ} : y ∈ placesFrom a d n ↔ ∃ i < n, a + d * (i : ℤ) = y := by
  simp [placesFrom]

/-- A block is made of the places from its first one on. -/
theorem mem_placesFrom_iff {a : ℤ} (hd : 0 < d) (hn : 0 < n)
    (ha : a = o + d * (n * ((x - o) / d / n))) :
    y ∈ placesFrom a d n ↔ y ∈ alignedBlock o d n x := by
  generalize hk : (x - o) / d / n = k at ha
  have hn' : (0 : ℤ) < n := by omega
  rw [mem_placesFrom]
  constructor
  · rintro ⟨i, hi, rfl⟩
    have hplace : a + d * (i : ℤ) - o = d * (n * k + i) := by rw [ha]; ring
    refine ⟨⟨n * k + i, hplace⟩, ?_⟩
    rw [hplace, Int.mul_ediv_cancel_left _ hd.ne', hk, add_comm, Int.add_mul_ediv_left _ _ hn'.ne',
      Int.ediv_eq_zero_of_lt (by omega) (by omega), zero_add]
  · rintro ⟨⟨q, hq⟩, hnumber⟩
    rw [hq, Int.mul_ediv_cancel_left _ hd.ne'] at hnumber
    have hrest := Int.emod_nonneg q hn'.ne'
    have hlt := Int.emod_lt_of_pos q hn'
    refine ⟨(q % n).toNat, by omega, ?_⟩
    have hdiv : n * k + q % n = q := by
      rw [hk] at hnumber
      rw [← hnumber]
      exact Int.mul_ediv_add_emod q n
    have hplace : y = o + d * (n * k + q % n) := by rw [hdiv, ← hq]; ring
    rw [Int.toNat_of_nonneg hrest, hplace, ha]
    ring

end Tiger.Library
