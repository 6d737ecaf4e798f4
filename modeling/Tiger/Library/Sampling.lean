import Mathlib.Algebra.Order.Archimedean.Basic
import Mathlib.Data.Nat.Find

/-!
# Sampling

A loop that looks at the world from time to time does so at a sequence of instants.
`exists_first` finds the first of them that reaches a bound, and
`exists_mem_window` the reason for looking often enough: when two looks in a row are
less than `w` apart, no window of length `w` that ends after the first look is missed.
-/

set_option autoImplicit false

namespace Tiger.Library

variable {α : Type} [AddCommGroup α] [LinearOrder α]

omit [AddCommGroup α] in
/-- The first instant that reaches a bound. -/
theorem exists_first {t : ℕ → α} {m : α} (h : ∃ k, m ≤ t k) :
    ∃ k, m ≤ t k ∧ (k = 0 ∨ t (k - 1) < m) := by
  classical
  refine ⟨Nat.find h, Nat.find_spec h, ?_⟩
  by_cases hk : Nat.find h = 0
  · exact .inl hk
  · exact .inr (not_le.mp (Nat.find_min h (by omega)))

variable [IsOrderedAddMonoid α] {t : ℕ → α}

/-- Instants that come at least `d` after each other pass every bound. -/
theorem exists_le_of_step [Archimedean α] {d : α} (hd : 0 < d) (hstep : ∀ k, t k + d ≤ t (k + 1))
    (m : α) : ∃ k, m ≤ t k := by
  have hline : ∀ k, t 0 + k • d ≤ t k := by
    intro k
    induction k with
    | zero => simp
    | succ k ih =>
      rw [succ_nsmul, ← add_assoc]
      exact (add_le_add_left ih d).trans (hstep k)
  obtain ⟨k, hk⟩ := Archimedean.arch (m - t 0) hd
  refine ⟨k, le_trans ?_ (hline k)⟩
  rwa [sub_le_iff_le_add'] at hk

/-- **No window is missed** by instants less than `w` apart. -/
theorem exists_mem_window {m w : α} (hgap : ∀ k, t (k + 1) < t k + w) (hpass : ∃ k, m ≤ t k)
    (hstart : t 0 < m + w) : ∃ k, m ≤ t k ∧ t k < m + w := by
  obtain ⟨k, hk, hfirst⟩ := exists_first hpass
  refine ⟨k, hk, ?_⟩
  cases k with
  | zero => exact hstart
  | succ k =>
    have hbefore : t k < m := hfirst.resolve_left (Nat.succ_ne_zero k)
    exact (hgap k).trans (add_lt_add_left hbefore w)

end Tiger.Library
