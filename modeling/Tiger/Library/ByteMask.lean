import Mathlib.Data.List.GetD
import Mathlib.Data.Nat.Bitwise

/-!
# Masks of bytes

A mask is a list of bytes. Bit `b` of it is bit `b % 8` of byte `b / 8` (`bitAt`). Setting
bits in one byte changes the bits there alone (`bitAt_modify`), and two masks of the same
length with the same bits are the same (`eq_of_bitAt`).
-/

set_option autoImplicit false

namespace Tiger.Library

/-- A bit of a list of bytes. -/
def bitAt (bytes : List ℕ) (b : ℕ) : Bool := (bytes.getD (b / 8) 0).testBit (b % 8)

/-- In bytes that are 0 no bit is set. -/
theorem bitAt_replicate_zero (n b : ℕ) : bitAt (List.replicate n 0) b = false := by
  unfold bitAt
  rw [List.getD_eq_getElem?_getD, List.getElem?_getD_replicate_default_eq, Nat.zero_testBit]

/-- Bits that are added to one byte. -/
theorem bitAt_modify {bytes : List ℕ} {j : ℕ} (hj : j < bytes.length) (x b : ℕ) :
    bitAt (bytes.modify j (· ||| x)) b =
      (bitAt bytes b || (decide (b / 8 = j) && x.testBit (b % 8))) := by
  unfold bitAt
  rw [List.getD_eq_getElem?_getD, List.getD_eq_getElem?_getD, List.getElem?_modify]
  by_cases hb : b / 8 = j
  · rw [hb, List.getElem?_eq_getElem hj]
    simp
  · rw [decide_eq_false hb, Bool.false_and, Bool.or_false]
    cases bytes[b / 8]? with
    | none => rfl
    | some byte => simp [Ne.symm hb]

/-- The bits are all there is to a mask. -/
theorem eq_of_bitAt {l m : List ℕ} (hlen : l.length = m.length) (hl : ∀ x ∈ l, x < 256)
    (hm : ∀ x ∈ m, x < 256) (h : ∀ b < 8 * l.length, bitAt l b = bitAt m b) : l = m := by
  refine List.ext_getElem hlen fun j hj hj' => Nat.eq_of_testBit_eq fun k => ?_
  by_cases hk : k < 8
  · have hbit := h (8 * j + k) (by omega)
    have hdiv : (8 * j + k) / 8 = j := by omega
    have hmod : (8 * j + k) % 8 = k := by omega
    unfold bitAt at hbit
    rwa [hdiv, hmod, List.getD_eq_getElem _ _ hj, List.getD_eq_getElem _ _ hj'] at hbit
  · have hpow : 256 ≤ 2 ^ k := Nat.pow_le_pow_right (n := 2) (by decide) (by omega : 8 ≤ k)
    rw [Nat.testBit_lt_two_pow (lt_of_lt_of_le (hl _ (List.getElem_mem hj)) hpow),
      Nat.testBit_lt_two_pow (lt_of_lt_of_le (hm _ (List.getElem_mem hj')) hpow)]

/-- Bytes stay bytes. -/
theorem lt_of_mem_modify {bytes : List ℕ} (h : ∀ x ∈ bytes, x < 256) (j : ℕ) {y : ℕ}
    (hy : y < 256) : ∀ x ∈ bytes.modify j (· ||| y), x < 256 := by
  intro x hx
  obtain ⟨i, hi, rfl⟩ := List.getElem_of_mem hx
  rw [List.length_modify] at hi
  rw [List.getElem_modify]
  have hbyte := h _ (List.getElem_mem hi)
  split
  · exact Nat.or_lt_two_pow (n := 8) hbyte hy
  · exact hbyte

end Tiger.Library
