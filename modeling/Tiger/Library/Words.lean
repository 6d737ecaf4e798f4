import Mathlib.Data.List.GetD
import Mathlib.Data.Nat.Bitwise

/-!
# Words of four bytes

A word of 32 bits goes over the network as four bytes, the high one first (`wordBytes`).
`wordAt` reads the word with a given number in a list of bytes; what is behind the list counts
as zero. A list of words is read back word by word (`wordAt_flatMap`), also with more bytes
behind it.
-/

set_option autoImplicit false

namespace Tiger.Library

/-- The bytes of a word. -/
def wordBytes (w : ℕ) : List UInt8 :=
  [UInt8.ofNat (w / 2 ^ 24), UInt8.ofNat (w / 2 ^ 16), UInt8.ofNat (w / 2 ^ 8), UInt8.ofNat w]

/-- The number four bytes stand for. -/
def wordOf (a b c d : UInt8) : ℕ :=
  ((a.toNat * 2 ^ 8 + b.toNat) * 2 ^ 8 + c.toNat) * 2 ^ 8 + d.toNat

/-- The word number `i` of a list of bytes. -/
def wordAt (bytes : List UInt8) (i : ℕ) : ℕ :=
  wordOf (bytes.getD (4 * i) 0) (bytes.getD (4 * i + 1) 0) (bytes.getD (4 * i + 2) 0)
    (bytes.getD (4 * i + 3) 0)

/-- A word has four bytes. -/
@[simp] theorem length_wordBytes (w : ℕ) : (wordBytes w).length = 4 := rfl

/-- A word in a list does not depend on what is behind it. -/
theorem wordAt_append_left {bytes : List UInt8} {i : ℕ} (h : 4 * i + 4 ≤ bytes.length)
    (rest : List UInt8) : wordAt (bytes ++ rest) i = wordAt bytes i := by
  unfold wordAt
  rw [List.getD_append _ _ _ _ (by omega), List.getD_append _ _ _ _ (by omega),
    List.getD_append _ _ _ _ (by omega), List.getD_append _ _ _ _ (by omega)]

/-- The word behind the first four bytes. -/
theorem wordAt_append_succ {bytes : List UInt8} (h : bytes.length = 4) (rest : List UInt8) (i : ℕ) :
    wordAt (bytes ++ rest) (i + 1) = wordAt rest i := by
  unfold wordAt
  rw [List.getD_append_right _ _ _ _ (by omega), List.getD_append_right _ _ _ _ (by omega),
    List.getD_append_right _ _ _ _ (by omega), List.getD_append_right _ _ _ _ (by omega), h]
  congr 2

/-- A word that is written is read back. -/
theorem wordAt_wordBytes {w : ℕ} (h : w < 2 ^ 32) (rest : List UInt8) :
    wordAt (wordBytes w ++ rest) 0 = w := by
  have hlt : (4 * 0 + 4) ≤ (wordBytes w).length := Nat.le_refl 4
  rw [wordAt_append_left hlt]
  simp only [wordAt, wordBytes, wordOf, List.getD_cons_zero, List.getD_cons_succ, Nat.mul_zero,
    Nat.zero_add, UInt8.toNat_ofNat']
  omega

/-- Words are read back. -/
theorem wordAt_flatMap {ws : List ℕ} (h : ∀ w ∈ ws, w < 2 ^ 32) (rest : List UInt8) {i : ℕ}
    (hi : i < ws.length) : wordAt (ws.flatMap wordBytes ++ rest) i = ws[i] := by
  induction ws generalizing i with
  | nil => exact absurd hi (Nat.not_lt_zero i)
  | cons w ws ih =>
    rw [List.flatMap_cons, List.append_assoc]
    cases i with
    | zero => exact wordAt_wordBytes (h w List.mem_cons_self) _
    | succ i =>
      rw [wordAt_append_succ (length_wordBytes w), List.getElem_cons_succ]
      exact ih (fun v hv => h v (List.mem_cons_of_mem _ hv)) (Nat.lt_of_succ_lt_succ hi)

end Tiger.Library
