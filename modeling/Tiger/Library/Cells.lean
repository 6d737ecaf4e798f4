import Mathlib.Data.List.Infix

/-!
# Texts in cells

A memory is a list of cells. A text in it goes up to a terminator `z` (`textAt`), and
looking for a delimiter `d` goes up to the delimiter or the terminator (`seek`). Both are
`none` when the cells end before that.
-/

set_option autoImplicit false

namespace Tiger.Library

variable {α : Type} [DecidableEq α] {z d : α} {f : List α}

/-- The text at the start of the cells. -/
def textAt (z : α) : List α → Option (List α)
  | [] => none
  | c :: cells => if c = z then some [] else (textAt z cells).map (c :: ·)

/-- Where the delimiter stands in the text at the start of the cells, if it does. -/
def seek (z d : α) : List α → Option (Option ℕ)
  | [] => none
  | c :: cells =>
    if c = d then some (some 0)
    else if c = z then some none
    else (seek z d cells).map (Option.map (· + 1))

/-- A text is read up to the first terminator. -/
theorem textAt_append (h : z ∉ f) (rest : List α) : textAt z (f ++ z :: rest) = some f := by
  induction f with
  | nil => simp [textAt]
  | cons c f ih =>
    rw [List.mem_cons, not_or] at h
    rw [List.cons_append, textAt, if_neg (Ne.symm h.1), ih h.2]
    rfl

/-- Without a terminator no text is read. -/
theorem textAt_of_notMem (h : z ∉ f) : textAt z f = none := by
  induction f with
  | nil => rfl
  | cons c f ih =>
    rw [List.mem_cons, not_or] at h
    rw [textAt, if_neg (Ne.symm h.1), ih h.2]
    rfl

/-- The delimiter stands in front of the terminator. -/
theorem seek_append (hz : z ∉ f) (hd : d ∉ f) (rest : List α) :
    seek z d (f ++ d :: rest) = some (some f.length) := by
  induction f with
  | nil => simp [seek]
  | cons c f ih =>
    rw [List.mem_cons, not_or] at hz hd
    rw [List.cons_append, seek, if_neg (Ne.symm hd.1), if_neg (Ne.symm hz.1), ih hz.2 hd.2]
    rfl

/-- The terminator stands in front of any delimiter. -/
theorem seek_end (hne : d ≠ z) (hz : z ∉ f) (hd : d ∉ f) (rest : List α) :
    seek z d (f ++ z :: rest) = some none := by
  induction f with
  | nil => simp [seek, hne.symm]
  | cons c f ih =>
    rw [List.mem_cons, not_or] at hz hd
    rw [List.cons_append, seek, if_neg (Ne.symm hd.1), if_neg (Ne.symm hz.1), ih hz.2 hd.2]
    rfl

/-- Neither of the two stands in the cells. -/
theorem seek_of_notMem (hz : z ∉ f) (hd : d ∉ f) : seek z d f = none := by
  induction f with
  | nil => rfl
  | cons c f ih =>
    rw [List.mem_cons, not_or] at hz hd
    rw [seek, if_neg (Ne.symm hd.1), if_neg (Ne.symm hz.1), ih hz.2 hd.2]
    rfl

end Tiger.Library
