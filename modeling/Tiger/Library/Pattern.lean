import Mathlib.Data.List.Infix

/-!
# Patterns of repeated classes

A pattern is a list of classes of symbols, each with bounds on how often it stands
(`[0-9]+`, `.?`). `accepts` is the match of a whole text, and `accepts_cons_iff` reads it
as a split of the text.
-/

set_option autoImplicit false

namespace Tiger.Library

variable {α : Type}

/-- A class of symbols that stands at least `low` and at most `high` times; `none` is no
bound. -/
structure Piece (α : Type) where
  cls : α → Bool
  low : ℕ
  high : Option ℕ

/-- A piece may have `n` symbols. -/
def Piece.allows (p : Piece α) (n : ℕ) : Bool := decide (p.low ≤ n) && p.high.all (n ≤ ·)

/-- The pattern matches the whole text. -/
def accepts : List (Piece α) → List α → Bool
  | [], s => s.isEmpty
  | p :: ps, s =>
    (List.range (s.length + 1)).any fun n =>
      p.allows n && (s.take n).all p.cls && accepts ps (s.drop n)

/-- A text of the first piece and one of the others. -/
theorem accepts_cons_iff (p : Piece α) (ps : List (Piece α)) (s : List α) :
    accepts (p :: ps) s = true ↔
      ∃ u v, s = u ++ v ∧ p.allows u.length = true ∧ (∀ c ∈ u, p.cls c = true) ∧
        accepts ps v = true := by
  rw [accepts, List.any_eq_true]
  constructor
  · rintro ⟨n, hn, hmatch⟩
    rw [List.mem_range] at hn
    simp only [Bool.and_eq_true, List.all_eq_true] at hmatch
    have hlen : (s.take n).length = n := List.length_take_of_le (by omega)
    refine ⟨s.take n, s.drop n, (List.take_append_drop n s).symm, ?_, hmatch.1.2, hmatch.2⟩
    rw [hlen]
    exact hmatch.1.1
  · rintro ⟨u, v, rfl, hallows, hcls, hrest⟩
    refine ⟨u.length, List.mem_range.mpr (by rw [List.length_append]; omega), ?_⟩
    simp only [Bool.and_eq_true, List.all_eq_true, List.take_left, List.drop_left]
    exact ⟨⟨hallows, hcls⟩, hrest⟩

/-- One piece alone. -/
theorem accepts_singleton_iff (p : Piece α) (s : List α) :
    accepts [p] s = true ↔ p.allows s.length = true ∧ ∀ c ∈ s, p.cls c = true := by
  rw [accepts_cons_iff]
  constructor
  · rintro ⟨u, v, rfl, hallows, hcls, hrest⟩
    obtain rfl : v = [] := by simpa [accepts] using hrest
    rw [List.append_nil]
    exact ⟨hallows, hcls⟩
  · rintro ⟨hallows, hcls⟩
    exact ⟨s, [], (List.append_nil s).symm, hallows, hcls, rfl⟩

end Tiger.Library
