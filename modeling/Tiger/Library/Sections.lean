import Mathlib.Data.List.Basic

/-!
# Lists cut into sections

A list is read as a head and the sections behind it; a section begins at a marked entry
and goes on to the next one. `sections_append_flatten` is the round trip: a head without a
mark and sections with a mark at their begin alone are read as they were put together.
-/

set_option autoImplicit false

namespace Tiger.Library

variable {α : Type} {mark : α → Bool}

/-- The head of a list and its sections. -/
def sections (mark : α → Bool) : List α → List α × List (List α)
  | [] => ([], [])
  | a :: as =>
    let r := sections mark as
    if mark a then ([], (a :: r.1) :: r.2) else (a :: r.1, r.2)

/-- A section: a marked entry, and no other one behind it. -/
def IsSection (mark : α → Bool) (l : List α) : Prop :=
  ∃ a as, l = a :: as ∧ mark a = true ∧ ∀ b ∈ as, mark b = false

/-- Entries without a mark stand in the head. -/
theorem sections_append {l : List α} (h : ∀ a ∈ l, mark a = false) (rest : List α) :
    sections mark (l ++ rest) = (l ++ (sections mark rest).1, (sections mark rest).2) := by
  induction l with
  | nil => rfl
  | cons a l ih =>
    have ha : mark a = false := h a (by simp)
    have hl := ih fun b hb => h b (List.mem_cons_of_mem _ hb)
    rw [List.cons_append, sections, hl]
    simp [ha]

/-- Sections written one behind the other are read as they are. -/
theorem sections_flatten {ls : List (List α)} (h : ∀ l ∈ ls, IsSection mark l) :
    sections mark ls.flatten = ([], ls) := by
  induction ls with
  | nil => rfl
  | cons l ls ih =>
    obtain ⟨a, as, rfl, ha, has⟩ := h l (by simp)
    have hls := ih fun k hk => h k (List.mem_cons_of_mem _ hk)
    rw [List.flatten_cons, List.cons_append, sections, sections_append has, hls]
    simp [ha]

/-- **Round trip.** -/
theorem sections_append_flatten {head : List α} {ls : List (List α)}
    (hhead : ∀ a ∈ head, mark a = false) (h : ∀ l ∈ ls, IsSection mark l) :
    sections mark (head ++ ls.flatten) = (head, ls) := by
  rw [sections_append hhead, sections_flatten h, List.append_nil]

end Tiger.Library
