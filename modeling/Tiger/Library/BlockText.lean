import Mathlib.Data.List.Basic

/-!
# Texts made of lines and blocks

A text is a list of symbols, and one symbol ends a line. `unlines` prints a list of
lines, `linesOf` reads the lines of a text back; the lines that are read never hold
the symbol that ends them, so a text comes back as it was printed exactly when no
printed line holds it.

In a list of lines a block is what stands between an opening and a closing line.
`blocks_render` is the round trip: blocks that do not hold the closing line are read
as they were printed.
-/

set_option autoImplicit false

namespace Tiger.Library

section Lines

variable {α : Type} [DecidableEq α]

/-- The text of a list of lines, each ended by `nl`. -/
def unlines (nl : α) (ls : List (List α)) : List α := ls.flatMap (· ++ [nl])

/-- The lines of a text. What stands after the last `nl` is a line too. -/
def linesOf (nl : α) (text : List α) : List (List α) := text.splitOn nl

omit [DecidableEq α] in
/-- No lines make up the empty text. -/
@[simp] theorem unlines_nil (nl : α) : unlines nl [] = [] := rfl

omit [DecidableEq α] in
/-- A text begins with its first line and what ends it. -/
@[simp] theorem unlines_cons (nl : α) (l : List α) (ls : List (List α)) :
    unlines nl (l :: ls) = l ++ nl :: unlines nl ls := by
  simp [unlines]

/-- A text without a line end is one line. -/
theorem linesOf_of_not_mem {nl : α} {l : List α} (h : nl ∉ l) : linesOf nl l = [l] :=
  List.splitOn_eq_singleton h

/-- Every printed line is read by itself. -/
theorem linesOf_unlines (nl : α) (ls : List (List α)) :
    linesOf nl (unlines nl ls) = ls.flatMap (linesOf nl) ++ [[]] := by
  induction ls with
  | nil => rfl
  | cons l ls ih =>
    rw [unlines_cons, linesOf, List.splitOn_append_cons_self, List.flatMap_cons, List.append_assoc,
      ← ih]
    rfl

/-- Lines without `nl` are read back. -/
theorem linesOf_unlines_of_not_mem {nl : α} {ls : List (List α)} (h : ∀ l ∈ ls, nl ∉ l) :
    linesOf nl (unlines nl ls) = ls ++ [[]] := by
  rw [linesOf_unlines]
  congr 1
  induction ls with
  | nil => rfl
  | cons l ls ih =>
    have hls := ih fun l hmem => h l (List.mem_cons_of_mem _ hmem)
    rw [List.flatMap_cons, hls, linesOf_of_not_mem (h l (by simp)), List.singleton_append]

/-- A line that is read does not hold `nl`. -/
theorem not_mem_of_mem_linesOf {nl : α} {text l : List α} (h : l ∈ linesOf nl text) : nl ∉ l := by
  induction text generalizing l with
  | nil =>
    rw [linesOf, List.splitOn_nil, List.mem_singleton] at h
    simp [h]
  | cons a text ih =>
    rw [linesOf, List.splitOn_cons_eq_if_modifyHead] at h
    by_cases ha : (a == nl) = true
    · rw [if_pos ha] at h
      rcases List.mem_cons.mp h with rfl | h
      · simp
      · exact ih h
    · rw [if_neg ha] at h
      have hne : nl ≠ a := fun heq => ha (by simp [heq])
      obtain ⟨m, ms, hsplit⟩ := List.exists_cons_of_ne_nil (List.splitOn_ne_nil nl text)
      rw [hsplit, List.modifyHead_cons] at h
      have hread : ∀ k ∈ m :: ms, nl ∉ k := by
        intro k hk
        rw [← hsplit] at hk
        exact ih hk
      rcases List.mem_cons.mp h with rfl | h
      · simpa [hne] using hread m (by simp)
      · exact hread l (List.mem_cons_of_mem _ h)

end Lines

section Blocks

variable {β : Type} [DecidableEq β]

/-- The blocks of a list of lines: what stands between `opening` and `closing`. The second
argument is what was read of the block that is open. -/
def blocks (opening closing : β) : Option (List β) → List β → List (List β)
  | _, [] => []
  | none, l :: ls =>
    if l = opening then blocks opening closing (some []) ls
    else blocks opening closing none ls
  | some b, l :: ls =>
    if l = closing then b :: blocks opening closing none ls
    else blocks opening closing (some (b ++ [l])) ls

/-- The lines of a list of blocks. -/
def render (opening closing : β) (bs : List (List β)) : List β :=
  bs.flatMap fun b => opening :: b ++ [closing]

variable {opening closing : β}

/-- The rest of an open block, up to its closing line. -/
theorem blocks_some_append {c : List β} (h : closing ∉ c) (b rest : List β) :
    blocks opening closing (some b) (c ++ closing :: rest) =
      (b ++ c) :: blocks opening closing none rest := by
  induction c generalizing b with
  | nil => simp [blocks]
  | cons l c ih =>
    have hl : l ≠ closing := fun heq => h (by simp [heq])
    have hc : closing ∉ c := fun hmem => h (List.mem_cons_of_mem _ hmem)
    rw [List.cons_append, blocks, if_neg hl, ih hc, List.append_assoc, List.singleton_append]

/-- **Round trip.** Blocks without the closing line are read as they were printed. -/
theorem blocks_render {bs : List (List β)} (h : ∀ b ∈ bs, closing ∉ b) (rest : List β) :
    blocks opening closing none (render opening closing bs ++ rest) =
      bs ++ blocks opening closing none rest := by
  induction bs with
  | nil => rfl
  | cons b bs ih =>
    have hb : closing ∉ b := h b (by simp)
    have hbs : ∀ b ∈ bs, closing ∉ b := fun b hmem => h b (List.mem_cons_of_mem _ hmem)
    have hlines : render opening closing (b :: bs) ++ rest =
        opening :: (b ++ closing :: (render opening closing bs ++ rest)) := by
      simp [render]
    rw [hlines, blocks, if_pos rfl, blocks_some_append hb, List.nil_append, ih hbs,
      List.cons_append]

/-- A line that does not open a block is skipped. -/
theorem blocks_none_cons {l : β} (h : l ≠ opening) (ls : List β) :
    blocks opening closing none (l :: ls) = blocks opening closing none ls := by
  rw [blocks, if_neg h]

/-- A line of a block is a line of the text, or was read before. -/
theorem mem_of_mem_blocks {ls b : List β} {l : β} (start : Option (List β))
    (hb : b ∈ blocks opening closing start ls) (hl : l ∈ b) : l ∈ start.getD [] ∨ l ∈ ls := by
  induction ls generalizing start with
  | nil => simp [blocks] at hb
  | cons a ls ih =>
    cases start with
    | none =>
      unfold blocks at hb
      split at hb
      · rcases ih (some []) hb with hread | hread
        · simp at hread
        · exact .inr (List.mem_cons_of_mem _ hread)
      · rcases ih none hb with hread | hread
        · simp at hread
        · exact .inr (List.mem_cons_of_mem _ hread)
    | some c =>
      unfold blocks at hb
      split at hb
      · rcases List.mem_cons.mp hb with rfl | hb
        · exact .inl hl
        · rcases ih none hb with hread | hread
          · simp at hread
          · exact .inr (List.mem_cons_of_mem _ hread)
      · rcases ih (some (c ++ [a])) hb with hread | hread
        · rcases List.mem_append.mp hread with hread | hread
          · exact .inl hread
          · rw [List.mem_singleton] at hread
            exact .inr (by simp [hread])
        · exact .inr (List.mem_cons_of_mem _ hread)

/-- An open block that is closed is read. -/
theorem blocks_ne_nil {ls : List β} (b : List β) (h : closing ∈ ls) :
    blocks opening closing (some b) ls ≠ [] := by
  induction ls generalizing b with
  | nil => cases h
  | cons l ls ih =>
    unfold blocks
    by_cases hl : l = closing
    · simp [hl]
    · rw [if_neg hl]
      rcases List.mem_cons.mp h with heq | h
      · exact absurd heq.symm hl
      · exact ih _ h

end Blocks

end Tiger.Library
