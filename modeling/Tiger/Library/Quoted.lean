import Mathlib.Data.List.Basic

/-!
# Fields that may stand in quotes

A line of fields with a delimiter between them, where a field stands as it is or between two
quotes. A delimiter inside quotes belongs to the field, and nothing escapes a quote, so
a reader finds the fields again exactly when none of them gives a quote or a delimiter away
(`readItems_itemText_iff`). What the reader accepts at all, it has read from exactly that
text (`readItems_sound`).
-/

set_option autoImplicit false

namespace Tiger.Library

variable {α : Type}

/-- A field, as it is or in quotes. -/
inductive Item (α : Type) where
  | bare (s : List α)
  | quoted (s : List α)
deriving DecidableEq

/-- A field as it is written. -/
def Item.text (q : α) : Item α → List α
  | bare s => s
  | quoted s => q :: (s ++ [q])

/-- A field that can be told from what stands around it. -/
def Item.Clean (d q : α) : Item α → Prop
  | bare s => d ∉ s ∧ s.head? ≠ some q
  | quoted s => q ∉ s

/-- The fields with the delimiter between them. -/
def itemText (d q : α) (items : List (Item α)) : List α :=
  [d].intercalate (items.map (Item.text q))

/-- What has been read of a field: all of it as it is, some of it behind a quote, or all of
it up to the second quote. -/
inductive Part (α : Type) where
  | bare (s : List α)
  | inside (s : List α)
  | closed (s : List α)

/-- A part as it is written. -/
def Part.text (q : α) : Part α → List α
  | bare s => s
  | inside s => q :: s
  | closed s => q :: (s ++ [q])

/-- A part a reader can have read. -/
def Part.Clean (d q : α) : Part α → Prop
  | bare s => d ∉ s ∧ s.head? ≠ some q
  | inside s => q ∉ s
  | closed s => q ∉ s

variable [DecidableEq α]

/-- Read the fields of a line. A quote opens a field only at its start, and behind the
second quote the field has to end. -/
def readItems (d q : α) : Part α → List α → Option (List (Item α))
  | .bare s, [] => some [.bare s]
  | .inside _, [] => none
  | .closed s, [] => some [.quoted s]
  | .bare s, c :: t =>
    if c = d then (readItems d q (.bare []) t).map (.bare s :: ·)
    else if s = [] ∧ c = q then readItems d q (.inside []) t
    else readItems d q (.bare (s ++ [c])) t
  | .inside s, c :: t =>
    if c = q then readItems d q (.closed s) t else readItems d q (.inside (s ++ [c])) t
  | .closed s, c :: t =>
    if c = d then (readItems d q (.bare []) t).map (.quoted s :: ·) else none

variable {d q : α}

/-! ## Cutting at the delimiter -/

/-- A piece of a text that is cut at a delimiter has no delimiter, and is a part of the
text. -/
theorem subset_of_mem_splitOn {s piece : List α} (h : piece ∈ s.splitOn d) :
    d ∉ piece ∧ piece ⊆ s := by
  induction s generalizing piece with
  | nil =>
    obtain rfl : piece = [] := by simpa using h
    exact ⟨List.not_mem_nil, List.nil_subset _⟩
  | cons c s ih =>
    rw [List.splitOn_cons_eq_if_modifyHead] at h
    split_ifs at h with hc
    · rcases List.mem_cons.mp h with rfl | hpiece
      · exact ⟨List.not_mem_nil, List.nil_subset _⟩
      · exact ⟨(ih hpiece).1, List.subset_cons_of_subset c (ih hpiece).2⟩
    · obtain ⟨first, rest, hcut⟩ := List.exists_cons_of_ne_nil (List.splitOn_ne_nil d s)
      rw [hcut, List.modifyHead_cons] at h
      rcases List.mem_cons.mp h with rfl | hpiece
      · have hfirst := ih (hcut ▸ List.mem_cons_self)
        have hne : d ≠ c := fun heq => hc (by simp [heq])
        exact ⟨by simp [hne, hfirst.1], List.cons_subset_cons c hfirst.2⟩
      · have hrest := ih (hcut ▸ List.mem_cons_of_mem first hpiece)
        exact ⟨hrest.1, List.subset_cons_of_subset c hrest.2⟩

omit [DecidableEq α] in
/-- A text is one piece exactly when nothing in it is cut at. -/
theorem splitOnP_eq_singleton_iff {p : α → Bool} {s piece : List α} :
    s.splitOnP p = [piece] ↔ (∀ c ∈ s, p c = false) ∧ s = piece := by
  constructor
  · intro h
    have hnone : ∀ c ∈ s, p c = false := by
      intro c hc
      by_contra hcut
      obtain ⟨front, rest, rfl⟩ := List.append_of_mem hc
      rw [List.splitOnP_append_cons _ _ (by simpa using hcut)] at h
      have hlength := congrArg List.length h
      have hfront := List.length_pos_of_ne_nil (List.splitOnP_ne_nil p front)
      have hrest := List.length_pos_of_ne_nil (List.splitOnP_ne_nil p rest)
      rw [List.length_append, List.length_singleton] at hlength
      omega
    rw [List.splitOnP_eq_singleton hnone] at h
    exact ⟨hnone, List.singleton_inj.mp h⟩
  · rintro ⟨hnone, rfl⟩
    exact List.splitOnP_eq_singleton hnone

/-! ## What is accepted -/

omit [DecidableEq α] in
/-- A delimiter stands between an item and the next ones. -/
theorem itemText_cons {item : Item α} {items : List (Item α)} (h : items ≠ []) :
    itemText d q (item :: items) = item.text q ++ d :: itemText d q items := by
  unfold itemText
  rw [List.map_cons, List.intercalate_cons_of_ne_nil (by simpa using h), List.append_assoc,
    List.singleton_append]

omit [DecidableEq α] in
/-- One item stands alone. -/
@[simp] theorem itemText_singleton (item : Item α) : itemText d q [item] = item.text q := by
  simp [itemText]

omit [DecidableEq α] in
/-- A bare part stays clean with a letter more that neither ends it nor opens a quote. -/
theorem clean_bare_concat {s : List α} {c : α} (hs : (Part.bare s).Clean d q) (hd : c ≠ d)
    (hq : ¬ (s = [] ∧ c = q)) : (Part.bare (s ++ [c])).Clean d q := by
  refine ⟨by simp [hs.1, Ne.symm hd], ?_⟩
  cases s with
  | nil =>
    intro h
    exact hq ⟨rfl, by simpa using h⟩
  | cons e s => simpa using hs.2

/-- A line that is read is the text of the fields, and these are clean. -/
theorem readItems_sound (hdq : d ≠ q) {p : Part α} {t : List α} {items : List (Item α)}
    (hp : p.Clean d q) (h : readItems d q p t = some items) :
    items ≠ [] ∧ (∀ item ∈ items, item.Clean d q) ∧ itemText d q items = p.text q ++ t := by
  have hnil : (Part.bare ([] : List α)).Clean d q := ⟨List.not_mem_nil, nofun⟩
  -- a field that ends at a delimiter, before fields that are read
  have hcons : ∀ (item : Item α) {t : List α} {rest : List (Item α)}, item.Clean d q →
      (rest ≠ [] ∧ (∀ item ∈ rest, item.Clean d q) ∧ itemText d q rest = t) →
      item :: rest ≠ [] ∧ (∀ x ∈ item :: rest, x.Clean d q) ∧
        itemText d q (item :: rest) = item.text q ++ d :: t := by
    rintro item t rest hitem ⟨hne, hclean, rfl⟩
    exact ⟨nofun, List.forall_mem_cons.mpr ⟨hitem, hclean⟩, itemText_cons hne⟩
  have hlast : ∀ item : Item α, item.Clean d q →
      [item] ≠ [] ∧ (∀ x ∈ [item], x.Clean d q) ∧ itemText d q [item] = item.text q ++ [] := by
    intro item hitem
    exact ⟨nofun, by simpa using hitem, by simp⟩
  induction t generalizing p items with
  | nil =>
    cases p with
    | bare s =>
      obtain rfl := Option.some.inj h
      exact hlast (.bare s) hp
    | inside s => cases h
    | closed s =>
      obtain rfl := Option.some.inj h
      exact hlast (.quoted s) hp
  | cons c t ih =>
    cases p with
    | bare s =>
      rw [readItems] at h
      split_ifs at h with hd hq
      · obtain ⟨rest, hrest, rfl⟩ := Option.map_eq_some_iff.mp h
        rw [hd]
        exact hcons (.bare s) hp (ih hnil hrest)
      · obtain ⟨rfl, rfl⟩ := hq
        exact ih (p := .inside []) List.not_mem_nil h
      · have hrest := ih (clean_bare_concat hp hd hq) h
        rwa [Part.text, List.append_assoc, List.singleton_append] at hrest
    | inside s =>
      rw [readItems] at h
      split_ifs at h with hq
      · have hrest := ih (p := .closed s) hp h
        rw [Part.text, List.cons_append, List.append_assoc, List.singleton_append] at hrest
        rw [hq]
        exact hrest
      · have hinside : (Part.inside (s ++ [c])).Clean d q := by
          show q ∉ s ++ [c]
          simp [show q ∉ s from hp, Ne.symm hq]
        have hrest := ih hinside h
        rwa [Part.text, List.cons_append, List.append_assoc, List.singleton_append] at hrest
    | closed s =>
      rw [readItems] at h
      split_ifs at h with hd
      obtain ⟨rest, hrest, rfl⟩ := Option.map_eq_some_iff.mp h
      rw [hd]
      exact hcons (.quoted s) hp (ih hnil hrest)

/-! ## What is read back -/

/-- Letters without a delimiter go to the bare item that is being read. -/
theorem readItems_bare_append {s u t : List α} (hd : d ∉ u) (hq : s ≠ [] ∨ u.head? ≠ some q) :
    readItems d q (.bare s) (u ++ t) = readItems d q (.bare (s ++ u)) t := by
  induction u generalizing s with
  | nil => simp
  | cons c u ih =>
    rw [List.mem_cons, not_or] at hd
    have hopen : ¬ (s = [] ∧ c = q) := by
      rintro ⟨hs, rfl⟩
      exact hq.elim (fun h => h hs) fun h => h rfl
    rw [List.cons_append, readItems, if_neg (Ne.symm hd.1), if_neg hopen,
      ih hd.2 (Or.inl (by simp)), List.append_assoc, List.singleton_append]

/-- Letters without a quote go to the quoted item that is being read. -/
theorem readItems_inside_append {s u t : List α} (hq : q ∉ u) :
    readItems d q (.inside s) (u ++ t) = readItems d q (.inside (s ++ u)) t := by
  induction u generalizing s with
  | nil => simp
  | cons c u ih =>
    rw [List.mem_cons, not_or] at hq
    rw [List.cons_append, readItems, if_neg (Ne.symm hq.1), ih hq.2, List.append_assoc,
      List.singleton_append]

/-- A clean field at the end of a line. -/
theorem readItems_text (hdq : d ≠ q) {item : Item α} (h : item.Clean d q) :
    readItems d q (.bare []) (item.text q) = some [item] := by
  cases item with
  | bare s =>
    rw [Item.text, ← List.append_nil s, readItems_bare_append h.1 (Or.inr h.2)]
    simp [readItems]
  | quoted s =>
    rw [Item.text, readItems, if_neg (Ne.symm hdq), if_pos ⟨rfl, rfl⟩,
      readItems_inside_append h, readItems, if_pos rfl]
    simp [readItems]

/-- A clean field before a delimiter. -/
theorem readItems_text_cons (hdq : d ≠ q) {item : Item α} (h : item.Clean d q) (t : List α) :
    readItems d q (.bare []) (item.text q ++ d :: t) =
      (readItems d q (.bare []) t).map (item :: ·) := by
  cases item with
  | bare s =>
    rw [Item.text, readItems_bare_append h.1 (Or.inr h.2), readItems, if_pos rfl,
      List.nil_append]
  | quoted s =>
    rw [Item.text, List.cons_append, readItems, if_neg (Ne.symm hdq), if_pos ⟨rfl, rfl⟩,
      List.append_assoc, readItems_inside_append h, List.singleton_append, readItems,
      if_pos rfl, readItems, if_pos rfl, List.nil_append]

/-- The fields of a line are read back exactly when there are some and all are clean. -/
theorem readItems_itemText_iff (hdq : d ≠ q) (items : List (Item α)) :
    readItems d q (.bare []) (itemText d q items) = some items ↔
      items ≠ [] ∧ ∀ item ∈ items, item.Clean d q := by
  constructor
  · intro h
    have hsound := readItems_sound hdq (p := .bare []) ⟨List.not_mem_nil, nofun⟩ h
    exact ⟨hsound.1, hsound.2.1⟩
  · rintro ⟨hne, hclean⟩
    induction items with
    | nil => exact absurd rfl hne
    | cons item items ih =>
      rw [List.forall_mem_cons] at hclean
      by_cases hitems : items = []
      · rw [hitems, itemText_singleton, readItems_text hdq hclean.1]
      · rw [itemText_cons hitems, readItems_text_cons hdq hclean.1, ih hitems hclean.2,
          Option.map_some]

end Tiger.Library
