import Mathlib.Data.List.Infix
import Mathlib.Data.List.TakeWhile

/-!
# Fields behind delimiters

A text of fields is a first field and more of them, each behind a delimiter
(`delimited`). Where no field holds the delimiter, cutting at it gives the fields back
one by one, and a pattern without the delimiter stands in the text exactly when it stands
in one of the fields (`infix_delimited_iff`).
-/

set_option autoImplicit false

namespace Tiger.Library

variable {α : Type} [DecidableEq α] {d : α} {f rest : List α}

/-! ## Cutting at a delimiter -/

/-- What stands in front of the first delimiter is the first field. -/
theorem takeWhile_ne_append (h : d ∉ f) : (f ++ d :: rest).takeWhile (· ≠ d) = f := by
  have hpos : ∀ a ∈ f, decide (a ≠ d) = true := by
    intro a ha
    exact decide_eq_true fun heq => h (heq ▸ ha)
  rw [List.takeWhile_append_of_pos hpos, List.takeWhile_cons_of_neg (by simp), List.append_nil]

/-- What is left begins with the delimiter. -/
theorem dropWhile_ne_append (h : d ∉ f) : (f ++ d :: rest).dropWhile (· ≠ d) = d :: rest := by
  have hpos : ∀ a ∈ f, decide (a ≠ d) = true := by
    intro a ha
    exact decide_eq_true fun heq => h (heq ▸ ha)
  rw [List.dropWhile_append_of_pos hpos, List.dropWhile_cons_of_neg (by simp)]

/-- A text without a delimiter is taken as a whole. -/
theorem takeWhile_ne_of_notMem (h : d ∉ f) : f.takeWhile (· ≠ d) = f := by
  rw [List.takeWhile_eq_self_iff]
  intro a ha
  exact decide_eq_true fun heq => h (heq ▸ ha)

/-- A text without a delimiter leaves nothing. -/
theorem dropWhile_ne_of_notMem (h : d ∉ f) : f.dropWhile (· ≠ d) = [] := by
  rw [List.dropWhile_eq_nil_iff]
  intro a ha
  exact decide_eq_true fun heq => h (heq ▸ ha)

/-! ## Fields -/

omit [DecidableEq α] in
/-- A first field and more of them, each behind a delimiter. -/
def delimited (d : α) (f : List α) (fs : List (List α)) : List α := f ++ fs.flatMap (d :: ·)

omit [DecidableEq α] in
/-- A field with none behind it stands alone. -/
@[simp] theorem delimited_nil (d : α) (f : List α) : delimited d f [] = f := by simp [delimited]

omit [DecidableEq α] in
/-- A delimiter stands between a field and the next ones. -/
@[simp] theorem delimited_cons (d : α) (f g : List α) (fs : List (List α)) :
    delimited d f (g :: fs) = f ++ d :: delimited d g fs := by
  simp [delimited]

omit [DecidableEq α] in
/-- More fields go to the end. -/
theorem delimited_append (d : α) (f : List α) (fs gs : List (List α)) :
    delimited d f (fs ++ gs) = delimited d f fs ++ gs.flatMap (d :: ·) := by
  simp [delimited]

/-- Fields without the delimiter are read back. -/
theorem splitOn_delimited {fs : List (List α)} (h : ∀ g ∈ f :: fs, d ∉ g) :
    (delimited d f fs).splitOn d = f :: fs := by
  induction fs generalizing f with
  | nil => rw [delimited_nil, List.splitOn_eq_singleton (h f (by simp))]
  | cons g fs ih =>
    have hrest := ih (f := g) fun k hk => h k (List.mem_cons_of_mem _ hk)
    rw [delimited_cons, List.splitOn_append_cons_self, hrest,
      List.splitOn_eq_singleton (h f (by simp)), List.singleton_append]

omit [DecidableEq α] in
/-- A pattern without the delimiter that begins a text ends before the delimiter. -/
theorem prefix_append_cons_iff {p a b : List α} (hp : d ∉ p) : p <+: a ++ d :: b ↔ p <+: a := by
  induction p generalizing a with
  | nil => simp
  | cons c p ih =>
    rw [List.mem_cons, not_or] at hp
    cases a with
    | nil => simp [Ne.symm hp.1]
    | cons e a =>
      rw [List.cons_append, List.cons_prefix_cons, List.cons_prefix_cons, ih hp.2]

omit [DecidableEq α] in
/-- A pattern without the delimiter stands on one side of it. -/
theorem infix_append_cons_iff {p a b : List α} (hp : d ∉ p) :
    p <:+: a ++ d :: b ↔ p <:+: a ∨ p <:+: b := by
  induction a with
  | nil =>
    rw [List.nil_append, List.infix_cons_iff]
    have hstart : p <+: d :: b ↔ p <:+: [] := by
      rw [← List.nil_append (d :: b), prefix_append_cons_iff hp]
      simp
    rw [hstart]
  | cons c a ih =>
    rw [List.cons_append, List.infix_cons_iff, ih, List.infix_cons_iff, ← List.cons_append,
      prefix_append_cons_iff hp, or_assoc]

omit [DecidableEq α] in
/-- A pattern with the delimiter begins a text when the first fields are the same. -/
theorem cons_prefix_cons_iff {f g p r : List α} (hf : d ∉ f) (hg : d ∉ g) :
    f ++ d :: p <+: g ++ d :: r ↔ f = g ∧ p <+: r := by
  induction f generalizing g with
  | nil =>
    cases g with
    | nil => simp
    | cons c g =>
      rw [List.mem_cons, not_or] at hg
      simp [hg.1]
  | cons c f ih =>
    rw [List.mem_cons, not_or] at hf
    cases g with
    | nil => simp [Ne.symm hf.1]
    | cons c' g =>
      rw [List.mem_cons, not_or] at hg
      rw [List.cons_append, List.cons_append, List.cons_prefix_cons, ih hf.2 hg.2,
        List.cons.injEq, and_assoc]

omit [DecidableEq α] in
/-- A pattern with the delimiter stands in a text with its first field at the end of the
text's first one, or further on. -/
theorem cons_infix_cons_iff {f g p r : List α} (hf : d ∉ f) (hg : d ∉ g) :
    f ++ d :: p <:+: g ++ d :: r ↔ (f <:+ g ∧ p <+: r) ∨ f ++ d :: p <:+: r := by
  induction g with
  | nil =>
    rw [List.nil_append, List.infix_cons_iff, ← List.nil_append (d :: r),
      cons_prefix_cons_iff hf List.not_mem_nil, List.suffix_nil]
  | cons c g ih =>
    have hne : d ∉ g := fun h => hg (List.mem_cons_of_mem _ h)
    rw [List.cons_append, List.infix_cons_iff, ← List.cons_append, cons_prefix_cons_iff hf hg,
      ih hne, List.suffix_cons_iff, or_and_right, or_assoc]

omit [DecidableEq α] in
/-- A pattern without the delimiter stands in one of the fields. -/
theorem infix_delimited_iff {p : List α} (hp : d ∉ p) (f : List α) (fs : List (List α)) :
    p <:+: delimited d f fs ↔ p <:+: f ∨ ∃ g ∈ fs, p <:+: g := by
  induction fs generalizing f with
  | nil => simp
  | cons g fs ih => simp only [delimited_cons, infix_append_cons_iff hp, ih, List.mem_cons,
      exists_eq_or_imp]

omit [DecidableEq α] in
/-- A pattern that goes on behind a delimiter begins at the end of a field. -/
theorem suffix_of_cons_infix_delimited {f g p : List α} {gs : List (List α)} (hf : d ∉ f)
    (hg : ∀ x ∈ g :: gs, d ∉ x) (h : f ++ d :: p <:+: delimited d g gs) :
    ∃ x ∈ g :: gs, f <:+ x := by
  induction gs generalizing g with
  | nil =>
    rw [delimited_nil] at h
    exact absurd (h.subset (by simp)) (hg g List.mem_cons_self)
  | cons g' gs ih =>
    rw [delimited_cons, cons_infix_cons_iff hf (hg g List.mem_cons_self)] at h
    rcases h with h | h
    · exact ⟨g, List.mem_cons_self, h.1⟩
    · obtain ⟨x, hx, hsuffix⟩ := ih (fun x hx => hg x (List.mem_cons_of_mem _ hx)) h
      exact ⟨x, List.mem_cons_of_mem _ hx, hsuffix⟩

omit [DecidableEq α] in
/-- The fields can be told from the text. -/
theorem delimited_injective {f g : List α} {fs gs : List (List α)} (hf : ∀ x ∈ f :: fs, d ∉ x)
    (hg : ∀ x ∈ g :: gs, d ∉ x) (h : delimited d f fs = delimited d g gs) : f = g ∧ fs = gs := by
  classical
  induction fs generalizing f g gs with
  | nil =>
    cases gs with
    | nil => exact ⟨by simpa using h, rfl⟩
    | cons g' gs =>
      rw [delimited_nil, delimited_cons] at h
      exact absurd (by simp [h]) (hf f List.mem_cons_self)
  | cons f' fs ih =>
    cases gs with
    | nil =>
      rw [delimited_nil, delimited_cons] at h
      exact absurd (by simp [← h]) (hg g List.mem_cons_self)
    | cons g' gs =>
      rw [delimited_cons, delimited_cons] at h
      have hhead : f = g := by
        have hcut := congrArg (List.takeWhile (· ≠ d)) h
        rwa [takeWhile_ne_append (hf f List.mem_cons_self),
          takeWhile_ne_append (hg g List.mem_cons_self)] at hcut
      rw [hhead] at h
      obtain ⟨hnext, hrest⟩ := ih (fun x hx => hf x (List.mem_cons_of_mem _ hx))
        (fun x hx => hg x (List.mem_cons_of_mem _ hx))
        (List.cons.inj (List.append_cancel_left h)).2
      exact ⟨hhead, by rw [hnext, hrest]⟩

/-- As many delimiters as a text has fields behind the first. -/
theorem count_delimited {f : List α} {fs : List (List α)} (h : ∀ x ∈ f :: fs, d ∉ x) :
    (delimited d f fs).count d = fs.length := by
  induction fs generalizing f with
  | nil => simpa using List.count_eq_zero_of_not_mem (h f List.mem_cons_self)
  | cons g fs ih =>
    rw [delimited_cons, List.count_append, List.count_cons_self,
      ih fun x hx => h x (List.mem_cons_of_mem _ hx),
      List.count_eq_zero_of_not_mem (h f List.mem_cons_self), List.length_cons, Nat.zero_add]

/-- A text of as many fields stands in another one only field by field: the first field at the
end of the other's, the last at the start, and those between are the same. -/
theorem infix_delimited_align {f g e e' : List α} {fs gs : List (List α)}
    (hf : ∀ x ∈ f :: (fs ++ [e]), d ∉ x) (hg : ∀ x ∈ g :: (gs ++ [e']), d ∉ x)
    (hlen : fs.length = gs.length) :
    delimited d f (fs ++ [e]) <:+: delimited d g (gs ++ [e']) ↔
      f <:+ g ∧ fs = gs ∧ e <+: e' := by
  have happend : ∀ (f e t : List α) (fs : List (List α)),
      delimited d f (fs ++ [e]) ++ t = delimited d f (fs ++ [e ++ t]) := by
    intro f e t fs
    simp [delimited]
  have hbefore : ∀ (s f : List α) (fs : List (List α)),
      s ++ delimited d f fs = delimited d (s ++ f) fs := by
    intro s f fs
    simp [delimited]
  constructor
  · rintro ⟨s, t, h⟩
    have hcount := congrArg (List.count d) h
    rw [List.count_append, List.count_append, count_delimited hf, count_delimited hg] at hcount
    simp only [List.length_append, List.length_singleton] at hcount
    have hs : d ∉ s := List.count_eq_zero.mp (by omega)
    have ht : d ∉ t := List.count_eq_zero.mp (by omega)
    rw [List.append_assoc, happend, hbefore] at h
    obtain ⟨hfirst, hrest⟩ := delimited_injective (by
      intro x hx
      rcases List.mem_cons.mp hx with rfl | hx
      · simp [hs, hf f List.mem_cons_self]
      · rcases List.mem_append.mp hx with hx | hx
        · exact hf x (by simp [hx])
        · rw [List.mem_singleton.mp hx]
          simp [ht, hf e (by simp)]) hg h
    obtain ⟨hmiddle, hlast⟩ := List.append_inj hrest hlen
    exact ⟨⟨s, hfirst⟩, hmiddle, ⟨t, by simpa using hlast⟩⟩
  · rintro ⟨⟨s, rfl⟩, rfl, ⟨t, rfl⟩⟩
    refine ⟨s, t, ?_⟩
    rw [List.append_assoc, happend, hbefore]

end Tiger.Library
