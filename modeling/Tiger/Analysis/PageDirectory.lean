import Tiger.Model.PageFiles

/-!
# Page files stay in their directory

A name behind its last `/` has none (`slash_notMem_fileName`), so a write of `_set` leaves no
`/` in the stored names unless it gives a path without a layer. Such a path denotes the whole
object, and `_set` looks only at its first layer (`set_iff`).
-/

set_option autoImplicit false

namespace Tiger.Analysis.PageDirectory

open Tiger.Library Tiger.Model Tiger.Model.PageFiles
open Tiger.Model.LteSettings (configSet)

variable {ok : Bool} {v store : Option Talk} {attr : Option (List String)}

/-! ## File names -/

/-- Nothing is found exactly when the character is not in the text. -/
theorem strrchr_eq_none_iff {c : Char} {s : List Char} : strrchr c s = none ↔ c ∉ s := by
  induction s with
  | nil => simp [strrchr]
  | cons a s ih =>
    rw [strrchr, Option.or_eq_none_iff, ih, List.mem_cons, not_or]
    simp [and_comm, eq_comm]

/-- Behind the last place there is no other. -/
theorem notMem_tail_of_strrchr {c : Char} {s ptr : List Char} (h : strrchr c s = some ptr) :
    c ∉ ptr.tail := by
  induction s with
  | nil => cases h
  | cons a s ih =>
    rw [strrchr] at h
    cases hlast : strrchr c s with
    | some last =>
      rw [hlast, Option.some_or] at h
      exact ih (hlast.trans h)
    | none =>
      rw [hlast, Option.none_or, Option.ite_none_right_eq_some, Option.some.injEq] at h
      rw [← h.2]
      exact strrchr_eq_none_iff.mp hlast

/-- A file name holds no slash. -/
theorem slash_notMem_fileName (start : String) : '/' ∉ (fileName start).toList := by
  unfold fileName
  cases hptr : strrchr '/' start.toList with
  | none => exact strrchr_eq_none_iff.mp hptr
  | some ptr =>
    rw [String.toList_ofList]
    exact notMem_tail_of_strrchr hptr

/-! ## What is stored -/

/-- None of the four names holds a `/`. -/
def Clean (t : Option Talk) : Prop :=
  ∀ key ∈ pageKeys, ∀ s, jsonString t key = some s → '/' ∉ s.toList

/-- A write gives one of the four keys a value. -/
def Touches (v : Option Talk) : Option (List String) → Prop
  | some (ptr :: _) => ptr ∈ pageKeys
  | _ => ∃ key ∈ pageKeys, jsonValue v key ≠ none

/-- A key that is cut comes back with its file name; the others stay. -/
theorem jsonString_cutFile (v : Option Talk) (key key' : String) :
    jsonString (cutFile v key) key' =
      if key' = key then (jsonString v key).map fileName else jsonString v key' := by
  have hrest : ∀ key', jsonValue (v.map (jsonDeleteAxp key)) key' =
      if key' = key then none else jsonValue v key' := by
    intro key'
    cases v with
    | none => simp
    | some t => exact jsonValue_jsonDeleteAxp t key key'
  unfold cutFile jsonString
  cases hvalue : jsonValue v key with
  | none =>
    by_cases hkey : key' = key
    · rw [if_pos hkey, hkey, hvalue]
      rfl
    · rw [if_neg hkey]
  | some axp =>
    cases htext : xText (some axp) with
    | none =>
      dsimp only
      rw [htext, hrest]
      by_cases hkey : key' = key
      · rw [if_pos hkey, if_pos hkey]
        rfl
      · rw [if_neg hkey, if_neg hkey]
    | some start =>
      dsimp only
      rw [htext]
      dsimp only
      rw [jsonValue_attrSet, hrest key']
      by_cases hkey : key' = key
      · rw [if_pos hkey, if_pos hkey]
        rfl
      · rw [if_neg hkey, if_neg hkey, if_neg hkey]

/-- Cutting all files leaves a clean value. -/
theorem clean_cutFiles (v : Option Talk) : Clean (pageKeys.foldl cutFile v) := by
  have hfold : ∀ (keys : List String) (v : Option Talk) (key s : String),
      jsonString (keys.foldl cutFile v) key = some s →
        (key ∈ keys ∨ ∀ s, jsonString v key = some s → '/' ∉ s.toList) → '/' ∉ s.toList := by
    intro keys
    induction keys with
    | nil =>
      intro v key s hs hclean
      exact (hclean.resolve_left List.not_mem_nil) s hs
    | cons first keys ih =>
      intro v key s hs hclean
      refine ih (cutFile v first) key s hs ?_
      by_cases hkey : key = first
      · refine Or.inr fun s hs => ?_
        rw [jsonString_cutFile, if_pos hkey, Option.map_eq_some_iff] at hs
        obtain ⟨start, -, rfl⟩ := hs
        exact slash_notMem_fileName start
      · cases hclean with
        | inl hmem => exact Or.inl ((List.mem_cons.mp hmem).resolve_left hkey)
        | inr hv =>
          refine Or.inr fun s hs => ?_
          rw [jsonString_cutFile, if_neg hkey] at hs
          exact hv s hs
  exact fun key hkey s hs => hfold pageKeys v key s hs (Or.inl hkey)

/-- A setting that touches no page is stored as it is. -/
theorem storedValue_of_not_touches (h : ¬ Touches v attr) : storedValue v attr = v := by
  match attr with
  | none =>
    have hfold : ∀ keys ⊆ pageKeys, keys.foldl cutFile v = v := by
      intro keys
      induction keys with
      | nil => simp
      | cons key keys ih =>
        intro hsub
        have hnone : jsonValue v key = none := by
          by_contra hsome
          exact h ⟨key, hsub List.mem_cons_self, hsome⟩
        have hcut : cutFile v key = v := by
          unfold cutFile
          rw [hnone]
        rw [List.foldl_cons, hcut]
        exact ih fun key hkey => hsub (List.mem_cons_of_mem _ hkey)
    exact hfold pageKeys (List.Subset.refl _)
  | some [] => rfl
  | some (ptr :: path) => exact if_neg h

/-- A text at a key after a write under a path came with the write or was there before. -/
theorem xText_attrSet {s : String} (t v : Option Talk) (path : List String)
    (h : xText (attrSet t path v) = some s) : path = [] ∧ xText v = some s ∨ xText t = some s := by
  cases path with
  | nil => exact Or.inl ⟨rfl, h⟩
  | cons key path =>
    right
    rw [attrSet_cons] at h
    cases hbelow : attrSet (jsonValue t key) path v with
    | some x =>
      rw [hbelow] at h
      cases h
    | none =>
      rw [hbelow] at h
      cases t with
      | none => cases h
      | some t =>
        cases t with
        | text s' => exact h
        | json es => cases h

/-- The write of a path with a layer keeps the names clean. -/
theorem clean_attrSet_path (h : Clean store) (v : Option Talk) (ptr : String)
    (path : List String) :
    Clean (attrSet store (ptr :: path) (storedValue v (some (ptr :: path)))) := by
  intro key hkey s hs
  unfold jsonString at hs
  rw [jsonValue_attrSet] at hs
  by_cases hptr : key = ptr
  · subst hptr
    rw [if_pos rfl] at hs
    obtain ⟨-, htext⟩ | hold := xText_attrSet _ _ _ hs
    · unfold storedValue at htext
      simp only [List.head?_cons, if_pos hkey] at htext
      cases hv : xText v with
      | none =>
        rw [hv] at htext
        simp [hv] at htext
      | some start =>
        rw [hv] at htext
        cases htext
        exact slash_notMem_fileName start
    · exact h key hkey s hold
  · rw [if_neg hptr] at hs
    exact h key hkey s hs

/-! ## A write -/

/-- Only a whole object that is given at a path without a layer puts a `/` into a name. -/
theorem clean_set_iff (h : Clean store) :
    Clean (set ok v attr store).store ↔ ¬ (attr = some [] ∧ ok = true ∧ ¬ Clean v) := by
  unfold PageFiles.set configSet
  cases ok with
  | false => simpa using h
  | true =>
    match attr with
    | none =>
      have hstored : Clean (storedValue v none) := clean_cutFiles v
      simpa [attrSet] using hstored
    | some [] => simp [attrSet, storedValue]
    | some (ptr :: path) => simpa using clean_attrSet_path h v ptr path

/-- A write is given a value, a path and the outcome of its save. -/
structure Write where
  ok : Bool
  v : Option Talk
  attr : Option (List String)

/-- The configuration after a run of writes. -/
def writes (store : Option Talk) (run : List Write) : Option Talk :=
  run.foldl (fun store w => (set w.ok w.v w.attr store).store) store

/-- The names stay clean over any run without such a write. -/
theorem clean_writes (h : Clean store) {run : List Write}
    (hrun : ∀ w ∈ run, ¬ (w.attr = some [] ∧ w.ok = true ∧ ¬ Clean w.v)) :
    Clean (writes store run) := by
  induction run generalizing store with
  | nil => exact h
  | cons w run ih =>
    have hfirst := (clean_set_iff h).mpr (hrun w List.mem_cons_self)
    exact ih hfirst fun w hw => hrun w (List.mem_cons_of_mem _ hw)

/-- **The page files.** A write leaves no `/` in the names, and a write that does not touch
them stores its value, exactly when it does not put a whole object with a `/` in a name at a
path without a layer. -/
theorem set_iff (h : Clean store) :
    (Clean (set ok v attr store).store ∧
        (¬ Touches v attr → ok = true →
          (set ok v attr store).store = attrSet store (attr.getD []) v)) ↔
      ¬ (attr = some [] ∧ ok = true ∧ ¬ Clean v) := by
  rw [clean_set_iff h, and_iff_left]
  intro huntouched hok
  unfold PageFiles.set configSet
  rw [storedValue_of_not_touches huntouched, hok]
  rfl

/-- A stylesheet that is not in the directory. -/
def outside : Talk := .json [("css_file", .text "../../etc/theme.css")]

/-- No value is clean. -/
theorem clean_none : Clean none := fun _ _ _ hs => by cases hs

/-- A page outside the directory is not clean. -/
theorem not_clean_outside : ¬ Clean (some outside) := by
  intro hclean
  exact hclean "css_file" (by decide) "../../etc/theme.css" rfl (by decide)

/-- Without a path the object is stored with the name of the file. -/
theorem set_iff_outside :
    Clean (set true (some outside) none none).store ∧
      (¬ Touches (some outside) none → true = true →
        (set true (some outside) none none).store = attrSet none [] (some outside)) :=
  (set_iff clean_none).mpr (by simp)

/-- At a path without a layer it is stored as it is. -/
theorem outside_stored : Clean none ∧ ¬ Clean (set true (some outside) (some []) none).store :=
  ⟨clean_none, not_clean_outside⟩

end Tiger.Analysis.PageDirectory
