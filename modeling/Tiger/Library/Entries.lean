import Mathlib.Data.List.Basic

/-!
# Ordered key-value entries

Lists of entries read with `List.lookup`, where the first entry of a key counts.
`setEntry` replaces the value of a key in place or appends a new entry. Every
operation has one lemma that says what `lookup` returns afterwards, and
`lookup_setEntries` does the same for a whole list of writes.
-/

set_option autoImplicit false

namespace Tiger.Library

variable {κ ν : Type} [DecidableEq κ]

/-- Give the key `k` the value `v`, in place when the key is there. -/
def setEntry (k : κ) (v : ν) : List (κ × ν) → List (κ × ν)
  | [] => [(k, v)]
  | e :: es => if e.1 = k then (k, v) :: es else e :: setEntry k v es

/-- Write the entries `ws` one after the other. -/
def setEntries (es ws : List (κ × ν)) : List (κ × ν) :=
  ws.foldl (fun acc w => setEntry w.1 w.2 acc) es

/-- Remove all entries of the key `k`. -/
def removeEntry (k : κ) (es : List (κ × ν)) : List (κ × ν) :=
  es.filter fun e => e.1 ≠ k

/-- `List.lookup` on a cons, as a case distinction on equality. -/
theorem lookup_cons_ite (k : κ) (e : κ × ν) (es : List (κ × ν)) :
    (e :: es).lookup k = if k = e.1 then some e.2 else es.lookup k := by
  obtain ⟨a, b⟩ := e
  rw [List.lookup_cons]
  by_cases h : k = a
  · simp [h]
  · rw [beq_eq_false_iff_ne.mpr h, if_neg h]

/-- A key that is set has the new value, and every other key keeps its own. -/
theorem lookup_setEntry (k k' : κ) (v : ν) (es : List (κ × ν)) :
    (setEntry k v es).lookup k' = if k' = k then some v else es.lookup k' := by
  induction es with
  | nil => exact lookup_cons_ite k' (k, v) []
  | cons e es ih =>
    unfold setEntry
    rw [lookup_cons_ite k' e es]
    by_cases he : e.1 = k
    · rw [if_pos he, lookup_cons_ite, he]
      split <;> rfl
    · rw [if_neg he, lookup_cons_ite, ih]
      by_cases h : k' = e.1
      · have hk : k' ≠ k := fun hk => he (h ▸ hk)
        rw [if_pos h, if_neg hk, if_pos h]
      · rw [if_neg h, if_neg h]

/-- Writing the value a key has changes nothing. -/
theorem setEntry_of_lookup {k : κ} {v : ν} {es : List (κ × ν)} (h : es.lookup k = some v) :
    setEntry k v es = es := by
  induction es with
  | nil => cases h
  | cons e es ih =>
    rw [lookup_cons_ite] at h
    unfold setEntry
    by_cases he : e.1 = k
    · rw [if_pos he.symm, Option.some.injEq] at h
      rw [if_pos he, ← h, ← he]
    · have hk : k ≠ e.1 := fun hk => he hk.symm
      rw [if_neg hk] at h
      rw [if_neg he, ih h]

/-- Keeping the entries whose key meets `p` keeps exactly the keys that meet `p`. -/
theorem lookup_filter_key (p : κ → Bool) (k : κ) (es : List (κ × ν)) :
    (es.filter fun e => p e.1).lookup k = if p k then es.lookup k else none := by
  induction es with
  | nil => simp
  | cons e es ih =>
    rw [List.filter_cons, lookup_cons_ite]
    by_cases hp : p e.1 = true
    · rw [if_pos hp, lookup_cons_ite, ih]
      by_cases h : k = e.1
      · rw [if_pos h, if_pos h, h, if_pos hp]
      · rw [if_neg h, if_neg h]
    · rw [if_neg hp, ih]
      by_cases h : k = e.1
      · rw [h, if_neg hp, if_neg hp]
      · rw [if_neg h]

/-- A key that is removed has no value, and every other key keeps its own. -/
theorem lookup_removeEntry (k k' : κ) (es : List (κ × ν)) :
    (removeEntry k es).lookup k' = if k' = k then none else es.lookup k' := by
  unfold removeEntry
  rw [lookup_filter_key (fun a => decide (a ≠ k)) k' es]
  by_cases h : k' = k
  · simp [h]
  · simp [h]

/-- Removing a key that is not there changes nothing. -/
theorem removeEntry_of_lookup_none {k : κ} {es : List (κ × ν)} (h : es.lookup k = none) :
    removeEntry k es = es := by
  unfold removeEntry
  rw [List.filter_eq_self]
  rw [List.lookup_eq_none_iff] at h
  intro e he
  have hne : k ≠ e.1 := bne_iff_ne.mp (h e he)
  exact decide_eq_true hne.symm

/-- A key that no entry has is not found. -/
theorem lookup_eq_none_of_notMem {k : κ} {es : List (κ × ν)} (h : k ∉ es.map Prod.fst) :
    es.lookup k = none := by
  induction es with
  | nil => rfl
  | cons e es ih =>
    rw [List.map_cons, List.mem_cons, not_or] at h
    rw [lookup_cons_ite, if_neg h.1]
    exact ih h.2

/-- Writing leaves the other keys alone. -/
theorem lookup_setEntries_of_notMem {ws : List (κ × ν)} {k : κ} (h : k ∉ ws.map Prod.fst)
    (es : List (κ × ν)) : (setEntries es ws).lookup k = es.lookup k := by
  induction ws generalizing es with
  | nil => rfl
  | cons w ws ih =>
    rw [List.map_cons, List.mem_cons, not_or] at h
    have htail := ih h.2 (setEntry w.1 w.2 es)
    rw [lookup_setEntry, if_neg h.1] at htail
    exact htail

/-- With distinct keys, an entry is found under its key. -/
theorem lookup_of_mem {es : List (κ × ν)} (hes : (es.map Prod.fst).Nodup) {k : κ} {v : ν}
    (h : (k, v) ∈ es) : es.lookup k = some v := by
  induction es with
  | nil => cases h
  | cons e es ih =>
    rw [List.map_cons, List.nodup_cons] at hes
    rw [lookup_cons_ite]
    rcases List.mem_cons.mp h with rfl | h
    · exact if_pos rfl
    · have hne : k ≠ e.1 := by
        rintro rfl
        exact hes.1 (List.mem_map.mpr ⟨_, h, rfl⟩)
      rw [if_neg hne]
      exact ih hes.2 h

/-- Writing entries with distinct keys: a written key has its new value, the others keep
theirs. -/
theorem lookup_setEntries {ws : List (κ × ν)} (hws : (ws.map Prod.fst).Nodup)
    (es : List (κ × ν)) (k : κ) :
    (setEntries es ws).lookup k = (ws.lookup k).or (es.lookup k) := by
  induction ws generalizing es with
  | nil => rfl
  | cons w ws ih =>
    rw [List.map_cons, List.nodup_cons] at hws
    have htail := ih hws.2 (setEntry w.1 w.2 es)
    rw [lookup_setEntry] at htail
    change (setEntries (setEntry w.1 w.2 es) ws).lookup k = _
    rw [htail, lookup_cons_ite]
    by_cases h : k = w.1
    · have hnone : ws.lookup k = none := lookup_eq_none_of_notMem (h ▸ hws.1)
      rw [hnone, if_pos h, if_pos h]
      rfl
    · rw [if_neg h, if_neg h]

/-! ## Keys and values -/

/-- The keys are the one that is set and those before. -/
theorem mem_keys_setEntry {k k' : κ} {v : ν} {es : List (κ × ν)} :
    k' ∈ (setEntry k v es).map Prod.fst ↔ k' = k ∨ k' ∈ es.map Prod.fst := by
  induction es with
  | nil => simp [setEntry]
  | cons e es ih =>
    unfold setEntry
    by_cases he : e.1 = k
    · rw [if_pos he]
      simp [he]
    · rw [if_neg he, List.map_cons, List.mem_cons, ih, List.map_cons, List.mem_cons]
      exact or_left_comm

/-- Keys stay distinct. -/
theorem nodup_keys_setEntry {k : κ} {v : ν} {es : List (κ × ν)} (h : (es.map Prod.fst).Nodup) :
    ((setEntry k v es).map Prod.fst).Nodup := by
  induction es with
  | nil => simp [setEntry]
  | cons e es ih =>
    rw [List.map_cons, List.nodup_cons] at h
    unfold setEntry
    by_cases he : e.1 = k
    · rw [if_pos he, List.map_cons, List.nodup_cons]
      exact ⟨he ▸ h.1, h.2⟩
    · rw [if_neg he, List.map_cons, List.nodup_cons, mem_keys_setEntry]
      exact ⟨not_or.mpr ⟨he, h.1⟩, ih h.2⟩

/-- A new entry is the one that was written. -/
theorem mem_of_mem_setEntry {k : κ} {v : ν} {es : List (κ × ν)} {e : κ × ν}
    (h : e ∈ setEntry k v es) : e = (k, v) ∨ e ∈ es := by
  induction es with
  | nil => exact Or.inl (List.mem_singleton.mp h)
  | cons e' es ih =>
    unfold setEntry at h
    split at h
    · rcases List.mem_cons.mp h with rfl | h
      · exact Or.inl rfl
      · exact Or.inr (List.mem_cons_of_mem _ h)
    · rcases List.mem_cons.mp h with rfl | h
      · exact Or.inr List.mem_cons_self
      · exact (ih h).imp_right (List.mem_cons_of_mem _)

/-- Of two values written under a key the second one stays. -/
@[simp] theorem setEntry_setEntry (k : κ) (v w : ν) (es : List (κ × ν)) :
    setEntry k v (setEntry k w es) = setEntry k v es := by
  induction es with
  | nil => simp [setEntry]
  | cons e es ih =>
    by_cases he : e.1 = k
    · simp [setEntry, he]
    · simp [setEntry, he, ih]

/-- Entries are set one list after the other. -/
theorem setEntries_append (es ws ws' : List (κ × ν)) :
    setEntries es (ws ++ ws') = setEntries (setEntries es ws) ws' :=
  List.foldl_append

/-- The keys are those that are set and those before. -/
theorem mem_keys_setEntries {k : κ} {es ws : List (κ × ν)} :
    k ∈ (setEntries es ws).map Prod.fst ↔ k ∈ ws.map Prod.fst ∨ k ∈ es.map Prod.fst := by
  induction ws generalizing es with
  | nil => simp [setEntries]
  | cons w ws ih =>
    change k ∈ (setEntries (setEntry w.1 w.2 es) ws).map Prod.fst ↔ _
    rw [ih, mem_keys_setEntry, List.map_cons, List.mem_cons, or_assoc, or_left_comm]

/-- An entry is one of those that are set or one of those before. -/
theorem mem_of_mem_setEntries {es ws : List (κ × ν)} {e : κ × ν} (h : e ∈ setEntries es ws) :
    e ∈ ws ∨ e ∈ es := by
  induction ws generalizing es with
  | nil => exact Or.inr h
  | cons w ws ih =>
    rcases ih h with h | h
    · exact Or.inl (List.mem_cons_of_mem _ h)
    · rcases mem_of_mem_setEntry h with rfl | h
      · exact Or.inl List.mem_cons_self
      · exact Or.inr h

/-- What is found under a key is an entry. -/
theorem mem_of_lookup {k : κ} {v : ν} {es : List (κ × ν)} (h : es.lookup k = some v) :
    (k, v) ∈ es := by
  obtain ⟨before, behind, rfl, -⟩ := List.lookup_eq_some_iff.mp h
  simp

end Tiger.Library
