import Tiger.Model.LteSettings

/-!
# What a write leaves in the two configurations

A call of `_set` saves at most one value to each configuration. `modemWrite` and
`ifnameWrite` say which, as functions of the call and of what is stored, and `set_eq`
reads the whole of `_set` off them. The results about writes are about these two.

`jsonValue_get` says what `_get` reads when no key stands in both configurations, and
`Separated` is the invariant of all writes that gives this.
-/

set_option autoImplicit false

namespace Tiger.Analysis.LteStores

open Tiger.Library Tiger.Model Tiger.Model.LteSettings

/-! ## Separating an object -/

/-- The object without the keys that are never written. -/
def strip (v : Talk) : Talk := jsonDeleteAxp "lock_imsi" (jsonDeleteAxp "lock_imei" v)

/-- Stripping takes the ignored keys away and no others. -/
theorem jsonValue_strip (v : Talk) (k : String) :
    jsonValue (some (strip v)) k = if k ∈ ignoredKeys then none else jsonValue (some v) k := by
  unfold strip ignoredKeys
  rw [jsonValue_jsonDeleteAxp, jsonValue_jsonDeleteAxp]
  by_cases himsi : k = "lock_imsi"
  · simp [himsi]
  · by_cases himei : k = "lock_imei"
    · simp [himei]
    · simp [himsi, himei]

/-- The separating loop, part by part. -/
theorem separate_eq (v : Talk) :
    separate v =
      (setEntries [] ((entriesOf (some v)).filter fun e => e.1 ∈ wholeModemKeys),
        setEntries [] ((entriesOf (some v)).filter fun e => e.1 ∉ wholeModemKeys)) := by
  have hloop : ∀ (es m c : List (String × Talk)),
      es.foldl (fun acc axp => if axp.1 ∈ wholeModemKeys then (setEntry axp.1 axp.2 acc.1, acc.2)
        else (acc.1, setEntry axp.1 axp.2 acc.2)) (m, c) =
      (setEntries m (es.filter fun e => e.1 ∈ wholeModemKeys),
        setEntries c (es.filter fun e => e.1 ∉ wholeModemKeys)) := by
    intro es
    induction es with
    | nil =>
      intro m c
      rfl
    | cons axp es ih =>
      intro m c
      rw [List.foldl_cons, List.filter_cons, List.filter_cons]
      by_cases hk : axp.1 ∈ wholeModemKeys
      · simp only [hk, if_true, ih, decide_true, not_true_eq_false, decide_false,
          Bool.false_eq_true, if_false]
        rfl
      · simp only [hk, if_false, ih, decide_false, not_false_eq_true, decide_true,
          Bool.false_eq_true, if_true]
        rfl
  exact hloop (entriesOf (some v)) [] []

/-- A key that is not the modem's is not moved to it. -/
theorem lookup_separate_modem_of_notMem (v : Talk) {k : String} (h : k ∉ wholeModemKeys) :
    (separate v).1.lookup k = none := by
  rw [separate_eq]
  apply lookup_setEntries_of_notMem
  intro hmem
  obtain ⟨e, he, rfl⟩ := List.mem_map.mp hmem
  exact h (of_decide_eq_true (List.mem_filter.mp he).2)

/-- A key that is the modem's does not stay with the interface. -/
theorem lookup_separate_ifname_of_mem (v : Talk) {k : String} (h : k ∈ wholeModemKeys) :
    (separate v).2.lookup k = none := by
  rw [separate_eq]
  apply lookup_setEntries_of_notMem
  intro hmem
  obtain ⟨e, he, rfl⟩ := List.mem_map.mp hmem
  exact of_decide_eq_true (List.mem_filter.mp he).2 h

/-- The keys that are never written are in neither part. -/
theorem lookup_separate_ifname_of_ignored (v : Talk) {k : String} (h : k ∈ ignoredKeys) :
    (separate (strip v)).2.lookup k = none := by
  have hstrip : k ∉ (entriesOf (some (strip v))).map Prod.fst := by
    intro hmem
    obtain ⟨e, he, rfl⟩ := List.mem_map.mp hmem
    cases v with
    | text s => cases he
    | json es =>
      have himsi := List.mem_filter.mp he
      have himei := List.mem_filter.mp himsi.1
      unfold ignoredKeys at h
      rw [List.mem_cons, List.mem_singleton] at h
      rcases h with h | h
      · exact of_decide_eq_true himei.2 h
      · exact of_decide_eq_true himsi.2 h
  rw [separate_eq]
  apply lookup_setEntries_of_notMem
  intro hmem
  obtain ⟨e, he, rfl⟩ := List.mem_map.mp hmem
  exact hstrip (List.mem_map_of_mem (List.mem_filter.mp he).1)

/-- The keys of an object are distinct. -/
def KeysDistinct (v : Talk) : Prop := ((entriesOf (some v)).map Prod.fst).Nodup

/-- Stripping makes no key stand twice. -/
theorem keysDistinct_strip {v : Talk} (h : KeysDistinct v) : KeysDistinct (strip v) := by
  have hdelete : ∀ (k : String) (v : Talk), KeysDistinct v → KeysDistinct (jsonDeleteAxp k v) := by
    intro k v h
    cases v with
    | text s => exact h
    | json es => exact h.sublist (List.filter_sublist.map Prod.fst)
  exact hdelete _ _ (hdelete _ _ h)

/-- Every key of the object goes to one of the two parts. -/
theorem lookup_separate {v : Talk} (h : KeysDistinct v) (k : String) :
    (separate v).1.lookup k = (if k ∈ wholeModemKeys then jsonValue (some v) k else none) ∧
      (separate v).2.lookup k = (if k ∈ wholeModemKeys then none else jsonValue (some v) k) := by
  have hparts : ∀ p : String → Bool,
      (setEntries [] ((entriesOf (some v)).filter fun e => p e.1)).lookup k =
        if p k then jsonValue (some v) k else none := by
    intro p
    have hnodup : (((entriesOf (some v)).filter fun e => p e.1).map Prod.fst).Nodup :=
      h.sublist (List.filter_sublist.map Prod.fst)
    rw [lookup_setEntries hnodup, lookup_filter_key]
    exact Option.or_none
  rw [separate_eq]
  refine ⟨?_, ?_⟩
  · rw [hparts fun k => decide (k ∈ wholeModemKeys)]
    by_cases hk : k ∈ wholeModemKeys
    · simp [hk]
    · simp [hk]
  · rw [hparts fun k => decide (k ∉ wholeModemKeys)]
    by_cases hk : k ∈ wholeModemKeys
    · simp [hk]
    · simp [hk]

/-! ## The saves of a call -/

/-- The first layer of a path, empty when there is none. -/
def firstLayer (path : List String) : String := path.head?.getD ""

/-- What a call saves as the modem's configuration, `none` when it makes no such save. -/
def modemWrite (tk : Toolkit) (v : Option Talk) (path : List String) (st : Stores) :
    Option (Option Talk) :=
  if firstLayer path = "" then
    match v with
    | none => some none
    | some v =>
      if tk.talkEqual st.modem (.json (separate (strip v)).1) then none
      else some (some (.json (separate (strip v)).1))
  else if firstLayer path ∈ ignoredKeys then none
  else if firstLayer path ∈ pathModemKeys then some (attrSet st.modem path v)
  else none

/-- What a call saves as the interface's configuration. -/
def ifnameWrite (tk : Toolkit) (v : Option Talk) (path : List String) (st : Stores) :
    Option (Option Talk) :=
  if firstLayer path = "" then
    match v with
    | none => some none
    | some v =>
      if tk.talkEqual st.ifname (.json (separate (strip v)).2) then none
      else some (some (.json (separate (strip v)).2))
  else if firstLayer path ∈ ignoredKeys then none
  else if firstLayer path ∈ pathModemKeys then none
  else some (attrSet st.ifname path v)

/-- A store after a save that may fail. -/
def saved (ok : Bool) (store : Option Talk) (write : Option (Option Talk)) : Option Talk :=
  if ok then write.getD store else store

/-- Saving nothing leaves the store as it is. -/
@[simp] theorem saved_none (ok : Bool) (store : Option Talk) : saved ok store none = store := by
  unfold saved
  cases ok <;> rfl

/-- A setting is saved as a whole or not at all. -/
theorem configSet_eq (ok : Bool) (store v : Option Talk) (path : List String) :
    configSet ok store v path =
      (saved ok store (some (attrSet store path v)),
        ok && (some (attrSet store path v)).isSome) := by
  unfold configSet saved
  cases ok with
  | true => rfl
  | false => rfl

/-- A configuration is replaced only where the new one differs. -/
theorem replace_eq (ok equal : Bool) (store : Option Talk) (x : Talk) :
    (if equal then (store, false) else configSet ok store (some x) []) =
      (saved ok store (if equal then none else some (some x)),
        ok && (if equal then none else some (some x)).isSome) := by
  cases equal with
  | true =>
    rw [if_pos rfl, if_pos rfl, saved_none, Option.isSome_none, Bool.and_false]
  | false => exact configSet_eq ok store (some x) []

/-- **The saves of `_set`**, all branches at once. -/
theorem setSaves_eq (tk : Toolkit) (saves : Saves) (v : Option Talk) (path : List String)
    (st : Stores) :
    setSaves tk saves v path st =
      ⟨⟨saved saves.modem st.modem (modemWrite tk v path st),
        saved saves.ifname st.ifname (ifnameWrite tk v path st)⟩,
        saves.modem && (modemWrite tk v path st).isSome,
        saves.ifname && (ifnameWrite tk v path st).isSome⟩ := by
  unfold setSaves modemWrite ifnameWrite
  change (if firstLayer path = "" then setWhole tk saves v st
    else setPath saves v (firstLayer path) path st) = _
  by_cases hwhole : firstLayer path = ""
  · rw [if_pos hwhole, if_pos hwhole, if_pos hwhole]
    cases v with
    | none =>
      unfold setWhole
      dsimp only
      rw [configSet_eq, configSet_eq]
      rfl
    | some v =>
      unfold setWhole
      dsimp only
      rw [replace_eq, replace_eq]
      rfl
  · rw [if_neg hwhole, if_neg hwhole, if_neg hwhole]
    unfold setPath
    by_cases hignored : firstLayer path ∈ ignoredKeys
    · rw [if_pos hignored, if_pos hignored, if_pos hignored, saved_none, saved_none,
        Option.isSome_none, Bool.and_false, Bool.and_false]
    · rw [if_neg hignored, if_neg hignored, if_neg hignored]
      by_cases hmodem : firstLayer path ∈ pathModemKeys
      · rw [if_pos hmodem, if_pos hmodem, if_pos hmodem, configSet_eq, saved_none,
          Option.isSome_none, Bool.and_false]
      · rw [if_neg hmodem, if_neg hmodem, if_neg hmodem, configSet_eq, saved_none,
          Option.isSome_none, Bool.and_false]

/-- **`_set`** as a function of what it saves. -/
theorem set_eq (tk : Toolkit) (saves : Saves) (v : Option Talk) (path : List String)
    (st : Stores) :
    LteSettings.set tk saves v path st =
      ⟨⟨saved saves.modem st.modem (modemWrite tk v path st),
        saved saves.ifname st.ifname (ifnameWrite tk v path st)⟩,
        .networkOffline :: restart (saves.modem && (modemWrite tk v path st).isSome)
          (saves.ifname && (ifnameWrite tk v path st).isSome),
        saves.ifname && (ifnameWrite tk v path st).isSome⟩ := by
  unfold LteSettings.set
  rw [setSaves_eq]

/-! ## The values a write leaves -/

/-- A whole object that is saved leaves its own values, whether the configuration was replaced
or equal before. -/
theorem jsonValue_saved_whole (tk : Toolkit) (store : Option Talk) (es : List (String × Talk))
    (k : String) :
    jsonValue (saved true store
      (if tk.talkEqual store (.json es) then none else some (some (.json es)))) k =
      es.lookup k := by
  by_cases hequal : tk.talkEqual store (.json es) = true
  · rw [if_pos hequal]
    exact tk.equal_values store (.json es) hequal k
  · rw [if_neg hequal]
    rfl

/-- The write of a whole object. -/
theorem jsonValue_setWhole (tk : Toolkit) (saves : Saves) (v : Talk) (st : Stores) (k : String)
    (hmodem : saves.modem = true) (hifname : saves.ifname = true) :
    jsonValue (LteSettings.set tk saves (some v) [] st).stores.modem k =
        (separate (strip v)).1.lookup k ∧
      jsonValue (LteSettings.set tk saves (some v) [] st).stores.ifname k =
        (separate (strip v)).2.lookup k := by
  rw [set_eq, hmodem, hifname]
  exact ⟨jsonValue_saved_whole tk st.modem _ k, jsonValue_saved_whole tk st.ifname _ k⟩

/-- What a call with a proper first layer saves. -/
theorem writes_path (tk : Toolkit) (v : Option Talk) (st : Stores) {k : String}
    (ks : List String) (hk : k ≠ "") :
    modemWrite tk v (k :: ks) st =
        (if k ∈ ignoredKeys then none
        else if k ∈ pathModemKeys then some (attrSet st.modem (k :: ks) v) else none) ∧
      ifnameWrite tk v (k :: ks) st =
        (if k ∈ ignoredKeys then none
        else if k ∈ pathModemKeys then none else some (attrSet st.ifname (k :: ks) v)) :=
  ⟨if_neg hk, if_neg hk⟩

/-- The write of a path that goes to the modem. -/
theorem stores_setPath_modem (tk : Toolkit) (v : Option Talk) (st : Stores) {k : String}
    (ks : List String) {saves : Saves} (hk : k ≠ "") (hignored : k ∉ ignoredKeys)
    (hkey : k ∈ pathModemKeys) (hsave : saves.modem = true) :
    (LteSettings.set tk saves v (k :: ks) st).stores =
      ⟨attrSet st.modem (k :: ks) v, st.ifname⟩ := by
  obtain ⟨hm, hc⟩ := writes_path tk v st ks hk
  rw [if_neg hignored, if_pos hkey] at hm hc
  rw [set_eq, hm, hc, hsave, saved_none]
  rfl

/-- The write of a path that goes to the interface. -/
theorem stores_setPath_ifname (tk : Toolkit) (v : Option Talk) (st : Stores) {k : String}
    (ks : List String) {saves : Saves} (hk : k ≠ "") (hignored : k ∉ ignoredKeys)
    (hkey : k ∉ pathModemKeys) (hsave : saves.ifname = true) :
    (LteSettings.set tk saves v (k :: ks) st).stores =
      ⟨st.modem, attrSet st.ifname (k :: ks) v⟩ := by
  obtain ⟨hm, hc⟩ := writes_path tk v st ks hk
  rw [if_neg hignored, if_neg hkey] at hm hc
  rw [set_eq, hm, hc, hsave, saved_none]
  rfl

/-- The write of an ignored path. -/
theorem stores_setPath_ignored (tk : Toolkit) (saves : Saves) (v : Option Talk) (st : Stores)
    {k : String} (ks : List String) (hignored : k ∈ ignoredKeys) :
    (LteSettings.set tk saves v (k :: ks) st).stores = st := by
  have hk : k ≠ "" := by
    rintro rfl
    exact absurd hignored (by decide)
  obtain ⟨hm, hc⟩ := writes_path tk v st ks hk
  rw [if_pos hignored] at hm hc
  rw [set_eq, hm, hc, saved_none, saved_none]

/-! ## Separated configurations -/

/-- The modem's configuration has keys of the modem and locks only, that of the interface has
neither. -/
structure Separated (st : Stores) : Prop where
  modem : ∀ k, k ∉ wholeModemKeys → k ∉ ignoredKeys → jsonValue st.modem k = none
  ifname : ∀ k, k ∈ wholeModemKeys ∨ k ∈ ignoredKeys → jsonValue st.ifname k = none

/-- The two forms of a write know the same keys. -/
theorem pathModemKeys_eq : pathModemKeys = wholeModemKeys := rfl

/-- What is saved as the modem's configuration stays with the keys of the modem. -/
theorem jsonValue_modemWrite {tk : Toolkit} {v x : Option Talk} {path : List String}
    {st : Stores} (h : modemWrite tk v path st = some x) {k : String}
    (hkey : k ∉ wholeModemKeys) (hold : jsonValue st.modem k = none) :
    jsonValue x k = none := by
  unfold modemWrite at h
  split at h
  · cases v with
    | none =>
      cases h
      rfl
    | some v =>
      dsimp only at h
      split at h
      · cases h
      · cases h
        exact lookup_separate_modem_of_notMem (strip v) hkey
  · next hpath =>
    split at h
    · cases h
    · split at h
      · next hfirst =>
        cases h
        cases path with
        | nil => exact absurd rfl hpath
        | cons l ks =>
          have hne : k ≠ l := by
            rintro rfl
            rw [pathModemKeys_eq] at hfirst
            exact hkey hfirst
          rw [jsonValue_attrSet_of_ne _ _ _ hne]
          exact hold
      · cases h

/-- What is saved as the interface's configuration stays away from them. -/
theorem jsonValue_ifnameWrite {tk : Toolkit} {v x : Option Talk} {path : List String}
    {st : Stores} (h : ifnameWrite tk v path st = some x) {k : String}
    (hkey : k ∈ wholeModemKeys ∨ k ∈ ignoredKeys) (hold : jsonValue st.ifname k = none) :
    jsonValue x k = none := by
  unfold ifnameWrite at h
  split at h
  · cases v with
    | none =>
      cases h
      rfl
    | some v =>
      dsimp only at h
      split at h
      · cases h
      · cases h
        rcases hkey with hkey | hkey
        · exact lookup_separate_ifname_of_mem (strip v) hkey
        · exact lookup_separate_ifname_of_ignored v hkey
  · next hpath =>
    split at h
    · cases h
    · next hignored =>
      split at h
      · cases h
      · next hfirst =>
        cases h
        cases path with
        | nil => exact absurd rfl hpath
        | cons l ks =>
          have hne : k ≠ l := by
            rintro rfl
            rw [pathModemKeys_eq] at hfirst
            rcases hkey with hkey | hkey
            · exact hfirst hkey
            · exact hignored hkey
          rw [jsonValue_attrSet_of_ne _ _ _ hne]
          exact hold

/-- A save keeps a key out of a configuration when what is saved does not have it. -/
theorem jsonValue_saved (ok : Bool) {store : Option Talk} {write : Option (Option Talk)}
    {k : String} (hold : jsonValue store k = none)
    (hnew : ∀ x, write = some x → jsonValue x k = none) :
    jsonValue (saved ok store write) k = none := by
  unfold saved
  cases ok with
  | false => exact hold
  | true =>
    cases write with
    | none => exact hold
    | some x => exact hnew x rfl

/-- **Every write** keeps the configurations separated, whatever its saves come to. -/
theorem separated_set (tk : Toolkit) (saves : Saves) (v : Option Talk) (path : List String)
    {st : Stores} (h : Separated st) : Separated (LteSettings.set tk saves v path st).stores := by
  rw [set_eq]
  refine ⟨?_, ?_⟩
  · intro k hkey hignored
    have hold := h.modem k hkey hignored
    exact jsonValue_saved _ hold fun x hx => jsonValue_modemWrite hx hkey hold
  · intro k hkey
    have hold := h.ifname k hkey
    exact jsonValue_saved _ hold fun x hx => jsonValue_ifnameWrite hx hkey hold

/-- What `_get` reads under a key that at most one configuration has. -/
theorem jsonValue_get (tk : Toolkit) (st : Stores) {k : String}
    (h : jsonValue st.modem k = none ∨ jsonValue st.ifname k = none) :
    jsonValue (LteSettings.get tk st []) k = (jsonValue st.modem k).or (jsonValue st.ifname k) := by
  unfold LteSettings.get
  cases hc : st.ifname with
  | none => exact Option.or_none.symm
  | some cfg =>
    change jsonValue (some (tk.jsonPatch st.modem (entriesOf (some cfg)))) k =
      (jsonValue st.modem k).or (jsonValue (some cfg) k)
    rw [hc] at h
    rcases h with h | h
    · rw [tk.patch_to _ _ _ h, h]
      rfl
    · rw [tk.patch_from _ _ _ h, h, Option.or_none]

/-- A path is read from the whole configuration. -/
theorem get_path (tk : Toolkit) (st : Stores) (path : List String) :
    LteSettings.get tk st path = attrCut (LteSettings.get tk st []) path := by
  unfold LteSettings.get
  cases st.ifname <;> rfl

/-- A toolkit that compares literally and merges the top layer. -/
def plainToolkit : Toolkit where
  talkEqual a b := a = some b
  jsonPatch src dst := .json (entriesOf src ++ dst)
  equal_self t := decide_eq_true rfl
  equal_values := by
    intro a b h k
    rw [of_decide_eq_true h]
  patch_to := by
    intro src dst k h
    rw [jsonValue_json, List.lookup_append]
    change (jsonValue src k).or (dst.lookup k) = _
    rw [h]
    rfl
  patch_from := by
    intro src dst k h
    rw [jsonValue_json, List.lookup_append, h]
    exact Option.or_none

end Tiger.Analysis.LteStores
