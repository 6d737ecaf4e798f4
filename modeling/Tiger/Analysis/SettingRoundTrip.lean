import Mathlib.Logic.Relation
import Tiger.Analysis.LteStores

/-!
# Reading back what was written

In every pair of configurations that writes lead to, a key stands in the
configuration it belongs to and not in the other one (`separated_reachable`). So the
merge of `_get` never has to choose, and a write is read back: a whole object except
for the two locks, and the value at a path.

Besides `_set`, the modem writes its own settings and the locks; such writes are
steps of a run too.
-/

set_option autoImplicit false

namespace Tiger.Analysis.SettingRoundTrip

open Tiger.Library Tiger.Model Tiger.Model.LteSettings Tiger.Analysis.LteStores

/-- One write to the configurations. -/
inductive Write (tk : Toolkit) (st : Stores) : Stores → Prop where
  /-- A call of `_set`, whatever its saves come to. -/
  | set (saves : Saves) (v : Option Talk) (path : List String) :
      Write tk st (LteSettings.set tk saves v path st).stores
  /-- The modem writes one of its settings or a lock. -/
  | modem (k : String) (ks : List String) (v : Option Talk)
      (hkey : k ∈ wholeModemKeys ∨ k ∈ ignoredKeys) :
      Write tk st ⟨attrSet st.modem (k :: ks) v, st.ifname⟩

/-- The configurations that writes lead to. -/
def Reachable (tk : Toolkit) (start : Stores) : Stores → Prop :=
  Relation.ReflTransGen (Write tk) start

/-- No write puts a key of the one store into the other. -/
theorem separated_write {tk : Toolkit} {st st' : Stores} (h : Separated st)
    (hwrite : Write tk st st') : Separated st' := by
  cases hwrite with
  | set saves v path => exact separated_set tk saves v path h
  | modem k ks v hkey =>
    refine ⟨?_, h.ifname⟩
    intro l hl hignored
    have hne : l ≠ k := by
      rintro rfl
      rcases hkey with hkey | hkey
      · exact hl hkey
      · exact hignored hkey
    change jsonValue (attrSet st.modem (k :: ks) v) l = none
    rw [jsonValue_attrSet_of_ne _ _ _ hne]
    exact h.modem l hl hignored

/-- The stores stay separated over every run. -/
theorem separated_reachable {tk : Toolkit} {start st : Stores} (hstart : Separated start)
    (h : Reachable tk start st) : Separated st := by
  induction h with
  | refl => exact hstart
  | tail _ hwrite ih => exact separated_write ih hwrite

/-- In separated configurations at most one has a given key. -/
theorem one_has_key {st : Stores} (h : Separated st) (k : String) :
    jsonValue st.modem k = none ∨ jsonValue st.ifname k = none := by
  by_cases hkey : k ∈ wholeModemKeys
  · exact Or.inr (h.ifname k (Or.inl hkey))
  · by_cases hignored : k ∈ ignoredKeys
    · exact Or.inr (h.ifname k (Or.inr hignored))
    · exact Or.inl (h.modem k hkey hignored)

/-- A whole object is read back except for the locks. -/
theorem get_setWhole (tk : Toolkit) {v : Talk} {st : Stores} {saves : Saves} (h : Separated st)
    (hv : KeysDistinct v) (hmodem : saves.modem = true) (hifname : saves.ifname = true)
    (k : String) :
    jsonValue (LteSettings.get tk (LteSettings.set tk saves (some v) [] st).stores []) k =
      if k ∈ ignoredKeys then none else jsonValue (some v) k := by
  have hseparated := separated_set tk saves (some v) [] h
  obtain ⟨hm, hc⟩ := jsonValue_setWhole tk saves v st k hmodem hifname
  obtain ⟨hfst, hsnd⟩ := lookup_separate (keysDistinct_strip hv) k
  rw [jsonValue_get tk _ (one_has_key hseparated k), hm, hc, hfst, hsnd, jsonValue_strip]
  by_cases hkey : k ∈ wholeModemKeys
  · rw [if_pos hkey, if_pos hkey]
    exact Option.or_none
  · rw [if_neg hkey, if_neg hkey]
    rfl

/-- A value at a path is read back. -/
theorem get_setPath (tk : Toolkit) {st : Stores} {saves : Saves} (h : Separated st)
    (x : Option Talk) {k : String} (ks : List String) (hk : k ≠ "") (hignored : k ∉ ignoredKeys)
    (hsave : if k ∈ pathModemKeys then saves.modem = true else saves.ifname = true) :
    LteSettings.get tk (LteSettings.set tk saves x (k :: ks) st).stores (k :: ks) = x := by
  have hseparated := separated_set tk saves x (k :: ks) h
  have hback : ∀ t, attrCut (jsonValue (attrSet t (k :: ks) x) k) ks = x := fun t =>
    attrCut_attrSet t x (k :: ks)
  rw [get_path, attrCut_cons, jsonValue_get tk _ (one_has_key hseparated k)]
  by_cases hkey : k ∈ pathModemKeys
  · rw [if_pos hkey] at hsave
    rw [stores_setPath_modem tk x st ks hk hignored hkey hsave] at hseparated ⊢
    rw [pathModemKeys_eq] at hkey
    have hnone := hseparated.ifname k (Or.inl hkey)
    dsimp only at hnone ⊢
    rw [hnone, Option.or_none]
    exact hback st.modem
  · rw [if_neg hkey] at hsave
    rw [stores_setPath_ifname tk x st ks hk hignored hkey hsave] at hseparated ⊢
    rw [pathModemKeys_eq] at hkey
    have hnone := hseparated.modem k hkey hignored
    dsimp only at hnone ⊢
    rw [hnone, Option.none_or]
    exact hback st.ifname

/-- **Round trip.** In every pair of configurations that writes lead to from separated ones, a
whole object whose saves succeed is read back except for the locks, and a value written at a
path, not that of a lock, whose save succeeds is read back from it. -/
theorem set_get_round_trip (tk : Toolkit) {start st : Stores} (hstart : Separated start)
    (hreach : Reachable tk start st) :
    (∀ v saves, KeysDistinct v → saves.modem = true → saves.ifname = true → ∀ k,
      jsonValue (LteSettings.get tk (LteSettings.set tk saves (some v) [] st).stores []) k =
        if k ∈ ignoredKeys then none else jsonValue (some v) k) ∧
    ∀ x saves k ks, k ≠ "" → k ∉ ignoredKeys →
      (if k ∈ pathModemKeys then saves.modem = true else saves.ifname = true) →
      LteSettings.get tk (LteSettings.set tk saves x (k :: ks) st).stores (k :: ks) = x := by
  have hseparated := separated_reachable hstart hreach
  refine ⟨?_, ?_⟩
  · intro v saves hv hmodem hifname k
    exact get_setWhole tk hseparated hv hmodem hifname k
  · intro x saves k ks hk hignored hsave
    exact get_setPath tk hseparated x ks hk hignored hsave

/-- The PIN of a modem whose interface was written as a whole before. -/
theorem set_get_round_trip_lock_pin :
    LteSettings.get plainToolkit
      (LteSettings.set plainToolkit ⟨true, false⟩ (some (.text "1234")) ["lock_pin"]
        (LteSettings.set plainToolkit ⟨true, true⟩
          (some (.json [("tid", .text "1"), ("lock_pin", .text "0000")])) []
          ⟨none, none⟩).stores).stores
      ["lock_pin"] = some (.text "1234") := by
  have hstart : Separated ⟨none, none⟩ := ⟨fun _ _ _ => rfl, fun _ _ => rfl⟩
  have hreach : Reachable plainToolkit ⟨none, none⟩ (LteSettings.set plainToolkit ⟨true, true⟩
      (some (.json [("tid", .text "1"), ("lock_pin", .text "0000")])) [] ⟨none, none⟩).stores :=
    Relation.ReflTransGen.single (.set ⟨true, true⟩ _ [])
  exact (set_get_round_trip plainToolkit hstart hreach).2 (some (.text "1234")) ⟨true, false⟩
    "lock_pin" [] (by decide) (by decide) (by decide)

end Tiger.Analysis.SettingRoundTrip
