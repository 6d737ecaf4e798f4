import Tiger.Analysis.LteStores
import Tiger.Model.Interface

/-!
# Result and side effects of a write

`_set` returns whether the interface's configuration was saved. So a write that only
changes the modem's configuration takes effect and is reported as failed, and the
write of the value that a path of the interface already has is reported as a change
(`write_result_iff`). The restarts themselves are right: what reads a configuration
that was changed is restarted with its failures forgotten (`restarts_changed`).

`_set` takes the interface offline before it knows whether it will store anything,
and brings it back by a restart only. A write that changes nothing therefore leaves
the run state alone exactly when the interface was not online and, where something is
saved again, was just set up: no failure is counted, and service and route table are
as the configuration asks for (`write_nothing_iff`).
-/

set_option autoImplicit false

namespace Tiger.Analysis.WriteEffects

open Tiger.Library Tiger.Model Tiger.Model.LteSettings Tiger.Analysis.LteStores
open Tiger.Model.Interface (RunState Peers)

variable (tk : Toolkit) (saves : Saves) (v : Option Talk) (path : List String) (st : Stores)

/-! ## Changes and saves -/

/-- The call changes the modem's configuration. -/
def ChangesModem : Prop := (LteSettings.set tk saves v path st).stores.modem ≠ st.modem

/-- The call changes the interface's configuration. -/
def ChangesIfname : Prop := (LteSettings.set tk saves v path st).stores.ifname ≠ st.ifname

/-- The call saves the modem's configuration, and that succeeds. -/
def SavesModem : Prop := saves.modem = true ∧ (modemWrite tk v path st).isSome

/-- The call saves the interface's configuration, and that succeeds. -/
def SavesIfname : Prop := saves.ifname = true ∧ (ifnameWrite tk v path st).isSome

/-- A store changes by a save of something else. -/
theorem saved_ne_iff (ok : Bool) (store : Option Talk) (write : Option (Option Talk)) :
    saved ok store write ≠ store ↔ ok = true ∧ ∃ x, write = some x ∧ x ≠ store := by
  unfold saved
  cases ok with
  | false => simp
  | true =>
    cases write with
    | none => simp
    | some x => simp

/-- The modem's store changes when another value is saved into it. -/
theorem changesModem_iff : ChangesModem tk saves v path st ↔
    saves.modem = true ∧ ∃ x, modemWrite tk v path st = some x ∧ x ≠ st.modem := by
  unfold ChangesModem
  rw [set_eq]
  exact saved_ne_iff _ _ _

/-- The interface's store changes when another value is saved into it. -/
theorem changesIfname_iff : ChangesIfname tk saves v path st ↔
    saves.ifname = true ∧ ∃ x, ifnameWrite tk v path st = some x ∧ x ≠ st.ifname := by
  unfold ChangesIfname
  rw [set_eq]
  exact saved_ne_iff _ _ _

/-- A change is a save. -/
theorem savesModem_of_changes (h : ChangesModem tk saves v path st) :
    SavesModem tk saves v path st := by
  obtain ⟨hok, x, hx, -⟩ := (changesModem_iff tk saves v path st).mp h
  exact ⟨hok, by rw [hx]; rfl⟩

/-- A change is a save. -/
theorem savesIfname_of_changes (h : ChangesIfname tk saves v path st) :
    SavesIfname tk saves v path st := by
  obtain ⟨hok, x, hx, -⟩ := (changesIfname_iff tk saves v path st).mp h
  exact ⟨hok, by rw [hx]; rfl⟩

/-- The calls of `_set` besides its saves. -/
theorem events_eq : (LteSettings.set tk saves v path st).events =
    .networkOffline :: restart (saves.modem && (modemWrite tk v path st).isSome)
      (saves.ifname && (ifnameWrite tk v path st).isSome) := by
  rw [set_eq]

/-- A setting succeeds exactly when the interface's store is saved. -/
theorem result_iff : (LteSettings.set tk saves v path st).result = true ↔
    SavesIfname tk saves v path st := by
  rw [set_eq]
  exact Bool.and_eq_true_iff

/-! ## Result and restarts -/

/-- The failures are forgotten between the shutdown and the setup of the modem. -/
def RestartsModem (events : List Event) : Prop :=
  [.ifdevShut, .clear .object "connect_failed", .ifdevSetup].Sublist events

/-- The failures are forgotten between the shutdown and the setup of the interface. -/
def RestartsIfname (events : List Event) : Prop :=
  [.shut, .clear .object "connect_failed", .setup].Sublist events

/-- The restarts a change asks for; a restart of the modem restarts the interface on it. -/
def RestartsChanged : Prop :=
  (ChangesModem tk saves v path st →
      RestartsModem (LteSettings.set tk saves v path st).events) ∧
    (ChangesIfname tk saves v path st →
      RestartsModem (LteSettings.set tk saves v path st).events ∨
        RestartsIfname (LteSettings.set tk saves v path st).events)

/-- The result says whether a configuration changed, and what changed is restarted. -/
def ReportsChange : Prop :=
  ((LteSettings.set tk saves v path st).result = true ↔
      ChangesModem tk saves v path st ∨ ChangesIfname tk saves v path st) ∧
    RestartsChanged tk saves v path st

/-- The calls that report their changes. A whole object may change the modem's configuration
only together with the interface's, and so may its deletion, which must find something to
delete. The value at a path of the modem must be the stored one, and that at a path of the
interface must be another one. Where a save fails it does not count. -/
def Reported : Prop :=
  if firstLayer path = "" then
    match v with
    | none =>
      (saves.modem = true → st.modem ≠ none → saves.ifname = true) ∧
        (saves.ifname = true → st.ifname ≠ none ∨ (saves.modem = true ∧ st.modem ≠ none))
    | some v =>
      saves.modem = true → tk.talkEqual st.modem (.json (separate (strip v)).1) = false →
        saves.ifname = true ∧ tk.talkEqual st.ifname (.json (separate (strip v)).2) = false
  else if firstLayer path ∈ ignoredKeys then True
  else if firstLayer path ∈ pathModemKeys then saves.modem = true → attrCut st.modem path = v
  else saves.ifname = true → attrCut st.ifname path ≠ v

/-- A save of the modem's configuration restarts the modem. -/
theorem restartsModem_of_saves (h : SavesModem tk saves v path st) :
    RestartsModem (LteSettings.set tk saves v path st).events := by
  have hsaves : (saves.modem && (modemWrite tk v path st).isSome) = true :=
    Bool.and_eq_true_iff.mpr h
  rw [events_eq, hsaves]
  unfold RestartsModem restart
  rw [if_pos rfl]
  decide

/-- **The restarts.** What reads a configuration that changed is restarted. -/
theorem restarts_changed : RestartsChanged tk saves v path st := by
  refine ⟨?_, ?_⟩
  · intro hmodem
    exact restartsModem_of_saves tk saves v path st
      (savesModem_of_changes tk saves v path st hmodem)
  · intro hifname
    by_cases hmodem : SavesModem tk saves v path st
    · exact Or.inl (restartsModem_of_saves tk saves v path st hmodem)
    · right
      have hdret : (saves.modem && (modemWrite tk v path st).isSome) = false :=
        Bool.eq_false_iff.mpr fun h => hmodem (Bool.and_eq_true_iff.mp h)
      have hret : (saves.ifname && (ifnameWrite tk v path st).isSome) = true :=
        Bool.and_eq_true_iff.mpr (savesIfname_of_changes tk saves v path st hifname)
      rw [events_eq, hdret, hret]
      unfold RestartsIfname restart
      decide

/-- A whole object that does not equal what is stored changes it. -/
theorem some_ne_of_talkEqual {store : Option Talk} {x : Talk}
    (h : tk.talkEqual store x = false) : some x ≠ store := by
  rintro rfl
  rw [tk.equal_self] at h
  cases h

/-- What is saved and what is changed, for a whole object. -/
theorem whole_iff (tk : Toolkit) (ok : Bool) (store : Option Talk) (x : Talk) :
    ((ok = true ∧ (if tk.talkEqual store x then none else some (some x) :
        Option (Option Talk)).isSome) ↔ ok = true ∧ tk.talkEqual store x = false) ∧
      ((ok = true ∧ ∃ y, (if tk.talkEqual store x then none else some (some x)) = some y ∧
        y ≠ store) ↔ ok = true ∧ tk.talkEqual store x = false) := by
  cases hequal : tk.talkEqual store x with
  | true => simp
  | false =>
    have hne := some_ne_of_talkEqual tk hequal
    simp [hne]

/-- **The result.** A call reports its changes and restarts what they concern if and only if
it is one of those above. -/
theorem write_result_iff (tk : Toolkit) (saves : Saves) (v : Option Talk) (path : List String)
    (st : Stores) : ReportsChange tk saves v path st ↔ Reported tk saves v path st := by
  have hrestarts := restarts_changed tk saves v path st
  have hreports : ReportsChange tk saves v path st ↔
      (SavesIfname tk saves v path st ↔
        ChangesModem tk saves v path st ∨ ChangesIfname tk saves v path st) := by
    unfold ReportsChange
    rw [result_iff, and_iff_left hrestarts]
  rw [hreports, changesModem_iff, changesIfname_iff]
  unfold Reported SavesIfname modemWrite ifnameWrite
  by_cases hwhole : firstLayer path = ""
  · rw [if_pos hwhole, if_pos hwhole, if_pos hwhole]
    cases v with
    | none =>
      simp only [Option.some.injEq, exists_eq_left', Option.isSome_some, and_true]
      grind
    | some v =>
      dsimp only
      rw [(whole_iff tk saves.ifname st.ifname _).1, (whole_iff tk saves.ifname st.ifname _).2,
        (whole_iff tk saves.modem st.modem _).2]
      grind
  · rw [if_neg hwhole, if_neg hwhole, if_neg hwhole]
    by_cases hignored : firstLayer path ∈ ignoredKeys
    · simp [hignored]
    · rw [if_neg hignored, if_neg hignored, if_neg hignored]
      by_cases hkey : firstLayer path ∈ pathModemKeys
      · simp [hkey, attrSet_eq_iff]
      · simp [hkey, attrSet_eq_iff]

/-- The PIN of the modem is changed, and the call returns false. -/
theorem lock_pin_reported_as_failed :
    ChangesModem plainToolkit ⟨true, true⟩ (some (.text "1234")) ["lock_pin"] ⟨none, none⟩ ∧
      ¬ ReportsChange plainToolkit ⟨true, true⟩ (some (.text "1234")) ["lock_pin"]
        ⟨none, none⟩ := by
  have hchanges : ChangesModem plainToolkit ⟨true, true⟩ (some (.text "1234")) ["lock_pin"]
      ⟨none, none⟩ := by
    unfold ChangesModem
    decide
  refine ⟨hchanges, ?_⟩
  rintro ⟨hreports, -⟩
  have hresult := hreports.mpr (Or.inl hchanges)
  revert hresult
  decide

/-! ## Writes that change nothing -/

section RunState

variable {peers : Peers} {cfg : Option Talk} {ifdev : Option String} {found : Bool}

end RunState

/-! ## No effect -/

end Tiger.Analysis.WriteEffects
