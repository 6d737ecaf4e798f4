import Mathlib.Data.Set.Insert
import Tiger.Model.Radio

/-!
# What a radio does to the tables

`_setup` registers the configured SSIDs with interfaces of their own and the station
on the root device; `_shut` goes over four slots of SSIDs and four of stations, each
with a device name of its own. `setupSlots` and `shutSlots` are the two lists of
components and devices, and every effect on the component table, the frame and the
addresses is one of a slot of these lists (`mem_setup_iff`, `mem_shut_iff`).
-/

set_option autoImplicit false

namespace Tiger.Analysis.RadioTeardown

open Tiger.Model Tiger.Model.Radio

/-! ## What a run did -/

/-- The components a run registered. -/
def registered (es : List Effect) : Set String := {c | ∃ cls, Effect.register c cls ∈ es}

/-- The components a run unregistered. -/
def unregistered (es : List Effect) : Set String := {c | Effect.unregister c ∈ es}

/-- The components a run added to the network frame. -/
def added (es : List Effect) : Set String := {c | ∃ d, Effect.add c d ∈ es}

/-- The components a run deleted from the network frame. -/
def deleted (es : List Effect) : Set String := {c | Effect.delete c ∈ es}

/-- The devices a run bound to a component. -/
def bound (es : List Effect) : Set String := {d | ∃ c, Effect.set c "netdev" d ∈ es}

/-- The devices whose address a run cleared. -/
def cleared (es : List Effect) : Set String := {d | Effect.clear d ∈ es}

/-- Teardown after setup takes back what setup did, and leaves the component table and the
network frame as they were. -/
def Undoes (k : Kit) (given : String → Option Mac) (r : Object) (n : Net) : Prop :=
  let s := (setup k given r n).2
  let t := (shut k given r s.net).2
  unregistered t.effects = registered s.effects ∧ deleted t.effects = added s.effects ∧
    cleared t.effects = bound s.effects ∧ t.net.components = n.components ∧
    t.net.frame = n.frame

/-! ## The slots of both operations -/

/-- The configured slots of a kind, each as its component and its device. -/
def configured (r : Object) (kind : String) : List (String × String) :=
  ((List.range 4).filter fun i => (r.config (slotName r.object kind i)).isSome).map fun i =>
    (slotName r.object kind i, slotName r.obj kind i)

/-- The slots of `_setup`: the SSIDs, and the station on the root device. -/
def setupSlots (r : Object) (rootdev : String) : List (String × String) :=
  configured r "ssid" ++
    if (r.config (slotName r.object "sta" 0)).isSome then
      [(slotName r.object "sta" 0, snprintf nameMax rootdev)]
    else []

/-- The slots of `_shut`: the SSIDs and the stations. -/
def shutSlots (r : Object) : List (String × String) := configured r "ssid" ++ configured r "sta"

/-- The operations pass their checks, with this root device. -/
def Runs (k : Kit) (r : Object) (n : Net) (rootdev : String) : Prop :=
  r.obj ≠ k.comId ∧ rootdevOf n r = some rootdev

/-- The slots of `_shut` name the components and the devices that those of `_setup` name, and
none of the components is in the tables yet. -/
def Matches (k : Kit) (r : Object) (n : Net) : Prop :=
  ∀ rootdev, Runs k r n rootdev →
    (∀ p ∈ configured r "sta", (∃ d, (p.1, d) ∈ setupSlots r rootdev) ∧
      ∃ c, (c, p.2) ∈ setupSlots r rootdev) ∧
    ((r.config (slotName r.object "sta" 0)).isSome →
      ∃ c, (c, snprintf nameMax rootdev) ∈ shutSlots r) ∧
    ∀ p ∈ setupSlots r rootdev, n.components p.1 = none ∧ n.frame p.1 = none

/-! ## Tables after a list of effects -/

section Tables

variable {k : Kit} {given : String → Option Mac}

/-- Effects are recorded in order. -/
@[simp] theorem effects_act (run : Run) (es : List Effect) :
    (run.act k given es).effects = run.effects ++ es := rfl

/-- The tables are what the effects make of them. -/
@[simp] theorem net_act (run : Run) (es : List Effect) :
    (run.act k given es).net = es.foldl (Net.after k given) run.net := rfl

/-- A component that no effect is about keeps its place in the component table. -/
theorem components_of_notMem {es : List Effect} {c : String} (n : Net)
    (hreg : c ∉ registered es) (hun : c ∉ unregistered es) :
    (es.foldl (Net.after k given) n).components c = n.components c := by
  induction es generalizing n with
  | nil => rfl
  | cons e es ih =>
    have hreg' : c ∉ registered es := fun ⟨cls, h⟩ => hreg ⟨cls, List.mem_cons_of_mem _ h⟩
    have hun' : c ∉ unregistered es := fun h => hun (List.mem_cons_of_mem _ h)
    rw [List.foldl_cons, ih _ hreg' hun']
    cases e with
    | register com cls =>
      have hne : c ≠ com := by
        rintro rfl
        exact hreg ⟨cls, List.mem_cons_self⟩
      exact Function.update_of_ne hne _ _
    | unregister com =>
      have hne : c ≠ com := by
        rintro rfl
        exact hun List.mem_cons_self
      exact Function.update_of_ne hne _ _
    | _ => rfl

/-- An unregistered component that is not registered again is not in the table. -/
theorem components_of_mem_unregistered {es : List Effect} {c : String} (n : Net)
    (hreg : c ∉ registered es) (hun : c ∈ unregistered es) :
    (es.foldl (Net.after k given) n).components c = none := by
  induction es generalizing n with
  | nil => cases hun
  | cons e es ih =>
    have hreg' : c ∉ registered es := fun ⟨cls, h⟩ => hreg ⟨cls, List.mem_cons_of_mem _ h⟩
    rw [List.foldl_cons]
    by_cases hlater : c ∈ unregistered es
    · exact ih _ hreg' hlater
    · rw [components_of_notMem _ hreg' hlater]
      rcases List.mem_cons.mp hun with rfl | h
      · exact Function.update_self _ _ _
      · exact absurd h hlater

/-- A component that no effect is about keeps its place in the network frame. -/
theorem frame_of_notMem {es : List Effect} {c : String} (n : Net)
    (hadd : c ∉ added es) (hdel : c ∉ deleted es) :
    (es.foldl (Net.after k given) n).frame c = n.frame c := by
  induction es generalizing n with
  | nil => rfl
  | cons e es ih =>
    have hadd' : c ∉ added es := fun ⟨d, h⟩ => hadd ⟨d, List.mem_cons_of_mem _ h⟩
    have hdel' : c ∉ deleted es := fun h => hdel (List.mem_cons_of_mem _ h)
    rw [List.foldl_cons, ih _ hadd' hdel']
    cases e with
    | add com dev =>
      have hne : c ≠ com := by
        rintro rfl
        exact hadd ⟨dev, List.mem_cons_self⟩
      exact Function.update_of_ne hne _ _
    | delete com =>
      have hne : c ≠ com := by
        rintro rfl
        exact hdel List.mem_cons_self
      exact Function.update_of_ne hne _ _
    | _ => rfl

/-- A deleted component that is not added again is not in the network frame. -/
theorem frame_of_mem_deleted {es : List Effect} {c : String} (n : Net)
    (hadd : c ∉ added es) (hdel : c ∈ deleted es) :
    (es.foldl (Net.after k given) n).frame c = none := by
  induction es generalizing n with
  | nil => cases hdel
  | cons e es ih =>
    have hadd' : c ∉ added es := fun ⟨d, h⟩ => hadd ⟨d, List.mem_cons_of_mem _ h⟩
    rw [List.foldl_cons]
    by_cases hlater : c ∈ deleted es
    · exact ih _ hadd' hlater
    · rw [frame_of_notMem _ hadd' hlater]
      rcases List.mem_cons.mp hdel with rfl | h
      · exact Function.update_self _ _ _
      · exact absurd h hlater

end Tables

/-! ## The effects of setup and teardown -/

/-- The effects on the component table, the registers, the frame and the addresses. -/
def OnSlots : Effect → Prop
  | .interfaceAdd _ _ => False
  | .hwEther _ _ => False
  | .ifUp _ => False
  | .txpower _ _ => False
  | .stop _ => False
  | _ => True

/-- What `_setup` does for a slot, its interface aside. -/
def slotEffects (r : Object) (cls rootdev : String) (p : String × String) : List Effect :=
  registerSlot r p.1 cls rootdev p.2 ++ [.add p.1 p.2]

/-- The slot of turn `i` is configured. -/
theorem mem_configured_iff (r : Object) (kind : String) (p : String × String) :
    p ∈ configured r kind ↔ ∃ i < 4, (r.config (slotName r.object kind i)).isSome ∧
      p = (slotName r.object kind i, slotName r.obj kind i) := by
  simp only [configured, List.mem_map, List.mem_filter, List.mem_range, and_assoc, eq_comm]

/-- The power is no effect on the slots. -/
theorem notMem_setPower (power : Option ℤ) (dev : String) {e : Effect} (he : OnSlots e) :
    e ∉ setPower power dev := by
  cases power with
  | none => exact List.not_mem_nil
  | some p =>
    intro hmem
    rw [List.mem_singleton.mp hmem] at he
    exact he

/-- The address is no effect on the slots. -/
theorem notMem_ownMac (k : Kit) (s : Local) (netdev : String) (nmac : Option String)
    {e : Effect} (he : OnSlots e) : e ∉ (ownMac k s netdev nmac).2.2 := by
  unfold ownMac
  split
  · intro hmem
    rcases List.mem_pair.mp hmem with rfl | rfl <;> exact he
  · exact List.not_mem_nil

/-- A turn has the effects of its slot, if the SSID is configured. -/
theorem mem_ssidTurn_iff (k : Kit) (given : String → Option Mac) (r : Object) (rootdev : String)
    (power : Option ℤ) (s : Local) (i : ℕ) {e : Effect} (he : OnSlots e) :
    e ∈ (ssidTurn k given r rootdev power s i).run.effects ↔ e ∈ s.run.effects ∨
      ((r.config (slotName r.object "ssid" i)).isSome ∧
        e ∈ slotEffects r "wifi@ap" rootdev
          (slotName r.object "ssid" i, slotName r.obj "ssid" i)) := by
  unfold ssidTurn
  by_cases hcfg : (r.config (slotName r.object "ssid" i)).isSome = true
  · have hpower := notMem_setPower power (slotName r.obj "ssid" i) he
    rw [if_pos hcfg]
    simp only [effects_act, List.mem_append, List.mem_singleton, slotEffects, hcfg, true_and]
    have hnew : e ≠ .interfaceAdd rootdev (slotName r.obj "ssid" i) := by
      rintro rfl
      exact he
    have hown := fun nmac => notMem_ownMac k s (slotName r.obj "ssid" i) nmac he
    simp only [hpower, hnew, hown, or_false, false_or, or_assoc]
  · simp [hcfg]

/-- The loop adds the effects of its slots. -/
theorem mem_foldl_ssidTurn_iff (k : Kit) (given : String → Option Mac) (r : Object)
    (rootdev : String) (power : Option ℤ) (l : List ℕ) (s : Local) {e : Effect}
    (he : OnSlots e) :
    e ∈ (l.foldl (ssidTurn k given r rootdev power) s).run.effects ↔ e ∈ s.run.effects ∨
      ∃ i ∈ l, (r.config (slotName r.object "ssid" i)).isSome ∧
        e ∈ slotEffects r "wifi@ap" rootdev
          (slotName r.object "ssid" i, slotName r.obj "ssid" i) := by
  induction l generalizing s with
  | nil => simp
  | cons i l ih =>
    rw [List.foldl_cons, ih, mem_ssidTurn_iff k given r rootdev power s i he, or_assoc]
    simp only [List.mem_cons, exists_eq_or_imp]

/-- The station has the effects of its slot, if it is configured. -/
theorem mem_setupSta_iff (k : Kit) (given : String → Option Mac) (r : Object)
    (rootdev : String) (run : Run) (e : Effect) :
    e ∈ (setupSta k given r rootdev run).effects ↔ e ∈ run.effects ∨
      (r.config (slotName r.object "sta" 0)).isSome ∧
        e ∈ slotEffects r "wifi@sta" rootdev
          (slotName r.object "sta" 0, snprintf nameMax rootdev) := by
  unfold setupSta
  by_cases hcfg : (r.config (slotName r.object "sta" 0)).isSome = true
  · rw [if_pos hcfg]
    simp only [effects_act, List.mem_append, slotEffects, hcfg, true_and]
  · simp [hcfg]

/-- What `_setup` does to the tables is what it does for its slots. -/
theorem mem_setup_iff {k : Kit} {given : String → Option Mac} {r : Object} {n : Net}
    {rootdev : String} (hruns : Runs k r n rootdev) {e : Effect} (he : OnSlots e) :
    e ∈ (setup k given r n).2.effects ↔
      (∃ p ∈ configured r "ssid", e ∈ slotEffects r "wifi@ap" rootdev p) ∨
        (r.config (slotName r.object "sta" 0)).isSome ∧
          e ∈ slotEffects r "wifi@sta" rootdev
            (slotName r.object "sta" 0, snprintf nameMax rootdev) := by
  obtain ⟨hobj, hroot⟩ := hruns
  unfold setup
  rw [if_neg hobj, hroot]
  have hstart : e ∉ (if n.up rootdev then [] else [Effect.ifUp rootdev]) ++
      setPower (dbm (r.config r.object)) rootdev := by
    rw [List.mem_append]
    rintro (hmem | hmem)
    · split at hmem
      · cases hmem
      · rw [List.mem_singleton.mp hmem] at he
        exact he
    · exact notMem_setPower _ _ he hmem
  rw [mem_setupSta_iff, mem_foldl_ssidTurn_iff k given r rootdev _ _ _ he]
  simp only [effects_act, List.nil_append, hstart, false_or]
  refine or_congr_left ?_
  constructor
  · rintro ⟨i, hi, hcfg, hmem⟩
    exact ⟨_, (mem_configured_iff r "ssid" _).mpr ⟨i, List.mem_range.mp hi, hcfg, rfl⟩, hmem⟩
  · rintro ⟨p, hp, hmem⟩
    obtain ⟨i, hi, hcfg, rfl⟩ := (mem_configured_iff r "ssid" p).mp hp
    exact ⟨i, List.mem_range.mpr hi, hcfg, hmem⟩

/-- What `_shut` does for a slot. -/
def backEffects (p : String × String) : List Effect := [.delete p.1, .unregister p.1, .clear p.2]

/-- What `_shut` does to the tables is what it does for its slots. -/
theorem mem_shut_iff {k : Kit} {given : String → Option Mac} {r : Object} {n : Net}
    {rootdev : String} (hruns : Runs k r n rootdev) {e : Effect} (he : OnSlots e) :
    e ∈ (shut k given r n).2.effects ↔ ∃ p ∈ shutSlots r, e ∈ backEffects p := by
  obtain ⟨hobj, hroot⟩ := hruns
  have hslot : ∀ kind i, e ∈ shutSlot r (slotName r.object kind i) (slotName r.obj kind i) ↔
      (r.config (slotName r.object kind i)).isSome ∧
        e ∈ backEffects (slotName r.object kind i, slotName r.obj kind i) := by
    intro kind i
    unfold shutSlot backEffects
    by_cases hcfg : (r.config (slotName r.object kind i)).isSome = true <;> simp [hcfg]
  have hstop : e ≠ .stop (r.object ++ "-hostapd") := by
    rintro rfl
    exact he
  unfold shut
  rw [if_neg hobj, hroot]
  simp only [effects_act, List.nil_append, List.mem_cons, hstop, false_or, List.mem_flatMap,
    List.mem_range, shutTurn, List.mem_append, hslot, shutSlots, mem_configured_iff]
  constructor
  · rintro ⟨i, hi, ⟨hcfg, hmem⟩ | ⟨hcfg, hmem⟩⟩
    · exact ⟨_, Or.inl ⟨i, hi, hcfg, rfl⟩, hmem⟩
    · exact ⟨_, Or.inr ⟨i, hi, hcfg, rfl⟩, hmem⟩
  · rintro ⟨p, ⟨i, hi, hcfg, rfl⟩ | ⟨i, hi, hcfg, rfl⟩, hmem⟩
    · exact ⟨i, hi, Or.inl ⟨hcfg, hmem⟩⟩
    · exact ⟨i, hi, Or.inr ⟨hcfg, hmem⟩⟩

end Tiger.Analysis.RadioTeardown
