import Tiger.Model.AccessPoint

/-!
# Up twice, and up after down

The callers of `_up` call it in any order. A component is settled when a second call
changes nothing and returns the same, and when `_down` followed by `_up` leads back
(`Settled`). Both components are read through the mark and the services alone.

An access point that is enabled answers `tfalse` when it comes up and `ttrue` when it
is up already. `up_settled_iff` says for both components, and for every state they
may be found in, when `_up` is settled.
-/

set_option autoImplicit false

namespace Tiger.Analysis.UpTwice

open Tiger.Model
open Tiger.Model.Station (Object)

/-- The second of two calls changes nothing of the view and returns the same, and a `down` is
undone by the next `up`. -/
structure Settled {σ ν : Type} (up : σ → Option (σ × Bool)) (down : σ → σ) (view : σ → ν)
    (s : σ) : Prop where
  twice : ∃ s' ret s'', up s = some (s', ret) ∧ up s' = some (s'', ret) ∧ view s'' = view s'
  restored : ∃ s' ret s'' ret', up s = some (s', ret) ∧ up (down s') = some (s'', ret') ∧
    view s'' = view s'

/-- The mark and the service of an access point. -/
def apView (s : AccessPoint.State) : Bool × Bool := (s.mark, s.hostapd)

/-- The mark and the services of a station. -/
def staView (s : Station.State) : Bool × Bool × Bool × Bool := (s.mark, s.keeplive, s.relayd, s.wpa)

def ApSettled (o : Object) (cfg : Option Talk) : AccessPoint.State → Prop :=
  Settled (fun s => some (AccessPoint.up o cfg s)) (fun s => (AccessPoint.down o s).1) apView

def StaSettled (o : Object) (cfg opt : Option Talk) : Station.State → Prop :=
  Settled (Station.up o cfg opt) (fun s => (Station.down o s).1) staView

/-- The object is an interface with a device; without one neither call does anything. -/
def Usable (o : Object) : Prop := o.generic = false ∧ given o.netdev

instance (o : Object) : Decidable (Usable o) := by unfold Usable; infer_instance

section AccessPoint

variable {o : Object} {cfg : Option Talk} {s : AccessPoint.State}

/-- `_up` goes on to the mark. -/
def ApReady (o : Object) (cfg : Option Talk) : Prop := given o.radio ∧ cfg.isSome

instance (o : Object) (cfg : Option Talk) : Decidable (ApReady o cfg) := by
  unfold ApReady
  infer_instance

/-- An access point that cannot be used is not brought up. -/
theorem ap_up_of_not_usable (h : ¬ Usable o) : AccessPoint.up o cfg s = (s, false) := by
  unfold Usable at h
  unfold AccessPoint.up
  by_cases hgeneric : o.generic
  · simp [hgeneric]
  · simp_all

/-- An access point that cannot be used is not brought down. -/
theorem ap_down_of_not_usable (h : ¬ Usable o) : AccessPoint.down o s = (s, false) := by
  unfold Usable at h
  unfold AccessPoint.down
  by_cases hgeneric : o.generic
  · simp [hgeneric]
  · simp_all

/-- An access point that is not ready is not brought up. -/
theorem ap_up_of_not_ready (h : ¬ ApReady o cfg) : AccessPoint.up o cfg s = (s, false) := by
  unfold ApReady at h
  unfold AccessPoint.up
  by_cases hradio : given o.radio
  · simp_all
  · simp [hradio]

/-- A ready access point is brought up unless it is marked. -/
theorem ap_up_of_ready (husable : Usable o) (hready : ApReady o cfg) :
    AccessPoint.up o cfg s =
      if s.mark then (s, true)
      else if AccessPoint.enabled cfg then (⟨true, true, true⟩, false)
      else (⟨false, true, false⟩, true) := by
  obtain ⟨hgeneric, hnetdev⟩ := husable
  obtain ⟨hradio, hcfg⟩ := hready
  have hsome : cfg.isNone = false := by simpa using hcfg
  simp [AccessPoint.up, hgeneric, hnetdev, hradio, hsome]

/-- Bringing an access point down takes its mark away. -/
theorem ap_down_of_usable (h : Usable o) :
    ∃ dev, (AccessPoint.down o s).1 = ⟨false, s.hostapd, dev⟩ := by
  obtain ⟨hgeneric, hnetdev⟩ := h
  unfold AccessPoint.down
  cases o.broadcast <;> simp [hgeneric, hnetdev]

/-- An access point that is up stays settled with its `hostapd` running. -/
theorem ap_settled_of_mark (husable : Usable o) (hready : ApReady o cfg) (hmark : s.mark = true) :
    ApSettled o cfg s ↔ AccessPoint.enabled cfg ∧ s.hostapd := by
  have hup : AccessPoint.up o cfg s = (s, true) := by
    rw [ap_up_of_ready husable hready, if_pos hmark]
  obtain ⟨dev, hdown⟩ := ap_down_of_usable (s := s) husable
  have hback := ap_up_of_ready (s := (AccessPoint.down o s).1) husable hready
  rw [hdown, if_neg (by simp)] at hback
  constructor
  · rintro ⟨-, s', ret, s'', ret', hfirst, hsecond, hview⟩
    simp only [hup, Option.some.injEq, Prod.mk.injEq] at hfirst
    obtain ⟨rfl, -⟩ := hfirst
    simp only [hdown, hback, Option.some.injEq] at hsecond
    by_cases hen : AccessPoint.enabled cfg
    · rw [if_pos hen, Prod.mk.injEq] at hsecond
      obtain ⟨rfl, -⟩ := hsecond
      simpa [hen, apView, hmark] using hview
    · rw [if_neg hen, Prod.mk.injEq] at hsecond
      obtain ⟨rfl, -⟩ := hsecond
      simp [apView, hmark] at hview
  · rintro ⟨hen, hhostapd⟩
    rw [if_pos hen] at hback
    refine ⟨⟨s, true, s, by rw [hup], by rw [hup], rfl⟩,
      ⟨s, true, ⟨true, true, true⟩, false, by rw [hup], ?_, ?_⟩⟩
    · simp only [hdown, hback]
    · simp [apView, hmark, hhostapd]

/-- An access point that is down settles as long as it is disabled. -/
theorem ap_settled_of_not_mark (husable : Usable o) (hready : ApReady o cfg)
    (hmark : s.mark = false) : ApSettled o cfg s ↔ ¬ AccessPoint.enabled cfg := by
  have hup := ap_up_of_ready (s := s) husable hready
  rw [if_neg (by simp [hmark])] at hup
  by_cases hen : AccessPoint.enabled cfg
  · rw [if_pos hen] at hup
    have hagain := ap_up_of_ready (s := ⟨true, true, true⟩) husable hready
    constructor
    · rintro ⟨⟨s', ret, s'', hfirst, hsecond, -⟩, -⟩
      simp only [hup, Option.some.injEq, Prod.mk.injEq] at hfirst
      obtain ⟨rfl, rfl⟩ := hfirst
      simp [hagain] at hsecond
    · intro hdis
      exact absurd hen hdis
  · rw [if_neg hen] at hup
    have hagain := ap_up_of_ready (s := ⟨false, true, false⟩) husable hready
    rw [if_neg (by simp), if_neg hen] at hagain
    obtain ⟨dev, hdown⟩ := ap_down_of_usable (s := ⟨false, true, false⟩) husable
    have hback := ap_up_of_ready (s := ⟨false, true, dev⟩) husable hready
    rw [if_neg (by simp), if_neg hen] at hback
    refine iff_of_true ⟨⟨⟨false, true, false⟩, true, ⟨false, true, false⟩, ?_, ?_, rfl⟩,
      ⟨⟨false, true, false⟩, true, ⟨false, true, false⟩, true, ?_, ?_, rfl⟩⟩ hen
    · rw [hup]
    · rw [hagain]
    · rw [hup]
    · rw [hdown, hback]

/-- Where `_up` gives up before the mark, only `_down` can change anything: it takes a mark away. -/
theorem ap_settled_of_not_ready (husable : Usable o) (hready : ¬ ApReady o cfg) :
    ApSettled o cfg s ↔ s.mark = false := by
  have hup : ∀ s, AccessPoint.up o cfg s = (s, false) := fun _ => ap_up_of_not_ready hready
  obtain ⟨dev, hdown⟩ := ap_down_of_usable (s := s) husable
  constructor
  · rintro ⟨-, s', ret, s'', ret', hfirst, hsecond, hview⟩
    simp only [hup, Option.some.injEq, Prod.mk.injEq] at hfirst hsecond
    obtain ⟨rfl, -⟩ := hfirst
    obtain ⟨rfl, -⟩ := hsecond
    rw [hdown] at hview
    simpa [apView] using hview
  · intro hmark
    refine ⟨⟨s, false, s, by rw [hup], by rw [hup], rfl⟩,
      ⟨s, false, _, false, by rw [hup], by rw [hup], ?_⟩⟩
    rw [hdown]
    simp [apView, hmark]

/-- What cannot be used does not change. -/
theorem ap_settled_of_not_usable (h : ¬ Usable o) : ApSettled o cfg s := by
  have hup : ∀ s, AccessPoint.up o cfg s = (s, false) := fun _ => ap_up_of_not_usable h
  have hdown := ap_down_of_not_usable (s := s) h
  refine ⟨⟨s, false, s, by rw [hup], by rw [hup], rfl⟩,
    ⟨s, false, s, false, by rw [hup], ?_, rfl⟩⟩
  rw [hdown, hup]

end AccessPoint

section Station

variable {o : Object} {cfg opt : Option Talk} {s : Station.State}

/-- A station that cannot be used is not brought up. -/
theorem sta_up_of_not_usable (h : ¬ Usable o) : Station.up o cfg opt s = some (s, false) := by
  unfold Usable at h
  unfold Station.up
  by_cases hgeneric : o.generic
  · simp [hgeneric]
  · simp_all

/-- A station that cannot be used is not brought down. -/
theorem sta_down_of_not_usable (h : ¬ Usable o) : Station.down o s = (s, false) := by
  unfold Usable at h
  unfold Station.down
  by_cases hgeneric : o.generic
  · simp [hgeneric]
  · simp_all

/-- A station without a radio is not brought up. -/
theorem sta_up_of_not_radio (h : ¬ given o.radio) : Station.up o cfg opt s = some (s, false) := by
  unfold Station.up
  simp [h]

/-- What the parameter and the configuration come to: `none` when `_up` does not return, else
whether the services start. -/
def starts (cfg opt : Option Talk) : Option Bool :=
  if Station.disabled (Station.source cfg opt) then some false
  else (Station.noPeer (Station.settings (Station.source cfg opt))).map (!·)

/-- A marked station is left alone. -/
theorem sta_up_of_mark (cfg opt : Option Talk) (husable : Usable o) (hradio : given o.radio)
    (hmark : s.mark = true) :
    Station.up o cfg opt s = some (s, true) := by
  obtain ⟨hgeneric, hnetdev⟩ := husable
  simp [Station.up, hgeneric, hnetdev, hradio, hmark]

/-- A station without a mark comes to what is configured, whatever ran before. -/
theorem sta_up_of_not_mark (cfg opt : Option Talk) (husable : Usable o) (hradio : given o.radio)
    (hmark : s.mark = false) :
    (Station.up o cfg opt s).map (fun r => (staView r.1, r.2)) =
      (starts cfg opt).map fun start => ((start, start, false, start), true) := by
  obtain ⟨hgeneric, hnetdev⟩ := husable
  unfold Station.up starts
  simp only [hgeneric, hnetdev, hradio, hmark]
  by_cases hdis : Station.disabled (Station.source cfg opt)
  · simp [hdis, staView]
  · cases Station.noPeer (Station.settings (Station.source cfg opt)) with
    | none => simp [hdis]
    | some none => cases none <;> simp [hdis, staView]

/-- Bringing a station down ends what is not shared. -/
theorem sta_down_of_usable (h : Usable o) :
    (Station.down o s).1.mark = false ∧
      staView (Station.down o s).1 =
        if o.broadcast then (false, false, false, false)
        else (false, s.keeplive, s.relayd, s.wpa) := by
  obtain ⟨hgeneric, hnetdev⟩ := h
  unfold Station.down staView
  cases o.broadcast <;> simp [hgeneric, hnetdev]

/-- A station that is brought up runs what the start decides. -/
theorem sta_up_some {start : Bool} (husable : Usable o) (hradio : given o.radio)
    (hmark : s.mark = false) (hstart : starts cfg opt = some start) :
    ∃ s', Station.up o cfg opt s = some (s', true) ∧ staView s' = (start, start, false, start) := by
  have hup := sta_up_of_not_mark cfg opt husable hradio hmark
  rw [hstart, Option.map_some, Option.map_eq_some_iff] at hup
  obtain ⟨⟨s', ret⟩, hsome, hview⟩ := hup
  rw [Prod.mk.injEq] at hview
  obtain ⟨hview, rfl⟩ := hview
  exact ⟨s', hsome, hview⟩

/-- A station that came up has decided whether to start. -/
theorem starts_of_up {s' : Station.State} {ret : Bool} (husable : Usable o)
    (hradio : given o.radio) (hmark : s.mark = false)
    (hup : Station.up o cfg opt s = some (s', ret)) :
    ∃ start, starts cfg opt = some start ∧ staView s' = (start, start, false, start) := by
  have hmap := sta_up_of_not_mark cfg opt husable hradio hmark
  rw [hup, Option.map_some, eq_comm, Option.map_eq_some_iff] at hmap
  obtain ⟨start, hstart, hview⟩ := hmap
  exact ⟨start, hstart, (Prod.mk.inj hview).1.symm⟩

/-- A station that is up settles when it is what the settings come to. -/
theorem sta_settled_of_mark (husable : Usable o) (hradio : given o.radio) (hmark : s.mark = true) :
    StaSettled o cfg opt s ↔
      starts cfg opt = some true ∧ s.wpa ∧ s.keeplive ∧ s.relayd = false := by
  have hup := sta_up_of_mark cfg opt husable hradio hmark
  have hdown := (sta_down_of_usable (s := s) husable).1
  constructor
  · rintro ⟨-, s', ret, s'', ret', hfirst, hsecond, hview⟩
    rw [hup, Option.some.injEq, Prod.mk.injEq] at hfirst
    obtain ⟨rfl, -⟩ := hfirst
    obtain ⟨start, hstart, hview'⟩ := starts_of_up husable hradio hdown hsecond
    rw [hview', staView, hmark, Prod.mk.injEq, Prod.mk.injEq, Prod.mk.injEq] at hview
    obtain ⟨rfl, hkeep, hrelay, hwpa⟩ := hview
    exact ⟨hstart, hwpa.symm, hkeep.symm, hrelay.symm⟩
  · rintro ⟨hstart, hwpa, hkeep, hrelay⟩
    obtain ⟨s'', hback, hview⟩ := sta_up_some husable hradio hdown hstart
    refine ⟨⟨s, true, s, hup, hup, rfl⟩, ⟨s, true, s'', true, hup, hback, ?_⟩⟩
    rw [hview, staView, hmark, hwpa, hkeep, hrelay]

/-- A station that is down settles as soon as `_up` returns. -/
theorem sta_settled_of_not_mark (husable : Usable o) (hradio : given o.radio)
    (hmark : s.mark = false) : StaSettled o cfg opt s ↔ (starts cfg opt).isSome := by
  constructor
  · rintro ⟨⟨s', ret, s'', hfirst, -, -⟩, -⟩
    obtain ⟨start, hstart, -⟩ := starts_of_up husable hradio hmark hfirst
    simp [hstart]
  · intro hsome
    obtain ⟨start, hstart⟩ := Option.isSome_iff_exists.mp hsome
    obtain ⟨s', hup, hview⟩ := sta_up_some husable hradio hmark hstart
    have hmark' : s'.mark = start := congrArg Prod.fst hview
    have htwice : ∃ s'', Station.up o cfg opt s' = some (s'', true) ∧ staView s'' = staView s' := by
      cases start with
      | true => exact ⟨s', sta_up_of_mark cfg opt husable hradio hmark', rfl⟩
      | false =>
        obtain ⟨s'', hagain, hsame⟩ := sta_up_some husable hradio hmark' hstart
        exact ⟨s'', hagain, by rw [hsame, hview]⟩
    obtain ⟨s'', hagain, hsame⟩ := htwice
    have hdown := (sta_down_of_usable (s := s') husable).1
    obtain ⟨s₃, hback, hview₃⟩ := sta_up_some husable hradio hdown hstart
    exact ⟨⟨s', true, s'', hup, hagain, hsame⟩,
      ⟨s', true, s₃, true, hup, hback, by rw [hview₃, hview]⟩⟩

/-- Without a radio `_up` does nothing, and `_down` must find nothing to undo. -/
theorem sta_settled_of_not_radio (husable : Usable o) (hradio : ¬ given o.radio) :
    StaSettled o cfg opt s ↔ s.mark = false ∧
      (o.broadcast → s.keeplive = false ∧ s.relayd = false ∧ s.wpa = false) := by
  have hup : ∀ s, Station.up o cfg opt s = some (s, false) := fun _ => sta_up_of_not_radio hradio
  obtain ⟨-, hdown⟩ := sta_down_of_usable (s := s) husable
  have hsame : staView (Station.down o s).1 = staView s ↔ s.mark = false ∧
      (o.broadcast → s.keeplive = false ∧ s.relayd = false ∧ s.wpa = false) := by
    rw [hdown, staView]
    cases o.broadcast <;> simp
  rw [← hsame]
  constructor
  · rintro ⟨-, s', ret, s'', ret', hfirst, hsecond, hview⟩
    rw [hup, Option.some.injEq, Prod.mk.injEq] at hfirst hsecond
    obtain ⟨rfl, -⟩ := hfirst
    obtain ⟨rfl, -⟩ := hsecond
    exact hview
  · intro hview
    exact ⟨⟨s, false, s, hup s, hup s, rfl⟩, ⟨s, false, _, false, hup s, hup _, hview⟩⟩

/-- What cannot be used does not change. -/
theorem sta_settled_of_not_usable (h : ¬ Usable o) : StaSettled o cfg opt s := by
  have hup : ∀ s, Station.up o cfg opt s = some (s, false) := fun _ => sta_up_of_not_usable h
  refine ⟨⟨s, false, s, hup s, hup s, rfl⟩, ⟨s, false, _, false, hup s, hup _, ?_⟩⟩
  rw [sta_down_of_not_usable h]

end Station

/-- When an access point is settled: it is up with its `hostapd` and enabled, or it is down and
disabled, and where the radio or the configuration is missing it has no mark. -/
def ApCondition (o : Object) (cfg : Option Talk) (s : AccessPoint.State) : Prop :=
  Usable o → if ApReady o cfg ∧ AccessPoint.enabled cfg then s.mark = true ∧ s.hostapd = true
    else s.mark = false

/-- When a station is settled: it is up as the settings ask, or down with settings `_up` can
read, and where the radio is missing nothing is left for `_down`. -/
def StaCondition (o : Object) (cfg opt : Option Talk) (s : Station.State) : Prop :=
  Usable o →
    if given o.radio then
      if s.mark then starts cfg opt = some true ∧ s.wpa ∧ s.keeplive ∧ s.relayd = false
      else (starts cfg opt).isSome
    else s.mark = false ∧ (o.broadcast → s.keeplive = false ∧ s.relayd = false ∧ s.wpa = false)

/-- An access point is settled exactly on this condition. -/
theorem ap_settled_iff (o : Object) (cfg : Option Talk) (s : AccessPoint.State) :
    ApSettled o cfg s ↔ ApCondition o cfg s := by
  unfold ApCondition
  by_cases husable : Usable o
  · by_cases hready : ApReady o cfg
    · cases hmark : s.mark with
      | true =>
        rw [ap_settled_of_mark husable hready hmark]
        by_cases hen : AccessPoint.enabled cfg <;> simp [husable, hready, hen]
      | false =>
        rw [ap_settled_of_not_mark husable hready hmark]
        by_cases hen : AccessPoint.enabled cfg <;> simp [husable, hready, hen]
    · rw [ap_settled_of_not_ready husable hready]
      simp [husable, hready]
  · exact iff_of_true (ap_settled_of_not_usable husable) fun h => absurd h husable

/-- A station is settled exactly on this condition. -/
theorem sta_settled_iff (o : Object) (cfg opt : Option Talk) (s : Station.State) :
    StaSettled o cfg opt s ↔ StaCondition o cfg opt s := by
  unfold StaCondition
  by_cases husable : Usable o
  · by_cases hradio : given o.radio
    · cases hmark : s.mark with
      | true =>
        rw [sta_settled_of_mark husable hradio hmark]
        simp [husable, hradio]
      | false =>
        rw [sta_settled_of_not_mark husable hradio hmark]
        simp [husable, hradio]
    · rw [sta_settled_of_not_radio husable hradio]
      simp [husable, hradio]
  · exact iff_of_true (sta_settled_of_not_usable husable) fun h => absurd h husable

/-- One of the two components, with its settings, in a state it may be found in. -/
inductive Found where
  | ap (o : Object) (cfg : Option Talk) (s : AccessPoint.State)
  | sta (o : Object) (cfg opt : Option Talk) (s : Station.State)

def Found.Settled : Found → Prop
  | .ap o cfg s => ApSettled o cfg s
  | .sta o cfg opt s => StaSettled o cfg opt s

def Found.Condition : Found → Prop
  | .ap o cfg s => ApCondition o cfg s
  | .sta o cfg opt s => StaCondition o cfg opt s

/-- **Up twice.** For access points and for stations, in every state. -/
theorem up_settled_iff (found : Found) : found.Settled ↔ found.Condition := by
  cases found with
  | ap o cfg s => exact ap_settled_iff o cfg s
  | sta o cfg opt s => exact sta_settled_iff o cfg opt s

/-- An access point of a registered radio. -/
def accessPoint : Object where
  generic := false
  radio := some "wifi@n"
  netdev := some "wlan1"
  broadcast := true

/-- An enabled access point that comes up answers `tfalse`, and `ttrue` when asked again. -/
theorem up_answers_change :
    AccessPoint.up accessPoint (some (.json [("status", .text "enable")])) ⟨false, false, false⟩ =
        (⟨true, true, true⟩, false) ∧
      AccessPoint.up accessPoint (some (.json [("status", .text "enable")])) ⟨true, true, true⟩ =
        (⟨true, true, true⟩, true) ∧
      ¬ ApSettled accessPoint (some (.json [("status", .text "enable")]))
        ⟨false, false, false⟩ := by
  have hfirst : AccessPoint.up accessPoint (some (.json [("status", .text "enable")]))
      ⟨false, false, false⟩ = (⟨true, true, true⟩, false) := rfl
  have hsecond : AccessPoint.up accessPoint (some (.json [("status", .text "enable")]))
      ⟨true, true, true⟩ = (⟨true, true, true⟩, true) := rfl
  refine ⟨hfirst, hsecond, ?_⟩
  rintro ⟨⟨s', ret, s'', hup, hup', -⟩, -⟩
  rw [hfirst, Option.some.injEq, Prod.mk.injEq] at hup
  obtain ⟨rfl, rfl⟩ := hup
  rw [hsecond, Option.some.injEq, Prod.mk.injEq] at hup'
  exact absurd hup'.2 (by decide)

end Tiger.Analysis.UpTwice
