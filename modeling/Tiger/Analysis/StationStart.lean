import Tiger.Analysis.WpaFile

/-!
# When a station starts

`_up` decides from the settings whether there is a peer, and `_wpa` decides again,
peer by peer, what it writes. The two are meant to agree: the services run exactly
when the station is enabled and names a peer, and then the file has a network.

They part where `_up` asks for the wrong text: it takes the parameter only when that
names `peer`, `peer2` or `peermac`, and its test for `peer3` looks at `peer`. A
station with an access point alone is started and gets no network. `start_agrees_iff`
says by the fields of the two objects when nothing of this shows.
-/

set_option autoImplicit false

namespace Tiger.Analysis.StationStart

open Tiger.Model Tiger.Model.Station Tiger.Analysis.WpaFile

/-- The object the caller means: the parameter when it names one of the four texts. -/
def meant (cfg opt : Option Talk) : Option Talk :=
  if (jsonString opt "peer").isSome || (jsonString opt "peer2").isSome ||
      (jsonString opt "peer3").isSome || (jsonString opt "peermac").isSome then opt
  else cfg

/-- The station is enabled, and one of the four texts is not empty. -/
def Wanted (value : Option Talk) : Prop :=
  ¬ disabled value ∧ (given (settings value).peer ∨ given (settings value).peer2 ∨
    given (settings value).peer3 ∨ given (settings value).peermac)

instance (value : Option Talk) : Decidable (Wanted value) := by unfold Wanted; infer_instance

/-- The radio has registered the station, and it is not up. -/
def Ready (o : Object) (s : State) : Prop :=
  o.generic = false ∧ given o.radio ∧ given o.netdev ∧ s.mark = false

/-- `_up` returns; the services run and the mark is kept exactly when the station is wanted, and
then the file has a network block. -/
def StartAgrees (o : Object) (cfg opt : Option Talk) (s : State) : Prop :=
  ∃ s' ret, up o cfg opt s = some (s', ret) ∧
    (s'.wpa ↔ Wanted (meant cfg opt)) ∧ (s'.keeplive ↔ Wanted (meant cfg opt)) ∧
    (s'.mark ↔ Wanted (meant cfg opt)) ∧
    (Wanted (meant cfg opt) → networkBlocks (wpaFile s'.saved) ≠ [])

/-- The object is enabled and has a peer, a second peer, or a third one together with an entry
`peer` or an access point. -/
def Serves (value : Option Talk) : Prop :=
  ¬ disabled value ∧ (given (settings value).peer ∨ given (settings value).peer2 ∨
    given (settings value).peer3 ∧ ((settings value).peer ≠ none ∨ given (settings value).peermac))

/-- The object is disabled, or has no peer, second peer and access point; a text `peer` that is
there but empty has a `peer3` like it. -/
def Rests (value : Option Talk) : Prop :=
  disabled value ∨ (¬ given (settings value).peer ∧ ¬ given (settings value).peer2 ∧
    ¬ given (settings value).peermac ∧
    ((settings value).peer = none ∨ (settings value).peer3 = some ""))

/-! ## The decision of `_up` -/

/-- No text is not given. -/
theorem given_none : given none = false := by decide

/-- A text is given unless it is empty. -/
theorem given_some (t : String) : given (some t) ↔ t ≠ "" := by simp [given]

/-- A peer is seen and one is printed. -/
theorem noPeer_eq_false_iff (v : Settings) :
    noPeer v = some false ∧ (given v.peer ∨ given v.peer2 ∨ given v.peer3) ↔
      given v.peer ∨ given v.peer2 ∨ given v.peer3 ∧ (v.peer ≠ none ∨ given v.peermac) := by
  unfold noPeer
  by_cases hpeer : given v.peer
  · simp [hpeer]
  by_cases hpeer2 : given v.peer2
  · simp [hpeer, hpeer2]
  cases hp : v.peer with
  | none => simp [hpeer2, given_none, and_comm]
  | some t =>
    have ht : ¬ given (some t) := by rwa [← hp]
    cases hp3 : v.peer3 with
    | none => simp [ht, hpeer2, given_none]
    | some t3 =>
      by_cases h3 : t3 = ""
      · simp [ht, hpeer2, given_some, h3]
      · simp [ht, hpeer2, given_some, h3]

/-- No peer is seen. -/
theorem noPeer_eq_true_iff (v : Settings) :
    noPeer v = some true ↔ ¬ given v.peer ∧ ¬ given v.peer2 ∧ ¬ given v.peermac ∧
      (v.peer = none ∨ v.peer3 = some "") := by
  unfold noPeer
  by_cases hpeer : given v.peer
  · simp [hpeer]
  by_cases hpeer2 : given v.peer2
  · simp [hpeer, hpeer2]
  cases hp : v.peer with
  | none => simp [hpeer2, given_none]
  | some t =>
    have ht : ¬ given (some t) := by rwa [← hp]
    cases hp3 : v.peer3 with
    | none => simp [ht, hpeer2]
    | some t3 => simp [ht, hpeer2, and_comm]

/-- What `_up` does with a station that is not up. -/
theorem up_of_ready {o : Object} {s : State} (h : Ready o s) (cfg opt : Option Talk) :
    up o cfg opt s =
      let s' := { s with mark := true, keeplive := false, relayd := false, wpa := false }
      if disabled (source cfg opt) then some ({ s' with mark := false }, true)
      else (noPeer (settings (source cfg opt))).map fun none =>
        if none then ({ s' with mark := false }, true)
        else ({ s' with saved := settings (source cfg opt), wpa := true, keeplive := true },
          true) := by
  obtain ⟨hgeneric, hradio, hnetdev, hmark⟩ := h
  simp [up, hgeneric, hradio, hnetdev, hmark]

section Decision

variable {o : Object} {s : State} {cfg opt : Option Talk}

/-- An object that is disabled or shows no peer leaves the services stopped. -/
theorem up_of_rests (h : Ready o s) (hrests : Rests (source cfg opt)) :
    ∃ s', up o cfg opt s = some (s', true) ∧ s'.wpa = false ∧ s'.keeplive = false ∧
      s'.mark = false := by
  rw [up_of_ready h]
  by_cases hdis : disabled (source cfg opt)
  · simp [hdis]
  · have hnone := (noPeer_eq_true_iff _).mpr (hrests.resolve_left hdis)
    simp [hdis, hnone]

/-- An object that shows a peer has the services started with its settings. -/
theorem up_of_noPeer_eq_false (h : Ready o s) (hdis : ¬ disabled (source cfg opt))
    (hpeer : noPeer (settings (source cfg opt)) = some false) :
    ∃ s', up o cfg opt s = some (s', true) ∧ s'.wpa = true ∧ s'.keeplive = true ∧
      s'.mark = true ∧ s'.saved = settings (source cfg opt) := by
  rw [up_of_ready h]
  simp [hdis, hpeer]

/-- A call that returns with the services stopped found the object at rest. -/
theorem rests_of_up {s' : State} {ret : Bool} (h : Ready o s)
    (hup : up o cfg opt s = some (s', ret)) (hstop : s'.wpa = false) : Rests (source cfg opt) := by
  rw [up_of_ready h] at hup
  by_cases hdis : disabled (source cfg opt)
  · exact .inl hdis
  · cases hnone : noPeer (settings (source cfg opt)) with
    | none => simp [hdis, hnone] at hup
    | some none =>
      cases none with
      | true => exact .inr ((noPeer_eq_true_iff _).mp hnone)
      | false =>
        simp only [hdis, hnone] at hup
        obtain ⟨rfl, -⟩ := Prod.mk.inj (Option.some.inj hup)
        simp at hstop

/-- A call that starts the services and leaves settings with a network found them served. -/
theorem serves_of_up {s' : State} {ret : Bool} (h : Ready o s)
    (hup : up o cfg opt s = some (s', ret)) (hstart : s'.wpa = true)
    (hnetwork : networkBlocks (wpaFile s'.saved) ≠ []) : Serves (source cfg opt) := by
  rw [up_of_ready h] at hup
  by_cases hdis : disabled (source cfg opt)
  · simp only [hdis] at hup
    obtain ⟨rfl, -⟩ := Prod.mk.inj (Option.some.inj hup)
    simp at hstart
  · refine ⟨hdis, (noPeer_eq_false_iff _).mp ?_⟩
    cases hnone : noPeer (settings (source cfg opt)) with
    | none => simp [hdis, hnone] at hup
    | some none =>
      simp only [hdis, hnone] at hup
      cases none with
      | true =>
        obtain ⟨rfl, -⟩ := Prod.mk.inj (Option.some.inj hup)
        simp at hstart
      | false =>
        obtain ⟨rfl, -⟩ := Prod.mk.inj (Option.some.inj hup)
        exact ⟨rfl, (networkBlocks_ne_nil_iff _).mp hnetwork⟩

end Decision

/-- **The start of a station.** `_up` and the file agree with what the caller means if and only if
the object that is read serves a station that is wanted, or rests for one that is not. -/
theorem start_agrees_iff (o : Object) (cfg opt : Option Talk) (s : State) (h : Ready o s) :
    StartAgrees o cfg opt s ↔
      (Wanted (meant cfg opt) ∧ Serves (source cfg opt)) ∨
        (¬ Wanted (meant cfg opt) ∧ Rests (source cfg opt)) := by
  constructor
  · rintro ⟨s', ret, hup, hwpa, -, -, hblock⟩
    by_cases hwant : Wanted (meant cfg opt)
    · exact .inl ⟨hwant, serves_of_up h hup (hwpa.mpr hwant) (hblock hwant)⟩
    · have hstop : s'.wpa = false := by
        rw [← Bool.not_eq_true]
        exact fun hrun => hwant (hwpa.mp hrun)
      exact .inr ⟨hwant, rests_of_up h hup hstop⟩
  · rintro (⟨hwant, hdis, hserves⟩ | ⟨hwant, hrests⟩)
    · obtain ⟨hpeer, hgiven⟩ := (noPeer_eq_false_iff _).mpr hserves
      obtain ⟨s', hup, hwpa, hkeep, hmark, hsaved⟩ := up_of_noPeer_eq_false h hdis hpeer
      refine ⟨s', true, hup, by simp [hwpa, hwant], by simp [hkeep, hwant], by simp [hmark, hwant],
        fun _ => ?_⟩
      rw [hsaved]
      exact (networkBlocks_ne_nil_iff _).mpr hgiven
    · obtain ⟨s', hup, hwpa, hkeep, hmark⟩ := up_of_rests h hrests
      exact ⟨s', true, hup, by simp [hwpa, hwant], by simp [hkeep, hwant], by simp [hmark, hwant],
        fun hwanted => absurd hwanted hwant⟩

/-- A registered station. -/
def station : Object where
  generic := false
  radio := some "wifi@n"
  netdev := some "wlan0"
  broadcast := true

/-- A station that is down. -/
def idle : State where
  mark := false
  keeplive := false
  relayd := false
  wpa := false
  devUp := true
  saved := settings none

/-- A station with one peer starts with its network. -/
theorem start_agrees_one_peer :
    Ready station idle ∧
      StartAgrees station (some (.json [("peer", .text "home")])) none idle := by
  have hready : Ready station idle := by unfold Ready; decide
  refine ⟨hready, (start_agrees_iff station _ none idle hready).mpr (.inl ⟨by decide, ?_⟩)⟩
  unfold Serves
  decide

/-- A station that names an access point alone is started, and its file has no network. -/
theorem start_with_peermac :
    Ready station idle ∧ Wanted (some (.json [("peermac", .text "00:11:22:33:44:55")])) ∧
      ((up station (some (.json [("peermac", .text "00:11:22:33:44:55")])) none idle).map fun r =>
        (r.1.wpa, r.1.mark, networkBlocks (wpaFile r.1.saved))) = some (true, true, []) ∧
      ¬ StartAgrees station (some (.json [("peermac", .text "00:11:22:33:44:55")])) none idle := by
  have hup : ((up station (some (.json [("peermac", .text "00:11:22:33:44:55")])) none idle).map
      fun r => (r.1.wpa, r.1.mark, networkBlocks (wpaFile r.1.saved))) = some (true, true, []) := by
    decide
  refine ⟨by unfold Ready; decide, by decide, hup, ?_⟩
  rintro ⟨s', ret, hret, -, -, -, hblock⟩
  rw [hret, Option.map_some, Option.some.injEq, Prod.mk.injEq, Prod.mk.injEq] at hup
  exact hblock (by decide) hup.2.2

end Tiger.Analysis.StationStart
