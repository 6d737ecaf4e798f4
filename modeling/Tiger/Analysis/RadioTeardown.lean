import Tiger.Analysis.RadioEffects

/-!
# Teardown of a radio

The slots of setup and teardown agree on the SSIDs, so everything depends on the
stations: `teardown_iff_matches` says that the lists have to name the same components
and the same devices, which for names that fit their buffers means no second station
and a root device that is named like the first one (`matches_iff_of_fits`).
-/

set_option autoImplicit false

namespace Tiger.Analysis.RadioTeardown

open Tiger.Model Tiger.Model.Radio

/-! ## The tables after both -/

/-- The tables of a run are what its effects make of the tables it began with. -/
def Logged (k : Kit) (given : String → Option Mac) (n : Net) (run : Run) : Prop :=
  run.net = run.effects.foldl (Net.after k given) n

/-- A run starts with no effects. -/
theorem logged_start (k : Kit) (given : String → Option Mac) (n : Net) :
    Logged k given n ⟨n, []⟩ := rfl

/-- Further effects are recorded. -/
theorem logged_act {k : Kit} {given : String → Option Mac} {n : Net} {run : Run}
    (h : Logged k given n run) (es : List Effect) : Logged k given n (run.act k given es) := by
  unfold Logged at h ⊢
  rw [net_act, effects_act, List.foldl_append, h]

/-- A turn records its effects. -/
theorem logged_ssidTurn {k : Kit} {given : String → Option Mac} {n : Net} (r : Object)
    (rootdev : String) (power : Option ℤ) {s : Local} (h : Logged k given n s.run) (i : ℕ) :
    Logged k given n (ssidTurn k given r rootdev power s i).run := by
  unfold ssidTurn
  by_cases hcfg : (r.config (slotName r.object "ssid" i)).isSome = true
  · rw [if_pos hcfg]
    exact logged_act (logged_act h _) _
  · rw [if_neg hcfg]
    exact h

/-- The loop records its effects. -/
theorem logged_foldl_ssidTurn {k : Kit} {given : String → Option Mac} {n : Net} (r : Object)
    (rootdev : String) (power : Option ℤ) (l : List ℕ) {s : Local}
    (h : Logged k given n s.run) :
    Logged k given n (l.foldl (ssidTurn k given r rootdev power) s).run := by
  induction l generalizing s with
  | nil => exact h
  | cons i l ih => exact ih (logged_ssidTurn r rootdev power h i)

/-- Setup is logged. -/
theorem logged_setup (k : Kit) (given : String → Option Mac) (r : Object) (n : Net) :
    Logged k given n (setup k given r n).2 := by
  unfold setup
  split
  · rfl
  · split
    · rfl
    · next rootdev _ =>
      have hloop := fun es mac macst => logged_foldl_ssidTurn r rootdev
        (dbm (r.config r.object)) (List.range 4) (s := ⟨(Run.mk n []).act k given es, mac, macst⟩)
        (logged_act (logged_start k given n) es)
      unfold setupSta
      dsimp only
      split
      · exact logged_act (hloop _ _ _) _
      · exact hloop _ _ _

/-- Teardown records its effects. -/
theorem logged_shut (k : Kit) (given : String → Option Mac) (r : Object) (n : Net) :
    Logged k given n (shut k given r n).2 := by
  unfold shut
  split
  · rfl
  · split
    · rfl
    · exact logged_act (logged_start k given n) _

/-- The slots of a setup are the configured SSIDs and the station. -/
theorem mem_setupSlots_iff (r : Object) (rootdev : String) (p : String × String) :
    p ∈ setupSlots r rootdev ↔ p ∈ configured r "ssid" ∨
      (r.config (slotName r.object "sta" 0)).isSome ∧
        p = (slotName r.object "sta" 0, snprintf nameMax rootdev) := by
  unfold setupSlots
  by_cases hcfg : (r.config (slotName r.object "sta" 0)).isSome = true <;> simp [hcfg]

/-- What setup registers, adds and binds are its slots, and it takes nothing back. -/
theorem setup_sets {k : Kit} (given : String → Option Mac) {r : Object} {n : Net}
    {rootdev : String} (hruns : Runs k r n rootdev) :
    registered (setup k given r n).2.effects = {c | ∃ d, (c, d) ∈ setupSlots r rootdev} ∧
      added (setup k given r n).2.effects = {c | ∃ d, (c, d) ∈ setupSlots r rootdev} ∧
      bound (setup k given r n).2.effects = {d | ∃ c, (c, d) ∈ setupSlots r rootdev} ∧
      unregistered (setup k given r n).2.effects = ∅ ∧
      deleted (setup k given r n).2.effects = ∅ := by
  have hmem : ∀ {e : Effect}, OnSlots e → (e ∈ (setup k given r n).2.effects ↔ _) :=
    fun he => mem_setup_iff hruns he
  refine ⟨Set.ext fun c => ?_, Set.ext fun c => ?_, Set.ext fun d => ?_, ?_, ?_⟩
  · have hreg : ∀ cls, Effect.register c cls ∈ (setup k given r n).2.effects ↔ _ :=
      fun cls => hmem trivial
    constructor
    · rintro ⟨cls, h⟩
      rcases (hreg cls).mp h with ⟨p, hp, hslot⟩ | ⟨hcfg, hslot⟩
      · have hc : c = p.1 ∧ cls = "wifi@ap" := by simpa [slotEffects, registerSlot] using hslot
        exact ⟨p.2, (mem_setupSlots_iff r rootdev _).mpr (Or.inl (by rw [hc.1]; exact hp))⟩
      · have hc : c = slotName r.object "sta" 0 ∧ cls = "wifi@sta" := by
          simpa [slotEffects, registerSlot] using hslot
        exact ⟨_, (mem_setupSlots_iff r rootdev _).mpr (Or.inr ⟨hcfg, by rw [hc.1]⟩)⟩
    · rintro ⟨d, hd⟩
      rcases (mem_setupSlots_iff r rootdev _).mp hd with hp | ⟨hcfg, hp⟩
      · exact ⟨"wifi@ap", (hreg _).mpr (Or.inl ⟨_, hp, List.mem_cons_self⟩)⟩
      · obtain ⟨rfl, -⟩ := Prod.mk.inj hp
        exact ⟨"wifi@sta", (hreg _).mpr (Or.inr ⟨hcfg, List.mem_cons_self⟩)⟩
  · have hadd : ∀ d, Effect.add c d ∈ (setup k given r n).2.effects ↔ _ := fun d => hmem trivial
    simp [added, hadd, mem_setupSlots_iff, slotEffects, registerSlot]
  · have hset : ∀ c, Effect.set c "netdev" d ∈ (setup k given r n).2.effects ↔ _ :=
      fun c => hmem trivial
    simp [bound, hset, mem_setupSlots_iff, slotEffects, registerSlot]
  · have hun : ∀ c, Effect.unregister c ∈ (setup k given r n).2.effects ↔ _ :=
      fun c => hmem trivial
    simp [unregistered, hun, slotEffects, registerSlot]
  · have hdel : ∀ c, Effect.delete c ∈ (setup k given r n).2.effects ↔ _ :=
      fun c => hmem trivial
    simp [deleted, hdel, slotEffects, registerSlot]

/-- What teardown unregisters, deletes and clears are its slots, and it adds nothing. -/
theorem shut_sets {k : Kit} (given : String → Option Mac) {r : Object} {n : Net}
    {rootdev : String} (hruns : Runs k r n rootdev) :
    unregistered (shut k given r n).2.effects = {c | ∃ d, (c, d) ∈ shutSlots r} ∧
      deleted (shut k given r n).2.effects = {c | ∃ d, (c, d) ∈ shutSlots r} ∧
      cleared (shut k given r n).2.effects = {d | ∃ c, (c, d) ∈ shutSlots r} ∧
      registered (shut k given r n).2.effects = ∅ ∧
      added (shut k given r n).2.effects = ∅ := by
  have hmem : ∀ {e : Effect}, OnSlots e → (e ∈ (shut k given r n).2.effects ↔ _) :=
    fun he => mem_shut_iff hruns he
  refine ⟨Set.ext fun c => ?_, Set.ext fun c => ?_, Set.ext fun d => ?_, ?_, ?_⟩
  · have hun : Effect.unregister c ∈ (shut k given r n).2.effects ↔ _ := hmem trivial
    simp [unregistered, hun, backEffects]
  · have hdel : Effect.delete c ∈ (shut k given r n).2.effects ↔ _ := hmem trivial
    simp [deleted, hdel, backEffects]
  · have hclear : Effect.clear d ∈ (shut k given r n).2.effects ↔ _ := hmem trivial
    simp [cleared, hclear, backEffects]
  · have hreg : ∀ c cls, Effect.register c cls ∈ (shut k given r n).2.effects ↔ _ :=
      fun c cls => hmem trivial
    simp [registered, hreg, backEffects]
  · have hadd : ∀ c d, Effect.add c d ∈ (shut k given r n).2.effects ↔ _ :=
      fun c d => hmem trivial
    simp [added, hadd, backEffects]

/-- The radio has a root device. -/
def HasRoot (r : Object) (n : Net) : Prop := ∃ rootdev, rootdevOf n r = some rootdev

/-- A radio has a root device when one is registered. -/
theorem hasRoot_iff (r : Object) (n : Net) :
    HasRoot r n ↔ ∃ dev, dev ≠ "" ∧ n.registers r.object "netdev" = some dev := by
  unfold HasRoot rootdevOf
  cases n.registers r.object "netdev" with
  | none => simp
  | some dev =>
    by_cases hdev : dev = "" <;> simp [hdev]

/-- The radio keeps a root device as long as no component is bound to a device without a
name. -/
theorem hasRoot_foldl (k : Kit) (given : String → Option Mac) {r : Object} {n : Net}
    (h : HasRoot r n) (es : List Effect) (hbound : "" ∉ bound es) :
    HasRoot r (es.foldl (Net.after k given) n) := by
  induction es generalizing n with
  | nil => exact h
  | cons e es ih =>
    have hlater : "" ∉ bound es := fun ⟨c, hc⟩ => hbound ⟨c, List.mem_cons_of_mem _ hc⟩
    refine ih ?_ hlater
    rw [hasRoot_iff] at h ⊢
    obtain ⟨dev, hdev, hreg⟩ := h
    cases e with
    | set com key value =>
      by_cases hcom : r.object = com
      · subst hcom
        by_cases hkey : "netdev" = key
        · subst hkey
          refine ⟨value, ?_, by simp [Net.after]⟩
          rintro rfl
          exact hbound ⟨_, List.mem_cons_self⟩
        · exact ⟨dev, hdev, by simp [Net.after, hkey, hreg]⟩
      · exact ⟨dev, hdev, by simp [Net.after, hcom, hreg]⟩
    | _ => exact ⟨dev, hdev, hreg⟩

/-- A text printed into a buffer for names is empty only when it is. -/
theorem snprintf_ne_empty {s : String} (h : s ≠ "") : snprintf nameMax s ≠ "" := by
  have hlist : s.toList ≠ [] := by simpa using h
  have htake : s.toList.take (nameMax - 1) ≠ [] := by
    simpa [nameMax, List.take_eq_nil_iff] using hlist
  intro hempty
  have hback := congrArg String.toList hempty
  rw [snprintf, String.toList_ofList] at hback
  exact htake hback

/-- The name of a slot is not empty. -/
theorem slotName_ne_empty (radio : String) {kind : String} (i : ℕ) (h : kind ≠ "") :
    slotName radio kind i ≠ "" := by
  refine snprintf_ne_empty fun hempty => h ?_
  by_cases hi : i = 0
  · rw [if_pos hi, String.append_eq_empty_iff] at hempty
    exact hempty.2
  · rw [if_neg hi, String.append_eq_empty_iff, String.append_eq_empty_iff] at hempty
    exact hempty.1.2

/-- The device of a configured slot is not empty. -/
theorem configured_ne_empty {r : Object} {kind : String} (h : kind ≠ "") {p : String × String}
    (hp : p ∈ configured r kind) : p.2 ≠ "" := by
  obtain ⟨i, -, -, rfl⟩ := (mem_configured_iff r kind p).mp hp
  exact slotName_ne_empty r.obj i h

/-- Teardown runs after a setup that ran. -/
theorem runs_after_setup {k : Kit} (given : String → Option Mac) {r : Object} {n : Net}
    {rootdev : String} (hruns : Runs k r n rootdev) :
    ∃ rootdev', Runs k r (setup k given r n).2.net rootdev' := by
  have hroot : rootdev ≠ "" := by
    rintro rfl
    obtain ⟨dev, hdev, hreg⟩ := (hasRoot_iff r n).mp ⟨_, hruns.2⟩
    have h := hruns.2
    rw [rootdevOf, hreg] at h
    dsimp only at h
    rw [if_neg hdev] at h
    exact hdev (Option.some.inj h)
  have hbound : "" ∉ bound (setup k given r n).2.effects := by
    rw [(setup_sets given hruns).2.2.1]
    rintro ⟨c, hc⟩
    rcases (mem_setupSlots_iff r rootdev _).mp hc with hp | ⟨-, hp⟩
    · exact configured_ne_empty (by decide) hp rfl
    · exact snprintf_ne_empty hroot (Prod.mk.inj hp).2.symm
  obtain ⟨rootdev', h'⟩ := hasRoot_foldl k given ⟨rootdev, hruns.2⟩ _ hbound
  rw [← logged_setup k given r n] at h'
  exact ⟨rootdev', hruns.1, h'⟩

/-- An operation that does not pass its checks does nothing. -/
theorem nothing_of_not_runs {k : Kit} (given : String → Option Mac) {r : Object} {n : Net}
    (h : ∀ rootdev, ¬ Runs k r n rootdev) :
    (setup k given r n).2 = ⟨n, []⟩ ∧ (shut k given r n).2 = ⟨n, []⟩ := by
  unfold setup shut
  by_cases hobj : r.obj = k.comId
  · rw [if_pos hobj, if_pos hobj]
    exact ⟨rfl, rfl⟩
  · rw [if_neg hobj, if_neg hobj]
    cases hroot : rootdevOf n r with
    | none => exact ⟨rfl, rfl⟩
    | some rootdev => exact absurd ⟨hobj, hroot⟩ (h rootdev)

/-- A component of `_setup` is one of `_shut`. -/
theorem exists_shutSlots {r : Object} {rootdev c d : String} (h : (c, d) ∈ setupSlots r rootdev) :
    ∃ d', (c, d') ∈ shutSlots r := by
  rcases (mem_setupSlots_iff r rootdev _).mp h with hp | ⟨hcfg, hp⟩
  · exact ⟨d, List.mem_append_left _ hp⟩
  · obtain ⟨rfl, -⟩ := Prod.mk.inj hp
    exact ⟨_, List.mem_append_right _
      ((mem_configured_iff r "sta" _).mpr ⟨0, by decide, hcfg, rfl⟩)⟩

/-- What `_shut` goes over is in no table afterwards. -/
theorem gone_after_shut {k : Kit} (given : String → Option Mac) {r : Object} {n : Net}
    {rootdev c : String} (hruns : Runs k r n rootdev) (hc : ∃ d, (c, d) ∈ shutSlots r) :
    (shut k given r n).2.net.components c = none ∧ (shut k given r n).2.net.frame c = none := by
  obtain ⟨hun, hdel, -, hreg, hadd⟩ := shut_sets given hruns
  rw [logged_shut k given r n]
  constructor
  · exact components_of_mem_unregistered n (by rw [hreg]; exact id) (by rw [hun]; exact hc)
  · exact frame_of_mem_deleted n (by rw [hadd]; exact id) (by rw [hdel]; exact hc)

/-- What `_shut` does not go over stays in the tables. -/
theorem kept_after_shut {k : Kit} (given : String → Option Mac) {r : Object} {n : Net}
    {rootdev c : String} (hruns : Runs k r n rootdev) (hc : ¬ ∃ d, (c, d) ∈ shutSlots r) :
    (shut k given r n).2.net.components c = n.components c ∧
      (shut k given r n).2.net.frame c = n.frame c := by
  obtain ⟨hun, hdel, -, hreg, hadd⟩ := shut_sets given hruns
  rw [logged_shut k given r n]
  constructor
  · exact components_of_notMem n (by rw [hreg]; exact id) (by rw [hun]; exact hc)
  · exact frame_of_notMem n (by rw [hadd]; exact id) (by rw [hdel]; exact hc)

/-- What is no slot of setup keeps its place in the tables. -/
theorem kept_after_setup {k : Kit} (given : String → Option Mac) {r : Object} {n : Net}
    {rootdev c : String} (hruns : Runs k r n rootdev) (hc : ¬ ∃ d, (c, d) ∈ setupSlots r rootdev) :
    (setup k given r n).2.net.components c = n.components c ∧
      (setup k given r n).2.net.frame c = n.frame c := by
  obtain ⟨hreg, hadd, -, hun, hdel⟩ := setup_sets given hruns
  rw [logged_setup k given r n]
  constructor
  · exact components_of_notMem n (by rw [hreg]; exact hc) (by rw [hun]; exact id)
  · exact frame_of_notMem n (by rw [hadd]; exact hc) (by rw [hdel]; exact id)

/-! ## Teardown after setup -/

/-- A teardown that undoes setup goes over the slots of setup. -/
theorem matches_of_undoes {k : Kit} {given : String → Option Mac} {r : Object} {n : Net}
    {rootdev : String} (hruns : Runs k r n rootdev) (h : Undoes k given r n) :
    Matches k r n := by
  obtain ⟨rootdev', hruns'⟩ := runs_after_setup given hruns
  obtain ⟨hreg, -, hbound, -, -⟩ := setup_sets given hruns
  obtain ⟨hun, -, hclear, -, -⟩ := shut_sets given hruns'
  obtain ⟨hcoms, -, hdevs, hcomponents, hframe⟩ := h
  rw [hreg, hun] at hcoms
  rw [hbound, hclear] at hdevs
  intro rootdev₂ hruns₂
  obtain rfl : rootdev = rootdev₂ := Option.some.inj (hruns.2.symm.trans hruns₂.2)
  refine ⟨fun p hp => ⟨?_, ?_⟩, fun hcfg => ?_, fun p hp => ?_⟩
  · exact (Set.ext_iff.mp hcoms p.1).mp ⟨p.2, List.mem_append_right _ hp⟩
  · exact (Set.ext_iff.mp hdevs p.2).mp ⟨p.1, List.mem_append_right _ hp⟩
  · exact (Set.ext_iff.mp hdevs _).mpr
      ⟨_, (mem_setupSlots_iff r rootdev _).mpr (Or.inr ⟨hcfg, rfl⟩)⟩
  · have hgone := gone_after_shut given hruns' (exists_shutSlots hp)
    rw [hcomponents, hframe] at hgone
    exact hgone

/-- Where the slots match, both operations name the same components and devices. -/
theorem same_names_of_matches {k : Kit} {r : Object} {n : Net} {rootdev : String}
    (hruns : Runs k r n rootdev) (h : Matches k r n) :
    {c | ∃ d, (c, d) ∈ shutSlots r} = {c | ∃ d, (c, d) ∈ setupSlots r rootdev} ∧
      {d | ∃ c, (c, d) ∈ shutSlots r} = {d | ∃ c, (c, d) ∈ setupSlots r rootdev} := by
  obtain ⟨hsta, hroot, -⟩ := h rootdev hruns
  constructor
  · refine Set.ext fun c => ⟨?_, fun ⟨d, hd⟩ => exists_shutSlots hd⟩
    rintro ⟨d, hd⟩
    rcases List.mem_append.mp hd with hp | hp
    · exact ⟨d, List.mem_append_left _ hp⟩
    · exact (hsta _ hp).1
  · refine Set.ext fun d => ⟨?_, ?_⟩
    · rintro ⟨c, hc⟩
      rcases List.mem_append.mp hc with hp | hp
      · exact ⟨c, List.mem_append_left _ hp⟩
      · exact (hsta _ hp).2
    · rintro ⟨c, hc⟩
      rcases (mem_setupSlots_iff r rootdev _).mp hc with hp | ⟨hcfg, hp⟩
      · exact ⟨c, List.mem_append_left _ hp⟩
      · obtain ⟨-, rfl⟩ := Prod.mk.inj hp
        exact hroot hcfg

/-- A teardown that goes over the slots of setup undoes it. -/
theorem undoes_of_matches {k : Kit} (given : String → Option Mac) {r : Object} {n : Net}
    {rootdev : String} (hruns : Runs k r n rootdev) (h : Matches k r n) :
    Undoes k given r n := by
  obtain ⟨rootdev', hruns'⟩ := runs_after_setup given hruns
  obtain ⟨hreg, hadd, hbound, -, -⟩ := setup_sets given hruns
  obtain ⟨hun, hdel, hclear, -, -⟩ := shut_sets given hruns'
  obtain ⟨hcoms, hdevs⟩ := same_names_of_matches hruns h
  obtain ⟨-, -, hfresh⟩ := h rootdev hruns
  have htables : ∀ c, (shut k given r (setup k given r n).2.net).2.net.components c =
        n.components c ∧
      (shut k given r (setup k given r n).2.net).2.net.frame c = n.frame c := by
    intro c
    by_cases hc : ∃ d, (c, d) ∈ shutSlots r
    · obtain ⟨d, hd⟩ := (Set.ext_iff.mp hcoms c).mp hc
      obtain ⟨hcomponent, hframe⟩ := hfresh _ hd
      obtain ⟨hgone, hgone'⟩ := gone_after_shut given hruns' hc
      rw [hgone, hgone']
      exact ⟨hcomponent.symm, hframe.symm⟩
    · have hsetup := kept_after_setup given hruns fun ⟨d, hd⟩ => hc (exists_shutSlots hd)
      have hshut := kept_after_shut given hruns' hc
      exact ⟨hshut.1.trans hsetup.1, hshut.2.trans hsetup.2⟩
  refine ⟨?_, ?_, ?_, funext fun c => (htables c).1, funext fun c => (htables c).2⟩
  · rw [hun, hreg]
    exact hcoms
  · rw [hdel, hadd]
    exact hcoms
  · rw [hclear, hbound]
    exact hdevs

/-- **Teardown of a radio.** It undoes setup if and only if the stations it goes over are the
components and the devices of setup, and none of these components was in the tables
before. -/
theorem teardown_iff_matches (k : Kit) (given : String → Option Mac) (r : Object) (n : Net) :
    Undoes k given r n ↔ Matches k r n := by
  by_cases hrun : ∃ rootdev, Runs k r n rootdev
  · obtain ⟨rootdev, hruns⟩ := hrun
    exact ⟨matches_of_undoes hruns, undoes_of_matches given hruns⟩
  · have hnever : ∀ rootdev, ¬ Runs k r n rootdev := fun rootdev h => hrun ⟨rootdev, h⟩
    obtain ⟨hsetup, hshut⟩ := nothing_of_not_runs given hnever
    refine iff_of_true ?_ fun rootdev h => absurd h (hnever rootdev)
    unfold Undoes
    rw [hsetup]
    dsimp only
    rw [hshut]
    simp [unregistered, registered, deleted, added, cleared, bound]

/-- A system in which only the radio `n` is known, on the device `wlan0`. -/
def oneRadio : Net where
  components := fun _ => none
  registers := fun object key => if object = "wifi@n" ∧ key = "netdev" then some "wlan0" else none
  frame := fun _ => none
  macs := fun _ => none
  up := fun _ => true

/-- The radio `n` with its station configured. -/
def oneStation : Object where
  obj := "n"
  object := "wifi@n"
  config := fun object => if object = "wifi@nsta" then some (.json []) else none

/-- A station on the device `wlan0`: setup binds `wlan0`, teardown clears `nsta` instead. -/
theorem station_clears_other_device (k : Kit) (hcom : k.comId = "radio")
    (given : String → Option Mac) :
    "wlan0" ∈ bound (setup k given oneStation oneRadio).2.effects ∧
      cleared (shut k given oneStation (setup k given oneStation oneRadio).2.net).2.effects =
        {"nsta"} ∧
      ¬ Undoes k given oneStation oneRadio := by
  have hruns : Runs k oneStation oneRadio "wlan0" := ⟨by rw [hcom]; decide, by decide⟩
  obtain ⟨rootdev', hruns'⟩ := runs_after_setup given hruns
  obtain ⟨-, -, hbound, -, -⟩ := setup_sets given hruns
  obtain ⟨-, -, hclear, -, -⟩ := shut_sets given hruns'
  have hslots : setupSlots oneStation "wlan0" = [("wifi@nsta", "wlan0")] := by decide
  have hback : shutSlots oneStation = [("wifi@nsta", "nsta")] := by decide
  rw [hslots] at hbound
  rw [hback] at hclear
  have hset : cleared (shut k given oneStation
      (setup k given oneStation oneRadio).2.net).2.effects = {"nsta"} := by
    rw [hclear]
    ext d
    simp
  have hwlan : "wlan0" ∈ bound (setup k given oneStation oneRadio).2.effects := by
    rw [hbound]
    exact ⟨"wifi@nsta", List.mem_singleton_self _⟩
  refine ⟨hwlan, hset, ?_⟩
  rintro ⟨-, -, hsame, -, -⟩
  rw [hset] at hsame
  rw [← hsame] at hwlan
  exact absurd hwlan (by simp)

/-- A toolkit with one MAC address. -/
def oneMac : Kit where
  comId := "radio"
  machineMac := "02:00:00:00:00:00"
  string2mac := fun _ => 0x020000000000
  mac2string := fun _ => "02:00:00:00:00:00"
  mac2add := fun m i => m + i

/-- The station is bound to the root device, and its slot's own name is cleared. -/
theorem teardown_clears_other_device :
    "wlan0" ∈ bound (setup oneMac (fun _ => none) oneStation oneRadio).2.effects ∧
      cleared (shut oneMac (fun _ => none) oneStation
        (setup oneMac (fun _ => none) oneStation oneRadio).2.net).2.effects = {"nsta"} ∧
      ¬ Undoes oneMac (fun _ => none) oneStation oneRadio :=
  station_clears_other_device oneMac rfl fun _ => none

/-! ## Names that fit their buffers -/

/-- What a slot is called behind the name of the radio. -/
def suffix (kind : String) (i : ℕ) : String := if i = 0 then kind else kind ++ toString (i + 1)

/-- No SSID has the name of a station. -/
theorem ssid_suffix_ne_sta : ∀ i < 4, ∀ j < 4, suffix "ssid" i ≠ suffix "sta" j := by decide

/-- Different stations have different names. -/
theorem sta_suffix_injective : ∀ i < 4, ∀ j < 4, suffix "sta" i = suffix "sta" j → i = j := by
  decide

/-- A suffix has five characters at most. -/
theorem length_suffix_le : ∀ i < 4, (suffix "ssid" i).length ≤ 5 ∧ (suffix "sta" i).length ≤ 5 := by
  decide

/-- A name that fits is not cut off. -/
theorem slotName_of_fits {radio kind : String} {i : ℕ} (hfits : radio.length + 5 < nameMax)
    (hsuffix : (suffix kind i).length ≤ 5) : slotName radio kind i = radio ++ suffix kind i := by
  have hname : (if i = 0 then radio ++ kind else radio ++ kind ++ toString (i + 1)) =
      radio ++ suffix kind i := by
    unfold suffix
    split
    · rfl
    · rw [String.append_assoc]
  unfold slotName
  rw [hname]
  exact snprintf_of_length_lt (by rw [String.length_append]; omega)

/-- **Names that fit.** The slots match when the radio has no second station configured, the
root device is named like the first one if that is configured, and the components are new to
the tables. -/
theorem matches_iff_of_fits {k : Kit} {r : Object} {n : Net} {rootdev : String}
    (hruns : Runs k r n rootdev) (hobject : r.object.length + 5 < nameMax)
    (hobj : r.obj.length + 5 < nameMax) (hrootdev : rootdev.length < nameMax) :
    Matches k r n ↔
      (∀ i < 4, i ≠ 0 → r.config (r.object ++ suffix "sta" i) = none) ∧
      ((r.config (r.object ++ "sta")).isSome → rootdev = r.obj ++ "sta") ∧
      ∀ p ∈ setupSlots r rootdev, n.components p.1 = none ∧ n.frame p.1 = none := by
  have hssid : ∀ i < 4, slotName r.object "ssid" i = r.object ++ suffix "ssid" i ∧
      slotName r.obj "ssid" i = r.obj ++ suffix "ssid" i := fun i hi =>
    ⟨slotName_of_fits hobject (length_suffix_le i hi).1,
      slotName_of_fits hobj (length_suffix_le i hi).1⟩
  have hsta : ∀ i < 4, slotName r.object "sta" i = r.object ++ suffix "sta" i ∧
      slotName r.obj "sta" i = r.obj ++ suffix "sta" i := fun i hi =>
    ⟨slotName_of_fits hobject (length_suffix_le i hi).2,
      slotName_of_fits hobj (length_suffix_le i hi).2⟩
  have hroot : snprintf nameMax rootdev = rootdev := snprintf_of_length_lt hrootdev
  constructor
  · intro h
    obtain ⟨hslots, -, hfresh⟩ := h rootdev hruns
    have hstation : ∀ i < 4, (r.config (r.object ++ suffix "sta" i)).isSome →
        i = 0 ∧ rootdev = r.obj ++ suffix "sta" i := by
      intro i hi hcfg
      have hmem : (slotName r.object "sta" i, slotName r.obj "sta" i) ∈ configured r "sta" :=
        (mem_configured_iff r "sta" _).mpr ⟨i, hi, by rw [(hsta i hi).1]; exact hcfg, rfl⟩
      obtain ⟨⟨d, hd⟩, c, hc⟩ := hslots _ hmem
      constructor
      · rcases (mem_setupSlots_iff r rootdev _).mp hd with hp | ⟨-, hp⟩
        · obtain ⟨j, hj, -, hpair⟩ := (mem_configured_iff r "ssid" _).mp hp
          have hname := (Prod.mk.inj hpair).1
          rw [(hsta i hi).1, (hssid j hj).1, String.append_right_inj] at hname
          exact absurd hname.symm (ssid_suffix_ne_sta j hj i hi)
        · have hname := (Prod.mk.inj hp).1
          rw [(hsta i hi).1, (hsta 0 (by decide)).1, String.append_right_inj] at hname
          exact sta_suffix_injective i hi 0 (by decide) hname
      · rcases (mem_setupSlots_iff r rootdev _).mp hc with hp | ⟨-, hp⟩
        · obtain ⟨j, hj, -, hpair⟩ := (mem_configured_iff r "ssid" _).mp hp
          have hname := (Prod.mk.inj hpair).2
          rw [(hsta i hi).2, (hssid j hj).2, String.append_right_inj] at hname
          exact absurd hname.symm (ssid_suffix_ne_sta j hj i hi)
        · have hname := (Prod.mk.inj hp).2
          rw [(hsta i hi).2, hroot] at hname
          exact hname.symm
    refine ⟨fun i hi hne => ?_, fun hcfg => (hstation 0 (by decide) hcfg).2, hfresh⟩
    rw [← Option.not_isSome_iff_eq_none]
    exact fun hcfg => hne (hstation i hi hcfg).1
  · rintro ⟨hone, hname, hfresh⟩ rootdev₂ hruns₂
    obtain rfl : rootdev = rootdev₂ := Option.some.inj (hruns.2.symm.trans hruns₂.2)
    have hfirst : slotName r.object "sta" 0 = r.object ++ "sta" ∧
        slotName r.obj "sta" 0 = r.obj ++ "sta" := hsta 0 (by decide)
    refine ⟨fun p hp => ?_, fun hcfg => ?_, hfresh⟩
    · obtain ⟨i, hi, hcfg, rfl⟩ := (mem_configured_iff r "sta" p).mp hp
      by_cases hzero : i = 0
      · subst hzero
        have hslot : (slotName r.object "sta" 0, snprintf nameMax rootdev) ∈
            setupSlots r rootdev := (mem_setupSlots_iff r rootdev _).mpr (Or.inr ⟨hcfg, rfl⟩)
        rw [hfirst.1] at hcfg
        have hdev : slotName r.obj "sta" 0 = snprintf nameMax rootdev := by
          rw [hfirst.2, hroot, hname hcfg]
        refine ⟨⟨_, hslot⟩, slotName r.object "sta" 0, ?_⟩
        dsimp only
        rw [hdev]
        exact hslot
      · rw [(hsta i hi).1, hone i hi hzero] at hcfg
        cases hcfg
    · have hmem : (slotName r.object "sta" 0, slotName r.obj "sta" 0) ∈ configured r "sta" :=
        (mem_configured_iff r "sta" _).mpr ⟨0, by decide, hcfg, rfl⟩
      rw [hfirst.1] at hcfg
      rw [hroot, hname hcfg, ← hfirst.2]
      exact ⟨_, List.mem_append_right _ hmem⟩

end Tiger.Analysis.RadioTeardown
