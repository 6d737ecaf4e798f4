import Tiger.Model.ObjectBinding

/-!
# Exclusive binding of devices

`get_cases` lists the ways a call returns. From it follows the invariant `Consistent`
of all calls: an object that a device holds has the device as its register value, and
a device is registered where the configuration puts it, or else at one slot of a
radio that the configuration does not reserve.

The configuration path is the only one that does not look whether the object is
taken. So the binding is exclusive, and a second call returns the same object, for
all runs exactly when the configuration gives no object to two devices
(`exclusive_binding_iff`).
-/

set_option autoImplicit false

namespace Tiger.Analysis.DeviceBinding

open Tiger.Library Tiger.Model Tiger.Model.ObjectBinding

variable {land : Land} {cfg : Option Talk} {radios : Radios land} {st : BindState}

/-- The two components differ in their number of slots only. -/
theorem get_eq (land : Land) : land.get = objectGet land.objectMax := by
  cases land <;> rfl

/-- A land frees what its component frees. -/
theorem free_eq (land : Land) : land.free = objectFree := by
  cases land <;> rfl

/-- The configuration gives the object to the device. -/
def Gives (cfg : Option Talk) (object syspath : String) : Prop :=
  configBind syspath (entriesOf cfg) = some (some object)

/-- The configuration gives no object to two devices. -/
def OneDeviceEach (cfg : Option Talk) : Prop :=
  ∀ object s s', s ≠ "" → s' ≠ "" → Gives cfg object s → Gives cfg object s' → s = s'

/-- No two devices hold the same object. -/
def Exclusive (st : BindState) : Prop :=
  ∀ r s r' s' object, st.holds r s = some object → st.holds r' s' = some object → s = s'

/-- A device that holds an object gets it again, and the call returns. -/
def Stable (land : Land) (cfg : Option Talk) (st : BindState) : Prop :=
  ∀ r s object, st.holds r s = some object →
    ∀ fuel, ∃ reg, land.get fuel r (some s) cfg st.register = some (reg, some object)

/-- In all runs of calls no two devices hold the same object, and a device that holds one gets
it again. -/
def BindsExclusively (land : Land) (cfg : Option Talk) (radios : Radios land) : Prop :=
  ∀ st, Reachable land cfg radios st → Exclusive st ∧ Stable land cfg st

/-! ## The ways a call returns -/

/-- The search ends at a slot that is neither reserved nor bound. -/
theorem newBind_found {reg : Register} {radio object : String} {max : ℕ} (fuel i : ℕ)
    (h : newBind cfg reg radio max fuel i = some (some object)) :
    object ∈ slots radio max ∧ reserved cfg object = false ∧ (reg object).getD "" = "" := by
  induction fuel generalizing i with
  | zero => cases h
  | succ fuel ih =>
    unfold newBind at h
    by_cases hi : i < max
    · rw [if_pos hi] at h
      by_cases hres : reserved cfg (identify radio i) = true
      · rw [if_pos hres] at h
        exact ih i h
      · rw [if_neg hres] at h
        by_cases hfree : (reg (identify radio i)).getD "" = ""
        · rw [if_pos hfree, Option.some.injEq, Option.some.injEq] at h
          subst h
          have hslot : identify radio i ∈ slots radio max :=
            List.mem_map_of_mem (List.mem_range.mpr hi)
          exact ⟨hslot, Bool.eq_false_iff.mpr hres, hfree⟩
        · rw [if_neg hfree] at h
          exact ih (i + 1) h
    · rw [if_neg hi] at h
      cases h

/-- **A call that returns** found the device registered, or found it in the configuration, or
took a slot that was free and not reserved, or found nothing. -/
theorem get_cases {fuel : ℕ} {radio syspath : String} {reg reg' : Register}
    {result : Option String}
    (h : land.get fuel radio (some syspath) cfg reg = some (reg', result)) :
    (∃ object ∈ slots radio land.objectMax, reg object = some syspath ∧
      reg' = reg ∧ result = some object) ∨
    (∀ object ∈ slots radio land.objectMax, reg object ≠ some syspath) ∧
      ((∃ object, Gives cfg object syspath ∧
        reg' = binding reg object syspath ∧ result = some object) ∨
      configBind syspath (entriesOf cfg) = some none ∧
        ((∃ object ∈ slots radio land.objectMax, reserved cfg object = false ∧
          (reg object).getD "" = "" ∧
          reg' = binding reg object syspath ∧ result = some object) ∨
        (reg' = reg ∧ result = none))) := by
  rw [get_eq] at h
  unfold objectGet at h
  dsimp only at h
  cases halready : alreadyBind reg radio syspath land.objectMax with
  | some object =>
    rw [halready, Option.some.injEq, Prod.mk.injEq] at h
    obtain ⟨rfl, rfl⟩ := h
    have hfound := List.find?_some halready
    exact Or.inl ⟨object, List.mem_of_find?_eq_some halready, of_decide_eq_true hfound, rfl, rfl⟩
  | none =>
    have hnone : ∀ object ∈ slots radio land.objectMax, reg object ≠ some syspath := by
      intro object hslot
      have hfalse := List.find?_eq_none.mp halready object hslot
      simpa using hfalse
    refine Or.inr ⟨hnone, ?_⟩
    rw [halready] at h
    dsimp only at h
    cases hconfig : configBind syspath (entriesOf cfg) with
    | none =>
      rw [hconfig] at h
      cases h
    | some given =>
      rw [hconfig] at h
      cases given with
      | some object =>
        rw [Option.some.injEq, Prod.mk.injEq] at h
        obtain ⟨rfl, rfl⟩ := h
        exact Or.inl ⟨object, hconfig, rfl, rfl⟩
      | none =>
        refine Or.inr ⟨rfl, ?_⟩
        obtain ⟨found, hnew, hpair⟩ := Option.map_eq_some_iff.mp h
        rw [Prod.mk.injEq] at hpair
        obtain ⟨rfl, rfl⟩ := hpair
        cases found with
        | none => exact Or.inr ⟨rfl, rfl⟩
        | some object =>
          obtain ⟨hslot, hres, hfree⟩ := newBind_found fuel 0 hnew
          exact Or.inl ⟨object, hslot, hres, hfree, rfl, rfl⟩

/-! ## Reading the register and the holdings -/

/-- What is registered after a binding: the new device, or another one elsewhere. -/
theorem binding_eq_some {reg : Register} {object s o s' : String} :
    binding reg object s o = some s' ↔
      (o = object ∧ s' = s) ∨ (o ≠ object ∧ reg o = some s') := by
  unfold binding
  by_cases ho : o = object
  · rw [ho, Function.update_self, Option.some.injEq]
    simp [eq_comm]
  · rw [Function.update_of_ne ho]
    simp [ho]

/-- Freeing an object leaves every other one as it is. -/
theorem objectFree_eq_some {reg : Register} {object o s : String} :
    objectFree object reg o = some s ↔ o ≠ object ∧ reg o = some s := by
  unfold objectFree
  by_cases ho : o = object
  · rw [ho, Function.update_self]
    simp
  · rw [Function.update_of_ne ho]
    simp [ho]

/-- A device holds what it has just got or what it held. -/
theorem obtain_eq_some {holds : Holdings} {radio syspath object r s o : String}
    (h : holds.obtain radio syspath object r s = some o) :
    (r = radio ∧ s = syspath ∧ o = object) ∨ holds r s = some o := by
  unfold Holdings.obtain at h
  split at h
  · next heq => exact Or.inl ⟨heq.1, heq.2, (Option.some.inj h).symm⟩
  · exact Or.inr h

/-- A device holds what it held, but for the object that is released. -/
theorem release_eq_some {holds : Holdings} {object r s o : String}
    (h : holds.release object r s = some o) : o ≠ object ∧ holds r s = some o := by
  unfold Holdings.release at h
  split at h
  · cases h
  · next hne =>
    refine ⟨?_, h⟩
    rintro rfl
    exact hne h

/-! ## The configuration -/

/-- The object comes from an entry that names the device. -/
theorem mem_of_configBind {syspath object : String} {es : List (String × Talk)}
    (h : configBind syspath es = some (some object)) :
    ∃ value, (object, value) ∈ es ∧ entryNames syspath value = some true := by
  induction es with
  | nil => cases h
  | cons axp rest ih =>
    unfold configBind at h
    split at h
    · cases h
    · next hnames =>
      rw [Option.some.injEq, Option.some.injEq] at h
      subst h
      exact ⟨axp.2, List.mem_cons_self, hnames⟩
    · obtain ⟨value, hmem, hnames⟩ := ih h
      exact ⟨value, List.mem_cons_of_mem _ hmem, hnames⟩

/-- An object the configuration gives to a device is reserved. -/
theorem reserved_of_gives {object syspath : String}
    (hkeys : ((entriesOf cfg).map Prod.fst).Nodup) (h : Gives cfg object syspath) :
    reserved cfg object = true := by
  obtain ⟨value, hmem, hnames⟩ := mem_of_configBind h
  have hvalue : jsonValue cfg object = some value := lookup_of_mem hkeys hmem
  unfold reserved
  rw [hvalue]
  cases hlist : jsonValue (some value) "syspath" with
  | some list => rfl
  | none =>
    unfold entryNames at hnames
    rw [hlist] at hnames
    cases hnames

/-- Entries that name one device each give every object to one device. -/
theorem oneDeviceEach_of_entries (hkeys : ((entriesOf cfg).map Prod.fst).Nodup)
    (h : ∀ e ∈ entriesOf cfg, ∀ s s', entryNames s e.2 = some true →
      entryNames s' e.2 = some true → s = s') : OneDeviceEach cfg := by
  intro object s s' _ _ hgives hgives'
  obtain ⟨value, hmem, hnames⟩ := mem_of_configBind hgives
  obtain ⟨value', hmem', hnames'⟩ := mem_of_configBind hgives'
  have hvalue := lookup_of_mem hkeys hmem
  rw [lookup_of_mem hkeys hmem', Option.some.injEq] at hvalue
  subst hvalue
  exact h _ hmem s s' hnames hnames'

/-! ## The invariant -/

/-- The object is one the configuration gives to the device, or the configuration has none for
it and the object is a slot that is not reserved. -/
def Placed (cfg : Option Talk) (radios : Radios land) (s object : String) : Prop :=
  Gives cfg object s ∨
    (configBind s (entriesOf cfg) = some none ∧ reserved cfg object = false ∧
      ∃ r ∈ radios.names, object ∈ slots r land.objectMax)

/-- What holds between the calls. -/
structure Consistent (cfg : Option Talk) (radios : Radios land) (st : BindState) : Prop where
  /-- A device is registered at an object it holds. -/
  registered : ∀ r s object, st.holds r s = some object → st.register object = some s
  /-- It got the object of the configuration or a slot of the radio it asked for. -/
  asked : ∀ r s object, st.holds r s = some object →
    r ∈ radios.names ∧ (Gives cfg object s ∨ object ∈ slots r land.objectMax)
  /-- Only devices are registered, and in their place. -/
  placed : ∀ s object, st.register object = some s → s ≠ "" ∧ Placed cfg radios s object
  /-- A device is registered at one slot of a radio. -/
  once : ∀ r ∈ radios.names, ∀ s, ∀ object ∈ slots r land.objectMax,
    ∀ object' ∈ slots r land.objectMax,
    st.register object = some s → st.register object' = some s → object = object'

/-- At the start nothing is held. -/
theorem consistent_initial (cfg : Option Talk) (radios : Radios land) :
    Consistent cfg radios .initial where
  registered := by
    intro r s object h
    cases h
  asked := by
    intro r s object h
    cases h
  placed := by
    intro s object h
    cases h
  once := by
    intro r _ s object _ object' _ h
    cases h

/-- A device that the configuration has an object for is registered there only. -/
theorem eq_of_gives {s object object' : String} (h : Consistent cfg radios st)
    (hgives : Gives cfg object s) (hreg : st.register object' = some s) : object' = object := by
  unfold Gives at hgives
  rcases (h.placed s object' hreg).2 with hgives' | ⟨hnone, -, -⟩
  · unfold Gives at hgives'
    rw [hgives, Option.some.injEq, Option.some.injEq] at hgives'
    exact hgives'.symm
  · rw [hgives] at hnone
    cases hnone

/-- Registering a device in its place at an object that no other device has. -/
theorem consistent_binding {radio s object : String} (h : Consistent cfg radios st)
    (hradio : radio ∈ radios.names) (hpath : s ≠ "") (hplaced : Placed cfg radios s object)
    (hasked : Gives cfg object s ∨ object ∈ slots radio land.objectMax)
    (hfree : ∀ s', st.register object = some s' → s' = s)
    (honce : ∀ r ∈ radios.names, object ∈ slots r land.objectMax →
      ∀ object' ∈ slots r land.objectMax, st.register object' = some s → object' = object) :
    Consistent cfg radios
      ⟨binding st.register object s, st.holds.obtain radio s object⟩ where
  registered := by
    intro r s' o hholds
    dsimp only at hholds ⊢
    rw [binding_eq_some]
    rcases obtain_eq_some hholds with ⟨-, rfl, rfl⟩ | hholds
    · exact Or.inl ⟨rfl, rfl⟩
    · have hreg := h.registered r s' o hholds
      by_cases ho : o = object
      · rw [ho] at hreg
        exact Or.inl ⟨ho, hfree s' hreg⟩
      · exact Or.inr ⟨ho, hreg⟩
  asked := by
    intro r s' o hholds
    rcases obtain_eq_some hholds with ⟨rfl, rfl, rfl⟩ | hholds
    · exact ⟨hradio, hasked⟩
    · exact h.asked r s' o hholds
  placed := by
    intro s' o hreg
    rcases binding_eq_some.mp hreg with ⟨rfl, rfl⟩ | ⟨-, hreg⟩
    · exact ⟨hpath, hplaced⟩
    · exact h.placed s' o hreg
  once := by
    intro r hr s' o hslot o' hslot' hreg hreg'
    rcases binding_eq_some.mp hreg with ⟨rfl, rfl⟩ | ⟨-, hold⟩
    · rcases binding_eq_some.mp hreg' with ⟨rfl, -⟩ | ⟨-, hold'⟩
      · rfl
      · exact (honce r hr hslot o' hslot' hold').symm
    · rcases binding_eq_some.mp hreg' with ⟨rfl, rfl⟩ | ⟨-, hold'⟩
      · exact honce r hr hslot' o hslot hold
      · exact h.once r hr s' o hslot o' hslot' hold hold'

/-- Finding a device at the slot where it is registered. -/
theorem consistent_found {radio s object : String} (h : Consistent cfg radios st)
    (hradio : radio ∈ radios.names) (hslot : object ∈ slots radio land.objectMax)
    (hreg : st.register object = some s) :
    Consistent cfg radios ⟨st.register, st.holds.obtain radio s object⟩ where
  registered := by
    intro r s' o hholds
    rcases obtain_eq_some hholds with ⟨-, rfl, rfl⟩ | hholds
    · exact hreg
    · exact h.registered r s' o hholds
  asked := by
    intro r s' o hholds
    rcases obtain_eq_some hholds with ⟨rfl, -, rfl⟩ | hholds
    · exact ⟨hradio, Or.inr hslot⟩
    · exact h.asked r s' o hholds
  placed := h.placed
  once := h.once

/-- Freeing an object keeps holdings and register together. -/
theorem consistent_free (object : String) (h : Consistent cfg radios st) :
    Consistent cfg radios ⟨objectFree object st.register, st.holds.release object⟩ where
  registered := by
    intro r s o hholds
    obtain ⟨hne, hholds⟩ := release_eq_some hholds
    exact objectFree_eq_some.mpr ⟨hne, h.registered r s o hholds⟩
  asked := by
    intro r s o hholds
    exact h.asked r s o (release_eq_some hholds).2
  placed := by
    intro s o hreg
    exact h.placed s o (objectFree_eq_some.mp hreg).2
  once := by
    intro r hr s o hslot o' hslot' hreg hreg'
    exact h.once r hr s o hslot o' hslot' (objectFree_eq_some.mp hreg).2
      (objectFree_eq_some.mp hreg').2

/-- **One call** keeps the invariant when the configuration gives no object to two devices. -/
theorem consistent_step {st' : BindState} (hkeys : ((entriesOf cfg).map Prod.fst).Nodup)
    (hcfg : OneDeviceEach cfg) (h : Consistent cfg radios st)
    (hstep : Step land cfg radios st st') : Consistent cfg radios st' := by
  cases hstep with
  | get radio s fuel reg result hradio hpath hget =>
    rcases get_cases hget with ⟨object, hslot, hreg, rfl, rfl⟩ | ⟨hnot, hcase⟩
    · exact consistent_found h hradio hslot hreg
    · rcases hcase with ⟨object, hgives, rfl, rfl⟩ | ⟨hnone, hnew⟩
      · apply consistent_binding h hradio hpath (Or.inl hgives) (Or.inl hgives)
        · intro s' hreg
          obtain ⟨hpath', hplaced⟩ := h.placed s' object hreg
          rcases hplaced with hgives' | ⟨-, hres, -⟩
          · exact hcfg object s' s hpath' hpath hgives' hgives
          · rw [reserved_of_gives hkeys hgives] at hres
            cases hres
        · intro r _ _ object' _ hreg
          exact eq_of_gives h hgives hreg
      · rcases hnew with ⟨object, hslot, hres, hfree, rfl, rfl⟩ | ⟨rfl, rfl⟩
        · apply consistent_binding h hradio hpath
            (Or.inr ⟨hnone, hres, radio, hradio, hslot⟩) (Or.inr hslot)
          · intro s' hreg
            rw [hreg] at hfree
            exact absurd hfree (h.placed s' object hreg).1
          · -- a radio that has the slot is the one asked for
            intro r hr hslot' object' hobject' hreg
            have hsame : r = radio := radios.apart r hr radio hradio object hslot' hslot
            rw [hsame] at hobject'
            exact absurd hreg (hnot object' hobject')
        · exact h
  | free object =>
    rw [free_eq]
    exact consistent_free object h

/-- What holds between the calls holds in every reachable state. -/
theorem consistent_reachable (hkeys : ((entriesOf cfg).map Prod.fst).Nodup)
    (hcfg : OneDeviceEach cfg) (h : Reachable land cfg radios st) :
    Consistent cfg radios st := by
  induction h with
  | refl => exact consistent_initial cfg radios
  | tail _ hstep ih => exact consistent_step hkeys hcfg ih hstep

/-! ## Exclusive and stable binding -/

/-- Where holdings and register go together, no two devices hold one object. -/
theorem exclusive_of_consistent (h : Consistent cfg radios st) : Exclusive st := by
  intro r s r' s' object hs hs'
  have hreg := h.registered r s object hs
  rw [h.registered r' s' object hs', Option.some.injEq] at hreg
  exact hreg.symm

/-- A device that holds an object is found, registered or in the configuration, before the
search for a free slot begins. -/
theorem stable_of_consistent (h : Consistent cfg radios st) : Stable land cfg st := by
  intro r s object hholds fuel
  have hreg := h.registered r s object hholds
  obtain ⟨hradio, hasked⟩ := h.asked r s object hholds
  rw [get_eq]
  unfold objectGet
  dsimp only
  cases halready : alreadyBind st.register r s land.objectMax with
  | some object' =>
    have hfound := List.find?_some halready
    have hreg' : st.register object' = some s := of_decide_eq_true hfound
    have hslot' := List.mem_of_find?_eq_some halready
    have heq : object' = object := by
      rcases hasked with hgives | hslot
      · exact eq_of_gives h hgives hreg'
      · exact h.once r hradio s object' hslot' object hslot hreg' hreg
    exact ⟨st.register, by rw [heq]⟩
  | none =>
    have hgives : Gives cfg object s := by
      rcases hasked with hgives | hslot
      · exact hgives
      · have hnot := List.find?_eq_none.mp halready object hslot
        exact absurd (decide_eq_true hreg) hnot
    unfold Gives at hgives
    rw [hgives]
    exact ⟨_, rfl⟩

/-- In a register without the device, a call binds it to the object of the configuration. -/
theorem step_gives {radio s object : String} (hradio : radio ∈ radios.names) (hpath : s ≠ "")
    (hgives : Gives cfg object s) (hnot : ∀ o, st.register o ≠ some s) :
    Step land cfg radios st
      ⟨binding st.register object s, st.holds.obtain radio s object⟩ := by
  have halready : alreadyBind st.register radio s land.objectMax = none := by
    apply List.find?_eq_none.mpr
    intro o _
    simpa using hnot o
  have hget : land.get 0 radio (some s) cfg st.register =
      some (binding st.register object s, some object) := by
    rw [get_eq]
    unfold objectGet
    dsimp only
    rw [halready]
    unfold Gives at hgives
    rw [hgives]
  exact Step.get radio s 0 _ (some object) hradio hpath hget

/-- Two devices that the configuration gives one object to end up holding it both: the second
call binds over the first. -/
theorem both_hold_of_gives {s s' object : String} (radios : Radios land) (hs : s ≠ "")
    (hs' : s' ≠ "") (hne : s ≠ s') (hgives : Gives cfg object s)
    (hgives' : Gives cfg object s') :
    ∃ st r, Reachable land cfg radios st ∧ st.holds r s = some object ∧
      st.holds r s' = some object := by
  obtain ⟨r, hr⟩ := List.exists_mem_of_ne_nil _ radios.nonempty
  let st₁ : BindState := ⟨binding BindState.initial.register object s,
    BindState.initial.holds.obtain r s object⟩
  let st₂ : BindState := ⟨binding st₁.register object s', st₁.holds.obtain r s' object⟩
  have hstep₁ : Step land cfg radios .initial st₁ := by
    apply step_gives hr hs hgives
    intro o hreg
    cases hreg
  have hstep₂ : Step land cfg radios st₁ st₂ := by
    apply step_gives hr hs' hgives'
    intro o hreg
    rcases binding_eq_some.mp hreg with ⟨-, heq⟩ | ⟨-, hreg⟩
    · exact hne heq.symm
    · cases hreg
  have hholds : st₂.holds r s = some object := by
    change (if r = r ∧ s = s' then some object else st₁.holds r s) = some object
    rw [if_neg fun h => hne h.2]
    exact if_pos ⟨rfl, rfl⟩
  exact ⟨st₂, r, (Relation.ReflTransGen.single hstep₁).tail hstep₂, hholds, if_pos ⟨rfl, rfl⟩⟩

/-- **Exclusive binding** holds in all runs of calls, over a configuration with distinct keys,
if and only if the configuration gives no object to two devices. -/
theorem exclusive_binding_iff (land : Land) (cfg : Option Talk) (radios : Radios land)
    (hkeys : ((entriesOf cfg).map Prod.fst).Nodup) :
    BindsExclusively land cfg radios ↔ OneDeviceEach cfg := by
  constructor
  · intro hall object s s' hs hs' hgives hgives'
    by_contra hne
    obtain ⟨st, r, hreach, hholds, hholds'⟩ :=
      both_hold_of_gives radios hs hs' hne hgives hgives'
    exact hne ((hall st hreach).1 r s r s' object hholds hholds')
  · intro hcfg st hreach
    have hinv := consistent_reachable hkeys hcfg hreach
    exact ⟨exclusive_of_consistent hinv, stable_of_consistent hinv⟩

/-- The radios of the two bands. -/
def bandRadios : Radios .wifi where
  names := ["wifi@n", "wifi@a"]
  nonempty := by decide
  apart := by decide

/-- Each band given to one device. -/
def twoRadios : Option Talk :=
  some (.json [("wifi@n", .json [("syspath", .text "1-1")]),
    ("wifi@a", .json [("syspath", .json [("a", .text "1-2")])])])

/-- The configuration with one device for each band. -/
theorem exclusive_binding_two_radios : BindsExclusively .wifi twoRadios bandRadios := by
  have hkeys : ((entriesOf twoRadios).map Prod.fst).Nodup := by decide
  have hcfg : OneDeviceEach twoRadios := by
    apply oneDeviceEach_of_entries hkeys
    intro e he s s' hnames hnames'
    rcases List.mem_cons.mp he with rfl | he
    · have htext : ∀ s, entryNames s (.json [("syspath", .text "1-1")]) = some true →
          "1-1" = s := by
        intro s h
        change some (decide (some "1-1" = some s)) = some true at h
        simpa using h
      exact (htext s hnames).symm.trans (htext s' hnames')
    · rw [List.mem_singleton] at he
      subst he
      have hlist : ∀ s, entryNames s (.json [("syspath", .json [("a", .text "1-2")])]) = some true →
          "1-2" = s := by
        intro s h
        change (if "1-2" = s then some true else some false) = some true at h
        by_contra hne
        rw [if_neg hne] at h
        cases h
      exact (hlist s hnames).symm.trans (hlist s' hnames')
  exact (exclusive_binding_iff .wifi twoRadios bandRadios hkeys).mpr hcfg

/-- The one radio of the network cards. -/
def nicRadio : Radios .netcard where
  names := ["netcard@nic"]
  nonempty := by decide
  apart := by
    intro r hr r' hr' _ _ _
    rw [List.mem_singleton.mp hr, List.mem_singleton.mp hr']

/-- A slot that lists two devices. -/
def sharedSlot : Option Talk :=
  some (.json [("netcard@nic", .json [("syspath",
    .json [("a", .text "1-1"), ("b", .text "1-2")])])])

/-- Both devices obtain the slot and hold it. -/
theorem exclusive_binding_fails_for_list : ¬ BindsExclusively .netcard sharedSlot nicRadio := by
  intro hall
  have hgives : configBind "1-1" (entriesOf sharedSlot) = some (some "netcard@nic") := by decide
  have hgives' : configBind "1-2" (entriesOf sharedSlot) = some (some "netcard@nic") := by decide
  have hne : "1-1" ≠ "1-2" := by decide
  obtain ⟨st, r, hreach, hholds, hholds'⟩ :=
    both_hold_of_gives nicRadio (by decide) (by decide) hne hgives hgives'
  exact hne ((hall st hreach).1 _ _ _ _ _ hholds hholds')

end Tiger.Analysis.DeviceBinding
