import Tiger.Analysis.DeviceBinding

/-!
# The search for a slot

A call looks for the device in the register, then in the configuration, then for a
slot that is free. The last search skips a reserved slot without moving on, so it
comes back to it for ever. It ends exactly when no reserved slot comes before the
first free one (`newBind_terminates_iff`).

Whatever a call returns respects the reservations, and `NULL` means that nothing was
left; so the search does what it is for as often as it ends (`slot_search_iff`).
-/

set_option autoImplicit false

namespace Tiger.Analysis.SlotSearch

open Tiger.Model Tiger.Model.ObjectBinding Tiger.Analysis.DeviceBinding

/-- The slot is neither reserved nor bound. -/
def Free (cfg : Option Talk) (reg : Register) (object : String) : Prop :=
  reserved cfg object = false ∧ (reg object).getD "" = ""

/-- An entry of the configuration for the object names the device. -/
def NamedFor (cfg : Option Talk) (object syspath : String) : Prop :=
  ∃ value, (object, value) ∈ entriesOf cfg ∧ entryNames syspath value = some true

/-- The call returns; an object it binds anew to the device is one whose configuration names no
syspath or this one; and it returns `NULL` only for a device that is registered at no slot
of the radio and named nowhere, when every slot is bound or reserved. -/
structure SearchMeets (land : Land) (cfg : Option Talk) (radio syspath : String)
    (reg : Register) : Prop where
  returns : ∃ fuel r, land.get fuel radio (some syspath) cfg reg = some r
  respects : ∀ fuel reg' object result,
    land.get fuel radio (some syspath) cfg reg = some (reg', result) →
    reg' object = some syspath → reg object ≠ some syspath →
      reserved cfg object = true → NamedFor cfg object syspath
  complete : ∀ fuel reg', land.get fuel radio (some syspath) cfg reg = some (reg', none) →
    (∀ object ∈ slots radio land.objectMax, reg object ≠ some syspath) ∧
      (∀ object, ¬ NamedFor cfg object syspath) ∧
      ∀ object ∈ slots radio land.objectMax,
        (reg object).getD "" ≠ "" ∨ reserved cfg object = true

/-- Every reserved slot comes after a free one. -/
def FreeFirst (cfg : Option Talk) (reg : Register) (radio : String) (max : ℕ) : Prop :=
  ∀ k < max, reserved cfg (identify radio k) = true →
    ∃ j < k, Free cfg reg (identify radio j)

variable {cfg : Option Talk} {reg : Register} {radio : String} {max : ℕ}

/-! ## The loop over the slots -/

/-- A reserved slot is never left. -/
theorem newBind_stuck (fuel : ℕ) {i k : ℕ} (hik : i ≤ k) (hk : k < max)
    (hres : reserved cfg (identify radio k) = true)
    (hfull : ∀ j, i ≤ j → j < k → ¬ Free cfg reg (identify radio j)) :
    newBind cfg reg radio max fuel i = none := by
  induction fuel generalizing i with
  | zero => rfl
  | succ fuel ih =>
    unfold newBind
    rw [if_pos (by omega)]
    by_cases hi : reserved cfg (identify radio i) = true
    · rw [if_pos hi]
      exact ih hik hfull
    · rw [if_neg hi]
      have hne : i ≠ k := by
        rintro rfl
        exact hi hres
      by_cases hfree : (reg (identify radio i)).getD "" = ""
      · exact absurd ⟨Bool.eq_false_iff.mpr hi, hfree⟩ (hfull i (Nat.le_refl _) (by omega))
      · rw [if_neg hfree]
        exact ih (by omega) fun j hj => hfull j (by omega)

/-- With `d` slots to go, the search ends when a reserved one comes after a free one. -/
theorem newBind_ends (d : ℕ) {i : ℕ} (hd : i + d = max)
    (h : ∀ k, i ≤ k → k < max → reserved cfg (identify radio k) = true →
      ∃ j, i ≤ j ∧ j < k ∧ Free cfg reg (identify radio j)) :
    ∃ fuel r, newBind cfg reg radio max fuel i = some r := by
  induction d generalizing i with
  | zero =>
    refine ⟨1, none, ?_⟩
    unfold newBind
    rw [if_neg (by omega)]
  | succ d ih =>
    have hres : ¬ reserved cfg (identify radio i) = true := by
      intro hres
      obtain ⟨j, hij, hji, -⟩ := h i (Nat.le_refl _) (by omega) hres
      omega
    by_cases hfree : (reg (identify radio i)).getD "" = ""
    · refine ⟨1, some (identify radio i), ?_⟩
      unfold newBind
      rw [if_pos (by omega), if_neg hres, if_pos hfree]
    · obtain ⟨fuel, r, hfound⟩ := ih (i := i + 1) (by omega) (by
        intro k hik hk hresk
        obtain ⟨j, hij, hjk, hj⟩ := h k (by omega) hk hresk
        have hne : j ≠ i := by
          rintro rfl
          exact hfree hj.2
        exact ⟨j, by omega, hjk, hj⟩)
      refine ⟨fuel + 1, r, ?_⟩
      unfold newBind
      rw [if_pos (by omega), if_neg hres, if_neg hfree, hfound]

/-- **The search ends** exactly when every reserved slot comes after a free one. -/
theorem newBind_terminates_iff (cfg : Option Talk) (reg : Register) (radio : String) (max : ℕ) :
    (∃ fuel r, newBind cfg reg radio max fuel 0 = some r) ↔ FreeFirst cfg reg radio max := by
  constructor
  · rintro ⟨fuel, r, hr⟩ k hk hres
    by_contra hfull
    push Not at hfull
    rw [newBind_stuck fuel (Nat.zero_le k) hk hres fun j _ => hfull j] at hr
    cases hr
  · intro h
    refine newBind_ends max (Nat.zero_add max) fun k _ hk hres => ?_
    obtain ⟨j, hj, hfree⟩ := h k hk hres
    exact ⟨j, Nat.zero_le j, hj, hfree⟩

/-- A search that finds nothing has seen every slot bound. -/
theorem bound_of_newBind_none (fuel : ℕ) {i : ℕ}
    (h : newBind cfg reg radio max fuel i = some none) {j : ℕ} (hij : i ≤ j) (hj : j < max) :
    (reg (identify radio j)).getD "" ≠ "" := by
  induction fuel generalizing i with
  | zero => cases h
  | succ fuel ih =>
    unfold newBind at h
    rw [if_pos (by omega)] at h
    by_cases hres : reserved cfg (identify radio i) = true
    · rw [if_pos hres] at h
      exact ih h hij
    · rw [if_neg hres] at h
      by_cases hfree : (reg (identify radio i)).getD "" = ""
      · rw [if_pos hfree, Option.some.injEq] at h
        cases h
      · rw [if_neg hfree] at h
        by_cases heq : i = j
        · rw [← heq]
          exact hfree
        · exact ih h (by omega)

/-- A configuration that was searched in vain does not name the device. -/
theorem not_named_of_configBind {syspath : String} {es : List (String × Talk)}
    (h : configBind syspath es = some none) {e : String × Talk} (he : e ∈ es) :
    entryNames syspath e.2 ≠ some true := by
  induction es with
  | nil => cases he
  | cons axp rest ih =>
    unfold configBind at h
    cases hnames : entryNames syspath axp.2 with
    | none => simp [hnames] at h
    | some named =>
      cases named with
      | true => simp [hnames] at h
      | false =>
        rw [hnames] at h
        rcases List.mem_cons.mp he with rfl | he
        · simp [hnames]
        · exact ih h he

/-! ## The call -/

/-- The call finds the device, or reads the whole configuration and then finds the slots in an
order in which its search ends. -/
def Ends (land : Land) (cfg : Option Talk) (radio syspath : String) (reg : Register) : Prop :=
  (alreadyBind reg radio syspath land.objectMax).isSome ∨
    (∃ object, configBind syspath (entriesOf cfg) = some (some object)) ∨
    (configBind syspath (entriesOf cfg) = some none ∧ FreeFirst cfg reg radio land.objectMax)

/-- The call returns exactly when one of its searches ends it. -/
theorem returns_iff (land : Land) (cfg : Option Talk) (radio syspath : String) (reg : Register) :
    (∃ fuel r, land.get fuel radio (some syspath) cfg reg = some r) ↔
      Ends land cfg radio syspath reg := by
  rw [get_eq]
  unfold objectGet Ends
  dsimp only
  cases halready : alreadyBind reg radio syspath land.objectMax with
  | some object => simp
  | none =>
    cases hconfig : configBind syspath (entriesOf cfg) with
    | none => simp
    | some given =>
      cases given with
      | some object => simp
      | none =>
        have hsearch := newBind_terminates_iff cfg reg radio land.objectMax
        simp only [Option.isSome_none, Bool.false_eq_true, false_or, reduceCtorEq,
          Option.some.injEq, exists_false, true_and]
        rw [← hsearch]
        constructor
        · rintro ⟨fuel, r, hr⟩
          obtain ⟨found, hfound, -⟩ := Option.map_eq_some_iff.mp hr
          exact ⟨fuel, found, hfound⟩
        · rintro ⟨fuel, found, hfound⟩
          exact ⟨fuel, _, by rw [hfound, Option.map_some]⟩

section Call

variable {land : Land} {syspath : String} {fuel : ℕ} {reg' : Register}

/-- A new binding respects the reservations. -/
theorem respects_reservations {object : String} {result : Option String}
    (h : land.get fuel radio (some syspath) cfg reg = some (reg', result))
    (hnew : reg' object = some syspath) (hold : reg object ≠ some syspath)
    (hres : reserved cfg object = true) : NamedFor cfg object syspath := by
  rcases get_cases h with ⟨o, -, -, rfl, -⟩ | ⟨-, ⟨o, hgives, rfl, -⟩ | ⟨-, hslot⟩⟩
  · exact absurd hnew hold
  · rcases binding_eq_some.mp hnew with ⟨rfl, -⟩ | ⟨-, hsame⟩
    · exact mem_of_configBind hgives
    · exact absurd hsame hold
  · rcases hslot with ⟨o, -, hfree, -, rfl, -⟩ | ⟨rfl, -⟩
    · rcases binding_eq_some.mp hnew with ⟨rfl, -⟩ | ⟨-, hsame⟩
      · rw [hfree] at hres
        cases hres
      · exact absurd hsame hold
    · exact absurd hnew hold

/-- A call that returns `NULL` passed all three searches. -/
theorem null_cases (h : land.get fuel radio (some syspath) cfg reg = some (reg', none)) :
    alreadyBind reg radio syspath land.objectMax = none ∧
      configBind syspath (entriesOf cfg) = some none ∧
      newBind cfg reg radio land.objectMax fuel 0 = some none := by
  rw [get_eq] at h
  unfold objectGet at h
  dsimp only at h
  cases halready : alreadyBind reg radio syspath land.objectMax with
  | some object => simp [halready] at h
  | none =>
    cases hconfig : configBind syspath (entriesOf cfg) with
    | none => simp [halready, hconfig] at h
    | some given =>
      cases given with
      | some object => simp [halready, hconfig] at h
      | none =>
        simp only [halready, hconfig] at h
        obtain ⟨found, hfound, hpair⟩ := Option.map_eq_some_iff.mp h
        rw [Prod.mk.injEq] at hpair
        rw [hpair.2] at hfound
        exact ⟨rfl, rfl, hfound⟩

/-- Where no object is found, the device has none and every slot is taken or reserved. -/
theorem complete_of_null (h : land.get fuel radio (some syspath) cfg reg = some (reg', none)) :
    (∀ object ∈ slots radio land.objectMax, reg object ≠ some syspath) ∧
      (∀ object, ¬ NamedFor cfg object syspath) ∧
      ∀ object ∈ slots radio land.objectMax,
        (reg object).getD "" ≠ "" ∨ reserved cfg object = true := by
  obtain ⟨halready, hconfig, hnew⟩ := null_cases h
  refine ⟨?_, ?_, ?_⟩
  · intro object hslot
    simpa using List.find?_eq_none.mp halready object hslot
  · rintro object ⟨value, hmem, hnames⟩
    exact not_named_of_configBind hconfig hmem hnames
  · intro object hslot
    obtain ⟨j, hj, rfl⟩ := List.mem_map.mp hslot
    exact .inl (bound_of_newBind_none fuel hnew (Nat.zero_le j) (List.mem_range.mp hj))

end Call

/-- **The slot search** meets its purpose if and only if the device is registered at a slot of the
radio, or the configuration names it before a null pointer is compared, or neither and no
reserved slot comes before the first free one. -/
theorem slot_search_iff (land : Land) (cfg : Option Talk) (radio syspath : String)
    (reg : Register) :
    SearchMeets land cfg radio syspath reg ↔ Ends land cfg radio syspath reg := by
  constructor
  · intro h
    exact (returns_iff land cfg radio syspath reg).mp h.returns
  · intro h
    exact ⟨(returns_iff land cfg radio syspath reg).mpr h,
      fun fuel reg' object result hget => respects_reservations hget,
      fun fuel reg' hget => complete_of_null hget⟩

/-- A configuration that reserves the first slot for another device. -/
def firstReserved : Option Talk :=
  some (.json [("wifi", .json [("syspath", .text "/sys/devices/pci0")])])

/-- With the first slot reserved the search for any other device never ends. -/
theorem slot_search_hangs :
    (∀ fuel, wifiObjectGet fuel "wifi" (some "/sys/devices/usb1") firstReserved (fun _ => none) =
        none) ∧
      ¬ SearchMeets .wifi firstReserved "wifi" "/sys/devices/usb1" fun _ => none := by
  have hstuck : ∀ fuel, wifiObjectGet fuel "wifi" (some "/sys/devices/usb1") firstReserved
      (fun _ => none) = none := by
    intro fuel
    have halready :
        alreadyBind (fun _ => none) "wifi" "/sys/devices/usb1" wifiObjectMax = none := by
      decide
    have hconfig : configBind "/sys/devices/usb1" (entriesOf firstReserved) = some none := by
      decide
    have hnew : newBind firstReserved (fun _ => none) "wifi" wifiObjectMax fuel 0 = none :=
      newBind_stuck fuel (Nat.le_refl _) (by decide) (by decide)
        fun j _ hj => absurd hj (Nat.not_lt_zero j)
    unfold wifiObjectGet objectGet
    simp only [halready, hconfig, hnew, Option.map_none]
  refine ⟨hstuck, ?_⟩
  intro hmeets
  obtain ⟨fuel, r, hr⟩ := hmeets.returns
  have hnone := hstuck fuel
  change wifiObjectGet fuel "wifi" (some "/sys/devices/usb1") firstReserved (fun _ => none) =
    some r at hr
  rw [hnone] at hr
  cases hr

end Tiger.Analysis.SlotSearch
