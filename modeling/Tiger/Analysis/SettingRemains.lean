import Tiger.Analysis.LteStores
import Tiger.Analysis.RecordedMode
import Tiger.Library.Latest
import Tiger.Model.Interface

/-!
# Settings that outlive their configuration

Two histories of one interface that come to the same configuration are to be the same
to whoever sees the interface afterwards. Nearly all of the register is written anew by
`_online`; what it takes from the past are the route table and the recorded mode and
method (`observe_congr`), and these are what the latest calls recorded
(`tid_run`, `modes_run`).

`_setup` records the route table only of a configuration that names one, so a table
stays when its key is removed. `_service` records nothing without a device.
`observed_iff` says that there is no other dependence.
-/

set_option autoImplicit false

namespace Tiger.Analysis.SettingRemains

open Tiger.Library Tiger.Model Tiger.Model.ConnectService Tiger.Model.LteSettings
open Tiger.Model.Interface
open Tiger.Model.Online (Register Act Done Kind enabled tidOf)

/-- What is seen of the interface: the values of its register, and the set up of route tables. -/
structure Observed where
  tid : Option ℤ
  mode : Option String
  method : Option String
  metric : Option String
  customDns : Option String
  dns : Option String
  dns2 : Option String
  gateway : Option String
  routes : List Act

/-- The action sets a route table up. -/
def isRoutes : Act → Bool
  | .routesIfname _ _ => true
  | _ => false

def observe (d : Done) : Observed where
  tid := d.register.tid
  mode := d.register.mode
  method := d.register.method
  metric := d.register.metric
  customDns := d.register.customDns
  dns := d.register.dns
  dns2 := d.register.dns2
  gateway := d.register.gateway
  routes := d.acts.filter isRoutes

/-- What is seen after a final `_setup`, `_service` and `_online`. -/
def observed (c : Component) (s : State) (found : Bool) (env : Dial) (v : Option Talk) : Observed :=
  let s := run c s [.setup found, .service env]
  observe (c.online s.stores.ifname v s.register)

/-- The route table that a `_setup` records. -/
def tidSet (cfg : Option Talk) : Option ℤ := if enabled cfg then tidOf cfg else none

/-- The route table that a call records; `_set` may set the interface up. -/
def tidWritten (c : Component) : Stores × Op → Option ℤ
  | (st, .set saves v path _ _) =>
    let r := c.set saves v path st
    if .setup ∈ r.events then tidSet r.stores.ifname else none
  | (st, .setup _) => tidSet st.ifname
  | _ => none

/-- The mode and the method that a call records. -/
def modesWritten : Stores × Op → Option (String × String)
  | (st, .service env) =>
    if ifdevFound env && st.ifname.isSome then
      some (dialMode st.ifname, dialMethod st.ifname)
    else none
  | _ => none

/-- The latest route table of a history. -/
def lastTid (c : Component) (st : Stores) (h : List Op) : Option ℤ :=
  latest (tidWritten c) (trace c st h)

/-- The latest mode and method of a history. -/
def lastModes (c : Component) (st : Stores) (h : List Op) : Option (String × String) :=
  latest modesWritten (trace c st h)

/-- The recorded mode and method. -/
def modes (reg : Register) : Option String × Option String := (reg.mode, reg.method)

/-- The mode and the method after they are recorded, or not. -/
def overModes (written : Option (String × String)) (old : Option String × Option String) :
    Option String × Option String :=
  written.elim old fun m => (some m.1, some m.2)

/-! ## What the calls record -/

/-- Setup records the route table of an enabled interface. -/
theorem setup_tid (cfg : Option Talk) (found : Bool) (reg : Register) :
    (Online.setup cfg found reg).register.tid = (tidSet cfg).or reg.tid := by
  unfold Online.setup tidSet
  cases enabled cfg with
  | false => rfl
  | true => cases found <;> rfl

/-- Setup records no mode. -/
theorem setup_modes (cfg : Option Talk) (found : Bool) (reg : Register) :
    modes (Online.setup cfg found reg).register = modes reg := by
  unfold Online.setup
  cases enabled cfg with
  | false => rfl
  | true => cases found <;> rfl

/-- Clearing touches the count of failures at most. -/
theorem eventRegister_clear (cfg : Option Talk) (ifdev : Option String) (found : Bool)
    (reg : Register) (owner : Owner) (name : String) :
    eventRegister cfg ifdev found reg (.clear owner name) = reg ∨
      eventRegister cfg ifdev found reg (.clear owner name) =
        { reg with connectFailed := some 0 } := by
  cases owner with
  | ifdev => exact .inl rfl
  | object =>
    by_cases hname : name = "connect_failed"
    · exact .inr (if_pos hname)
    · exact .inl (if_neg hname)

/-- The calls inside `_set` record the route table when they set the interface up. -/
theorem events_tid (cfg : Option Talk) (ifdev : Option String) (found : Bool)
    (events : List Event) (reg : Register) :
    (events.foldl (eventRegister cfg ifdev found) reg).tid =
      (if .setup ∈ events then tidSet cfg else none).or reg.tid := by
  induction events generalizing reg with
  | nil => rfl
  | cons event events ih =>
    rw [List.foldl_cons, ih]
    cases event with
    | setup =>
      have htid : (eventRegister cfg ifdev found reg .setup).tid = (tidSet cfg).or reg.tid :=
        setup_tid cfg found reg
      rw [htid, if_pos List.mem_cons_self]
      cases tidSet cfg with
      | none => simp
      | some t => split <;> rfl
    | clear owner name =>
      have htid : (eventRegister cfg ifdev found reg (.clear owner name)).tid = reg.tid := by
        rcases eventRegister_clear cfg ifdev found reg owner name with h | h
        · rw [h]
        · rw [h]
      simp [htid]
    | networkOffline => simp [eventRegister]
    | ifdevShut => simp [eventRegister]
    | ifdevSetup => simp [eventRegister]
    | shut => simp [eventRegister, Online.shut]

/-- Events record no mode. -/
theorem events_modes (cfg : Option Talk) (ifdev : Option String) (found : Bool)
    (events : List Event) (reg : Register) :
    modes (events.foldl (eventRegister cfg ifdev found) reg) = modes reg := by
  induction events generalizing reg with
  | nil => rfl
  | cons event events ih =>
    rw [List.foldl_cons, ih]
    cases event with
    | setup => exact setup_modes cfg found reg
    | clear owner name =>
      rcases eventRegister_clear cfg ifdev found reg owner name with h | h
      · rw [h]
      · rw [h]
        rfl
    | _ => rfl

/-- A run of the service records no route table. -/
theorem serviceRun_tid (con : Con) (cfg : Option Talk) (env : Dial) (reg : Register) :
    (serviceRun con cfg env reg).tid = reg.tid := by
  have hrecorded : (Online.serviceRegister cfg env reg).tid = reg.tid := by
    unfold Online.serviceRegister
    split <;> rfl
  unfold serviceRun
  dsimp only
  split
  · exact hrecorded
  · exact hrecorded

/-- A run of the service records the modes it writes. -/
theorem serviceRun_modes (con : Con) (st : Stores) (env : Dial) (reg : Register) :
    modes (serviceRun con st.ifname env reg) =
      overModes (modesWritten (st, .service env)) (modes reg) := by
  have hrecorded : modes (Online.serviceRegister st.ifname env reg) =
      overModes (modesWritten (st, .service env)) (modes reg) := by
    have hwritten : modesWritten (st, .service env) =
        if ifdevFound env && st.ifname.isSome then
          some (dialMode st.ifname, dialMethod st.ifname)
        else none := rfl
    rw [hwritten]
    unfold Online.serviceRegister
    split
    · rfl
    · rfl
  unfold serviceRun
  dsimp only
  split
  · exact hrecorded
  · exact hrecorded

/-- Going online records no route table. -/
theorem online_tid (k : Kind) (cfg v : Option Talk) (reg : Register) :
    (Online.online k cfg v reg).register.tid = reg.tid := by
  unfold Online.online
  split <;> rfl

/-- Going online records no mode. -/
theorem online_modes (k : Kind) (cfg v : Option Talk) (reg : Register) :
    modes (Online.online k cfg v reg).register = modes reg := by
  unfold Online.online
  split <;> rfl

/-- **One call**, and the route table. -/
theorem op_tid (c : Component) (st : Stores) (reg : Register) (op : Op) :
    (op.register c st reg).tid = (tidWritten c (st, op)).or reg.tid := by
  cases op with
  | set saves v path ifdev found => exact events_tid _ ifdev found _ reg
  | setup found => exact setup_tid st.ifname found reg
  | shut ifdev => rfl
  | service env => exact serviceRun_tid c.con st.ifname env reg
  | online v =>
    unfold Op.register
    rw [c.online_eq]
    exact online_tid c.kind st.ifname v reg

/-- **One call**, and the mode and the method. -/
theorem op_modes (c : Component) (st : Stores) (reg : Register) (op : Op) :
    modes (op.register c st reg) = overModes (modesWritten (st, op)) (modes reg) := by
  cases op with
  | set saves v path ifdev found => exact events_modes _ ifdev found _ reg
  | setup found => exact setup_modes st.ifname found reg
  | shut ifdev => rfl
  | service env => exact serviceRun_modes c.con st env reg
  | online v =>
    unfold Op.register
    rw [c.online_eq]
    exact online_modes c.kind st.ifname v reg

/-! ## Histories -/

/-- The route table after a history is the last one it recorded. -/
theorem tid_run (c : Component) (s : State) (h : List Op) :
    (run c s h).register.tid = (lastTid c s.stores h).or s.register.tid := by
  unfold lastTid run
  induction h generalizing s with
  | nil => rfl
  | cons op h ih =>
    have hop : (op.run c s).register.tid = _ := op_tid c s.stores s.register op
    rw [List.foldl_cons, ih (op.run c s), hop, trace, latest_cons, Option.or_assoc]
    rfl

/-- The modes after a history are the last ones it recorded. -/
theorem modes_run (c : Component) (s : State) (h : List Op) :
    modes (run c s h).register = overModes (lastModes c s.stores h) (modes s.register) := by
  unfold lastModes run
  induction h generalizing s with
  | nil => rfl
  | cons op h ih =>
    have hop : modes (op.run c s).register = _ := op_modes c s.stores s.register op
    have hor : ∀ later earlier old, overModes (later.or earlier) old =
        overModes later (overModes earlier old) := by
      intro later earlier old
      cases later <;> rfl
    rw [List.foldl_cons, ih (op.run c s), hop, trace, latest_cons, hor]
    rfl

/-- A run that returns leaves what its calls record, and its count. -/
theorem serviceRun_eq_record {con : Con} {cfg : Option Talk} {env : Dial} {reg : Register}
    {e : ServiceEnd} (hrun : con.service cfg env reg.connectFailed = some e) :
    serviceRun con cfg env reg =
      { RecordedMode.record reg e.calls with connectFailed := e.count } := by
  have hcount : (Online.serviceRegister cfg env reg).connectFailed = reg.connectFailed := by
    unfold Online.serviceRegister
    split <;> rfl
  unfold serviceRun
  dsimp only
  rw [hcount, hrun, RecordedMode.record_service hrun]

/-! ## Two histories -/

/-- With a configuration, what is seen after `_online` depends on the register by the route
table, the mode and the method alone. -/
theorem observe_congr (k : Kind) {cfg : Option Talk} (hcfg : cfg.isSome) (v : Option Talk)
    {r₁ r₂ : Register} (htid : r₁.tid = r₂.tid) (hmodes : modes r₁ = modes r₂) :
    observe (Online.online k cfg v r₁) = observe (Online.online k cfg v r₂) := by
  have hmode : r₁.mode = r₂.mode := congrArg Prod.fst hmodes
  have hmethod : r₁.method = r₂.method := congrArg Prod.snd hmodes
  have hnone : ¬ cfg.isNone = true := by
    rw [Option.isNone_iff_eq_none]
    exact Option.isSome_iff_ne_none.mp hcfg
  unfold Online.online observe
  rw [if_neg hnone, if_neg hnone]
  dsimp only
  rw [htid, hmode, hmethod]

/-- What is observed is recorded. -/
theorem recorded_of_observe {d₁ d₂ : Done} (h : observe d₁ = observe d₂) :
    d₁.register.tid = d₂.register.tid ∧ modes d₁.register = modes d₂.register := by
  refine ⟨congrArg Observed.tid h, ?_⟩
  exact Prod.ext (congrArg Observed.mode h) (congrArg Observed.method h)

/-- Over empty registers the modes that are written can be told. -/
theorem overModes_none_inj : Function.Injective fun written => overModes written (none, none) := by
  intro a b h
  cases a with
  | none =>
    cases b with
    | none => rfl
    | some b => cases congrArg Prod.fst h
  | some a =>
    cases b with
    | none => cases congrArg Prod.fst h
    | some b =>
      have hfst := Option.some.inj (congrArg Prod.fst h)
      have hsnd := Option.some.inj (congrArg Prod.snd h)
      rw [Prod.ext hfst hsnd]

/-- An enabled interface has a configuration. -/
theorem isSome_of_enabled {cfg : Option Talk} (h : enabled cfg) : cfg.isSome := by
  unfold enabled at h
  exact (Bool.and_eq_true_iff.mp h).1

/-- A route table is recorded of an enabled configuration that names one. -/
theorem tidSet_isSome_iff {cfg : Option Talk} (henabled : enabled cfg) :
    (tidSet cfg).isSome ↔ given (jsonString cfg "tid") := by
  unfold tidSet tidOf
  rw [if_pos henabled]
  cases jsonString cfg "tid" with
  | none => simp [given]
  | some ptr => simp

/-- A setup and a run leave the route table of the setting, if there is one. -/
theorem final_tid (c : Component) (s : State) (found : Bool) (env : Dial) :
    (run c s [.setup found, .service env]).register.tid =
      (tidSet s.stores.ifname).or s.register.tid := by
  rw [tid_run]
  simp [lastTid, trace, tidWritten]

/-- A setup and a run leave the modes of the setting, if they are written. -/
theorem final_modes (c : Component) (s : State) (found : Bool) (env : Dial) :
    modes (run c s [.setup found, .service env]).register =
      overModes (modesWritten (s.stores, .service env)) (modes s.register) := by
  rw [modes_run]
  have hlast : lastModes c s.stores [.setup found, .service env] =
      modesWritten (s.stores, .service env) := by
    simp [lastModes, trace, modesWritten, Op.stores]
  rw [hlast]

/-- A new value hides the old ones, and nothing else does. -/
theorem or_eq_or_iff {α : Type} {new a b : Option α} :
    new.or a = new.or b ↔ new.isSome ∨ a = b := by
  cases new with
  | none => simp
  | some x => simp

/-- The old modes are hidden exactly when the device is found. -/
theorem overModes_eq_iff {cfg : Option Talk} (hcfg : cfg.isSome) {st : Stores}
    (hst : st.ifname = cfg) (env : Dial) {a b : Option String × Option String} :
    overModes (modesWritten (st, .service env)) a = overModes (modesWritten (st, .service env)) b ↔
      ifdevFound env ∨ a = b := by
  have hwritten : modesWritten (st, .service env) =
      if ifdevFound env then some (dialMode cfg, dialMethod cfg) else none := by
    simp [modesWritten, hst, hcfg]
  rw [hwritten]
  cases ifdevFound env with
  | false => simp [overModes]
  | true => simp [overModes]

/-- Two states with one configuration are seen to be the same as far as their registers are. -/
theorem observed_eq_iff (c : Component) {s₁ s₂ : State}
    (hcfg : s₁.stores.ifname = s₂.stores.ifname) (henabled : enabled s₁.stores.ifname)
    (found : Bool) (env : Dial) (v : Option Talk) :
    observed c s₁ found env v = observed c s₂ found env v ↔
      (given (jsonString s₁.stores.ifname "tid") ∨ s₁.register.tid = s₂.register.tid) ∧
        (ifdevFound env ∨ modes s₁.register = modes s₂.register) := by
  have hsome := isSome_of_enabled henabled
  have hwritten : modesWritten (s₂.stores, .service env) =
      modesWritten (s₁.stores, .service env) := by
    unfold modesWritten
    dsimp only
    rw [hcfg]
  have htid : (run c s₁ [.setup found, .service env]).register.tid =
        (run c s₂ [.setup found, .service env]).register.tid ↔
      given (jsonString s₁.stores.ifname "tid") ∨ s₁.register.tid = s₂.register.tid := by
    rw [final_tid, final_tid, ← hcfg, or_eq_or_iff, tidSet_isSome_iff henabled]
  have hmodes : modes (run c s₁ [.setup found, .service env]).register =
        modes (run c s₂ [.setup found, .service env]).register ↔
      ifdevFound env ∨ modes s₁.register = modes s₂.register := by
    rw [final_modes, final_modes, hwritten, overModes_eq_iff hsome rfl env]
  rw [← htid, ← hmodes]
  unfold observed
  dsimp only
  rw [c.online_eq]
  constructor
  · intro h
    obtain ⟨hsame, hsameModes⟩ := recorded_of_observe h
    rw [online_tid, online_tid] at hsame
    rw [online_modes, online_modes] at hsameModes
    exact ⟨hsame, hsameModes⟩
  · rintro ⟨hsame, hsameModes⟩
    have hstores : (run c s₂ [.setup found, .service env]).stores.ifname =
        (run c s₁ [.setup found, .service env]).stores.ifname := hcfg.symm
    rw [hstores]
    exact observe_congr c.kind hsome v hsame hsameModes

/-- **Histories that come to one configuration.** They are seen to be the same after a final
`_setup`, `_service` and `_online` exactly when the configuration names a route table or their
latest route tables are the same, and the device is there or their latest modes and methods are. -/
theorem observed_iff (c : Component) {st₁ st₂ : Stores} {h₁ h₂ : List Op}
    (hcfg : (run c ⟨st₁, .empty⟩ h₁).stores.ifname = (run c ⟨st₂, .empty⟩ h₂).stores.ifname)
    (henabled : enabled (run c ⟨st₁, .empty⟩ h₁).stores.ifname) (found : Bool) (env : Dial)
    (v : Option Talk) :
    observed c (run c ⟨st₁, .empty⟩ h₁) found env v =
        observed c (run c ⟨st₂, .empty⟩ h₂) found env v ↔
      (given (jsonString (run c ⟨st₁, .empty⟩ h₁).stores.ifname "tid") ∨
          lastTid c st₁ h₁ = lastTid c st₂ h₂) ∧
        (ifdevFound env ∨ lastModes c st₁ h₁ = lastModes c st₂ h₂) := by
  have htid : ∀ st h, (run c ⟨st, .empty⟩ h).register.tid = lastTid c st h := by
    intro st h
    rw [tid_run]
    exact Option.or_none
  have hmodes : ∀ st h, modes (run c ⟨st, .empty⟩ h).register =
      overModes (lastModes c st h) (none, none) := fun st h => modes_run c ⟨st, .empty⟩ h
  rw [observed_eq_iff c hcfg henabled found env v, htid, htid, hmodes, hmodes,
    overModes_none_inj.eq_iff]

/-- A write of the whole configuration, with the route table that it names. -/
def setTid (tid : Option String) : Op :=
  .set ⟨true, true⟩ (some (.json (("status", .text "enable") ::
    (tid.map fun t => ("tid", .text t)).toList))) [] (some "ifdev@lte") true

/-- The information of the network component about the device `usb0`. -/
def usb0Information : Option Talk :=
  some (.json [("ifdev", .text "ifdev@lte"), ("netdev", .text "usb0"), ("gw", .text "10.0.0.1")])

/-- An interface of `ltecon` that was never configured; its modem has an empty configuration. -/
def neverSet : Stores := ⟨some (.json []), none⟩

def lteComponent : Component := .lte LteStores.plainToolkit

/-- A route table that is replaced leaves nothing behind. -/
theorem tid_replaced :
    observed lteComponent
        (run lteComponent ⟨neverSet, .empty⟩ [setTid (some "5"), setTid (some "7")]) true
        (RecordedMode.modem (some "usb0")) usb0Information =
      observed lteComponent (run lteComponent ⟨neverSet, .empty⟩ [setTid (some "7")])
        true (RecordedMode.modem (some "usb0")) usb0Information :=
  (observed_iff lteComponent (by decide) (by decide) _ _ _).mpr (by decide)

/-- The route table of a key that was removed is still set up. -/
theorem tid_remains :
    let h₁ := [setTid (some "5"), setTid none]
    let h₂ := [setTid none]
    let s₁ := run lteComponent ⟨neverSet, .empty⟩ h₁
    let s₂ := run lteComponent ⟨neverSet, .empty⟩ h₂
    s₁.stores.ifname = s₂.stores.ifname ∧ enabled s₁.stores.ifname ∧
      observed lteComponent s₁ true (RecordedMode.modem (some "usb0")) usb0Information ≠
        observed lteComponent s₂ true (RecordedMode.modem (some "usb0")) usb0Information := by
  refine ⟨by decide, by decide, fun h => ?_⟩
  have htid := congrArg Observed.tid h
  revert htid
  decide

end Tiger.Analysis.SettingRemains
