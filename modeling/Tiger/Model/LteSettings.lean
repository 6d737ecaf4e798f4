import Tiger.Model.Talk

/-!
# Settings of an LTE interface (`ifname/ltecon`)

The settings of an LTE interface are one object to the caller and two
configurations in the system: that of the modem (`ifdev`) and that of the
interface. `_set` splits a write between them and restarts what reads them; `_get`
merges them again. The modem is bound, so `ifdev` names a component.

`json_patch` and `talk_equal` belong to the toolkit. `Toolkit` has them with what
their names say; nothing else is assumed of them. A save may fail, so a call of
`_set` comes with the outcome of its saves.
-/

set_option autoImplicit false

namespace Tiger.Model.LteSettings

open Tiger.Library

/-- The functions of the toolkit that `_set` and `_get` call. -/
structure Toolkit where
  talkEqual : Option Talk → Talk → Bool
  /-- `json_patch( from, to )`: the object `to` with the entries of `from` merged into it. -/
  jsonPatch : Option Talk → List (String × Talk) → Talk
  /-- A value equals itself. -/
  equal_self : ∀ t, talkEqual (some t) t = true
  /-- Equal values have the same value under every key. -/
  equal_values : ∀ a b, talkEqual a b = true → ∀ k, jsonValue a k = jsonValue (some b) k
  /-- A key that only `to` has keeps its value. -/
  patch_to : ∀ src dst k, jsonValue src k = none →
    jsonValue (some (jsonPatch src dst)) k = dst.lookup k
  /-- A key that only `from` has gets its value. -/
  patch_from : ∀ src dst k, dst.lookup k = none →
    jsonValue (some (jsonPatch src dst)) k = jsonValue src k

/-- The two configurations. -/
structure Stores where
  modem : Option Talk
  ifname : Option Talk

/-- Whether a save of the modem's or of the interface's configuration succeeds. -/
structure Saves where
  modem : Bool
  ifname : Bool

/-- The keys that are never written here. -/
def ignoredKeys : List String := ["lock_imei", "lock_imsi"]

/-- The keys that the write of a whole object moves to the modem. -/
def wholeModemKeys : List String :=
  ["lock_pin", "lock_nettype", "lock_band", "lock_arfcn", "lock_cellid", "gnss", "atport",
    "custom_set", "custom_watch",
    "need_simcard", "simcard_failed_threshold", "simcard_failed_threshold2",
    "simcard_failed_threshold3", "simcard_failed_everytime",
    "need_plmn", "need_signal", "signal_failed_threshold", "signal_failed_threshold2",
    "signal_failed_threshold3", "signal_failed_everytime",
    "watch_interval", "profile", "profile_cfg", "bsim", "bsim_cfg", "ssim", "ssim_cfg",
    "sms", "sms_cfg", "usb_mode"]

/-- The first layers that the write of a path sends to the modem. -/
def pathModemKeys : List String :=
  ["lock_pin", "lock_nettype", "lock_band", "lock_arfcn", "lock_cellid", "gnss", "atport",
    "custom_set", "custom_watch",
    "need_simcard", "simcard_failed_threshold", "simcard_failed_threshold2",
    "simcard_failed_threshold3", "simcard_failed_everytime",
    "need_plmn", "need_signal", "signal_failed_threshold", "signal_failed_threshold2",
    "signal_failed_threshold3", "signal_failed_everytime",
    "watch_interval", "profile", "profile_cfg", "bsim", "bsim_cfg", "ssim", "ssim_cfg",
    "sms", "sms_cfg", "usb_mode"]

/-! ## The effects of a write on the running system -/

/-- The component a register belongs to. -/
inductive Owner where
  | object
  | ifdev
  deriving DecidableEq

/-- The calls `_set` makes besides its saves. -/
inductive Event where
  /-- `offline` of the network component. -/
  | networkOffline
  | ifdevShut
  | ifdevSetup
  /-- The own `_shut` and `_setup`. -/
  | shut
  | setup
  /-- A register set to zero. -/
  | clear (owner : Owner) (name : String)
  deriving DecidableEq

/-- What a call of `_set` does and returns. -/
structure SetResult where
  stores : Stores
  events : List Event
  result : Bool

/-! ## `_set` -/

/-- `config_set`, `config_sset`: the store afterwards and whether the save succeeded. -/
def configSet (ok : Bool) (store v : Option Talk) (path : List String) : Option Talk × Bool :=
  if ok then (attrSet store path v, true) else (store, false)

/-- The loop that separates the settings: those of the modem and those of the interface. -/
def separate (v : Talk) : List (String × Talk) × List (String × Talk) :=
  (entriesOf (some v)).foldl (fun acc axp =>
    if axp.1 ∈ wholeModemKeys then (setEntry axp.1 axp.2 acc.1, acc.2)
    else (acc.1, setEntry axp.1 axp.2 acc.2)) ([], [])

/-- `dret`, `ret`: the saves that a call makes and that succeed. -/
structure Saved where
  stores : Stores
  dret : Bool
  ret : Bool

/-- The write of a whole object, which replaces both configurations where they differ. -/
def setWhole (tk : Toolkit) (saves : Saves) (v : Option Talk) (st : Stores) : Saved :=
  match v with
  | none =>
    let m := configSet saves.modem st.modem none []
    let c := configSet saves.ifname st.ifname none []
    ⟨⟨m.1, c.1⟩, m.2, c.2⟩
  | some v =>
    let v := jsonDeleteAxp "lock_imsi" (jsonDeleteAxp "lock_imei" v)
    let mcfg := Talk.json (separate v).1
    let cfg := Talk.json (separate v).2
    let m := if tk.talkEqual st.modem mcfg then (st.modem, false)
      else configSet saves.modem st.modem (some mcfg) []
    let c := if tk.talkEqual st.ifname cfg then (st.ifname, false)
      else configSet saves.ifname st.ifname (some cfg) []
    ⟨⟨m.1, c.1⟩, m.2, c.2⟩

/-- The write of a path with the first layer `ptr`. -/
def setPath (saves : Saves) (v : Option Talk) (ptr : String) (path : List String)
    (st : Stores) : Saved :=
  if ptr ∈ ignoredKeys then ⟨st, false, false⟩
  else if ptr ∈ pathModemKeys then
    let m := configSet saves.modem st.modem v path
    ⟨⟨m.1, st.ifname⟩, m.2, false⟩
  else
    let c := configSet saves.ifname st.ifname v path
    ⟨⟨st.modem, c.1⟩, false, c.2⟩

/-- Shut and set up what reads the configuration. -/
def restart (dret ret : Bool) : List Event :=
  if dret then
    [.ifdevShut, .clear .object "connect_failed", .clear .ifdev "setting_sync",
      .clear .ifdev "simcard_failed", .clear .ifdev "signal_failed", .ifdevSetup]
  else if ret then [.shut, .clear .object "connect_failed", .setup]
  else []

/-- The saves of `_set`. A path without a first layer addresses the whole object. -/
def setSaves (tk : Toolkit) (saves : Saves) (v : Option Talk) (path : List String)
    (st : Stores) : Saved :=
  let ptr := path.head?.getD ""
  if ptr = "" then setWhole tk saves v st else setPath saves v ptr path st

/-- `_set`. -/
def set (tk : Toolkit) (saves : Saves) (v : Option Talk) (path : List String)
    (st : Stores) : SetResult :=
  let s := setSaves tk saves v path st
  ⟨s.stores, .networkOffline :: restart s.dret s.ret, s.ret⟩

/-! ## `_get` -/

/-- `_get`: the merged configurations, cut at the path. -/
def get (tk : Toolkit) (st : Stores) (path : List String) : Option Talk :=
  match st.ifname with
  | none => attrCut st.modem path
  | some cfg => attrCut (some (tk.jsonPatch st.modem (entriesOf (some cfg)))) path

end Tiger.Model.LteSettings
