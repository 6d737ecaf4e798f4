import Tiger.Model.LteSettings
import Tiger.Model.Online

/-!
# An interface over its calls (`ifname/ltecon`, `ifname/ethcon`)

The configuration and the register of one interface, and what `_set`, `_setup`,
`_shut`, `_service` and `_online` make of them. Between two calls others may do what
they like with the rest: a call comes with what it reads of the device and with the
online information.

`RunState` has what a restart of an LTE interface goes through. The network component
and the modem, which take part in it, are outside the repository (`Peers`).
-/

set_option autoImplicit false

namespace Tiger.Model.Interface

open Tiger.Model.ConnectService Tiger.Model.LteSettings
open Tiger.Model.Online (Register Done Kind lteKind ethKind lteOnline ethOnline serviceRegister)

/-- The component of an interface; an interface of `ethcon` may belong to the LAN. -/
inductive Component where
  | lte (tk : Toolkit)
  | eth (lan : Bool)

def Component.con : Component → Con
  | .lte _ => .lte
  | .eth _ => .eth

def Component.kind : Component → Kind
  | .lte _ => lteKind
  | .eth lan => ethKind lan

def Component.online : Component → Option Talk → Option Talk → Register → Done
  | .lte _ => lteOnline
  | .eth lan => ethOnline lan

/-- A component goes online as its kind does. -/
theorem Component.online_eq (c : Component) : c.online = Online.online c.kind := by
  cases c with
  | lte tk => rfl
  | eth lan => rfl

/-- `_set` of `ethcon`, which restarts the interface unless it belongs to the LAN. -/
def ethSet (lan : Bool) (saves : Saves) (v : Option Talk) (path : List String) (st : Stores) :
    SetResult :=
  let c := configSet saves.ifname st.ifname v path
  ⟨⟨st.modem, c.1⟩, if lan then [] else [.shut, .setup], c.2⟩

def Component.set : Component → Saves → Option Talk → List String → Stores → SetResult
  | .lte tk => LteSettings.set tk
  | .eth lan => ethSet lan

/-- A call, with what it reads: the registered device `ifdev`, whether the device is `found`, the
dial of a run, and the online information. -/
inductive Op where
  | set (saves : Saves) (v : Option Talk) (path : List String) (ifdev : Option String)
      (found : Bool)
  | setup (found : Bool)
  | shut (ifdev : Option String)
  | service (env : Dial)
  | online (v : Option Talk)

/-- What a call inside `_set` does to the register. -/
def eventRegister (cfg : Option Talk) (ifdev : Option String) (found : Bool) (reg : Register) :
    Event → Register
  | .shut => (Online.shut ifdev reg).register
  | .setup => (Online.setup cfg found reg).register
  | .clear .object name =>
    if name = "connect_failed" then { reg with connectFailed := some 0 } else reg
  | _ => reg

/-- What a run of the service does to the register. A run that divides by zero has recorded the
mode, and no count. -/
def serviceRun (con : Con) (cfg : Option Talk) (env : Dial) (reg : Register) : Register :=
  let reg := serviceRegister cfg env reg
  match con.service cfg env reg.connectFailed with
  | some e => { reg with connectFailed := e.count }
  | none => reg

/-- The configurations after a call. -/
def Op.stores (c : Component) (st : Stores) : Op → Stores
  | .set saves v path _ _ => (c.set saves v path st).stores
  | _ => st

/-- The register after a call. -/
def Op.register (c : Component) (st : Stores) (reg : Register) : Op → Register
  | .set saves v path ifdev found =>
    let r := c.set saves v path st
    r.events.foldl (eventRegister r.stores.ifname ifdev found) reg
  | .setup found => (Online.setup st.ifname found reg).register
  | .shut ifdev => (Online.shut ifdev reg).register
  | .service env => serviceRun c.con st.ifname env reg
  | .online v => (c.online st.ifname v reg).register

/-- The configurations and the register of an interface. -/
structure State where
  stores : Stores
  register : Register

def Op.run (c : Component) (s : State) (op : Op) : State :=
  ⟨op.stores c s.stores, op.register c s.stores s.register⟩

/-- The interface after a history of calls. -/
def run (c : Component) (s : State) (h : List Op) : State := h.foldl (Op.run c) s

/-- The calls of a history, each with the configurations it is made under. -/
def trace (c : Component) : Stores → List Op → List (Stores × Op)
  | _, [] => []
  | st, op :: h => (st, op) :: trace c (op.stores c st) h

/-! ## The run state of an LTE interface -/

/-- Whether the interface is online, whether its service runs, its register, and the registers of
the modem that `_set` clears. -/
structure RunState where
  online : Bool
  service : Bool
  register : Register
  settingSync : Option ℤ
  simcardFailed : Option ℤ
  signalFailed : Option ℤ

/-- What `offline` of the network component and `shut` and `setup` of the modem do. -/
structure Peers where
  offline : RunState → RunState
  ifdevShut : RunState → RunState
  ifdevSetup : RunState → RunState

/-- What an action of `_shut` or `_setup` does. The online state is a file, and without it the
interface is offline. -/
def RunState.act (peers : Peers) (s : RunState) : Online.Act → RunState
  | .startService => { s with service := true }
  | .deleteServices => { s with service := false }
  | .networkOffline => peers.offline s
  | .unlinkState => { s with online := false }
  | _ => s

/-- After a call of the interface's own. -/
def RunState.after (peers : Peers) (s : RunState) (d : Done) : RunState :=
  d.acts.foldl (RunState.act peers) { s with register := d.register }

/-- After a call inside `_set`. -/
def RunState.event (peers : Peers) (cfg : Option Talk) (ifdev : Option String) (found : Bool)
    (s : RunState) : Event → RunState
  | .networkOffline => peers.offline s
  | .ifdevShut => peers.ifdevShut s
  | .ifdevSetup => peers.ifdevSetup s
  | .shut => s.after peers (Online.shut ifdev s.register)
  | .setup => s.after peers (Online.setup cfg found s.register)
  | .clear .object name =>
    { s with register := eventRegister cfg ifdev found s.register (.clear .object name) }
  | .clear .ifdev name =>
    { s with
      settingSync := if name = "setting_sync" then some 0 else s.settingSync
      simcardFailed := if name = "simcard_failed" then some 0 else s.simcardFailed
      signalFailed := if name = "signal_failed" then some 0 else s.signalFailed }

/-- What is relied on: `offline` takes an interface offline and leaves one alone that is not
online, and a restart of the modem is a restart of the interface on it. -/
structure Peers.Lawful (peers : Peers) (cfg : Option Talk) (ifdev : Option String)
    (found : Bool) : Prop where
  offline_online : ∀ s, (peers.offline s).online = false
  offline_idle : ∀ s, s.online = false → peers.offline s = s
  ifdev_shut : ∀ s, peers.ifdevShut s = s.after peers (Online.shut ifdev s.register)
  ifdev_setup : ∀ s, peers.ifdevSetup s = s.after peers (Online.setup cfg found s.register)

end Tiger.Model.Interface
