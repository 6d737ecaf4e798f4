import Mathlib.Logic.Function.Basic
import Tiger.Model.Talk
import Tiger.Model.Text

/-!
# Radios (`wifi/radio`)

`_setup` gives a radio one interface for each configured SSID, with a MAC address of
its own, and one component for each SSID and for the station, and tells the network
frame of them. `_shut` takes the components back.

Both act on tables of the system (`Net`): what a call or a shell command does to them
is its `Effect`, and a `Run` keeps the tables together with the effects so far. The
drivers decide which address a new interface comes up with, so it is a parameter.
-/

set_option autoImplicit false

namespace Tiger.Model.Radio

/-! ## The system -/

/-- What the radio uses of the toolkit: the name of a class of components, the machine's
MAC address, and the functions on MAC addresses. -/
structure Kit where
  comId : String
  machineMac : String
  string2mac : String → Mac
  mac2string : Mac → String
  mac2add : Mac → ℕ → Mac

/-- The tables of the system: the class of each registered component, the registers of each
object, the interface each component has in the network frame, and the address and the
state of each network device. -/
structure Net where
  components : String → Option String
  registers : String → String → Option String
  frame : String → Option String
  macs : String → Option Mac
  up : String → Bool

/-- What the radio does to the system. -/
inductive Effect where
  | register (com cls : String)
  | unregister (com : String)
  | set (com key value : String)
  | add (com dev : String)
  | delete (com : String)
  | interfaceAdd (rootdev dev : String)
  | hwEther (dev mac : String)
  | ifUp (dev : String)
  | clear (dev : String)
  | txpower (dev : String) (p : ℤ)
  | stop (service : String)
  deriving DecidableEq

/-- The tables after an effect. A new interface comes up with the address `given` to it; an
interface that exists is not created again. -/
def Net.after (k : Kit) (given : String → Option Mac) (n : Net) : Effect → Net
  | .register com cls => { n with components := Function.update n.components com (some cls) }
  | .unregister com => { n with components := Function.update n.components com none }
  | .set com key value =>
    { n with registers :=
        Function.update n.registers com (Function.update (n.registers com) key (some value)) }
  | .add com dev => { n with frame := Function.update n.frame com (some dev) }
  | .delete com => { n with frame := Function.update n.frame com none }
  | .interfaceAdd _ dev =>
    { n with macs :=
        if (n.macs dev).isSome then n.macs else Function.update n.macs dev (given dev) }
  | .hwEther dev mac =>
    { n with macs := Function.update n.macs dev (some (k.string2mac mac)) }
  | .ifUp dev => { n with up := Function.update n.up dev true }
  | .clear _ => n
  | .txpower _ _ => n
  | .stop _ => n

/-- A new interface has the address its driver gives, and one that exists keeps its own. -/
theorem macs_interfaceAdd (k : Kit) (given : String → Option Mac) (n : Net)
    (rootdev dev : String) :
    (n.after k given (.interfaceAdd rootdev dev)).macs =
      if (n.macs dev).isSome then n.macs else Function.update n.macs dev (given dev) := rfl

/-- The command gives the device the address its text says. -/
theorem macs_hwEther (k : Kit) (given : String → Option Mac) (n : Net) (dev mac : String) :
    (n.after k given (.hwEther dev mac)).macs =
      Function.update n.macs dev (some (k.string2mac mac)) := rfl

/-- The tables, and the effects that led to them. -/
structure Run where
  net : Net
  effects : List Effect

/-- A run goes on with some effects. -/
def Run.act (k : Kit) (given : String → Option Mac) (r : Run) (es : List Effect) : Run where
  net := es.foldl (Net.after k given) r.net
  effects := r.effects ++ es

/-! ## Setup -/

/-- The name of slot `i` of a kind: `ssid`, `ssid2`, `ssid3`, `ssid4`, behind the name of the
radio. -/
def slotName (radio kind : String) (i : ℕ) : String :=
  snprintf nameMax (if i = 0 then radio ++ kind else radio ++ kind ++ toString (i + 1))

/-- The transmit power the radio sets on each device. -/
def dbm (radio : Option Talk) : Option ℤ :=
  match jsonString radio "txpower" with
  | none => none
  | some txpower =>
    if (strstr "dBm".toList txpower.toList).isSome ∧ 0 ≤ atoi txpower ∧ atoi txpower ≤ 100 then
      some (atoi txpower)
    else none

/-- Set the transmit power of a device. -/
def setPower (power : Option ℤ) (dev : String) : List Effect :=
  power.elim [] fun p => [.txpower dev p]

/-- What both operations get: the names of the radio and the configuration of each object. -/
structure Object where
  obj : String
  object : String
  config : String → Option Talk

/-- The local variables of the loop of `_setup`: the address last given out, as a text and
as a number. -/
structure Local where
  run : Run
  mac : String
  macst : Mac

/-- The component of a slot is registered and told where its device is. -/
def registerSlot (r : Object) (com cls rootdev dev : String) : List Effect :=
  [.register com cls, .set com "radio" r.object, .set com "rootdev" rootdev,
    .set com "netdev" dev]

/-- A new interface without a readable address, or with the one last given out, takes the
next one: the address as a text and as a number, and what is done to the interface. -/
def ownMac (k : Kit) (s : Local) (netdev : String) (nmac : Option String) :
    String × Mac × List Effect :=
  if nmac = none ∨ nmac = some s.mac then
    let macst := k.mac2add s.macst 1
    (k.mac2string macst, macst, [.hwEther netdev (k.mac2string macst), .ifUp netdev])
  else (s.mac, s.macst, [])

/-- Turn `i` of the loop of `_setup`. -/
def ssidTurn (k : Kit) (given : String → Option Mac) (r : Object) (rootdev : String)
    (power : Option ℤ) (s : Local) (i : ℕ) : Local :=
  let compath := slotName r.object "ssid" i
  let netdev := slotName r.obj "ssid" i
  if (r.config compath).isSome then
    let run := s.run.act k given
      (registerSlot r compath "wifi@ap" rootdev netdev ++ [.interfaceAdd rootdev netdev])
    let own := ownMac k s netdev ((run.net.macs netdev).map k.mac2string)
    ⟨run.act k given (own.2.2 ++ setPower power netdev ++ [.add compath netdev]), own.1, own.2.1⟩
  else s

/-- The station's component, on the root device itself. -/
def setupSta (k : Kit) (given : String → Option Mac) (r : Object) (rootdev : String)
    (run : Run) : Run :=
  let compath := slotName r.object "sta" 0
  let netdev := snprintf nameMax rootdev
  if (r.config compath).isSome then
    run.act k given (registerSlot r compath "wifi@sta" rootdev netdev ++ [.add compath netdev])
  else run

/-- The root device, `none` when the radio has none. -/
def rootdevOf (n : Net) (r : Object) : Option String :=
  match n.registers r.object "netdev" with
  | none => none
  | some dev => if dev = "" then none else some dev

/-- `_setup`. -/
def setup (k : Kit) (given : String → Option Mac) (r : Object) (n : Net) : Bool × Run :=
  if r.obj = k.comId then (false, ⟨n, []⟩)
  else
    match rootdevOf n r with
    | none => (false, ⟨n, []⟩)
    | some rootdev =>
      let power := dbm (r.config r.object)
      let mac := ((n.macs rootdev).map k.mac2string).getD k.machineMac
      let start := (Run.mk n []).act k given
        ((if n.up rootdev then [] else [.ifUp rootdev]) ++ setPower power rootdev)
      let loop := (List.range 4).foldl (ssidTurn k given r rootdev power)
        ⟨start, mac, k.string2mac mac⟩
      (true, setupSta k given r rootdev loop.run)

/-! ## Teardown -/

/-- A configured component leaves the frame and the register, and a device loses its
address. -/
def shutSlot (r : Object) (compath netdev : String) : List Effect :=
  if (r.config compath).isSome then [.delete compath, .unregister compath, .clear netdev] else []

/-- Turn `i` of the loop of `_shut`. -/
def shutTurn (r : Object) (i : ℕ) : List Effect :=
  shutSlot r (slotName r.object "ssid" i) (slotName r.obj "ssid" i) ++
    shutSlot r (slotName r.object "sta" i) (slotName r.obj "sta" i)

/-- `_shut`. -/
def shut (k : Kit) (given : String → Option Mac) (r : Object) (n : Net) : Bool × Run :=
  if r.obj = k.comId then (false, ⟨n, []⟩)
  else
    match rootdevOf n r with
    | none => (false, ⟨n, []⟩)
    | some _ =>
      (true, (Run.mk n []).act k given
        (.stop (r.object ++ "-hostapd") :: (List.range 4).flatMap (shutTurn r)))

end Tiger.Model.Radio
