import Tiger.Model.ConnectService

/-!
# Going online and offline (`ifname/ltecon`, `ifname/ethcon`)

`_setup` records the route table of an interface and starts its service, the service
records the mode and the method, and `_online` and `_upline` record the rest when the
network component has an address: metric, DNS servers, gateway. They write the
resolver files and the masquerade rules too, which `_offline` takes away.

What a call does beside the register is the list of its actions. `World` has the part
of the machine that the resolver files and the rules are in. The online information
is the value `v` of the network component; the registers `ifdev` and `netdev` of the
interface are written by others, so a call is given what it reads there.
-/

set_option autoImplicit false

namespace Tiger.Model.Online

open Tiger.Model.ConnectService

/-- The register of an interface, as far as these functions write it. -/
structure Register where
  tid : Option ℤ
  mode : Option String
  method : Option String
  keeplive : Option String
  metric : Option String
  customDns : Option String
  dns : Option String
  dns2 : Option String
  gateway : Option String
  customResolve : Option String
  resolve : Option String
  resolve2 : Option String
  connectFailed : Option ℤ

/-- The register of an interface that was never set up. -/
def Register.empty : Register where
  tid := none
  mode := none
  method := none
  keeplive := none
  metric := none
  customDns := none
  dns := none
  dns2 := none
  gateway := none
  customResolve := none
  resolve := none
  resolve2 := none
  connectFailed := none

/-- The address families; each has a resolver file and masquerade rules of its own. -/
inductive Family where
  | ipv4
  | ipv6
  deriving DecidableEq

/-- What the calls do. -/
inductive Act where
  | startService
  | networkOffline
  | deleteServices
  | unlinkState
  | ifdevDown (ifdev : String)
  | unlinkResolv (f : Family)
  | search (f : Family) (domain : String)
  | nameserver (f : Family) (ip : String)
  | routeSwitch (ip : String) (v : Option Talk)
  | masqDelete (f : Family) (netdev : String)
  | masqAppend (f : Family) (netdev : String)
  | ifconfigMtu (netdev mtu : String)
  | txqueue (netdev len : String)
  | pmtuAdjust (netdev : String) (mtu : Option String)
  | pmtuClear (netdev : String) (mtu : Option String)
  | routesIfname (tid : ℤ) (v : Option Talk)
  | ifdevOnline (ifdev : String)
  | ifdevOffline (ifdev : String)
  deriving DecidableEq

/-- What a call leaves: the register, what it did, and what it returned, `none` when it read
through a null pointer. -/
structure Done where
  register : Register
  acts : List Act
  ret : Option Bool

/-! ## Setting up and shutting -/

/-- The configuration sets the interface up. -/
def enabled (cfg : Option Talk) : Bool := cfg.isSome && jsonString cfg "status" ≠ some "disable"

/-- The route table of a configuration, when it names one. -/
def tidOf (cfg : Option Talk) : Option ℤ :=
  let ptr := jsonString cfg "tid"
  if given ptr then ptr.map atoi else none

/-- `_setup`, the same in both components. `found` says that the device is registered and there. -/
def setup (cfg : Option Talk) (found : Bool) (reg : Register) : Done :=
  if !enabled cfg then ⟨reg, [], some true⟩
  else
    let reg := { reg with tid := (tidOf cfg).or reg.tid }
    if found then ⟨reg, [.startService], some true⟩ else ⟨reg, [], some false⟩

/-- `_shut`, the same in both components. -/
def shut (ifdev : Option String) (reg : Register) : Done :=
  ⟨reg, [.networkOffline, .deleteServices, .unlinkState] ++
    (if given ifdev then (ifdev.map Act.ifdevDown).toList else []), some true⟩

/-- What `_service` records before anything else can fail. -/
def serviceRegister (cfg : Option Talk) (env : Dial) (reg : Register) : Register :=
  if ifdevFound env && cfg.isSome then
    { reg with mode := some (dialMode cfg), method := some (dialMethod cfg) }
  else reg

/-! ## Online -/

/-- What the two components do differently: the DNS servers used when the information has none,
and whether the path MTU is adjusted. -/
structure Kind where
  dnsDefault : Option String
  dns2Default : Option String
  pmtu : Bool

/-- A server of the information, or the default in its place. -/
def serverOr (default server : Option String) : Option String :=
  if default.isSome && !given server then default else server

/-- A server of the resolver file, with a route of its own unless it is the gateway. -/
def dnsActs (gateway : Option String) (v : Option Talk) (server : Option String) : List Act :=
  if given server then
    server.toList.flatMap fun ip =>
      Act.nameserver .ipv4 ip :: if gateway = some ip then [] else [.routeSwitch ip v]
  else []

/-- The rules of a device, deleted and added again when they are asked for. -/
def masqActs (f : Family) (netdev : String) (masq : Option String) : List Act :=
  .masqDelete f netdev :: if masq = some "enable" then [.masqAppend f netdev] else []

/-- The end of `_online`: what follows the masquerade rule. -/
def onlineEnd (k : Kind) (cfg v : Option Talk) (netdev ifdev : Option String) (tid : Option ℤ) :
    List Act × Option Bool :=
  let mtu := jsonString cfg "mtu"
  let mtuActs := if mtu.any (0 < atoi ·) then [.ifconfigMtu (printed netdev) (printed mtu)] else []
  match netdev with
  -- `strncmp` reads through the device
  | none => (mtuActs, none)
  | some dev =>
    let len := jsonString (jsonValue cfg "ppp") "txqueuelen"
    (mtuActs ++
      (if "ppp".toList.isPrefixOf dev.toList then
        [.txqueue dev (if given len then printed len else "500")] else []) ++
      (if k.pmtu then [.pmtuAdjust dev mtu] else []) ++
      (match tid with
        | none => []
        | some t => if t ≠ 0 then [.routesIfname t v] else []) ++
      (ifdev.map Act.ifdevOnline).toList, some true)

/-- `_online` with the online information `v`. -/
def online (k : Kind) (cfg v : Option Talk) (reg : Register) : Done :=
  if cfg.isNone then ⟨reg, [], some false⟩
  else
    let ifdev := jsonString v "ifdev"
    let netdev := jsonString v "netdev"
    let keeplive := jsonString (jsonValue cfg "keeplive") "type"
    let metric := jsonString cfg "metric"
    let v := attrSet v ["metric"] (metric.map .text)
    let value := reg.mode.bind (jsonValue cfg)
    let gateway := jsonString v "gw"
    let custom : Bool := jsonString value "custom_dns" = some "enable"
    let dns := if custom then jsonString value "dns"
      else serverOr k.dnsDefault (jsonString v "dns")
    let dns2 := if custom then jsonString value "dns2"
      else serverOr k.dns2Default (jsonString v "dns2")
    let searchActs := if custom then []
      else ((jsonString value "domain").map (Act.search .ipv4)).toList
    let rest := onlineEnd k cfg v netdev ifdev reg.tid
    ⟨{ reg with
        keeplive := keeplive
        metric := metric
        customDns := some (if custom then "enable" else "disable")
        dns := dns
        dns2 := dns2
        gateway := if given gateway then gateway else none
        connectFailed := if keeplive = some "icmp" then reg.connectFailed else some 0 },
      .unlinkResolv .ipv4 :: searchActs ++ dnsActs gateway v dns ++ dnsActs gateway v dns2 ++
        masqActs .ipv4 (printed netdev) (jsonString cfg "masq") ++ rest.1,
      rest.2⟩

/-- `ltecon`. -/
def lteKind : Kind where
  dnsDefault := some "8.8.8.8"
  dns2Default := some "114.114.114.114"
  pmtu := true

/-- `ethcon`; the path MTU is left alone on an interface of the LAN. -/
def ethKind (lan : Bool) : Kind where
  dnsDefault := none
  dns2Default := none
  pmtu := !lan

def lteOnline : Option Talk → Option Talk → Register → Done := online lteKind

def ethOnline (lan : Bool) : Option Talk → Option Talk → Register → Done := online (ethKind lan)

/-! ## Upline and offline -/

/-- `_upline` with the online information `v`, the same in both components. -/
def upline (cfg v : Option Talk) (reg : Register) : Done :=
  if cfg.isNone then ⟨reg, [], some false⟩
  else
    let netdev := printed (jsonString v "netdev")
    let value := reg.method.bind (jsonValue cfg)
    let custom : Bool := jsonString value "custom_resolve" = some "enable"
    let resolve := if custom then jsonString value "resolve"
      else serverOr (some "8.8.8.8") (jsonString v "resolve")
    let resolve2 := if custom then jsonString value "resolve2"
      else serverOr (some "114.114.114.114") (jsonString v "resolve2")
    let searchActs := if custom then []
      else ((jsonString value "domain").map (Act.search .ipv6)).toList
    let server (s : Option String) : List Act :=
      if given s then (s.map (Act.nameserver .ipv6)).toList else []
    ⟨{ reg with
        customResolve := some (if custom then "enable" else "disable")
        resolve := resolve
        resolve2 := resolve2 },
      .unlinkResolv .ipv6 :: searchActs ++ server resolve ++ server resolve2 ++
        masqActs .ipv6 netdev (jsonString cfg "masquerade"),
      some true⟩

/-- `_offline`, the same in both components, with the registers `netdev` and `ifdev`. -/
def offline (cfg : Option Talk) (netdev ifdev : Option String) (reg : Register) : Done :=
  ⟨reg,
    .unlinkResolv .ipv4 ::
      (if given netdev then
        [.masqDelete .ipv4 (printed netdev), .pmtuClear (printed netdev) (jsonString cfg "mtu")]
        else []) ++
      (if given ifdev then (ifdev.map Act.ifdevOffline).toList else []),
    some true⟩

/-! ## The machine -/

/-- The resolver files of an interface and the masquerade rules on each device, counted. -/
structure World where
  resolv : Family → Bool
  rules : Family → String → ℕ

/-- Nothing of the interface is there. -/
def World.empty : World where
  resolv := fun _ => false
  rules := fun _ _ => 0

/-- What an action does to the files and the rules. `-D` deletes one rule, `-A` adds one. -/
def World.act (w : World) : Act → World
  | .unlinkResolv f => { w with resolv := Function.update w.resolv f false }
  | .search f _ => { w with resolv := Function.update w.resolv f true }
  | .nameserver f _ => { w with resolv := Function.update w.resolv f true }
  | .masqDelete f dev =>
    { w with
      rules := Function.update w.rules f (Function.update (w.rules f) dev (w.rules f dev - 1)) }
  | .masqAppend f dev =>
    { w with
      rules := Function.update w.rules f (Function.update (w.rules f) dev (w.rules f dev + 1)) }
  | _ => w

/-! ## Acquiring an address -/

/-- The calls of the network component that an interface gets. -/
inductive NetworkCall where
  | online
  | upline
  deriving DecidableEq

/-- What the helpers and clients come to: whether each brings the interface online or upline, and
what the client returns. -/
structure Clients where
  modeStatic : Bool
  methodManual : Bool
  automatic : Bool
  ppp : Bool
  dhcp : Bool
  ret : Ret

/-- The IPv6 part of the service of `ltecon`. -/
def lteUplines (method : String) (c : Clients) : List NetworkCall :=
  if method = "manual" then (if c.methodManual then [.upline] else [])
  else if method = "automatic" then (if c.automatic then [.upline] else [])
  else []

/-- The end of the service of `ltecon`: the calls of the network component. -/
def lteNetwork (mode method : String) (c : Clients) : List NetworkCall :=
  if mode = "static" then (if c.modeStatic then [.online] else []) ++ lteUplines method c
  else
    lteUplines method c ++
      if mode = "ppp" then (if c.ppp then [.online] else [])
      else (if c.dhcp then [.online] else [])

/-- What the service of `ltecon` acquires. -/
def lteAcquire (c : Clients) (mode method : String) : Acquired where
  online := .online ∈ lteNetwork mode method c
  ret := if mode = "static" then .ttrue else c.ret

end Tiger.Model.Online
