import Tiger.Library.RuleTable
import Tiger.Model.Talk
import Tiger.Model.Text

/-!
# Access control of the management servers (`wui/admin`, `tui/ssh`, `tui/telnet`)

Each server has a chain of its own in the `filter` table. `_setup` fills it with an
accepting rule for every manager and a final drop, and makes `INPUT` jump to it for
the ports of the configuration; `_shut` takes it down; `_service` derives the ports
it listens on from the same configuration.

`iptables` and the servers read a port text for themselves. They are not part of the
repository, so their readings are a parameter (`PortReadings`), with what is relied on
as named hypotheses (`PortReadings.Lawful`).

An `iptables` command is an operation of `Tiger.Library.Table`. A rule whose text
does not parse is `none`, and the command then has no effect. Rules of other
components use further conditions, of a type `α` of which nothing is assumed.
-/

set_option autoImplicit false

namespace Tiger.Model.Manager

open Tiger.Library

/-- The servers that have a manager list. -/
inductive Server where
  | admin
  | ssh
  | telnet
  deriving DecidableEq

/-- The ports from `first` to `last`. -/
structure PortRange where
  first : ℕ
  last : ℕ
  deriving DecidableEq

/-- The port is one of the range. -/
def PortRange.holds (r : PortRange) (n : ℕ) : Bool := decide (r.first ≤ n) && decide (n ≤ r.last)

/-- How the programs outside the repository read a port text. -/
structure PortReadings where
  /-- The ports of `--dport`; `none` when `iptables` refuses the rule. -/
  dport : String → Option PortRange
  /-- The port the server listens on when it is started with the text. -/
  listen : Server → String → Option ℕ

/-- What is relied on: a port is a number from 1 to 65535, a plain decimal text of one denotes it
everywhere, and a text that stands for a port that is not there is refused. -/
structure PortReadings.Lawful (rd : PortReadings) : Prop where
  dport_decimal : ∀ n : ℕ, 0 < n → n < 65536 → rd.dport (toString n) = some ⟨n, n⟩
  listen_decimal : ∀ (s : Server) (n : ℕ), 0 < n → n < 65536 → rd.listen s (toString n) = some n
  listen_bounds : ∀ (s : Server) (l : String) (n : ℕ), rd.listen s l = some n → 0 < n ∧ n < 65536
  dport_empty : rd.dport "" = none
  dport_null : rd.dport "(null)" = none

/-- The part of a packet that rules look at. -/
structure Packet where
  tcp : Bool
  dport : ℕ
  source : Ipv4
  mac : Mac

/-- The conditions of rules; `other` stands for those of other components. -/
inductive Match (α : Type) where
  | any
  | tcpDport (ports : PortRange)
  | source (ip : Ipv4)
  | macSource (mac : Mac)
  | other (test : α)
  deriving DecidableEq

/-- Whether a packet meets a condition, given the meaning of the other ones. -/
def Match.sat {α : Type} (other : α → Packet → Bool) : Match α → Packet → Bool
  | .any, _ => true
  | .tcpDport ports, p => p.tcp && ports.holds p.dport
  | .source ip, p => p.source == ip
  | .macSource mac, p => p.mac == mac
  | .other test, p => other test p

/-- The `filter` table. -/
abbrev FilterTable (α : Type) := Table String (Match α)

abbrev FilterRule (α : Type) := Rule String (Match α)

/-- The chain of incoming packets. -/
def inputChain : String := "INPUT"

variable {α : Type} [DecidableEq α] (rd : PortReadings)

/-! ## Commands -/

omit [DecidableEq α] in
/-- `-A`, with a rule that may not parse. -/
def appendText (t : FilterTable α) (chain : String) : Option (FilterRule α) → FilterTable α
  | none => t
  | some r => t.append chain r

/-- `-D`, with a rule that may not parse. -/
def deleteText (t : FilterTable α) (chain : String) : Option (FilterRule α) → FilterTable α
  | none => t
  | some r => t.delete chain r

omit [DecidableEq α] in
/-- `-p tcp --dport <port> -j <chain>`. -/
def dportJump (α : Type) (chain port : String) : Option (FilterRule α) :=
  (rd.dport port).map fun r => ⟨.tcpDport r, .jump chain⟩

/-- Delete the jump for a port from `INPUT` and append it again. -/
def insertJump (t : FilterTable α) (chain port : String) : FilterTable α :=
  appendText (deleteText t inputChain (dportJump rd α chain port)) inputChain
    (dportJump rd α chain port)

omit [DecidableEq α] in
/-- The condition of a manager's rule: the text as an IPv4 address, else as a MAC address. -/
def managerMatch (α : Type) (ptr : String) : Option (Match α) :=
  match inetPton ptr with
  | some ip => some (.source ip)
  | none => (macText ptr).map .macSource

/-- `-j DROP`. -/
def dropRule (α : Type) : FilterRule α := ⟨.any, .drop⟩

/-! ## The manager lists -/

/-- `ptr != NULL && *ptr != '\0'`. -/
def isSet (ptr : Option String) : Bool := ptr.getD "" ≠ ""

/-- The manager texts the loops of `_setup` come to: the non-empty texts of a table, or the
segments of a text. -/
def managerTexts (cfg : Option Talk) : List String :=
  let v := jsonValue cfg "manager"
  if jsonCheck v then
    (entriesOf v).filterMap fun axp =>
      let ptr := xText (some axp.2)
      if isSet ptr then ptr else none
  else
    let ptr := jsonString cfg "manager"
    if isSet ptr then tokSegments ';' (ptr.getD "") else []

/-- The body of the loops: the first manager opens the chain (`manager_init`), every manager
gets its rule. -/
def managerStep (openChain : FilterTable α → FilterTable α) (chain : String)
    (st : FilterTable α × Bool) (ptr : String) : FilterTable α × Bool :=
  let t := if st.2 then st.1 else openChain st.1
  (appendText t chain ((managerMatch α ptr).map fun m => ⟨m, .accept⟩), true)

/-- The firewall part of `_setup`. -/
def setManager (openChain : FilterTable α → FilterTable α) (chain : String)
    (cfg : Option Talk) (t : FilterTable α) : FilterTable α :=
  let st := (managerTexts cfg).foldl (managerStep openChain chain) (t, false)
  if st.2 then (st.1.delete chain (dropRule α)).append chain (dropRule α) else st.1

/-- `_setup` goes on only with this status. -/
def enabled (cfg : Option Talk) : Bool := jsonString cfg "status" = some "enable"

/-- `-F <chain>`, `-D INPUT -j <chain>`, `-X <chain>`: the firewall part of `_shut`. -/
def clearManager (chain : String) (t : FilterTable α) : FilterTable α :=
  ((t.flush chain).delete inputChain ⟨.any, .jump chain⟩).deleteChain chain

/-! ## `wui/admin` -/

def adminChain : String := "wui@admin"

/-- What the first manager does: create and flush the chain, insert the jumps of the ports
that are set. -/
def adminOpen (cfg : Option Talk) (t : FilterTable α) : FilterTable α :=
  let port := jsonString cfg "port"
  let sslport := jsonString cfg "sslport"
  let t := (t.newChain adminChain).flush adminChain
  let t := if isSet port then insertJump rd t adminChain (port.getD "") else t
  if isSet sslport then insertJump rd t adminChain (sslport.getD "") else t

def adminSetup (cfg : Option Talk) (t : FilterTable α) : FilterTable α :=
  if enabled cfg then setManager (adminOpen rd cfg) adminChain cfg t else t

def adminShut (t : FilterTable α) : FilterTable α := clearManager adminChain t

/-- The port texts `_service` hands to the web server. -/
def adminListenTexts (cfg : Option Talk) : List String :=
  let port := jsonString cfg "port"
  let sslport := jsonString cfg "sslport"
  if cfg = none then []
  else if isSet port && isSet sslport then [port.getD "", sslport.getD ""]
  else if isSet sslport then [sslport.getD ""]
  else [if isSet port then port.getD "" else "80"]

/-! ## `tui/ssh` and `tui/telnet` -/

/-- What the first manager does: the jump is inserted whether the port is set or not, and an
absent port is printed as `(null)`. -/
def ttyOpen (chain : String) (cfg : Option Talk) (t : FilterTable α) : FilterTable α :=
  insertJump rd ((t.newChain chain).flush chain) chain ((jsonString cfg "port").getD "(null)")

/-- `_setup`; `found` says that `which` finds the daemon. -/
def ttySetup (chain : String) (found : Bool) (cfg : Option Talk) (t : FilterTable α) :
    FilterTable α :=
  if !found then t
  else if enabled cfg then setManager (ttyOpen rd chain cfg) chain cfg t else t

/-- The port text `_service` hands to the daemon. -/
def ttyListenTexts (default : String) (found : Bool) (cfg : Option Talk) : List String :=
  let port := jsonString cfg "port"
  if cfg = none || !found then [] else [if isSet port then port.getD "" else default]

def sshChain : String := "tui_ssh"

def sshSetup (found : Bool) (cfg : Option Talk) (t : FilterTable α) : FilterTable α :=
  ttySetup rd sshChain found cfg t

def sshShut (t : FilterTable α) : FilterTable α := clearManager sshChain t

def sshListenTexts (found : Bool) (cfg : Option Talk) : List String :=
  ttyListenTexts "22" found cfg

def telnetChain : String := "tui_telnet"

def telnetSetup (found : Bool) (cfg : Option Talk) (t : FilterTable α) : FilterTable α :=
  ttySetup rd telnetChain found cfg t

def telnetShut (t : FilterTable α) : FilterTable α := clearManager telnetChain t

def telnetListenTexts (found : Bool) (cfg : Option Talk) : List String :=
  ttyListenTexts "23" found cfg

/-! ## The three servers -/

def Server.chain : Server → String
  | .admin => adminChain
  | .ssh => sshChain
  | .telnet => telnetChain

def Server.setup : Server → Bool → Option Talk → FilterTable α → FilterTable α
  | .admin, _, cfg, t => adminSetup rd cfg t
  | .ssh, found, cfg, t => sshSetup rd found cfg t
  | .telnet, found, cfg, t => telnetSetup rd found cfg t

def Server.shut : Server → FilterTable α → FilterTable α
  | .admin, t => adminShut t
  | .ssh, t => sshShut t
  | .telnet, t => telnetShut t

def Server.listenTexts : Server → Bool → Option Talk → List String
  | .admin, _, cfg => adminListenTexts cfg
  | .ssh, found, cfg => sshListenTexts found cfg
  | .telnet, found, cfg => telnetListenTexts found cfg

/-- The ports the server listens on; a text it cannot read opens none. -/
def Server.listen (s : Server) (found : Bool) (cfg : Option Talk) : List ℕ :=
  (s.listenTexts found cfg).filterMap (rd.listen s)

/-- One run of `_setup` or `_shut`. -/
inductive ServerOp where
  | setup (found : Bool) (cfg : Option Talk)
  | shut

def Server.step (s : Server) (t : FilterTable α) : ServerOp → FilterTable α
  | .setup found cfg => s.setup rd found cfg t
  | .shut => s.shut t

/-- A sequence of runs. -/
def Server.run (s : Server) (ops : List ServerOp) (t : FilterTable α) : FilterTable α :=
  ops.foldl (s.step rd) t

end Tiger.Model.Manager
