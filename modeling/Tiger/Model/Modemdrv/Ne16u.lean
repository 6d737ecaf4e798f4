import Tiger.Model.Modemdrv.Common

/-!
# The driver of the NE16U

The operations of `modemdrv/ne16u`. `_at_setup` looks at three modes of the modem one
after the other; a mode that was written makes it ask for a reset. `_at_watch` reads the
serving cell from an answer of several lines, one for each network the modem is in.
-/

set_option autoImplicit false

namespace Tiger.Model.Ne16u

open Tiger.Library

/-! ## Settings -/

/-- The value of `AT+LNWSCFG` a network mode stands for. -/
def nettype (netmode : Option String) : String :=
  match modeLetter netmode with
  | '2' | 'g' | 'c' | 't' | 'e' | '3' | 'w' => "1"
  | '4' | 'l' => "2"
  | 'n' => "8"
  | 's' => "5"
  | _ => "0"

/-- `ne16u_lock_nettype`. -/
def lockNettype (netmode : Option String) : Op Ret := do
  let r ← tx (.read .lnwscfg)
  if r.ret ≠ .succeed then pure r.ret
  else if (scanInt ':' r.ack).getD (-1) ≠ atoi (nettype netmode) then
    txRet (.set .lnwscfg [.raw (nettype netmode)])
  else pure .failed

/-- `ne16u_lock_band`. -/
def lockBand (unescape : Unescape) (band : Option String) : Op Ret :=
  blindLock unescape band fun text => .set .lband [.raw (snprintf (lineMax - 9) text)]

/-- `ne16u_lock_cell`. -/
def lockCell (unescape : Unescape) (cell : Option String) : Op Ret :=
  blindLock unescape cell fun text => .set .qnwlock [.raw (snprintf (lineMax - 11) text)]

/-- The ip type of a profile. -/
def iptype (profile : Option Talk) : String :=
  match jsonString profile "type" with
  | none => "1"
  | some type => if strcasecmp type "ipv4v6" || strcasecmp type "ipv6" then "2" else "1"

/-- `ne16u_set_profileset`; `ne16u_qicsgp` is `qicsgp`. -/
def setProfileset (profile : Option Talk) : Op Ret :=
  relay (qicsgp (cidOf profile) (iptype profile) (jsonString profile "apn")
    (loginOf profile)) fun i =>
  setContexts profile (some (iptype profile)) (counted .failed i)

/-- `_at_setting`. -/
def atSetting (unescape : Unescape) (cfg : Option Talk) : Op Boole :=
  check (lockNettype (jsonString cfg "lock_nettype")) fun i =>
  check (lockBand unescape (jsonString cfg "lock_band")) fun _ =>
  check (lockCell unescape (jsonString cfg "lock_cell")) fun _ =>
  checkProfile setProfileset (jsonValue cfg "profile_cfg") (restart .ttrue i) fun ret =>
  checkModes [.copsformat, .cregmode, .ceregmode, .cgregmode, .c5gregmode] ret

/-! ## Switching on and off -/

/-- What follows the loops of `_at_setup`; `r` says that a mode was written. -/
def setupEnd (r : Bool) : Op Boole :=
  if r then pure .terror
  else
    check (txRet (.set .qnetdevctl [.raw "1", .raw "0"])) fun _ =>
    check (usbtty .cgsn) fun _ =>
    pure .ttrue

/-- The loop for `"ims"`. -/
def setupIms (r : Bool) : Op Boole :=
  rounds (fun t next leave => qcfgRound "ims" "2" (setupEnd true) t next leave)
    (setupEnd r) 10 0

/-- The loop for `"nat"`. -/
def setupNat (r : Bool) : Op Boole :=
  rounds (fun t next leave => qcfgRound "nat" "0" (setupIms true) t next leave)
    (setupIms r) 10 0

/-- `_at_setup`. -/
def atSetup : Op Boole :=
  require (usbtty .setup) <|
  require (usbtty .cfun1) <|
  rounds (fun t next leave => qcfgRound "usbnet" "1" (pure .terror) t next leave)
    (setupNat false) 10 0

/-- `_at_off`. -/
def atOff : Op Boole :=
  check (usbtty .cfun0) fun _ =>
  pure .ttrue

/-- `_at_shut`. -/
def atShut : Op Boole :=
  check (txRet (.exec .lpowd)) fun _ =>
  pure .ttrue

/-! ## Watching -/

/-- One line of the answer to `AT+QNWINFO`; the value so far is `ret`. -/
def qnwinfoLine (ret : Ret) (line : List Char) : Op Ret :=
  match sysmodeOf line with
  | none => pure ret
  | some sysmode =>
    if namesNetwork sysmode || contains "NR5G-SA" sysmode then do
      setNetwork "band" "nettype" sysmode line
      pure .succeed
    else if contains "NR5G-NSA" sysmode then do
      setNetwork "band2" "nettype2" sysmode line
      setString "nettype" "LTE".toList
      pure .succeed
    else pure ret

/-- `ne16u_qnwinfo`. -/
def qnwinfo : Op Ret := do
  let r ← tx (.exec .qnwinfo)
  if r.ret ≠ .succeed then pure r.ret
  else (lines r.ack).foldlM qnwinfoLine .failed

/-- `"%[^,],%[^,],.."` with `n` fields. -/
def csv : ℕ → List Directive
  | 0 => []
  | 1 => [.field ',']
  | n + 1 => .field ',' :: .lit ',' :: csv n

/-- A serving cell, as a line of the answer gives it, and the keys it is recorded under. -/
structure Cell where
  era : String
  pcid : List Char
  rsrp : List Char
  rsrpKeys : List String
  nettypeKey : String
  nettype : String
  rssi : Option (List Char)
  rsrq : List Char
  rsrqKey : String
  sinr : List Char
  sinrKey : String

/-- The cell of an LTE network. -/
def lteCell (start : List Char) : Option Cell :=
  match (scan (csv 16) start).fields with
  | [_, _, _, _, _, .str pcid, _, _, _, _, _, .str rsrp, .str rsrq, .str rssi, .str sinr, _] =>
    some ⟨"4G", pcid, rsrp, ["rsrp"], "nettype", "LTE", some rssi, rsrq, "rsrq", sinr, "sinr"⟩
  | _ => none

/-- The cell of a 5G network that stands alone. -/
def saCell (start : List Char) : Option Cell :=
  match (scan (csv 14) start).fields with
  | [_, _, _, _, _, .str pcid, _, _, _, _, .str rsrp, .str rsrq, .str sinr, _] =>
    some ⟨"5G", pcid, rsrp, ["rsrp", "rssi"], "nettype", "NR5G-SA", none, rsrq, "rsrq", sinr,
      "sinr"⟩
  | _ => none

/-- The cell of a 5G network beside an LTE one. -/
def nsaCell (start : List Char) : Option Cell :=
  match (scan (csv 6 ++ [.lit ',', .word]) start).fields with
  | [_, _, _, .str pcid, .str rsrp, .str sinr, .str rsrq] =>
    some ⟨"5G", pcid, rsrp, ["rsrp2"], "nettype2", "NR5G-NSA", none, rsrq, "rsrq2", sinr,
      "sinr2"⟩
  | _ => none

/-- The cell of a line that has no WCDMA network. -/
def cellOf (line : List Char) : Option Cell :=
  match strstr "LTE".toList line with
  | some start => lteCell start
  | none =>
    match strstr "NR5G-SA".toList line with
    | some start => saCell start
    | none => (strstr "NR5G-NSA".toList line).bind nsaCell

/-- The cell has a number. -/
def Cell.known (cell : Cell) : Bool :=
  strtol 32 cell.pcid ≠ 65535 && strtol 32 cell.pcid ≠ -32768

/-- A text reads as a number between two bounds. -/
def within (lo hi : ℤ) (s : List Char) : Bool := lo ≤ strtol 32 s && strtol 32 s ≤ hi

/-- Record a strength; the value so far is `ret`. -/
def setStrength (keys : List String) (s : List Char) (network : Op Unit) (ret : Ret) : Op Ret :=
  if within (-140) (-44) s then do
    Script.puts (keys.map fun key => (key, some (String.ofList s)))
    network
    pure .succeed
  else pure ret

/-- Record the strength of an LTE cell beside the first one; the value so far is `ret`. -/
def setRssi (rssi : Option (List Char)) (ret : Ret) : Op Ret :=
  match rssi with
  | some rssi => setStrength ["rssi"] rssi (pure ()) ret
  | none => pure ret

/-- Record a cell; the value so far is `ret`. -/
def setCell (cell : Cell) (ret : Ret) : Op Ret :=
  if cell.known then do
    setString "pcid" cell.pcid
    setString "netera" cell.era.toList
    let ret ← setStrength cell.rsrpKeys cell.rsrp
      (setString cell.nettypeKey cell.nettype.toList) ret
    let ret ← setRssi cell.rssi ret
    onlyIf (within (-20) (-3) cell.rsrq) (setString cell.rsrqKey cell.rsrq)
    onlyIf (within 0 250 cell.sinr) (setNumber cell.sinrKey (-20 + strtol 32 cell.sinr / 5))
    pure ret
  else pure ret

/-- The code power of a line with a WCDMA network. -/
def rscpOf (start : List Char) : Option (List Char) :=
  match (scan (csv 10) start).fields with
  | [_, _, _, _, _, _, _, .str rscp, _, _] => some rscp
  | _ => none

/-- One line of the answer to `at+qeng="servingcell"`; the value so far is `ret`. -/
def servingcellLine (ret : Ret) (line : List Char) : Op Ret :=
  match strstr "WCDMA".toList line with
  | some start =>
    if (rscpOf start).any (within 1 96) then do
      setString "netera" "3G".toList
      setString "nettype" "WCDMA".toList
      pure .succeed
    else pure ret
  | none =>
    match cellOf line with
    | some cell => setCell cell ret
    | none => pure ret

/-- `ne16u_servingcell`. -/
def servingcell : Op Ret := do
  let r ← tx (.set .qeng [.quoted "servingcell"])
  if r.ret ≠ .succeed then pure r.ret
  else (lines r.ack).foldlM servingcellLine .failed

/-- The registration part of `_at_watch`. -/
def checkReg5g (k : Op Boole) : Op Boole :=
  check (usbtty .creg) fun _ =>
  check (usbtty .cereg) fun _ =>
  check (usbtty .cgreg) fun _ =>
  check (usbtty .c5greg) fun i => do
    setPlmn i
    k

/-- `_at_watch`. -/
def atWatch (cfg : Option Talk) : Op Boole := do
  deleteAll ["plmn", "rssi", "signal"]
  checkSim (usbtty .ccid) (jsonString cfg "lock_pin") do
  deleteAll ["csq", "rsrp", "rsrq", "sinr", "band", "netera", "nettype", "rsrp2", "rsrq2",
    "sinr2", "band2", "nettype2"]
  check servingcell fun _ =>
  check qnwinfo fun _ =>
  checkReg5g <|
  checkCops <|
  checkMissingCsq rssiOf do
  rsrpSignal
  pure .ttrue

/-! ## The connection -/

/-- `_at_connect`. -/
def atConnect (cfg : Talk) : Op Boole :=
  let profile := jsonValue cfg "profile_cfg"
  check (setProfileset profile) fun _ => do
  let i ← txRet (.set .qnetdevctl [.raw (cidOf profile), .raw "1", .raw "1"])
  if i = .error then pure .terror
  else if i = .succeed then pure .tfalse
  else pure .ttrue

/-- `ne16u_qnetdevstatus`; an answer with `ERROR` in it gives `succeed` as well. -/
def qnetdevstatus (cid : String) : Op Ret := do
  let r ← tx (.set .qnetdevstatus [.raw cid])
  if r.ret ≠ .succeed then pure r.ret
  else if contains "ERROR" r.ack then pure .succeed
  else pure r.ret

/-- `_at_connected`. -/
def atConnected (cfg : Talk) : Op Boole :=
  require (qnetdevstatus (cidOf (jsonValue cfg "profile_cfg"))) <|
  pure .ttrue

/-- `_at_disconnect`. -/
def atDisconnect (cfg : Talk) : Op Boole :=
  require (txRet (.set .qnetdevctl [.raw (cidOf (jsonValue cfg "profile_cfg")), .raw "0"])) <|
  pure .ttrue

end Tiger.Model.Ne16u
