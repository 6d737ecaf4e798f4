import Tiger.Model.Modemdrv.Common

/-!
# The driver of the Quectel EC200X

The operations of `modemdrv/ec200x`. `_at_setup` looks at the mode of the network card
up to ten times, and `_at_connect` asks up to three times for an address when the modem
refused to dial.
-/

set_option autoImplicit false

namespace Tiger.Model.Ec200x

open Tiger.Library

/-! ## Settings -/

/-- The value of `nwscanmode` a network mode stands for. -/
def nettype (netmode : Option String) : String :=
  match modeLetter netmode with
  | '2' | 'g' => "1"
  | 'c' => "6"
  | 't' => "4"
  | 'e' => "7"
  | '3' | 'w' => "2"
  | '4' | 'l' => "3"
  | _ => "0"

/-- `ec200x_lock_nettype`. -/
def lockNettype (netmode : Option String) : Op Ret := do
  let r ← tx (.set .qcfg [.quoted "nwscanmode"])
  if r.ret ≠ .succeed then pure r.ret
  else
    match scanInt ',' r.ack with
    | none => pure .failed
    | some type =>
      if type ≠ atoi (nettype netmode) then
        txRet (.set .qcfg [.quoted "nwscanmode", .raw (nettype netmode), .raw "1"])
      else pure .failed

/-- `ec200x_lock_band`. -/
def lockBand (unescape : Unescape) (band : Option String) : Op Ret :=
  blindLock unescape band fun text => .set .qcfg [.quoted "band", .raw text]

/-- `ec200x_lock_cell`. -/
def lockCell (unescape : Unescape) (cell : Option String) : Op Ret :=
  blindLock unescape cell fun text => .set .qnwlock [.quoted "common/4g", .raw text]

/-- The ip type of a profile. -/
def iptype (profile : Option Talk) : String :=
  match jsonString profile "type" with
  | none => "1"
  | some type =>
    if strcasecmp type "ipv6" then "2" else if strcasecmp type "ipv4v6" then "3" else "1"

/-- `ec200x_set_profileset`; `ec200x_qicsgp` is `qicsgp`. -/
def setProfileset (profile : Option Talk) : Op Ret :=
  relay (qicsgp (cidOf profile) (iptype profile) (jsonString profile "apn")
    (loginOf profile)) fun i =>
  setContexts profile (some (iptype profile)) (counted .failed i)

/-- `_at_setting`. -/
def atSetting (unescape : Unescape) (cfg : Talk) : Op Boole :=
  check (lockNettype (jsonString cfg "lock_nettype")) fun i =>
  check (lockBand unescape (jsonString cfg "lock_band")) fun _ =>
  check (lockCell unescape (jsonString cfg "lock_cell")) fun _ =>
  checkProfile setProfileset (jsonValue cfg "profile_cfg") (restart .ttrue i) fun ret =>
  checkModes [.copsformat, .cregmode, .ceregmode, .cgregmode] ret

/-! ## Switching on and off -/

/-- `_at_setup`. -/
def atSetup : Op Boole :=
  require (usbtty .setup) <|
  require (usbtty .cfun1) <|
  rounds (fun t next leave => qcfgRound "nat" "1" leave t next leave) (
    check (usbtty .cgsn) fun _ =>
    pure .ttrue) 10 0

/-- `_at_off`. -/
def atOff : Op Boole :=
  check (usbtty .cfun0) fun _ =>
  pure .ttrue

/-- `_at_shut`. -/
def atShut : Op Boole :=
  check (txRet (.exec .qpowd)) fun _ =>
  pure .ttrue

/-! ## Watching -/

/-- One line of the answer to `AT+QNWINFO`; the value so far is `ret`. -/
def qnwinfoLine (ret : Ret) (line : List Char) : Op Ret :=
  match sysmodeOf line with
  | none => pure ret
  | some sysmode =>
    if namesNetwork sysmode then do
      setNetwork "band" "nettype" sysmode line
      pure .succeed
    else pure ret

/-- `ec200x_qnwinfo`. -/
def qnwinfo : Op Ret := do
  let r ← tx (.exec .qnwinfo)
  if r.ret ≠ .succeed then pure r.ret
  else (lines r.ack).foldlM qnwinfoLine .failed

/-- `_at_watch`. -/
def atWatch (cfg : Option Talk) : Op Boole := do
  deleteAll ["plmn", "rssi", "signal"]
  checkSim (usbtty .ccid) (jsonString cfg "lock_pin") do
  deleteAll ["band", "nettype"]
  check qnwinfo fun _ =>
  checkCops <|
  checkReg do
  deleteAll ["csq"]
  checkCsq fun csq => do
  setCsq csq
  rssiSignal
  pure .ttrue

/-! ## The connection -/

/-- A round of the loop in `_at_connect`. -/
def dialRound (dial : Op Boole) (_ : ℕ) (next _ : Op Boole) : Op Boole :=
  check (txRet (.read .qiact)) fun _ => do
  let r ← tx .rx
  if r.ret = .succeed && contains "." r.ack then dial else next

/-- `_at_connect`. -/
def atConnect (cfg : Talk) : Op Boole :=
  let profile := jsonValue cfg "profile_cfg"
  let dial : Op Boole :=
    require (txRet (.set .qnetdevctl [.raw "1", .raw (cidOf profile), .raw "1"])) <|
    pure .ttrue
  check (setProfileset profile) fun _ =>
  check (txRet (.set .qiact [.raw (cidOf profile)])) fun i =>
  if i ≠ .succeed then rounds (dialRound dial) (pure .tfalse) 3 0 else dial

/-- What the modem sends behind `AT+QIACT?` has an address, of four groups or of eight. -/
def addressed (ack : List Char) : Bool :=
  contains "." ack || (strstr ['"'] ack).any (contains ":")

/-- `_at_connected`. -/
def atConnected : Op Boole :=
  check (txRet (.read .qiact)) fun _ => do
  let r ← tx .rx
  if r.ret = .succeed && addressed r.ack then pure .ttrue else pure .tfalse

/-- `_at_disconnect`. -/
def atDisconnect : Op Boole :=
  check (txRet (.set .qideact [.raw "1"])) fun _ =>
  pure .ttrue

end Tiger.Model.Ec200x
