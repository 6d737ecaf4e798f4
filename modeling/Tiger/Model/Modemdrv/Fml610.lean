import Tiger.Model.Modemdrv.Common

/-!
# The driver of the FML610

The operations of `modemdrv/fml610`. `_at_watch` takes the kind of network from the
answer to `AT+COPS?` and reads the strength from the answer to `AT+CESQ` by it.
-/

set_option autoImplicit false

namespace Tiger.Model.Fml610

open Tiger.Library

/-! ## Settings -/

/-- The value of `AT+GTRAT` a network mode stands for. -/
def nettype (netmode : Option String) : String :=
  match modeLetter netmode with
  | '2' | 'g' | 'c' => "0"
  | '3' | 'w' | 't' | 'e' => "2"
  | '4' | 'l' => "3"
  | _ => "10"

/-- The arguments `AT+GTRAT` is written with. -/
def nettypeArgs (netmode : Option String) : List Arg :=
  if nettype netmode = "10" then [.raw "10", .raw "3", .raw "0"] else [.raw (nettype netmode)]

/-- `fm610_lock_nettype`. -/
def lockNettype (netmode : Option String) : Op Ret := do
  let r ← tx (.read .gtrat)
  if r.ret ≠ .succeed then pure r.ret
  else if (scanInt ':' r.ack).getD (-1) ≠ atoi (nettype netmode) then
    txRet (.set .gtrat (nettypeArgs netmode))
  else pure .failed

/-- The ip type of a profile. -/
def iptype (profile : Option Talk) : String :=
  match jsonString profile "type" with
  | none => "1"
  | some type => if strcasecmp type "ipv4v6" || strcasecmp type "ipv6" then "2" else "1"

/-- The authentication command of `fm610_set_profileset`. -/
def mgauth (cid : String) (login : Login) : Command :=
  if login.auth = "0" then .set .mgauth [.raw cid, .raw login.auth]
  else
    .set .mgauth [.raw cid, .raw login.auth, .quoted (orEmpty login.user),
      .quoted (orEmpty login.pass)]

/-- `fm610_set_profileset`. -/
def setProfileset (profile : Option Talk) : Op Ret :=
  relay (txRet (mgauth (cidOf profile) (loginOf profile))) fun i =>
  setContexts profile (some (iptype profile)) (counted .failed i)

/-- `_at_setting`. -/
def atSetting (cfg : Talk) : Op Boole :=
  check (lockNettype (jsonString cfg "lock_nettype")) fun i =>
  checkProfile setProfileset (jsonValue cfg "profile_cfg") (restart .ttrue i) fun ret =>
  checkModes [.copsformat, .cregmode, .ceregmode, .cgregmode] ret

/-! ## Switching on and off -/

/-- What follows the loop of `_at_setup`. -/
def setupEnd : Op Boole :=
  check (txRet (.set .gtrndis [.raw "0", .raw "1"])) fun _ =>
  check (usbtty .cgsn) fun _ =>
  check (usbtty .cgmr) fun _ =>
  pure .ttrue

/-- `_at_setup`. -/
def atSetup : Op Boole :=
  require (usbtty .setup) <|
  require (usbtty .cfun1) <|
  rounds (modeRound (.read .gtusbmode) (.set .gtusbmode [.raw "32"]) "GTUSBMODE:" ':' 32
    fun _ => pure .terror) setupEnd 10 0

/-- `_at_off`. -/
def atOff : Op Boole :=
  check (usbtty .cfun0) fun _ =>
  pure .ttrue

/-- `_at_shut`. -/
def atShut : Op Boole :=
  check (txRet (.exec .cpwroff)) fun _ =>
  pure .ttrue

/-! ## Watching -/

/-- The network an answer to `AT+COPS?` names in quotes, and what stands behind it. -/
def copsPlmn (ack : List Char) : Option (List Char × List Char) :=
  match ack.dropWhile (· ≠ '"') with
  | [] => none
  | _ :: ptr =>
    match ptr.dropWhile (· ≠ '"') with
    | [] => none
    | _ :: type => some (ptr.takeWhile (· ≠ '"'), type)

/-- The kind of network a number behind the name stands for. -/
def copsNettype (type : List Char) : Option String :=
  match type.dropWhile (! ·.isDigit) with
  | [] => none
  | digits =>
    let i := strtol 32 digits
    if i = 0 ∨ i = 1 ∨ i = 3 then some "GSM"
    else if i = 2 ∨ i = 4 ∨ i = 5 ∨ i = 6 then some "HSPA"
    else if i = 7 ∨ i = 8 ∨ i = 9 then some "LTE"
    else none

/-- `fm610_cops`. -/
def cops : Op Ret := do
  let r ← tx (.read .cops)
  if r.ret ≠ .succeed then pure r.ret
  else
    match copsPlmn r.ack with
    | none => pure .failed
    | some (plmn, type) => do
      onlyIf (5 ≤ plmn.length) (setString "plmn" plmn)
      setGiven "nettype" ((copsNettype type).map String.toList)
      pure (if 5 ≤ plmn.length then .succeed else .failed)

/-- The network is one of the second generation. -/
def isGsm (nettype : Option String) : Bool := nettype.any (contains "GSM" ·.toList)

/-- The network is one of the third generation. -/
def isUmts (nettype : Option String) : Bool :=
  nettype.any fun nettype =>
    ["3G", "HSDPA", "HSUPA", "HSPA"].any (contains · nettype.toList)

/-- Record the strengths of a network of the second or third generation: `csq` and `rssi`. -/
def setOldCsq (lim off v : ℤ) : Op Ret :=
  if 0 < v ∧ v ≤ lim then do
    setNumber "csq" v
    onlyIf (v - off ≠ 0) (setNumber "rssi" (v - off))
    pure .succeed
  else pure .failed

/-- Record the strengths of a network of the fourth generation. -/
def setLte (c : Cesq) : Op Ret := do
  onlyIf (0 < c.rsrp ∧ c.rsrp ≤ 97) (setNumber "rsrp" (c.rsrp - 140))
  onlyIf (0 < c.rsrq ∧ c.rsrq ≤ 34) (setNumber "rsrq" (-19 + c.rsrq * 5 / 10))
  onlyIf (0 < c.rsrp ∧ c.rsrp ≤ 97) (setNumber "rssi" (c.rsrp - 140))
  pure (if 0 < c.rsrp ∧ c.rsrp ≤ 97 then .succeed else .failed)

/-- `fm610_cesq`. -/
def cesq : Op Ret := do
  let r ← tx (.exec .cesq)
  if r.ret ≠ .succeed then pure r.ret
  else
    match cesqOf r.ack with
    | none => pure .failed
    | some c => do
      let nettype ← Script.get "nettype"
      if isGsm nettype then setOldCsq 63 111 c.rxlev
      else if isUmts nettype then setOldCsq 96 121 c.rscp
      else setLte c

/-- The strength a `csq` stands for. -/
def rssiOf (csq : ℤ) : Option ℤ := if 0 < csq ∧ csq ≤ 31 then some (csq * 2 - 113) else none

/-- `_at_watch`. -/
def atWatch (cfg : Option Talk) : Op Boole := do
  deleteAll ["plmn", "rssi", "signal"]
  checkSim (usbtty .ccid) (jsonString cfg "lock_pin") do
  deleteAll ["csq", "rsrp", "nettype"]
  check cops fun _ =>
  check cesq fun _ =>
  checkReg <|
  checkMissingCsq rssiOf do
  rsrpSignal
  pure .ttrue

/-! ## The connection -/

/-- `_at_connect`. -/
def atConnect (cfg : Talk) : Op Boole :=
  let profile := jsonValue cfg "profile_cfg"
  check (setProfileset profile) fun _ =>
  check (txRet (.set .gtrndis [.raw "1", .raw (cidOf profile)])) fun _ =>
  pure .ttrue

/-- `fm610_gtrndis`. -/
def gtrndis : Op Ret := do
  let r ← tx (.read .gtrndis)
  if r.ret ≠ .succeed then pure r.ret
  else if scanIntAfter "GTRNDIS:" ':' r.ack = some 1 then pure .succeed
  else pure .failed

/-- `_at_connected`. -/
def atConnected : Op Boole :=
  require gtrndis <|
  pure .ttrue

/-- `_at_disconnect`. -/
def atDisconnect : Op Boole :=
  check (txRet (.set .gtrndis [.raw "0", .raw "1"])) fun _ =>
  pure .ttrue

end Tiger.Model.Fml610
