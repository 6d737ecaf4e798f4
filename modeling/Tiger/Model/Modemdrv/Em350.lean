import Tiger.Model.Modemdrv.Common

/-!
# The driver of the Huawei EM350

The operations of `modemdrv/em350`. `_at_connected` asks in three ways; each of them may
find the connection, and none of them takes the finding of another back.
-/

set_option autoImplicit false

namespace Tiger.Model.Em350

open Tiger.Library

/-- `em350_set_profileset`. Only a port error of `AT^AUTHDATA` is looked at. -/
def setProfileset (profile : Option Talk) : Op Ret := do
  let login := loginOf profile
  let i ← txRet (.set .authdata [.raw (cidOf profile), .raw login.auth, .quoted "",
    .quoted (orEmpty login.user), .quoted (orEmpty login.pass)])
  if i = .error then pure .error
  else setContexts profile (jsonString profile "type") .failed

/-- `_at_setting`. -/
def atSetting (cfg : Talk) : Op Boole :=
  checkProfile setProfileset (jsonValue cfg "profile_cfg") .ttrue fun ret =>
  checkModes [.copsformat, .cregmode, .ceregmode, .cgregmode] ret

/-- `_at_setup`. -/
def atSetup : Op Boole :=
  require (usbtty .setup) <|
  require (usbtty .cfun1) <|
  check (txRet (.set .ndisdup [.raw "1", .raw "0"])) fun _ =>
  check (usbtty .cgsn) fun _ =>
  pure .ttrue

/-- `_at_off`. -/
def atOff : Op Boole :=
  check (usbtty .cfun0) fun _ =>
  pure .ttrue

/-- `_at_shut`. -/
def atShut : Op Boole :=
  check (txRet (.exec .reset)) fun _ =>
  pure .ttrue

/-- The number of `AT^SYSINFOEX`, where the field in front of it may be empty. -/
def sysinfoexTypeOf (ack : List Char) : ℤ :=
  if (sysinfoexType ack).count = 0 then
    (scan (skipFields 4 ++ [.lit ',', .int]) ack).numD
  else (sysinfoexType ack).numD

/-- `_at_watch`. -/
def atWatch (cfg : Option Talk) : Op Boole := do
  deleteAll ["plmn", "rssi", "signal"]
  checkSim (iccid 3 .failed) (jsonString cfg "lock_pin") do
  deleteAll ["nettype"]
  check (sysinfoex sysinfoexTypeOf) fun _ =>
  check (usbtty .cops) fun _ =>
  checkReg do
  deleteAll ["csq"]
  checkCsq fun csq => do
  setCsq csq
  rssiSignal
  pure .ttrue

/-- The command `_at_connect` dials with. -/
def dial (profile : Option Talk) : Command :=
  let login := loginOf profile
  let apn := orEmpty (jsonString profile "apn")
  if login.auth = "0" then .set .ndisdup [.raw (cidOf profile), .raw "1", .quoted apn]
  else
    .set .ndisdup [.raw (cidOf profile), .raw "1", .quoted apn, .quoted (orEmpty login.user),
      .quoted (orEmpty login.pass), .raw login.auth]

/-- `_at_connect`. -/
def atConnect (cfg : Talk) : Op Boole :=
  let profile := jsonValue cfg "profile_cfg"
  check (setProfileset profile) fun _ =>
  require (txRet (dial profile)) <|
  pure .ttrue

/-- The address and the mask in the answer to `AT+CGCONTRDP=..`: the fourth field, without
its first quote and what stands from the second one on. -/
def cgcontrdpOf (ack : List Char) : Option (List Char) :=
  match (strstr "CGCONTRDP:".toList ack).map fun str =>
    (scan [.field ',', .lit ',', .field ',', .lit ',', .field ',', .lit ',', .field ',']
      str).fields with
  | some [.str _, .str _, .str _, .str sipmask] =>
    if contains "0.0.0.0" sipmask then none else some (sipmask.tail.takeWhile (· ≠ '"'))
  | _ => none

/-- `"%d.%d.%d.%d.%d.%d.%d.%d"` finds all eight numbers. -/
def eightGroups (s : List Char) : Bool :=
  (scan [.int, .lit '.', .int, .lit '.', .int, .lit '.', .int, .lit '.', .int, .lit '.', .int,
    .lit '.', .int, .lit '.', .int] s).fields.length = 8

/-- What `em350_cgcontrdp` writes into the buffers it is given, and whether it succeeds. -/
structure Contract where
  succeeds : Bool
  ip : Option String
  mask : Option String
  gw : Option String
  dns : Option String
  dns2 : Option String
deriving DecidableEq

/-- Nothing is written. -/
def noContract : Contract := ⟨false, none, none, none, none, none⟩

/-- `"%[^,],%[^,],.."` with `n` fields, each with a comma behind it. -/
def commaFields (n : ℕ) : List Directive :=
  (List.replicate n [Directive.field ',', .lit ',']).flatten

/-- The fields of the first of the four patterns that matches. -/
def contractFields (str : List Char) : Option (List Field) :=
  [7, 6, 5, 4].findSome? fun n =>
    let fields := (scan (commaFields n) str).fields
    if fields.length = n then some fields else none

/-- A field without its first quote and what stands from the second one on. -/
def innerText : Field → String
  | .str s => String.ofList (s.tail.takeWhile (· ≠ '"'))
  | .num _ => ""

/-- `sprintf( .., "%d.%d.%d.%d", .. )`. -/
def dotted (a b c d : ℤ) : String :=
  toString a ++ "." ++ toString b ++ "." ++ toString c ++ "." ++ toString d

/-- `"%d.%d.%d.%d.%d.%d.%d.%d"`. -/
def groupsFormat : List Directive :=
  [.int, .lit '.', .int, .lit '.', .int, .lit '.', .int, .lit '.', .int, .lit '.', .int,
    .lit '.', .int, .lit '.', .int]

/-- The address and the mask, when all eight numbers are there. -/
def addressAndMask (s : String) : Option (String × String) :=
  match (scan groupsFormat s.toList).fields with
  | [.num p1, .num p2, .num p3, .num p4, .num p5, .num p6, .num p7, .num p8] =>
    some (dotted p1 p2 p3 p4, dotted p5 p6 p7 p8)
  | _ => none

/-- What is read in the answer to `AT+CGCONTRDP=..`. The gateway and the servers are written
also where the address is not found. -/
def contractOf (ack : List Char) : Contract :=
  match (strstr "CGCONTRDP:".toList ack).bind contractFields with
  | some (_ :: _ :: _ :: .str sipmask :: more) =>
    if contains "0.0.0.0" sipmask then noContract
    else
      let found := addressAndMask (innerText (.str sipmask))
      ⟨found.isSome, found.map Prod.fst, found.map Prod.snd, more[0]?.map innerText,
        more[1]?.map innerText, more[2]?.map innerText⟩
  | _ => noContract

/-- `em350_cgcontrdp`. -/
def cgcontrdp (cid : String) : Op Ret := do
  let r ← tx (.set .cgcontrdp [.raw cid])
  if r.ret ≠ .succeed then pure r.ret
  else if (cgcontrdpOf r.ack).any eightGroups then pure .succeed
  else pure .failed

/-- `_at_connected`. Only a port error of the first question ends it. -/
def atConnected (cfg : Talk) : Op Boole := do
  let cid := cidOf (jsonValue cfg "profile_cfg")
  let i ← ndisstatqry
  if i = .error then pure .terror
  else
    let ret : Boole := if i = .succeed then .ttrue else .tfalse
    check (cgpaddr cid) fun i =>
    let ret : Boole := if i = .succeed then .ttrue else ret
    check (cgcontrdp cid) fun i =>
    pure (if i = .succeed then .ttrue else ret)

/-- `_at_disconnect`. -/
def atDisconnect : Op Boole :=
  check (txRet (.set .ndisdup [.raw "1", .raw "0"])) fun _ =>
  pure .ttrue

end Tiger.Model.Em350
