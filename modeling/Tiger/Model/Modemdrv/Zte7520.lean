import Tiger.Model.Modemdrv.Common

/-!
# The driver of the ZTE 7520

The operations of `modemdrv/zte7520`. `AT+CGACT` and `AT+ZGACT` take the state and then
the context; `_at_connect` writes them the other way round.
-/

set_option autoImplicit false

namespace Tiger.Model.Zte7520

open Tiger.Library

/-! ## Settings -/

/-- The value of `AT^SYSCONFIG` a network mode stands for. -/
def nettype (netmode : Option String) : String :=
  match modeLetter netmode with
  | '2' | 'g' => "13"
  | 'c' | 't' => "15"
  | 'e' | '3' | 'w' => "14"
  | '4' | 'l' => "17"
  | _ => "2"

/-- The network mode an answer to `AT^SYSCONFIG?` gives, when it has all four numbers. -/
def sysconfigOf (ack : List Char) : Option ℤ :=
  match (strstr "SYSCONFIG:".toList ack).map fun ptr =>
    (scan [.skip ':', .lit ':', .int, .lit ',', .int, .lit ',', .int, .lit ',', .int]
      ptr).fields with
  | some [.num type, .num _, .num _, .num _] => some type
  | _ => none

/-- `zte7520_sysconfig`. What `atcmd_rx` returns is not looked at. -/
def sysconfig (netmode : Option String) : Op Ret := do
  let r ← tx (.read .sysconfig)
  if r.ret ≠ .succeed then pure r.ret
  else do
    let recv ← tx .rx
    match sysconfigOf recv.ack with
    | none => pure .failed
    | some type =>
      if type ≠ atoi (nettype netmode) then
        txRet (.set .sysconfig [.raw (nettype netmode), .raw "0", .raw "1", .raw "2"])
      else pure .failed

/-- The byte and the bit a band stands for, from band 1 on. -/
def bandBit (i : ℕ) : ℕ × ℕ :=
  if i ≥ 57 then (7, i - 57) else ((i - 1) / 8, (i - 1) % 8)

/-- `1 << n` in a byte. -/
def byteBit (n : ℕ) : ℕ := if n < 8 then 2 ^ n else 0

/-- The eight bytes with the bits of the bands, and whether there is one at all. -/
def bandMask (bands : List String) : List ℕ × Bool :=
  bands.foldl (fun mask tok =>
    let i := (atoi tok).toNat
    if i = 0 then mask
    else
      (mask.1.modify (bandBit i).1 (· ||| byteBit (bandBit i).2), true))
    ([0, 0, 0, 0, 0, 0, 0, 0], false)

/-- `zte7520_band`. A text of `LINE_MAX-1` characters or more fills the buffer, and `strncpy` then
leaves it without an end; what the loop reads behind it is not modelled here
(`Tiger.Model.Buffers` has such buffers). -/
def band (bandsets : Option String) : Op Ret :=
  match bandsets with
  | none => pure .failed
  | some s =>
    let mask := bandMask (tokSegments ',' s)
    let buffer := ",".intercalate (mask.1.map toString)
    if mask.2 then do
      let r ← tx (.read .zlteband)
      if r.ret = .succeed && ! contains buffer r.ack then
        txRet (.set .zlteband [.raw buffer])
      else pure r.ret
    else pure .failed

/-- `zte7520_set_profileset`. -/
def setProfileset (profile : Option Talk) : Op Ret :=
  let login := loginOf profile
  relay (txRet (.set .zgpcoauth [.raw (cidOf profile), .quoted (orEmpty login.user),
    .quoted (orEmpty login.pass), .raw login.auth])) fun _ =>
  setContexts profile (jsonString profile "type") .failed

/-- `_at_setting`. -/
def atSetting (cfg : Talk) : Op Boole :=
  check (txRet (.set .zgact [.raw "0", .raw "1"])) fun _ =>
  check (txRet (.set .cgact [.raw "0", .raw "1"])) fun _ =>
  check (sysconfig (jsonString cfg "lock_nettype")) fun i =>
  check (band (jsonString cfg "lock_band")) fun _ =>
  checkProfile setProfileset (jsonValue cfg "profile_cfg") (restart .ttrue i) fun ret =>
  checkModes [.copsformat, .cregmode, .ceregmode, .cgregmode] ret

/-! ## Switching on and off -/

/-- A mode of the network card that is written when it is not `wanted`; the driver then asks
for a reset, whatever comes back. -/
def checkCard (name : AtName) (wanted : String) (k : Op Boole) : Op Boole := do
  let r ← tx (.read name)
  check (pure r.ret) fun i =>
  match (if i = .succeed then scanInt ':' r.ack else none) with
  | none => k
  | some mode =>
    if mode ≠ atoi wanted then do
      let _ ← tx (.set name [.raw wanted])
      pure .terror
    else k

/-- `_at_setup`. -/
def atSetup : Op Boole :=
  let imei : Op Boole :=
    check (usbtty .cgsn) fun _ =>
    pure .ttrue
  require (usbtty .setup) <|
  check (txRet (.set .znetcardtype [.raw "1"])) fun _ =>
  require (usbtty .cfun1) do
  let r ← tx (.exec .cgmm)
  check (pure r.ret) fun _ =>
  if contains "7810" r.ack then do
    setString "name" "THINKWILL-ML7810".toList
    checkCard .zncard "1" imei
  else checkCard .zlanenable "0" imei

/-- `_at_off`. -/
def atOff : Op Boole :=
  check (usbtty .cfun0) fun _ =>
  pure .ttrue

/-- `_at_shut`. -/
def atShut : Op Boole := atOff

/-! ## Watching -/

/-- Record the number of the card. -/
def setIccid (ack : List Char) : Op Ret :=
  match (scan [.skip ':', .lit ':', .word] ack).fields with
  | [.str iccid] => do
    setString "iccid" iccid
    pure .succeed
  | _ => pure .failed

/-- `zte7520_ccid`. -/
def ccid : Op Ret := do
  let r ← tx (.read .ziccid)
  relay (pure r.ret) fun i =>
  if i ≠ .succeed then do
    let r ← tx (.exec .ziccid)
    if r.ret ≠ .succeed then pure r.ret else setIccid r.ack
  else setIccid r.ack

/-- `zte7520_cesq`. -/
def cesq : Op Ret := do
  let r ← tx (.exec .cesq)
  if r.ret ≠ .succeed then pure r.ret
  else
    match cesqOf r.ack with
    | none => pure .failed
    | some c => do
      onlyIf (0 < c.rsrp ∧ c.rsrp ≤ 97) (setNumber "rsrp" (c.rsrp - 140))
      onlyIf (0 < c.rsrq ∧ c.rsrq ≤ 34) (setNumber "rsrq" (-19 + c.rsrq * 5 / 10))
      pure .succeed

/-- `_at_watch`. -/
def atWatch (cfg : Option Talk) : Op Boole := do
  deleteAll ["plmn", "rssi", "signal"]
  checkSim ccid (jsonString cfg "lock_pin") do
  deleteAll ["rsrp", "rsrq", "nettype"]
  check sysinfo fun _ =>
  check cesq fun _ =>
  check (usbtty .cops) fun _ =>
  checkReg <|
  checkZemsciq do
  deleteAll ["csq"]
  checkCsq fun csq => do
  setCsq csq
  rssiSignal
  pure .ttrue

/-! ## The connection -/

/-- `_at_connect`. -/
def atConnect (cfg : Talk) : Op Boole :=
  let profile := jsonValue cfg "profile_cfg"
  check (setProfileset profile) fun _ =>
  require (txRet (.set .cgact [.raw (cidOf profile), .raw "1"])) <|
  require (txRet (.set .zgact [.raw (cidOf profile), .raw "1"])) <|
  pure .ttrue

/-- `zte7520_zgact`. -/
def zgact : Op Ret := do
  let r ← tx (.read .zgact)
  if r.ret ≠ .succeed then pure r.ret
  else if contains "1,1" r.ack then pure .succeed
  else pure .failed

/-- `_at_connected`. -/
def atConnected : Op Boole :=
  require zgact <|
  pure .ttrue

/-- `_at_disconnect`. -/
def atDisconnect : Op Boole :=
  check (txRet (.set .zgact [.raw "0", .raw "1"])) fun _ =>
  check (txRet (.set .cgact [.raw "0", .raw "1"])) fun _ =>
  pure .ttrue

/-- `_at_dial`. -/
def atDial : Op Boole := atDisconnect

end Tiger.Model.Zte7520
