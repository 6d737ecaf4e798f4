import Tiger.Model.Modemdrv.Common

/-!
# The driver of the Huawei MU609

The operations of `modemdrv/mu609`, an older relative of the driver of the EM350: it
writes no authentication with the profile and asks for the connection in two ways.
-/

set_option autoImplicit false

namespace Tiger.Model.Mu609

open Tiger.Library

/-- `em350_set_profileset`, as this driver has it. -/
def setProfileset (profile : Option Talk) : Op Ret :=
  setContexts profile (jsonString profile "type") .failed

/-- `_at_setting`. -/
def atSetting (cfg : Talk) : Op Boole :=
  checkProfile setProfileset (jsonValue cfg "profile_cfg") .ttrue fun ret =>
  checkModes [.copsformat, .cregmode, .cgregmode] ret

/-- `_at_setup`. -/
def atSetup : Op Boole :=
  require (usbtty .setup) <|
  require (usbtty .cfun1) <|
  check (txRet (.set .ndisdup [.raw "1", .raw "0"])) fun _ =>
  check (usbtty .cgsn) fun _ =>
  pure .ttrue

/-- `_at_off`. -/
def atOff : Op Boole :=
  check (usbtty .cfun0) fun _ =>
  pure .ttrue

/-- `_at_shut`. -/
def atShut : Op Boole :=
  check (txRet (.exec .reset)) fun _ =>
  pure .ttrue

/-- `_at_watch`. -/
def atWatch (cfg : Option Talk) : Op Boole := do
  deleteAll ["plmn", "rssi", "signal"]
  checkSim (iccid 3 .failed) (jsonString cfg "lock_pin") do
  deleteAll ["nettype"]
  check (sysinfoex fun ack => (sysinfoexType ack).numD) fun _ =>
  check (usbtty .cops) fun _ =>
  checkReg do
  deleteAll ["csq"]
  checkCsq fun csq => do
  setCsq csq
  rssiSignal
  pure .ttrue

/-- The command `_at_connect` dials with. -/
def dial (profile : Option Talk) : Command :=
  let login := loginOf profile
  .set .ndisdup [.raw (cidOf profile), .raw "1", .quoted (orEmpty (jsonString profile "apn")),
    .quoted (orEmpty login.user), .quoted (orEmpty login.pass), .raw login.auth]

/-- `_at_connect`. -/
def atConnect (cfg : Talk) : Op Boole :=
  let profile := jsonValue cfg "profile_cfg"
  check (setProfileset profile) fun _ =>
  require (txRet (dial profile)) <|
  pure .ttrue

/-- `_at_connected`. Only a port error of the first question ends it. -/
def atConnected (cfg : Talk) : Op Boole := do
  let i ← ndisstatqry
  if i = .error then pure .terror
  else
    let ret : Boole := if i = .succeed then .ttrue else .tfalse
    check (cgpaddr (cidOf (jsonValue cfg "profile_cfg"))) fun i =>
    pure (if i = .succeed then .ttrue else ret)

/-- `_at_disconnect`. -/
def atDisconnect : Op Boole :=
  check (txRet (.set .ndisdup [.raw "1", .raw "0"])) fun _ =>
  pure .ttrue

end Tiger.Model.Mu609
