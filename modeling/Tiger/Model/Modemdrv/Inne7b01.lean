import Tiger.Model.Modemdrv.Common

/-!
# The driver of the INNE7B01

The operations of `modemdrv/inne7b01`, a relative of the driver of the ZTE 7520.
-/

set_option autoImplicit false

namespace Tiger.Model.Inne7b01

open Tiger.Library

/-- `innofidei_set_profileset`. -/
def setProfileset (profile : Option Talk) : Op Ret :=
  let login := loginOf profile
  relay (txRet (.set .zgpcoauth [.raw (cidOf profile), .quoted (orEmpty login.user),
    .quoted (orEmpty login.pass), .raw login.auth])) fun _ =>
  setContexts profile (jsonString profile "type") .failed

/-- `_at_setting`. -/
def atSetting (cfg : Talk) : Op Boole :=
  check (txRet (.set .zgact [.raw "0", .raw "1"])) fun _ =>
  check (txRet (.set .cgact [.raw "0", .raw "1"])) fun _ =>
  checkProfile setProfileset (jsonValue cfg "profile_cfg") .ttrue fun ret =>
  checkModes [.copsformat, .cregmode, .ceregmode, .cgregmode] ret

/-- `_at_setup`. -/
def atSetup : Op Boole :=
  require (usbtty .setup) <|
  require (usbtty .cfun1) <|
  check (usbtty .cgsn) fun _ =>
  pure .ttrue

/-- `_at_off`. -/
def atOff : Op Boole :=
  check (usbtty .cfun0) fun _ =>
  pure .ttrue

/-- `_at_shut`. -/
def atShut : Op Boole :=
  check (txRet (.set .scfg [.raw "armsleepingmode", .raw "0"])) fun _ =>
  pure .ttrue

/-- `_at_watch`; `innofidei_sysinfo` is `sysinfo`. -/
def atWatch (cfg : Option Talk) : Op Boole := do
  deleteAll ["plmn", "rssi", "signal"]
  checkSim (usbtty .ccid) (jsonString cfg "lock_pin") do
  deleteAll ["rsrp", "rsrq", "nettype"]
  check sysinfo fun _ =>
  check (usbtty .cops) fun _ =>
  checkReg <|
  checkZemsciq do
  deleteAll ["csq"]
  checkCsq fun csq => do
  setCsq csq
  rssiSignal
  pure .ttrue

/-- `_at_connect`. -/
def atConnect (cfg : Talk) : Op Boole :=
  let profile := jsonValue cfg "profile_cfg"
  check (setProfileset profile) fun _ =>
  require (txRet (.set .cgact [.raw (cidOf profile), .raw "1"])) <|
  require (txRet (.set .dhcpctrl [.raw "1"])) <|
  pure .ttrue

/-- `innofidei_cgpaddr`. -/
def cgpaddr : Op Ret := do
  let r ← tx (.exec .cgpaddr)
  if r.ret ≠ .succeed then pure r.ret
  else if scanInt ':' r.ack = some 1 then pure .succeed
  else pure .failed

/-- `_at_connected`. -/
def atConnected : Op Boole :=
  require cgpaddr <|
  pure .ttrue

/-- `_at_disconnect`. -/
def atDisconnect : Op Boole :=
  check (txRet (.set .zgact [.raw "0", .raw "1"])) fun _ =>
  pure .ttrue

/-- `_at_dial`. -/
def atDial : Op Boole := atDisconnect

end Tiger.Model.Inne7b01
