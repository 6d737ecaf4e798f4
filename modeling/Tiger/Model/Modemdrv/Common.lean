import Tiger.Model.AtProfile

/-!
# What the modem drivers share

Steps that stand in several drivers with the same text: the older authentication
command of the Quectel modems, the part of `_at_setting` around the profile, and in
`_at_watch` the SIM, the registration and the signal level.
-/

set_option autoImplicit false

namespace Tiger.Model

open Tiger.Library

/-! ## Settings -/

/-- The line `ec200x_qicsgp` and `ne16u_qicsgp` look for in the answer. -/
def qicsgpLine (cid : String) (apn : Option String) (login : Login) : String :=
  snprintf nameMax (cid ++ ",\"" ++ orEmpty apn ++ "\",\"" ++ orEmpty login.user ++ "\",\"" ++
    orEmpty login.pass ++ "\"," ++ login.auth)

/-- `ec200x_qicsgp` and `ne16u_qicsgp`: nothing is written when the modem has it already. -/
def qicsgp (cid iptype : String) (apn : Option String) (login : Login) : Op Ret := do
  let r ← tx (.set .qicsgp [.raw cid])
  if r.ret ≠ .succeed then pure r.ret
  else if contains (qicsgpLine cid apn login) r.ack then pure .failed
  else
    relay (txRet (.set .qctpwdcfg [.quoted (orEmpty login.user),
      .quoted (orEmpty login.pass)])) fun _ =>
    txRet (.set .qicsgp [.raw cid, .raw iptype, .quoted (orEmpty apn),
      .quoted (orEmpty login.user), .quoted (orEmpty login.pass), .raw login.auth])

/-- The value of `_at_setting` so far, `NULL` once a step wrote something. -/
def restart (ret : Boole) (i : Ret) : Boole := if i = .succeed then .null else ret

/-- The profile part of `_at_setting`. -/
def checkProfile (setProfileset : Option Talk → Op Ret) (profile : Option Talk) (ret : Boole)
    (k : Boole → Op Boole) : Op Boole :=
  match profile with
  | none => k ret
  | some profile => check (setProfileset (some profile)) fun i => k (restart ret i)

/-- The formats and reports `_at_setting` switches on at its end. -/
def checkModes (modes : List Usbtty) (ret : Boole) : Op Boole :=
  match modes with
  | [] => pure ret
  | mode :: modes => check (usbtty mode) fun _ => checkModes modes ret

/-! ## Setting up -/

/-- A round of a loop in `_at_setup` that looks for a mode of the modem: `query` asks for it,
it stands behind `needle`, and when it is not `wanted` it is written. The first two
answers other than `succeed` are taken for messages of the modem at power up. -/
def modeRound (query write : Command) (needle : String) (sep : Char) (wanted : ℤ)
    (written : Ret → Op Boole) (t : ℕ) (next leave : Op Boole) : Op Boole := do
  let r ← tx query
  if r.ret = .error then pure .terror
  else if r.ret ≠ .succeed then
    if t ≥ 2 then leave else next
  else
    match scanIntAfter needle sep r.ack with
    | none => next
    | some mode => if mode ≠ wanted then check (txRet write) written else leave

/-- The round for an item of `AT+QCFG`; `done` follows when it was written. -/
def qcfgRound (item wanted : String) (done : Op Boole) (t : ℕ) (next leave : Op Boole) :
    Op Boole :=
  modeRound (.set .qcfg [.quoted item]) (.set .qcfg [.quoted item, .raw wanted])
    ("\"" ++ item ++ "\",") ',' (atoi wanted)
    (fun i => if i = .succeed then done else leave) t next leave

/-! ## Watching -/

/-! ### The SIM -/

/-- `usbtty_cpin( fd, dev, lock_pin )`. -/
def usbttyCpin (pin : Option String) : Op Ret := do
  let r ← libraryCall (.cpin pin)
  pure r.ret

/-- The SIM part of `_at_watch`; `ccid` reads the number of the card. -/
def checkSim (ccid : Op Ret) (lockPin : Option String) (k : Op Boole) : Op Boole := do
  let i ← usbttyCpin lockPin
  if i = .error then pure .terror
  else if i = .term ∨ i = .timeout then pure .tfalse
  else if i = .code 100 then do
    setString "iccid" "pin".toList
    k
  else if i = .code 101 then do
    setString "iccid" "puk".toList
    k
  else if i = .succeed then do
    setString "iccid" "sim".toList
    check (usbtty .cimi) fun _ =>
    check ccid fun _ =>
    k
  else k

/-! ### The network -/

/-- `usbtty_copsformat( fd, 2 )` and `usbtty_cops( fd, dev )`. -/
def checkCops (k : Op Boole) : Op Boole :=
  check (usbtty .copsformat) fun _ =>
  check (usbtty .cops) fun _ =>
  k

/-- The line of `AT+QNWINFO` names one of these networks. -/
def namesNetwork (sysmode : List Char) : Bool :=
  ["LTE", "FDD", "TDD", "GSM", "GPRS", "EDGE", "WCDMA", "HSDPA", "HSUPA", "HSPA",
    "TDSCDMA"].any (contains · sysmode)

/-- The first field of a line of `AT+QNWINFO`. -/
def sysmodeOf (line : List Char) : Option (List Char) :=
  match (scan [.skip ':', .lit ':', .field ','] line).fields with
  | [.str sysmode] => some sysmode
  | _ => none

/-- The third field of a line of `AT+QNWINFO`, when there are four. -/
def bandOf (line : List Char) : Option (List Char) :=
  match (scan [.skip ':', .lit ':', .field ',', .lit ',', .field ',', .lit ',', .field ',',
    .lit ',', .word] line).fields with
  | [.str _, .str _, .str band, .str _] => some band
  | _ => none

/-- A field without its quotes. -/
def unquote (s : List Char) : List Char := s.tail.dropLast

/-- Record the network and the band a line of `AT+QNWINFO` names. -/
def setNetwork (bandKey nettypeKey : String) (sysmode line : List Char) : Op Unit := do
  setGiven bandKey ((bandOf line).map unquote)
  setString nettypeKey (sysmode.drop 2).dropLast

/-- `n` fields that are skipped, each with the comma behind it. -/
def skipFields (n : ℕ) : List Directive :=
  (List.replicate n [Directive.skip ',', .lit ',']).flatten

/-- The number a scan assigned, 0 when there is none. -/
def Scanned.numD (r : Scanned) : ℤ :=
  match r.fields with
  | [.num n] => n
  | _ => 0

/-- The kind of network a number of `AT^SYSINFO` stands for. -/
def sysinfoNettype (type : ℤ) : Option String :=
  if type = 0 then some "No Service"
  else if type = 3 then some "GSM"
  else if type = 5 then some "WCDMA"
  else if type = 15 then some "TDSCDMA"
  else if type = 17 then some "LTE"
  else none

/-- `zte7520_sysinfo` and `innofidei_sysinfo`. -/
def sysinfo : Op Ret := do
  let r ← tx (.exec .sysinfo)
  if r.ret ≠ .succeed then pure r.ret
  else do
    let type := (scan (skipFields 3 ++ [.int]) r.ack).numD
    setGiven "nettype" ((sysinfoNettype type).map String.toList)
    pure (if type = 0 then .failed else .succeed)

/-- The letters and digits of a text and what stands between them. -/
def trimAlnum (s : List Char) : List Char :=
  (s.dropWhile (! ·.isAlphanum)).reverse.dropWhile (! ·.isAlphanum) |>.reverse

/-- `em350_iccid` and its copy, from try `i` on; `ret` is the value of the last try. -/
def iccid : ℕ → Ret → Op Ret
  | 0, ret => pure ret
  | tries + 1, _ => do
    let r ← tx (.read .iccid)
    relay (pure r.ret) fun ret =>
    if ret = .succeed then
      match (scan [.skip ':', .lit ':', .word] r.ack).fields with
      | [.str iccidbuf] => do
        setString "iccid" (trimAlnum iccidbuf)
        pure .succeed
      | _ => iccid tries .failed
    else iccid tries ret

/-- The kind of network a number of `AT^SYSINFOEX` stands for. -/
def sysinfoexNettype (type : ℤ) : Option String :=
  if type = 0 then some "No Service"
  else if type = 1 then some "GSM"
  else if type = 2 then some "CDMA"
  else if type = 3 then some "WCDMA"
  else if type = 4 then some "TDSCDMA"
  else if type = 5 then some "WIMAX"
  else if type = 6 then some "LTE"
  else none

/-- The number of an answer to `AT^SYSINFOEX`. -/
def sysinfoexType (ack : List Char) : Scanned := scan (skipFields 5 ++ [.int]) ack

/-- `em350_sysinfoex` and its copy; `typeOf` reads the number, 0 when there is none. -/
def sysinfoex (typeOf : List Char → ℤ) : Op Ret := do
  let r ← tx (.exec .sysinfoex)
  if r.ret ≠ .succeed then pure r.ret
  else do
    setGiven "nettype" ((sysinfoexNettype (typeOf r.ack)).map String.toList)
    pure (if typeOf r.ack = 0 then .failed else .succeed)

/-- What an answer to `at+ZEMSCIQ=1` says of the cell. -/
structure Zemsciq where
  plmn : List Char
  arfcn : ℤ
  band : ℤ

/-- The cell an answer to `at+ZEMSCIQ=1` gives, when it has all nine fields. -/
def zemsciqOf (ack : List Char) : Option Zemsciq :=
  match (scan [.skip ':', .lit ':', .int, .lit ',', .int, .lit ',', .int, .lit ',', .int,
    .lit ',', .int, .lit ',', .field ',', .lit ',', .int, .lit ',', .int, .lit ',', .int]
    ack).fields with
  | [.num _, .num _, .num _, .num _, .num _, .str plmn, .num _, .num arfcn, .num band] =>
    some ⟨plmn, arfcn, band⟩
  | _ => none

/-- Record a cell, and the number of the network where none is recorded. -/
def setZemsciq (cell : Zemsciq) : Op Unit := do
  setNumber "band" cell.band
  setNumber "arfcn" cell.arfcn
  let plmn ← number "plmn"
  onlyIf (plmn = 0) <|
    match (scan [.lit '"', .int, .lit '"'] cell.plmn).fields with
    | [.num i] => setNumber "plmn" i
    | _ => pure ()

/-- The cell part of `_at_watch`. -/
def checkZemsciq (k : Op Boole) : Op Boole := do
  let r ← tx (.set .zemsciq [.raw "1"])
  check (pure r.ret) fun i =>
  match (if i = .succeed then zemsciqOf r.ack else none) with
  | some cell => do
    setZemsciq cell
    k
  | none => k

/-- The six numbers of an answer to `AT+CESQ`. -/
structure Cesq where
  rxlev : ℤ
  ber : ℤ
  rscp : ℤ
  ecno : ℤ
  rsrq : ℤ
  rsrp : ℤ

/-- The numbers of an answer to `AT+CESQ`. -/
def cesqOf (ack : List Char) : Option Cesq :=
  match (scan [.skip ':', .lit ':', .int, .lit ',', .int, .lit ',', .int, .lit ',', .int,
    .lit ',', .int, .lit ',', .int] ack).fields with
  | [.num rxlev, .num ber, .num rscp, .num ecno, .num rsrq, .num rsrp] =>
    some ⟨rxlev, ber, rscp, ecno, rsrq, rsrp⟩
  | _ => none

/-! ### Registration and level -/

/-- The name of the network when there is none, from the last value `i`. -/
def setPlmn (i : Ret) : Op Unit := do
  let plmn ← Script.get "plmn"
  onlyIf (plmn = none) <| setGiven "plmn" <|
    if i = .code 200 then some "noreg".toList
    else if i = .code 201 then some "dereg".toList
    else if i = .code 202 then some "unreg".toList
    else none

/-- The registration part of `_at_watch`. -/
def checkReg (k : Op Boole) : Op Boole :=
  check (usbtty .creg) fun _ =>
  check (usbtty .cereg) fun _ =>
  check (usbtty .cgreg) fun i => do
    setPlmn i
    k

/-- `csq = 0; usbtty_csq( fd, &csq )`. -/
def checkCsq (k : ℤ → Op Boole) : Op Boole := do
  let r ← libraryCall (.usbtty .csq)
  check (pure r.ret) fun _ => k r.csq

/-- The strength a `csq` stands for. -/
def rssiOf (csq : ℤ) : Option ℤ :=
  if 0 < csq ∧ csq ≤ 31 then some (csq * 2 - 113)
  else if 100 < csq ∧ csq ≤ 191 then some (csq - 215)
  else none

/-- Record `csq` and the strength it stands for. -/
def setCsq (csq : ℤ) : Op Unit :=
  match rssiOf csq with
  | none => pure ()
  | some rssi => do
    setNumber "rssi" rssi
    setNumber "csq" csq

/-- Record `csq`, and the strength it stands for where none is recorded. -/
def setMissingCsq (csq : ℤ) (rssi : Option ℤ) : Op Unit :=
  match rssi with
  | none => pure ()
  | some rssi => do
    let i ← number "rssi"
    onlyIf (i = 0) (setNumber "rssi" rssi)
    setNumber "csq" csq

/-- The strength of the signal, asked for where no `csq` is recorded. -/
def checkMissingCsq (rssiOf : ℤ → Option ℤ) (k : Op Boole) : Op Boole := do
  let csq ← number "csq"
  if csq = 0 then
    checkCsq fun csq => do
    setMissingCsq csq (rssiOf csq)
    k
  else k

/-- The level of a value against four limits; 0 stands for no value. -/
def level (l₄ l₃ l₂ l₁ i : ℤ) : ℤ :=
  if i = 0 then 0
  else if i ≥ l₄ then 4
  else if i ≥ l₃ then 3
  else if i ≥ l₂ then 2
  else if i ≥ l₁ then 1
  else 0

/-- Record a level. -/
def setSignal (signal : ℤ) : Op Unit := onlyIf (signal ≠ 0) (setNumber "signal" signal)

/-- The level of `rssi`. -/
def rssiSignal : Op Unit := do
  let i ← number "rssi"
  setSignal (level (-75) (-80) (-90) (-105) i)

/-- The level of `rsrp`, or of `rssi` where there is none. -/
def rsrpSignal : Op Unit := do
  let i ← number "rsrp"
  if i ≠ 0 then setSignal (level (-105) (-110) (-114) (-120) i) else rssiSignal

/-! ## The connection -/

/-- `em350_ndisstatqry` and its copy. -/
def ndisstatqry : Op Ret := do
  let r ← tx (.read .ndisstatqry)
  if r.ret ≠ .succeed then pure r.ret
  else if scanInt ':' r.ack = some 1 then pure .succeed
  else pure .failed

/-- The address in the answer to `AT+CGPADDR=..`. -/
def cgpaddrOf (ack : List Char) : Option (List Char) :=
  match (strstr "CGPADDR:".toList ack).map fun str =>
    (scan [.skip '"', .lit '"', .field '"'] str).fields with
  | some [.str ip] => some ip
  | _ => none

/-- `em350_cgpaddr` and its copy. -/
def cgpaddr (cid : String) : Op Ret := do
  let r ← tx (.set .cgpaddr [.raw cid])
  if r.ret ≠ .succeed then pure r.ret
  else if (cgpaddrOf r.ack).any (! contains "0.0.0.0" ·) then pure .succeed
  else pure .failed

end Tiger.Model
