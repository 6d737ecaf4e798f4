import Tiger.Library.Script
import Tiger.Model.Scan
import Tiger.Model.Talk

/-!
# AT scripts

The operations of the modem drivers are scripts of AT commands that edit the device
record `dev` on the way. A command keeps its arguments apart (`Command.text` is the
line the driver sends). `atcmd_send` and `atcmd_tx` differ only in how the line is
built; their time limits, the expected text and the flags are left out, and so are the
pauses and the shell commands between them.

The `usbtty_*` operations send standard commands and may edit the record, so a reply
to one carries the edits it made. `atcmd_rx` reads what the modem sends behind an
answer; its length is positive exactly when the reply is `succeed`.

The operations are those of a device with an open port and a configuration.
-/

set_option autoImplicit false

namespace Tiger.Model

open Tiger.Library

/-! ## Commands -/

/-- The value of an AT command: negative for a port error, else one of `ATCMD_ret_*` or a
code of the modem. -/
inductive Ret where
  | error
  | succeed
  | failed
  | term
  | timeout
  | code (n : ℕ)
deriving DecidableEq

/-- The commands the drivers send by themselves. -/
inductive AtName where
  | authdata | cesq | cgact | cgcontrdp | cgmm | cgpaddr | cops | cpwroff | dhcpctrl
  | gtrat | gtrndis | gtusbmode | iccid | lband | lnwscfg | lpowd | mgauth | ndisdup
  | ndisstatqry | qcfg | qctpwdcfg | qeng | qiact | qicsgp | qideact | qnetdevctl
  | qnetdevstatus | qnwinfo | qnwlock | qpowd | reset | scfg | sysconfig | sysinfo
  | sysinfoex | zemsciq | zgact | zgpcoauth | ziccid | zlanenable | zlteband | zncard
  | znetcardtype
deriving DecidableEq

/-- How a command begins. -/
def AtName.text : AtName → String
  | authdata => "AT^AUTHDATA"
  | cesq => "AT+CESQ"
  | cgact => "AT+CGACT"
  | cgcontrdp => "AT+CGCONTRDP"
  | cgmm => "AT+CGMM"
  | cgpaddr => "AT+CGPADDR"
  | cops => "AT+COPS"
  | cpwroff => "AT+CPWROFF"
  | dhcpctrl => "AT+DHCPCTRL"
  | gtrat => "AT+GTRAT"
  | gtrndis => "AT+GTRNDIS"
  | gtusbmode => "AT+GTUSBMODE"
  | iccid => "AT^ICCID"
  | lband => "AT+LBAND"
  | lnwscfg => "AT+LNWSCFG"
  | lpowd => "AT+LPOWD"
  | mgauth => "AT+MGAUTH"
  | ndisdup => "AT^NDISDUP"
  | ndisstatqry => "AT^NDISSTATQRY"
  | qcfg => "AT+QCFG"
  | qctpwdcfg => "AT+QCTPWDCFG"
  | qeng => "at+qeng"
  | qiact => "AT+QIACT"
  | qicsgp => "AT+QICSGP"
  | qideact => "AT+QIDEACT"
  | qnetdevctl => "AT+QNETDEVCTL"
  | qnetdevstatus => "AT+QNETDEVSTATUS"
  | qnwinfo => "AT+QNWINFO"
  | qnwlock => "AT+QNWLOCK"
  | qpowd => "AT+QPOWD"
  | reset => "AT^RESET"
  | scfg => "AT+SCFG"
  | sysconfig => "AT^SYSCONFIG"
  | sysinfo => "AT^SYSINFO"
  | sysinfoex => "AT^SYSINFOEX"
  | zemsciq => "at+ZEMSCIQ"
  | zgact => "AT+ZGACT"
  | zgpcoauth => "AT+ZGPCOAUTH"
  | ziccid => "AT+ZICCID"
  | zlanenable => "AT+ZLANENABLE"
  | zlteband => "AT+ZLTEBAND"
  | zncard => "AT+ZNCARD"
  | znetcardtype => "AT+ZNETCARDTYPE"

/-- An argument, written as it is or in quotes. -/
inductive Arg where
  | raw (s : String)
  | quoted (s : String)
deriving DecidableEq

/-- An argument as it is written. -/
def Arg.text : Arg → String
  | raw s => s
  | quoted s => "\"" ++ s ++ "\""

/-- The operations of the library, `usbtty_*`, that take no more than a constant. -/
inductive Usbtty where
  | setup | cfun0 | cfun1 | cgsn | cgmr | cimi | ccid
  | copsformat | cregmode | ceregmode | cgregmode | c5gregmode
  | cops | creg | cereg | cgreg | c5greg | csq
deriving DecidableEq

/-- What a driver sends: `AT+X=..`, `AT+X?`, `AT+X`, an operation of the library, or a
request for what the modem sends by itself (`atcmd_rx`). -/
inductive Command where
  | set (name : AtName) (args : List Arg)
  | read (name : AtName)
  | exec (name : AtName)
  | usbtty (op : Usbtty)
  | cpin (pin : Option String)
  | cgdcont (cid : String) (iptype apn : Option String)
  | rx
deriving DecidableEq

/-- The line a driver sends by itself. -/
def Command.text : Command → Option String
  | set name args => some (name.text ++ "=" ++ ",".intercalate (args.map Arg.text))
  | read name => some (name.text ++ "?")
  | exec name => some name.text
  | _ => none

example : (Command.set .qnetdevctl [.raw "1", .raw "5", .raw "1"]).text =
    some "AT+QNETDEVCTL=1,5,1" := by decide

/-! ## Replies -/

/-- A reply: the value, the text of the answer (`atcmd_lastack`, the buffer of `atcmd_rx`),
the edits an operation of the library makes to the record, and the number `usbtty_csq`
gives back. -/
structure Reply where
  ret : Ret
  ack : List Char
  edits : List (String × Option String)
  csq : ℤ
deriving DecidableEq

/-- The three values of `boole_t` and `NULL`, which a setting returns when the modem has to
be restarted. -/
inductive Boole where
  | ttrue
  | tfalse
  | terror
  | null
deriving DecidableEq

/-- A device record. -/
abbrev Device := String → Option String

/-- A script over the device record. -/
abbrev Op := Script Command Reply String String

/-! ## Steps -/

/-- `atcmd_send`, `atcmd_tx`. -/
def tx (c : Command) : Op Reply := Script.send c

/-- An operation of the library, with the edits it makes. -/
def libraryCall (c : Command) : Op Reply := do
  let r ← Script.send c
  Script.puts r.edits
  pure r

/-- The value of an operation of the library. -/
def usbtty (op : Usbtty) : Op Ret := do
  let r ← libraryCall (.usbtty op)
  pure r.ret

/-- `usbtty_cgdcont( fd, cid, iptype, apn, true )`. -/
def usbttyCgdcont (cid : String) (iptype apn : Option String) : Op Ret := do
  let r ← libraryCall (.cgdcont cid iptype apn)
  pure r.ret

/-- A command whose value alone matters. -/
def txRet (c : Command) : Op Ret := do
  let r ← tx c
  pure r.ret

/-- `if ( i < ATCMD_ret_succeed ) return terror; else if ( i == ATCMD_ret_term ) return
tfalse;` and on. -/
def check (p : Op Ret) (k : Ret → Op Boole) : Op Boole := do
  let i ← p
  if i = .error then pure .terror
  else if i = .term then pure .tfalse
  else k i

/-- `if ( i < ATCMD_ret_succeed ) return terror; else if ( i != ATCMD_ret_succeed ) return
tfalse;` and on. -/
def require (p : Op Ret) (k : Op Boole) : Op Boole := do
  let i ← p
  if i = .error then pure .terror
  else if i ≠ .succeed then pure .tfalse
  else k

/-- `if ( i < ATCMD_ret_succeed || i == ATCMD_ret_term ) return i;` and on. -/
def relay (p : Op Ret) (k : Ret → Op Ret) : Op Ret := do
  let i ← p
  if i = .error ∨ i = .term then pure i else k i

/-- `for( t=..; t<..; t++ )` with `left` rounds to go. The body goes on with the next round
or leaves the loop for what follows it. -/
def rounds {A : Type} (body : ℕ → Op A → Op A → Op A) (after : Op A) : ℕ → ℕ → Op A
  | 0, _ => after
  | left + 1, t => body t (rounds body after left (t + 1)) after

/-- `json_set_string( dev, key, .. )`. -/
def setString (key : String) (s : List Char) : Op Unit :=
  Script.put key (some (String.ofList s))

/-- `json_set_number( dev, key, .. )`. -/
def setNumber (key : String) (n : ℤ) : Op Unit := Script.put key (some (toString n))

/-- `json_set_string( dev, key, .. )` of a text, where there is one. -/
def setGiven (key : String) : Option (List Char) → Op Unit
  | some s => setString key s
  | none => pure ()

/-- A step that is taken where a condition holds. -/
def onlyIf (b : Bool) (p : Op Unit) : Op Unit := if b then p else pure ()

/-- `json_delete_axp( dev, key )` for each key. -/
def deleteAll (keys : List String) : Op Unit := Script.puts (keys.map fun key => (key, none))

/-- `json_number( dev, key )`. -/
def number (key : String) : Op ℤ := do
  let v ← Script.get key
  pure (v.elim 0 atoi)

/-- The lines of an answer, as the loop over `strstr( tok, "\n" )` sees them. -/
def lines (ack : List Char) : List (List Char) := tokLoop '\n' [] ack

/-! ## The steps in sequence -/

/-- A command and what follows its reply. -/
@[simp] theorem tx_bind {A : Type} (c : Command) (f : Reply → Op A) :
    (tx c >>= f) = Script.call c f := rfl

/-- A command and what follows its value. -/
@[simp] theorem txRet_bind {A : Type} (c : Command) (f : Ret → Op A) :
    (txRet c >>= f) = Script.call c fun r => f r.ret := rfl

/-- A call of the library makes its edits before what follows. -/
@[simp] theorem libraryCall_bind {A : Type} (c : Command) (f : Reply → Op A) :
    (libraryCall c >>= f) = Script.call c fun r => Script.puts r.edits >>= fun _ => f r :=
  congrArg (Script.call c) (funext fun r => Script.bind_assoc (Script.puts r.edits) _ f)

/-- A number of the record is read as `atoi` reads its text. -/
@[simp] theorem number_bind {A : Type} (key : String) (f : ℤ → Op A) :
    (number key >>= f) = Script.read key fun v => f (v.elim 0 atoi) := rfl

end Tiger.Model
