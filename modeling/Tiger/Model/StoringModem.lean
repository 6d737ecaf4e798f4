import Tiger.Model.Modemdrv

/-!
# A modem that stores its settings

The other side of the port once more: a modem that keeps the arguments of every command
under its name, with one place for each item of `AT+QCFG` and each context of
`AT+QICSGP`, and answers a question with what it keeps.

Three things are left open. `Formats.qicsgp` is how the modem prints what it keeps for a
context, `Formats.definition` is the definition the library writes for an ip type and an
access point, and `Formats.cgdcont` is what its `usbtty_cgdcont` does with the definition
a context has. `Formats.Lawful` is what the drivers expect of it: a context is written only
when it has another definition, and `succeed` says that it was.
-/

set_option autoImplicit false

namespace Tiger.Model

/-- How things are printed. -/
structure Formats where
  qicsgp : String → String → String
  definition : Option String → Option String → String
  /-- The value for an ip type, an access point and the definition before, and the one behind. -/
  cgdcont : Option String → Option String → String → Ret × String

/-- The library compares a definition before it writes it. -/
class Formats.Lawful (formats : Formats) : Prop where
  settled : ∀ iptype apn, formats.cgdcont iptype apn (formats.definition iptype apn) =
    (.failed, formats.definition iptype apn)
  written : ∀ iptype apn stored, stored ≠ formats.definition iptype apn →
    formats.cgdcont iptype apn stored = (.succeed, formats.definition iptype apn)

/-- A place for the arguments of a command. -/
abbrev Slot := AtName × String

/-- What a modem keeps; `last` is the text of its last answer. -/
structure Memory where
  texts : Slot → String
  contexts : String → String
  last : List Char

/-- Arguments as they are written. -/
def argsText (args : List Arg) : String := ",".intercalate (args.map Arg.text)

/-- The answer to a question for a place. -/
def Formats.answer (formats : Formats) (slot : Slot) (stored : String) : List Char :=
  match slot with
  | (.qcfg, item) => ("+QCFG: \"" ++ item ++ "\"," ++ stored).toList
  | (.qicsgp, cid) => (formats.qicsgp cid stored).toList
  | (name, _) => name.text.toList.drop 2 ++ (": " ++ stored).toList

/-- What a command is to the modem. -/
inductive Access where
  | ask (slot : Slot)
  | write (slot : Slot) (stored : String)
  | define (cid : String) (iptype apn : Option String)
  | receive
  | other

/-- The meaning of a command. -/
def Command.access : Command → Access
  | .read name => .ask (name, "")
  | .set .qcfg [.quoted item] => .ask (.qcfg, item)
  | .set .qicsgp [.raw cid] => .ask (.qicsgp, cid)
  | .set .qcfg (.quoted item :: args) => .write (.qcfg, item) (argsText args)
  | .set .qicsgp (.raw cid :: args) => .write (.qicsgp, cid) (argsText args)
  | .set name args => .write (name, "") (argsText args)
  | .cgdcont cid iptype apn => .define cid iptype apn
  | .rx => .receive
  | _ => .other

/-- A reply without edits. -/
def plainReply (ret : Ret) (ack : List Char) : Reply := ⟨ret, ack, [], 0⟩

/-- The modem. Every command the driver sends itself succeeds. -/
def storingModem (formats : Formats) (m : Memory) (c : Command) : Reply × Memory :=
  match c.access with
  | .ask slot =>
    let text := formats.answer slot (m.texts slot)
    (plainReply .succeed text, { m with last := text })
  | .write slot stored =>
    (plainReply .succeed [], { m with texts := Function.update m.texts slot stored })
  | .define cid iptype apn =>
    let (ret, stored) := formats.cgdcont iptype apn (m.contexts cid)
    (plainReply ret [], { m with contexts := Function.update m.contexts cid stored })
  | .receive => (plainReply .succeed m.last, m)
  | .other => (plainReply .succeed [], m)

end Tiger.Model
