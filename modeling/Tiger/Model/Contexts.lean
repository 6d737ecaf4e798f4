import Mathlib.Data.Set.Insert
import Tiger.Model.Modemdrv

/-!
# The contexts of a modem

The other side of the port: what the commands about contexts mean. A command about a
context names the context and the state it is to be in; the commands differ in the
place of the two. `contextModem` keeps the set of its active contexts and obeys. It
refuses a command whose context or state is no number it knows.
-/

set_option autoImplicit false

namespace Tiger.Model

/-- The number a text of digits stands for. -/
def numeral (s : String) : Option ℕ :=
  if s ≠ "" ∧ s.toList.all Char.isDigit then some (decimal 0 s.toList) else none

/-- The context and the state a command names, as they are written. `AT+QNETDEVCTL` of the
NE16U begins with the context, that of the EC200X with the state. -/
def contextArgs (d : Driver) : Command → Option (String × String)
  | .set .ndisdup (.raw cid :: .raw state :: _) => some (cid, state)
  | .set .cgact [.raw state, .raw cid] => some (cid, state)
  | .set .zgact [.raw state, .raw cid] => some (cid, state)
  | .set .gtrndis [.raw state, .raw cid] => some (cid, state)
  | .set .qnetdevctl (.raw a :: .raw b :: _) =>
    some (if d = .ne16u then (a, b) else (b, a))
  | .set .qiact [.raw cid] => some (cid, "1")
  | .set .qideact [.raw cid] => some (cid, "0")
  | _ => none

/-- The context that is named and whether it is to be active. -/
def contextOrder (args : String × String) : Option (ℕ × Bool) :=
  match numeral args.1, numeral args.2 with
  | some cid, some 1 => some (cid, true)
  | some cid, some 0 => some (cid, false)
  | _, _ => none

/-- What a command orders. -/
def commandOrder (d : Driver) (c : Command) : Option (ℕ × Bool) :=
  (contextArgs d c).bind contextOrder

/-- The active contexts after an order. -/
def obey : Option (ℕ × Bool) → Set ℕ → Set ℕ
  | some (cid, true), active => insert cid active
  | some (cid, false), active => active \ {cid}
  | none, active => active

/-- A modem that obeys and answers with `answers`; the state is the set of its active
contexts. -/
def contextModem (d : Driver) (answers : Set ℕ → Command → Reply) (active : Set ℕ)
    (c : Command) : Reply × Set ℕ :=
  ({ answers active c with
      ret := if (contextArgs d c).isSome && (commandOrder d c).isNone then .failed else .succeed },
    obey (commandOrder d c) active)

example : commandOrder .ec200x (.set .qnetdevctl [.raw "1", .raw "5", .raw "1"]) =
    some (5, true) := by decide

/-- An order that is repeated changes nothing more. -/
theorem obey_obey (order : Option (ℕ × Bool)) (active : Set ℕ) :
    obey order (obey order active) = obey order active := by
  match order with
  | none => rfl
  | some (cid, true) => exact Set.insert_idem cid active
  | some (cid, false) =>
    ext n
    exact and_iff_left_of_imp fun h => h.2

/-! ## Answers about contexts -/

/-- A context as a line of an answer reports it; `address` is the one the line gives, where
the command reports addresses. -/
structure Status where
  cid : ℤ
  active : Bool
  address : Option (List Char)

/-- An address that is not zero. -/
def nonzero (address : List Char) : Bool := address.any fun c => c.isAlphanum && c ≠ '0'

/-- The number of a configured context. -/
def cidNumber (cid : String) : Option ℤ := (numeral cid).map Int.ofNat

/-- `+ZGACT: <cid>,<state>`. -/
def zgactStatus (line : List Char) : Option Status :=
  match (strstr "ZGACT:".toList line).map fun str =>
    (scan [.skip ':', .lit ':', .int, .lit ',', .int] str).fields with
  | some [.num cid, .num state] => some ⟨cid, state = 1, none⟩
  | _ => none

/-- `+CGPADDR: <cid>,<address>`. -/
def cgpaddrStatus (line : List Char) : Option Status :=
  match (strstr "CGPADDR:".toList line).map fun str =>
    (scan [.skip ':', .lit ':', .int, .lit ',', .word] str).fields with
  | some [.num cid, .str address] => some ⟨cid, true, some address⟩
  | _ => none

/-- `+QIACT: <cid>,<state>,<type>,"<address>"`. -/
def qiactStatus (line : List Char) : Option Status :=
  match (strstr "QIACT:".toList line).map fun str =>
    (scan [.skip ':', .lit ':', .int, .lit ',', .int, .lit ',', .int, .lit ',', .lit '"',
      .field '"'] str).fields with
  | some [.num cid, .num state, .num _, .str address] => some ⟨cid, state = 1, some address⟩
  | some [.num cid, .num state, .num _] => some ⟨cid, state = 1, some []⟩
  | _ => none

/-- `+QNETDEVSTATUS: <address>,..`, the answer for the context that was asked for. -/
def qnetdevstatusStatus (cid : ℤ) (line : List Char) : Option Status :=
  match (strstr "QNETDEVSTATUS:".toList line).map fun str =>
    (scan [.skip ':', .lit ':', .field ','] str).fields with
  | some [.str address] => some ⟨cid, true, some address⟩
  | _ => none

/-- The line states that the context `cid` is active, with an address that is not zero where
the command reports addresses. -/
def statesActive (statusOf : ℤ → List Char → Option Status) (cid : ℤ) (line : List Char) :
    Bool :=
  (statusOf cid line).any fun status =>
    status.cid = cid && status.active && status.address.all nonzero

/-- An answer states that the configured context is active. -/
def AnswerActive (statusOf : ℤ → List Char → Option Status) (cid : String)
    (answer : List Char) : Prop :=
  ∃ n, cidNumber cid = some n ∧ ∃ line ∈ lines answer, statesActive statusOf n line = true

end Tiger.Model
