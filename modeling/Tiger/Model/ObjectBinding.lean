import Mathlib.Logic.Function.Basic
import Mathlib.Logic.Relation
import Tiger.Model.Talk

/-!
# Binding of devices to objects (`wifi/landwifi`, `netcard/landnetcard`)

A device is known by its `syspath`. `wifi_object_get` and `nic_object_get` bind it to
an object of the radio: one it is already registered at, else one the configuration
gives it, else the first slot of the radio that is neither reserved nor bound. The
binding is a value of the project's register; `wifi_object_free` and
`nic_object_free` delete it.

The two components have the same code with constants of their own, so both are the
functions `objectGet` and `objectFree` at these constants.
-/

set_option autoImplicit false

namespace Tiger.Model.ObjectBinding

/-- The register of a project: the value of every key. -/
abbrev Register := String → Option String

/-- The name of slot `i` of a radio: `radio`, `radio2`, `radio3`, ... -/
def identify (radio : String) (i : ℕ) : String :=
  if i = 0 then radio else radio ++ toString (i + 1)

/-- The slots of a radio, in order. -/
def slots (radio : String) (max : ℕ) : List String := (List.range max).map (identify radio)

/-- The first slot that is registered for the syspath. -/
def alreadyBind (reg : Register) (radio syspath : String) (max : ℕ) : Option String :=
  (slots radio max).find? fun object => reg object = some syspath

/-- The loop over a list of syspaths, `none` when it compares with a null pointer. -/
def listHas (syspath : String) : List (String × Talk) → Option Bool
  | [] => some false
  | caxp :: rest =>
    match xText (some caxp.2) with
    | none => none
    | some ptr => if ptr = syspath then some true else listHas syspath rest

/-- The entry of an object names the syspath, in a list or as a text. -/
def entryNames (syspath : String) (value : Talk) : Option Bool :=
  let list := jsonValue (some value) "syspath"
  if jsonCheck list then listHas syspath (entriesOf list)
  else some (xText list = some syspath)

/-- The first object of the configuration that names the syspath, `none` when the search
compares with a null pointer. -/
def configBind (syspath : String) : List (String × Talk) → Option (Option String)
  | [] => some none
  | axp :: rest =>
    match entryNames syspath axp.2 with
    | none => none
    | some true => some (some axp.1)
    | some false => configBind syspath rest

/-- The configuration of the slot names syspaths. -/
def reserved (cfg : Option Talk) (object : String) : Bool :=
  (jsonValue (jsonValue cfg object) "syspath").isSome

/-- The search for a slot from `i` on, `none` when it has not ended after `fuel` turns. A
reserved slot is skipped without counting, so the next turn comes to it again. -/
def newBind (cfg : Option Talk) (reg : Register) (radio : String) (max : ℕ) :
    ℕ → ℕ → Option (Option String)
  | 0, _ => none
  | fuel + 1, i =>
    if i < max then
      if reserved cfg (identify radio i) then newBind cfg reg radio max fuel i
      else if (reg (identify radio i)).getD "" = "" then some (some (identify radio i))
      else newBind cfg reg radio max fuel (i + 1)
    else some none

/-- Give the object the syspath. -/
def binding (reg : Register) (object syspath : String) : Register :=
  Function.update reg object (some syspath)

/-- `object_get` with `max` slots a radio: the register afterwards and the object, or `NULL`.
It is `none` when the call does not return. -/
def objectGet (max fuel : ℕ) (radio : String) (syspath : Option String) (cfg : Option Talk)
    (reg : Register) : Option (Register × Option String) :=
  match syspath with
  | none => some (reg, none)
  | some syspath =>
    match alreadyBind reg radio syspath max with
    | some object => some (reg, some object)
    | none =>
      match configBind syspath (entriesOf cfg) with
      | none => none
      | some (some object) => some (binding reg object syspath, some object)
      | some none =>
        (newBind cfg reg radio max fuel 0).map fun object =>
          (object.elim reg (binding reg · syspath), object)

/-- `object_free`. -/
def objectFree (object : String) (reg : Register) : Register :=
  Function.update reg object none

def wifiObjectMax : ℕ := 10

def wifiObjectGet (fuel : ℕ) (radio : String) (syspath : Option String) (cfg : Option Talk)
    (reg : Register) : Option (Register × Option String) :=
  objectGet wifiObjectMax fuel radio syspath cfg reg

def wifiObjectFree (object : String) (reg : Register) : Register := objectFree object reg

def nicObjectMax : ℕ := 10

def nicObjectGet (fuel : ℕ) (radio : String) (syspath : Option String) (cfg : Option Talk)
    (reg : Register) : Option (Register × Option String) :=
  objectGet nicObjectMax fuel radio syspath cfg reg

def nicObjectFree (object : String) (reg : Register) : Register := objectFree object reg

/-! ## Runs of a component -/

/-- The components that bind devices. -/
inductive Land where
  | wifi
  | netcard
  deriving DecidableEq

def Land.objectMax : Land → ℕ
  | .wifi => wifiObjectMax
  | .netcard => nicObjectMax

def Land.get : Land → ℕ → String → Option String → Option Talk → Register →
    Option (Register × Option String)
  | .wifi => wifiObjectGet
  | .netcard => nicObjectGet

def Land.free : Land → String → Register → Register
  | .wifi => wifiObjectFree
  | .netcard => nicObjectFree

/-- The radios the drivers of a component ask for. Their slots are apart. -/
structure Radios (land : Land) where
  names : List String
  nonempty : names ≠ []
  apart : ∀ r ∈ names, ∀ r' ∈ names, ∀ object ∈ slots r land.objectMax,
    object ∈ slots r' land.objectMax → r = r'

/-- The objects that were obtained and not freed, by the radio asked for and the syspath. -/
abbrev Holdings := String → String → Option String

/-- The syspath obtained the object when it asked for the radio. -/
def Holdings.obtain (holds : Holdings) (radio syspath object : String) : Holdings := fun r s =>
  if r = radio ∧ s = syspath then some object else holds r s

/-- Nobody holds the object any more. -/
def Holdings.release (holds : Holdings) (object : String) : Holdings := fun r s =>
  if holds r s = some object then none else holds r s

/-- The register and the objects obtained from it. -/
structure BindState where
  register : Register
  holds : Holdings

/-- Nothing is bound. -/
def BindState.initial : BindState where
  register := fun _ => none
  holds := fun _ _ => none

/-- One call that returns. A syspath is a path, so it is not empty. -/
inductive Step (land : Land) (cfg : Option Talk) (radios : Radios land) (st : BindState) :
    BindState → Prop where
  | get (radio syspath : String) (fuel : ℕ) (reg : Register) (object : Option String)
      (hradio : radio ∈ radios.names) (hpath : syspath ≠ "")
      (hget : land.get fuel radio (some syspath) cfg st.register = some (reg, object)) :
      Step land cfg radios st ⟨reg, object.elim st.holds (st.holds.obtain radio syspath)⟩
  | free (object : String) :
      Step land cfg radios st ⟨land.free object st.register, st.holds.release object⟩

/-- The states a sequence of calls can lead to. -/
def Reachable (land : Land) (cfg : Option Talk) (radios : Radios land) : BindState → Prop :=
  Relation.ReflTransGen (Step land cfg radios) .initial

end Tiger.Model.ObjectBinding
