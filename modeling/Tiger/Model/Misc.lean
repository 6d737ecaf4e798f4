import Tiger.Library.Json
import Tiger.Library.Pattern
import Mathlib.Data.Nat.Notation

/-!
# The functions of `wui/ace/api/misc.js`

`check` validates what a user typed, and `ocompare` tells whether a page has changed a
setting. A JavaScript string is a list of UTF-16 code units. The numbers of `parseInt` are
exact here; the doubles of the language lie on the same side of every bound the validators
compare them with.
-/

set_option autoImplicit false

namespace Tiger.Model.Misc

open Tiger.Library

/-- A string. -/
abbrev Js := List UInt16

/-- The code unit of a character of the basic plane. -/
def unit (c : Char) : UInt16 := UInt16.ofNat c.toNat

/-- A text as a string. -/
def js (s : String) : Js := s.toList.map unit

/-! ## `parseInt` -/

/-- White space and line ends. -/
def jsSpaces : List UInt16 :=
  [9, 10, 11, 12, 13, 32, 160, 5760, 8192, 8193, 8194, 8195, 8196, 8197, 8198, 8199, 8200, 8201,
    8202, 8232, 8233, 8239, 8287, 12288, 65279]

/-- The value of a digit, up to `z`. -/
def digitValue (u : UInt16) : Option ℕ :=
  let n := u.toNat
  if 48 ≤ n ∧ n ≤ 57 then some (n - 48)
  else if 97 ≤ n ∧ n ≤ 122 then some (n - 87)
  else if 65 ≤ n ∧ n ≤ 90 then some (n - 55)
  else none

/-- A digit in a base. -/
def isDigitIn (base : ℕ) (u : UInt16) : Bool := (digitValue u).any (· < base)

/-- The number digits stand for. -/
def valueIn (base : ℕ) (s : Js) : ℕ :=
  s.foldl (fun n u => base * n + (digitValue u).getD 0) 0

/-- The base a text is written in, and the text without the prefix that says so. -/
def radixOf : Js → ℕ × Js
  | zero :: x :: rest =>
    if zero = unit '0' ∧ (x = unit 'x' ∨ x = unit 'X') then (16, rest)
    else (10, zero :: x :: rest)
  | s => (10, s)

/-- `parseInt`, `none` for `NaN`: white space, one sign, a prefix, the digits up to the first
other character. -/
def parseInt (s : Js) : Option ℤ :=
  let t := s.dropWhile (jsSpaces.contains ·)
  let negative := t.head? = some (unit '-')
  let t := if negative ∨ t.head? = some (unit '+') then t.tail else t
  let digits := (radixOf t).2.takeWhile (isDigitIn (radixOf t).1)
  if digits = [] then none
  else
    let n : ℤ := valueIn (radixOf t).1 digits
    some (if negative then -n else n)

/-! ## `check` -/

/-- `[0-9]`, `\d`. -/
def digit (u : UInt16) : Bool := isDigitIn 10 u

/-- `.`, which is every code unit but those that end a line. -/
def anyUnit (u : UInt16) : Bool := ! [10, 13, 8232, 8233].contains u

/-- `/^[0-9]+.?[0-9]*$/`. -/
def numberPattern : List (Piece UInt16) :=
  [⟨digit, 1, none⟩, ⟨anyUnit, 0, some 1⟩, ⟨digit, 0, none⟩]

/-- `\d{1,3}`. -/
def groupPattern : Piece UInt16 := ⟨digit, 1, some 3⟩

/-- `\.`. -/
def dotPattern : Piece UInt16 := ⟨(· == unit '.'), 1, some 1⟩

/-- `/^\d{1,3}(\.\d{1,3}){3}$/`. -/
def ipPattern : List (Piece UInt16) :=
  groupPattern :: (List.replicate 3 [dotPattern, groupPattern]).flatten

/-- `check.number`. -/
def checkNumber (input : Js) : Bool := accepts numberPattern input

/-- `check.port`. A comparison with `NaN` is false. -/
def checkPort (input : Js) : Bool :=
  accepts numberPattern input && ! (parseInt input).any fun n => n > 65535 || n ≤ 0

/-- `check.ip`. -/
def checkIp (value : Js) : Bool :=
  accepts ipPattern value &&
    ! (value.splitOn (unit '.')).any fun group => (parseInt group).any (· > 255)

example : parseInt (js " -12abc") = some (-12) ∧ parseInt (js "0x1f") = some 31 ∧
    parseInt (js "0x") = none := by decide

/-! ## `ocompare`

The values are those of JSON. Their numbers are taken from any type whose equality is `===`
on them: no number of JSON is `NaN`. A `TypeError` is `none`. -/

section Ocompare

variable {N : Type}

/-- What `typeof` tells apart. -/
inductive TypeName where
  | boolean
  | number
  | string
  | object
  deriving DecidableEq

/-- `typeof`. -/
def typeOf : Json Js N → TypeName
  | .bool _ => .boolean
  | .num _ => .number
  | .str _ => .string
  | .null => .object
  | .arr _ _ => .object
  | .obj _ _ _ => .object

/-- `Object.keys(v).length` of what `typeof` calls an object; there are no keys of `null`. -/
def keyCount : Json Js N → Option ℕ
  | .arr n _ => some n
  | .obj n _ _ => some n
  | _ => none

/-- The key of an element of an array. -/
def indexKey {n : ℕ} (i : Fin n) : Js := js (toString i.val)

/-- What objects and arrays inherit under a key: their prototype, which has no keys of its own
either. The methods they inherit are functions, which differ from every value as nothing
does. -/
def inherited (k : Js) : Option (Json Js N) :=
  if k = js "__proto__" then some (.obj 0 ⟨Fin.elim0, fun i => i.elim0⟩ Fin.elim0) else none

/-- `b[k]`, `none` where it is no value of JSON. -/
def property [NatCast N] (b : Json Js N) (k : Js) : Option (Json Js N) :=
  match b with
  | .arr n elems =>
    match (List.finRange n).find? (indexKey · = k) with
    | some i => some (elems i)
    | none => if k = js "length" then some (.num n) else inherited k
  | .obj n keys vals =>
    match (List.finRange n).find? (keys · = k) with
    | some i => some (vals i)
    | none => inherited k
  | _ => none

/-- The loop that compares key by key: it goes on while the values compare as the same. -/
def eachTrue : List (Option Bool) → Option Bool
  | [] => some true
  | some true :: results => eachTrue results
  | result :: _ => result

/-- The comparison with what stands under a key, which may be `undefined`. -/
def compareWith (compare : Json Js N → Option Bool) : Option (Json Js N) → Option Bool
  | none => some false
  | some y => compare y

/-- `ocompare` of an array or object with `n` keys, where `compare` is `ocompare` of its
values. -/
def compareKeys [NatCast N] (n : ℕ) (key : Fin n → Js)
    (compare : Fin n → Json Js N → Option Bool) (b : Json Js N) : Option Bool :=
  if typeOf b ≠ .object then some false
  else
    match keyCount b with
    | none => none
    | some m =>
      if n ≠ m then some false
      else
        eachTrue ((List.finRange n).map fun i => compareWith (compare i) (property b (key i)))

/-- `ocompare`. -/
def ocompare [DecidableEq N] [NatCast N] : Json Js N → Json Js N → Option Bool
  | .null, b => if typeOf b ≠ .object then some false else none
  | .arr n elems, b => compareKeys n indexKey (fun i y => ocompare (elems i) y) b
  | .obj n keys vals, b => compareKeys n keys (fun i y => ocompare (vals i) y) b
  | .bool x, .bool y => some (x == y)
  | .num x, .num y => some (decide (x = y))
  | .str x, .str y => some (decide (x = y))
  | _, _ => some false

end Ocompare

end Tiger.Model.Misc
