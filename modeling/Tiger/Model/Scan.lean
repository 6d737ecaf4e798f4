import Tiger.Model.Text

/-!
# Reading answers

The answers of a modem are read with `sscanf`. A format is the list of its directives,
and `scan` gives the fields it assigns. A conversion that finds nothing to convert ends
the scan, and so does the end of the text; the two are told apart by `ranOut`, since
`sscanf` returns `EOF` in place of 0 in the second case.

The buffers a field is read into are taken to be large enough.
-/

set_option autoImplicit false

namespace Tiger.Model

/-- A directive of a format: `%*[^c]`, `%[^c]`, `%d`, `%s`, or a character that has to
stand there. -/
inductive Directive where
  | skip (c : Char)
  | field (c : Char)
  | int
  | word
  | lit (c : Char)

/-- An assigned field. -/
inductive Field where
  | num (n : ℤ)
  | str (s : List Char)
deriving DecidableEq

/-- What a scan assigns, and whether it ended at the end of the text. -/
structure Scanned where
  fields : List Field
  ranOut : Bool

/-- What follows one sign. -/
def unsign : List Char → List Char
  | '-' :: cs => cs
  | '+' :: cs => cs
  | cs => cs

/-- `sscanf`. -/
def scan : List Directive → List Char → Scanned
  | [], _ => ⟨[], false⟩
  | .skip c :: ds, s =>
    if s = [] then ⟨[], true⟩
    else if s.head? = some c then ⟨[], false⟩
    else scan ds (s.dropWhile (· ≠ c))
  | .field c :: ds, s =>
    if s = [] then ⟨[], true⟩
    else if s.head? = some c then ⟨[], false⟩
    else
      let rest := scan ds (s.dropWhile (· ≠ c))
      ⟨.str (s.takeWhile (· ≠ c)) :: rest.fields, rest.ranOut⟩
  | .int :: ds, s =>
    let t := s.dropWhile isSpace
    if t = [] then ⟨[], true⟩
    else if (unsign t).head?.any Char.isDigit then
      let rest := scan ds ((unsign t).dropWhile Char.isDigit)
      ⟨.num (strtol 32 t) :: rest.fields, rest.ranOut⟩
    else ⟨[], false⟩
  | .word :: ds, s =>
    let t := s.dropWhile isSpace
    if t = [] then ⟨[], true⟩
    else
      let rest := scan ds (t.dropWhile (! isSpace ·))
      ⟨.str (t.takeWhile (! isSpace ·)) :: rest.fields, rest.ranOut⟩
  | .lit c :: ds, s =>
    match s with
    | [] => ⟨[], true⟩
    | c' :: s => if c' = c then scan ds s else ⟨[], false⟩

/-- The value `sscanf` returns: the number of assigned fields, or `EOF`. -/
def Scanned.count (r : Scanned) : ℤ :=
  if r.fields = [] ∧ r.ranOut = true then -1 else r.fields.length

/-- `"%*[^c]c%d"`, where `c` separates a name from a number: the number, if there is one. -/
def scanInt (c : Char) (s : List Char) : Option ℤ :=
  match (scan [.skip c, .lit c, .int] s).fields with
  | [.num n] => some n
  | _ => none

/-- `strstr( s, needle ) != NULL`. -/
def contains (needle : String) (s : List Char) : Bool := (strstr needle.toList s).isSome

/-- A number that is read behind `needle`, where that stands in the text. -/
def scanIntAfter (needle : String) (c : Char) (s : List Char) : Option ℤ :=
  (strstr needle.toList s).bind (scanInt c)

example : scanIntAfter "\"nat\"," ',' "+QCFG: \"nat\", -1".toList = some (-1) := by decide

end Tiger.Model
