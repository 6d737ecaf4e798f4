import Tiger.Library.Entries

/-!
# Configuration values

The JSON values (`talk_t`) that configurations are made of: texts and objects
with ordered entries. An absent value (`NULL`) is `none`. The readers and writers
below are the ones the components call, under their names in the toolkit; a path
(`attr_t`) is the list of its layers.

`attrCut_attrSet` and `attrCut_attrSet_of_ne` say that writing at a path and
reading it back gives the written value and leaves the other first layers alone.
-/

set_option autoImplicit false

namespace Tiger.Model

open Tiger.Library

/-- A configuration value. -/
inductive Talk where
  | text (s : String)
  | json (entries : List (String × Talk))

namespace Talk

mutual

/-- Equality of values is decidable. -/
def decEq : (a b : Talk) → Decidable (a = b)
  | .text s, .text u => decidable_of_iff (s = u) (by simp)
  | .text _, .json _ => isFalse (by simp)
  | .json _, .text _ => isFalse (by simp)
  | .json xs, .json ys =>
    match decEqEntries xs ys with
    | isTrue h => isTrue (by rw [h])
    | isFalse h => isFalse (by simpa using h)

/-- Equality of entry lists is decidable. -/
def decEqEntries : (xs ys : List (String × Talk)) → Decidable (xs = ys)
  | [], [] => isTrue rfl
  | [], _ :: _ => isFalse (by simp)
  | _ :: _, [] => isFalse (by simp)
  | (a, x) :: xs, (b, y) :: ys =>
    match decEq x y, decEqEntries xs ys with
    | isTrue h, isTrue hs => decidable_of_iff (a = b) (by simp [h, hs])
    | isFalse h, _ => isFalse (by simp [h])
    | _, isFalse hs => isFalse (by simp [hs])

end

instance : DecidableEq Talk := decEq

end Talk

/-! ## Readers -/

/-- The entries of an object; a text and an absent value have none. -/
def entriesOf : Option Talk → List (String × Talk)
  | some (.json es) => es
  | _ => []

/-- `json_value`: the value of a key. -/
def jsonValue (t : Option Talk) (k : String) : Option Talk := (entriesOf t).lookup k

/-- `x_text`, `axp_string`: the text of a value, `NULL` for an object. -/
def xText : Option Talk → Option String
  | some (.text s) => some s
  | _ => none

/-- `json_string`, `json_get_string`: the text of a key. -/
def jsonString (t : Option Talk) (k : String) : Option String := xText (jsonValue t k)

/-- `ptr != NULL && *ptr != '\0'`. -/
def given (s : Option String) : Bool := s.any (· ≠ "")

/-- A text is given when it is there and not empty. -/
theorem given_iff (s : Option String) : given s ↔ s.getD "" ≠ "" := by
  cases s with
  | none => simp [given]
  | some s => simp [given]

/-- What `printf` makes of a text. -/
def printed (s : Option String) : String := s.getD "(null)"

/-- `json_check`: the value is an object. -/
def jsonCheck : Option Talk → Bool
  | some (.json _) => true
  | _ => false

/-- `attr_cut`: the value at a path. -/
def attrCut (t : Option Talk) : List String → Option Talk
  | [] => t
  | k :: ks => attrCut (jsonValue t k) ks

/-! ## Writers -/

/-- `json_delete_axp`: a value without the key `k`. -/
def jsonDeleteAxp (k : String) : Talk → Talk
  | .json es => .json (removeEntry k es)
  | .text s => .text s

/-- Replace the value at a path by `v`, or delete it when `v` is absent; objects that are
missing on the way are created. This is what a save does to the configuration. -/
def attrSet (t : Option Talk) : List String → Option Talk → Option Talk
  | [], v => v
  | k :: ks, v =>
    match attrSet (jsonValue t k) ks v with
    | some x => some (.json (setEntry k x (entriesOf t)))
    | none => t.map (jsonDeleteAxp k)

/-- A value is looked up among the entries. -/
@[simp] theorem jsonValue_json (es : List (String × Talk)) (k : String) :
    jsonValue (some (.json es)) k = es.lookup k := rfl

/-- Nothing has no value. -/
@[simp] theorem jsonValue_none (k : String) : jsonValue none k = none := rfl

/-- A text has no values. -/
@[simp] theorem jsonValue_text (s k : String) : jsonValue (some (.text s)) k = none := rfl

/-- The empty path leads to the value itself. -/
@[simp] theorem attrCut_nil (t : Option Talk) : attrCut t [] = t := rfl

/-- A path leads through the value of its first key. -/
@[simp] theorem attrCut_cons (t : Option Talk) (k : String) (ks : List String) :
    attrCut t (k :: ks) = attrCut (jsonValue t k) ks := rfl

/-- A value is set at a path by setting it at the rest of the path behind the first key. -/
theorem attrSet_cons (t v : Option Talk) (k : String) (ks : List String) :
    attrSet t (k :: ks) v = match attrSet (jsonValue t k) ks v with
      | some x => some (.json (setEntry k x (entriesOf t)))
      | none => t.map (jsonDeleteAxp k) := rfl

/-- Deleting a key hides that key and no other. -/
theorem jsonValue_jsonDeleteAxp (t : Talk) (k k' : String) :
    jsonValue (some (jsonDeleteAxp k t)) k' =
      if k' = k then none else jsonValue (some t) k' := by
  cases t with
  | text s => simp [jsonDeleteAxp]
  | json es => exact lookup_removeEntry k k' es

/-- A write at `k :: ks` gives the key `k` the value written below it. -/
theorem jsonValue_attrSet (t v : Option Talk) (k k' : String) (ks : List String) :
    jsonValue (attrSet t (k :: ks) v) k' =
      if k' = k then attrSet (jsonValue t k) ks v else jsonValue t k' := by
  rw [attrSet_cons]
  cases attrSet (jsonValue t k) ks v with
  | some x => exact lookup_setEntry k k' x (entriesOf t)
  | none =>
    cases t with
    | none => simp
    | some t => exact jsonValue_jsonDeleteAxp t k k'

/-- A value written at a path is read back from it. -/
theorem attrCut_attrSet (t v : Option Talk) (path : List String) :
    attrCut (attrSet t path v) path = v := by
  induction path generalizing t with
  | nil => rfl
  | cons k ks ih =>
    rw [attrCut_cons, jsonValue_attrSet, if_pos rfl]
    exact ih (jsonValue t k)

/-- A write of the value that is already there changes nothing. -/
theorem attrSet_of_attrCut {t v : Option Talk} {path : List String} (h : attrCut t path = v) :
    attrSet t path v = t := by
  induction path generalizing t with
  | nil => exact h.symm
  | cons k ks ih =>
    rw [attrSet_cons, ih h]
    cases hvalue : jsonValue t k with
    | some x =>
      cases t with
      | none => cases hvalue
      | some t =>
        cases t with
        | text s => cases hvalue
        | json es =>
          have hkeep : setEntry k x es = es := setEntry_of_lookup hvalue
          change some (Talk.json (setEntry k x es)) = _
          rw [hkeep]
    | none =>
      cases t with
      | none => rfl
      | some t =>
        cases t with
        | text s => rfl
        | json es =>
          have hkeep : removeEntry k es = es := removeEntry_of_lookup_none hvalue
          change some (Talk.json (removeEntry k es)) = _
          rw [hkeep]

/-- A write changes nothing exactly when the value stands at the path. -/
theorem attrSet_eq_iff (t v : Option Talk) (path : List String) :
    attrSet t path v = t ↔ attrCut t path = v := by
  constructor
  · intro hsame
    have hback := attrCut_attrSet t v path
    rw [hsame] at hback
    exact hback
  · exact attrSet_of_attrCut

/-- A write below one key leaves the others alone. -/
theorem jsonValue_attrSet_of_ne (t v : Option Talk) {k k' : String} (ks : List String)
    (h : k' ≠ k) : jsonValue (attrSet t (k :: ks) v) k' = jsonValue t k' := by
  rw [jsonValue_attrSet, if_neg h]

end Tiger.Model
