import Mathlib.Data.Fin.Basic
import Mathlib.Data.List.FinRange
import Mathlib.Order.WellFounded
import Tiger.Model.Misc

/-!
# Comparing values

`ocompare` against structural equality. It throws when it comes to a `null` beside a
`null`, an array or an object (`NullMet`), and otherwise it tells whether the left value's
entries are those of the right one (`Alike`): an array is alike to an object with its
indices for keys. `ocompare_iff` says for which pairs the answer is structural equality.
-/

set_option autoImplicit false

namespace Tiger.Analysis.StructuralComparison

open Tiger.Library Tiger.Model.Misc

variable {N : Type} [NatCast N]

/-! ## The conditions -/

/-- Every entry of the left value is an entry of the right one, which has as many. -/
def Covers (n : ℕ) (key : Fin n → Js) (rel : Fin n → Json Js N → Prop) (b : Json Js N) : Prop :=
  keyCount b = some n ∧ ∀ i, ∃ y, property b (key i) = some y ∧ rel i y

/-- Equality up to arrays and objects with the same entries, as they are read from the right
value: what it inherits counts as well. -/
def Alike : Json Js N → Json Js N → Prop
  | .null, .null => True
  | .bool x, .bool y => x = y
  | .num x, .num y => x = y
  | .str x, .str y => x = y
  | .arr n elems, b => Covers n indexKey (fun i y => Alike (elems i) y) b
  | .obj n keys vals, b => Covers n keys (fun i y => Alike (vals i) y) b
  | _, _ => False

/-- A `null` is met in the right value, or in an entry behind ones that are alike. -/
def Meets (n : ℕ) (key : Fin n → Js) (rel met : Fin n → Json Js N → Prop) (b : Json Js N) :
    Prop :=
  (typeOf b = .object ∧ keyCount b = none) ∨
    (keyCount b = some n ∧ ∃ i, (∃ y, property b (key i) = some y ∧ met i y) ∧
      ∀ j < i, ∃ y, property b (key j) = some y ∧ rel j y)

/-- The comparison comes to a `null` and a `null`, an array or an object. -/
def NullMet : Json Js N → Json Js N → Prop
  | .null, b => typeOf b = .object
  | .arr n elems, b =>
    Meets n indexKey (fun i y => Alike (elems i) y) (fun i y => NullMet (elems i) y) b
  | .obj n keys vals, b =>
    Meets n keys (fun i y => Alike (vals i) y) (fun i y => NullMet (vals i) y) b
  | _, _ => False

/-! ## The loop over the keys -/

/-- All comparisons hold exactly when each answers true. -/
theorem eachTrue_eq_true_iff (rs : List (Option Bool)) :
    eachTrue rs = some true ↔ ∀ r ∈ rs, r = some true := by
  induction rs with
  | nil => simp [eachTrue]
  | cons r rs ih =>
    rw [List.forall_mem_cons, ← ih]
    rcases r with _ | _ | _
    · simp [eachTrue]
    · simp [eachTrue]
    · simp [eachTrue]

/-- The loop throws at an entry behind ones that compare as the same. -/
theorem eachTrue_eq_none_iff (rs : List (Option Bool)) :
    eachTrue rs = none ↔
      ∃ i : ℕ, rs[i]? = some none ∧ ∀ j < i, rs[j]? = some (some true) := by
  induction rs with
  | nil => simp [eachTrue]
  | cons r rs ih =>
    rcases r with _ | _ | _
    · exact iff_of_true rfl ⟨0, rfl, fun j hj => absurd hj (Nat.not_lt_zero j)⟩
    · refine iff_of_false (by simp [eachTrue]) ?_
      rintro ⟨i, hi, hbefore⟩
      cases i with
      | zero => simp at hi
      | succ i => simpa using hbefore 0 (Nat.succ_pos i)
    · rw [eachTrue, ih]
      constructor
      · rintro ⟨i, hi, hbefore⟩
        refine ⟨i + 1, hi, fun j hj => ?_⟩
        cases j with
        | zero => rfl
        | succ j => exact hbefore j (by omega)
      · rintro ⟨i, hi, hbefore⟩
        cases i with
        | zero => simp at hi
        | succ i => exact ⟨i, hi, fun j hj => hbefore (j + 1) (by omega)⟩

/-- All comparisons of the entries hold exactly when each answers true. -/
theorem eachTrue_map_eq_true_iff {n : ℕ} (f : Fin n → Option Bool) :
    eachTrue ((List.finRange n).map f) = some true ↔ ∀ i, f i = some true := by
  rw [eachTrue_eq_true_iff]
  simp

/-- Comparing throws exactly at the first entry that does not answer true. -/
theorem eachTrue_map_eq_none_iff {n : ℕ} (f : Fin n → Option Bool) :
    eachTrue ((List.finRange n).map f) = none ↔
      ∃ i, f i = none ∧ ∀ j < i, f j = some true := by
  rw [eachTrue_eq_none_iff]
  have hget : ∀ (j : ℕ) (hj : j < n), ((List.finRange n).map f)[j]? = some (f ⟨j, hj⟩) := by
    intro j hj
    simp [hj]
  constructor
  · rintro ⟨i, hi, hbefore⟩
    obtain ⟨hlt, -⟩ := List.getElem?_eq_some_iff.mp hi
    have hin : i < n := by simpa using hlt
    refine ⟨⟨i, hin⟩, ?_, fun j hj => ?_⟩
    · rw [hget i hin] at hi
      exact Option.some.inj hi
    · have hj' := hbefore j.val hj
      rw [hget j.val j.isLt] at hj'
      exact Option.some.inj hj'
  · rintro ⟨i, hi, hbefore⟩
    refine ⟨i.val, ?_, fun j hj => ?_⟩
    · rw [hget i.val i.isLt, ← hi]
    · rw [hget j (hj.trans i.isLt), hbefore ⟨j, hj.trans i.isLt⟩ hj]

/-! ## One array or object -/

/-- What `ocompare` gives for each pair of values. -/
structure Agrees (r : Option Bool) (alike met : Prop) : Prop where
  throws : r = none ↔ met
  same : r = some true ↔ alike ∧ ¬ met

omit [NatCast N] in
/-- A value with keys is an object. -/
theorem typeOf_of_keyCount {b : Json Js N} {n : ℕ} (h : keyCount b = some n) :
    typeOf b = .object := by
  cases b <;> first | rfl | cases h

/-- The comparison of an array or object follows from those of its values. -/
theorem compareKeys_agrees {n : ℕ} {key : Fin n → Js} {compare : Fin n → Json Js N → Option Bool}
    {rel met : Fin n → Json Js N → Prop} (h : ∀ i y, Agrees (compare i y) (rel i y) (met i y))
    (b : Json Js N) :
    Agrees (compareKeys n key compare b) (Covers n key rel b) (Meets n key rel met b) := by
  by_cases hcount : keyCount b = some n
  · have htype := typeOf_of_keyCount hcount
    -- what the loop sees under a key
    have htrue : ∀ i, compareWith (compare i) (property b (key i)) = some true ↔
        ∃ y, property b (key i) = some y ∧ rel i y ∧ ¬ met i y := by
      intro i
      cases property b (key i) with
      | none => simp [compareWith]
      | some y => simpa [compareWith] using (h i y).same
    have hnone : ∀ i, compareWith (compare i) (property b (key i)) = none ↔
        ∃ y, property b (key i) = some y ∧ met i y := by
      intro i
      cases property b (key i) with
      | none => simp [compareWith]
      | some y => simpa [compareWith] using (h i y).throws
    have hmeets : Meets n key rel met b ↔
        ∃ i, (∃ y, property b (key i) = some y ∧ met i y) ∧
          ∀ j < i, ∃ y, property b (key j) = some y ∧ rel j y := by
      unfold Meets
      simp [hcount]
    unfold compareKeys
    rw [if_neg (not_not.mpr htype), hcount]
    simp only [ne_eq, not_true_eq_false, if_false]
    constructor
    · rw [eachTrue_map_eq_none_iff, hmeets]
      constructor
      · rintro ⟨i, hi, hbefore⟩
        refine ⟨i, (hnone i).mp hi, fun j hj => ?_⟩
        obtain ⟨y, hy, hrel, -⟩ := (htrue j).mp (hbefore j hj)
        exact ⟨y, hy, hrel⟩
      · rintro ⟨i, hi, hbefore⟩
        -- the first key where a null is met
        obtain ⟨k, hk, hfirst⟩ := WellFounded.has_min wellFounded_lt
          {i | ∃ y, property b (key i) = some y ∧ met i y} ⟨i, hi⟩
        refine ⟨k, (hnone k).mpr hk, fun j hj => (htrue j).mpr ?_⟩
        have hki : k ≤ i := not_lt.mp (hfirst i hi)
        obtain ⟨y, hy, hrel⟩ := hbefore j (lt_of_lt_of_le hj hki)
        exact ⟨y, hy, hrel, fun hmet => hfirst j ⟨y, hy, hmet⟩ hj⟩
    · rw [eachTrue_map_eq_true_iff, hmeets]
      unfold Covers
      constructor
      · intro hall
        have hrel := fun i => (htrue i).mp (hall i)
        refine ⟨⟨hcount, fun i => ?_⟩, ?_⟩
        · obtain ⟨y, hy, hrel, -⟩ := hrel i
          exact ⟨y, hy, hrel⟩
        · rintro ⟨i, ⟨y, hy, hmet⟩, -⟩
          obtain ⟨y', hy', -, hnot⟩ := hrel i
          exact hnot (Option.some.inj (hy.symm.trans hy') ▸ hmet)
      · rintro ⟨⟨-, hcovers⟩, hmet⟩ i
        obtain ⟨y, hy, hrel⟩ := hcovers i
        exact (htrue i).mpr ⟨y, hy, hrel, fun h => hmet ⟨i, ⟨y, hy, h⟩, fun j _ => hcovers j⟩⟩
  · have hcovers : ¬ Covers n key rel b := fun hc => hcount hc.1
    have hmeets : Meets n key rel met b ↔ typeOf b = .object ∧ keyCount b = none := by
      unfold Meets
      simp [hcount]
    unfold compareKeys
    by_cases htype : typeOf b = .object
    · rw [if_neg (not_not.mpr htype)]
      cases hkeys : keyCount b with
      | none => exact ⟨iff_of_true rfl (hmeets.mpr ⟨htype, hkeys⟩), by simp [hcovers]⟩
      | some m =>
        have hne : n ≠ m := fun heq => hcount (heq ▸ hkeys)
        refine ⟨iff_of_false ?_ ?_, by simp [hcovers, hne]⟩
        · simp [hne]
        · simp [hmeets, hkeys]
    · rw [if_pos htype]
      exact ⟨by simp [hmeets, htype], by simp [hcovers]⟩

/-- A comparison of what is neither array nor object. -/
theorem agrees_some {r : Bool} {p : Prop} (h : r = true ↔ p) : Agrees (some r) p False :=
  ⟨by simp, by simpa using h⟩

/-- **The answers.** `ocompare` throws when a `null` is met, and otherwise tells whether the
values are alike. -/
theorem ocompare_agrees [DecidableEq N] (a b : Json Js N) :
    Agrees (ocompare a b) (Alike a b) (NullMet a b) := by
  induction a generalizing b with
  | null =>
    have hother : ∀ {p : Prop}, p → Agrees none True p := fun hp =>
      ⟨iff_of_true rfl hp, by simp [hp]⟩
    cases b with
    | null => exact hother rfl
    | arr m elems => exact ⟨iff_of_true rfl rfl, iff_of_false nofun fun h => h.1⟩
    | obj m keys vals => exact ⟨iff_of_true rfl rfl, iff_of_false nofun fun h => h.1⟩
    | bool y => exact ⟨iff_of_false nofun nofun, iff_of_false nofun fun h => h.1⟩
    | num y => exact ⟨iff_of_false nofun nofun, iff_of_false nofun fun h => h.1⟩
    | str y => exact ⟨iff_of_false nofun nofun, iff_of_false nofun fun h => h.1⟩
  | bool x =>
    cases b with
    | bool y => exact agrees_some beq_iff_eq
    | _ => exact agrees_some (iff_of_false nofun id)
  | num x =>
    cases b with
    | num y => exact agrees_some decide_eq_true_iff
    | _ => exact agrees_some (iff_of_false nofun id)
  | str x =>
    cases b with
    | str y => exact agrees_some decide_eq_true_iff
    | _ => exact agrees_some (iff_of_false nofun id)
  | arr n elems ih => exact compareKeys_agrees ih b
  | obj n keys vals ih => exact compareKeys_agrees ih b

/-! ## Equal values are alike -/

/-- A key is found at its own place. -/
theorem find_key {n : ℕ} {key : Fin n → Js} (hinj : Function.Injective key) (i : Fin n) :
    (List.finRange n).find? (key · = key i) = some i := by
  cases hfind : (List.finRange n).find? (key · = key i) with
  | none =>
    have hnot := List.find?_eq_none.mp hfind i (List.mem_finRange i)
    simp at hnot
  | some j =>
    have hkey := List.find?_some hfind
    rw [hinj (of_decide_eq_true hkey)]

/-- A digit is read back from its code unit. -/
theorem ofNat_unit_digit {c : Char} (h : c.isDigit = true) : Char.ofNat (unit c).toNat = c := by
  have hdigit := Char.isDigit_iff_toNat.mp h
  have hbound : c.toNat < 2 ^ 16 := by
    have hnine : '9'.toNat = 57 := rfl
    omega
  unfold unit
  rw [UInt16.toNat_ofNat', Nat.mod_eq_of_lt hbound]
  exact Char.ofNat_toNat c

/-- Different indices have different keys. -/
theorem indexKey_injective (n : ℕ) : Function.Injective (indexKey (n := n)) := by
  have hback : ∀ i : Fin n, (indexKey i).map (fun u => Char.ofNat u.toNat) =
      (Nat.repr i.val).toList := by
    intro i
    have hdigits : ∀ c ∈ (Nat.repr i.val).toList, Char.ofNat (unit c).toNat = c := by
      intro c hc
      rw [Nat.toList_repr] at hc
      exact ofNat_unit_digit (Nat.isDigit_of_mem_toDigits (by decide) (by decide) hc)
    unfold indexKey js
    rw [List.map_map]
    exact (List.map_congr_left hdigits).trans (List.map_id _)
  intro i j hij
  have hdigits : Nat.toDigits 10 i.val = Nat.toDigits 10 j.val := by
    rw [← Nat.toList_repr, ← Nat.toList_repr, ← hback i, ← hback j, hij]
  have hvalue := congrArg (Nat.ofDigitChars 10 · 0) hdigits
  rw [Nat.ofDigitChars_ten_toDigits, Nat.ofDigitChars_ten_toDigits] at hvalue
  exact Fin.ext hvalue

/-- The property of an index is the element. -/
theorem property_index {n : ℕ} (elems : Fin n → Json Js N) (i : Fin n) :
    property (.arr n elems) (indexKey i) = some (elems i) := by
  unfold property
  dsimp only
  rw [find_key (indexKey_injective n) i]

/-- The property of a key is its value. -/
theorem property_key {n : ℕ} (keys : Fin n ↪ Js) (vals : Fin n → Json Js N) (i : Fin n) :
    property (.obj n keys vals) (keys i) = some (vals i) := by
  unfold property
  dsimp only
  rw [find_key keys.injective i]

/-- Equal values are alike. -/
theorem alike_of_equal {a b : Json Js N} (h : a.Equal b) : Alike a b := by
  induction a generalizing b with
  | null => cases b <;> exact h
  | bool x => cases b <;> exact h
  | num x => cases b <;> exact h
  | str x => cases b <;> exact h
  | arr n elems ih =>
    cases b with
    | arr m elems' =>
      obtain ⟨rfl, helems⟩ := h
      exact ⟨rfl, fun i => ⟨elems' i, property_index elems' i, ih i (helems i)⟩⟩
    | _ => exact h.elim
  | obj n keys vals ih =>
    cases b with
    | obj m keys' vals' =>
      obtain ⟨rfl, hvals⟩ := h
      refine ⟨rfl, fun i => ?_⟩
      obtain ⟨j, hkey, hequal⟩ := hvals i
      refine ⟨vals' j, ?_, ih i hequal⟩
      rw [hkey, property_key]
    | _ => exact h.elim

/-! ## The result -/

section Result

variable [DecidableEq N]

/-- `ocompare` ends without an exception and tells whether the values are equal. -/
def Right (a b : Json Js N) : Prop := ∃ r, ocompare a b = some r ∧ (r = true ↔ a.Equal b)

/-- Where no `null` is met and alike values are equal, the answer is right. -/
theorem right_of_alike {a b : Json Js N} (hmet : ¬ NullMet a b) (h : Alike a b → a.Equal b) :
    Right a b := by
  obtain ⟨hthrows, hsame⟩ := ocompare_agrees a b
  cases hr : ocompare a b with
  | none => exact absurd (hthrows.mp hr) hmet
  | some r =>
    refine ⟨r, hr, ?_⟩
    rw [← Option.some_inj, ← hr, hsame]
    exact ⟨fun halike => h halike.1, fun hequal => ⟨alike_of_equal hequal, hmet⟩⟩

/-- **Comparing values.** `ocompare` tells without an exception whether two values are equal, if
and only if it meets no `null` beside a `null`, an array or an object, and the values are equal
where they are alike. -/
theorem ocompare_iff (a b : Json Js N) :
    Right a b ↔ ¬ NullMet a b ∧ (Alike a b → a.Equal b) := by
  refine ⟨?_, fun h => right_of_alike h.1 h.2⟩
  rintro ⟨r, hr, hequal⟩
  obtain ⟨hthrows, hsame⟩ := ocompare_agrees a b
  have hmet : ¬ NullMet a b := by
    rw [← hthrows, hr]
    exact nofun
  refine ⟨hmet, fun halike => ?_⟩
  have htrue := hsame.mpr ⟨halike, hmet⟩
  rw [hr] at htrue
  exact hequal.mp (Option.some.inj htrue)

end Result

/-- No keys are different keys. -/
theorem elim0_injective : Function.Injective (Fin.elim0 : Fin 0 → Js) := fun i => i.elim0

/-- An object without keys. -/
def emptyObject : Json Js ℤ := .obj 0 ⟨Fin.elim0, elim0_injective⟩ Fin.elim0

/-- `null` is not compared with itself, and an empty array is taken for an empty object. -/
theorem null_and_empty_not_right :
    ¬ Right (.null : Json Js ℤ) .null ∧ ¬ Right (.arr 0 Fin.elim0) emptyObject := by
  constructor
  · rintro ⟨r, hr, -⟩
    cases hr
  · rintro ⟨r, hr, hequal⟩
    have htrue : ocompare (.arr 0 Fin.elim0) emptyObject = some true := by decide
    exact hequal.mp (Option.some.inj (hr.symm.trans htrue))

/-! ## Settings -/

/-- What configurations are made of: texts, and objects of them without the one key that
objects inherit. -/
def Setting : Json Js N → Prop
  | .str _ => True
  | .obj _ keys vals => (∀ i, keys i ≠ js "__proto__") ∧ ∀ i, Setting (vals i)
  | _ => False

/-- What an object gives under a key that it does not inherit is one of its own values. -/
theorem exists_of_property {n : ℕ} {keys : Fin n ↪ Js} {vals : Fin n → Json Js N} {k : Js}
    {y : Json Js N} (hk : k ≠ js "__proto__") (h : property (.obj n keys vals) k = some y) :
    ∃ j, keys j = k ∧ vals j = y := by
  unfold property at h
  dsimp only at h
  split at h
  · next j hfind =>
    have hkey := List.find?_some hfind
    exact ⟨j, of_decide_eq_true hkey, Option.some.inj h⟩
  · rw [inherited, if_neg hk] at h
    cases h

/-- Settings meet no null. -/
theorem not_nullMet_of_setting {a b : Json Js N} (ha : Setting a) (hb : Setting b) :
    ¬ NullMet a b := by
  induction a generalizing b with
  | obj n keys vals ih =>
    cases b with
    | obj m keys' vals' =>
      rintro (⟨-, hnone⟩ | ⟨-, i, ⟨y, hy, hmet⟩, -⟩)
      · cases hnone
      · obtain ⟨j, -, rfl⟩ := exists_of_property (ha.1 i) hy
        exact ih i (ha.2 i) (hb.2 j) hmet
    | str t =>
      rintro (⟨htype, -⟩ | ⟨hcount, -⟩)
      · cases htype
      · cases hcount
    | _ => exact hb.elim
  | str s => cases b <;> exact id
  | _ => exact ha.elim

/-- Settings that are alike are equal. -/
theorem equal_of_alike {a b : Json Js N} (ha : Setting a) (hb : Setting b) (h : Alike a b) :
    a.Equal b := by
  induction a generalizing b with
  | obj n keys vals ih =>
    cases b with
    | obj m keys' vals' =>
      obtain ⟨hcount, hentries⟩ := h
      refine ⟨(Option.some.inj hcount).symm, fun i => ?_⟩
      obtain ⟨y, hy, halike⟩ := hentries i
      obtain ⟨j, hkey, rfl⟩ := exists_of_property (ha.1 i) hy
      exact ⟨j, hkey.symm, ih i (ha.2 i) (hb.2 j) halike⟩
    | str t => cases h.1
    | _ => exact hb.elim
  | str s => cases b <;> exact h
  | _ => exact ha.elim

/-- **Settings.** `ocompare` is right about settings, so that it is an equivalence on them. -/
theorem ocompare_settings [DecidableEq N] :
    (∀ a b : Json Js N, Setting a → Setting b → Right a b) ∧
      Equivalence fun a b : { v : Json Js N // Setting v } => ocompare a.1 b.1 = some true := by
  have hright : ∀ a b : Json Js N, Setting a → Setting b → Right a b := fun a b ha hb =>
    right_of_alike (not_nullMet_of_setting ha hb) (equal_of_alike ha hb)
  have htrue : ∀ a b : { v : Json Js N // Setting v },
      ocompare a.1 b.1 = some true ↔ a.1.Equal b.1 := by
    intro a b
    obtain ⟨r, hr, hequal⟩ := hright a.1 b.1 a.2 b.2
    rw [hr, Option.some_inj, hequal]
  refine ⟨hright, ?_, ?_, ?_⟩
  · exact fun a => (htrue a a).mpr (Json.equal_equivalence.refl a.1)
  · exact fun {a b} h => (htrue b a).mpr (Json.equal_equivalence.symm ((htrue a b).mp h))
  · exact fun {a b c} hab hbc =>
      (htrue a c).mpr (Json.equal_equivalence.trans ((htrue a b).mp hab) ((htrue b c).mp hbc))

end Tiger.Analysis.StructuralComparison
