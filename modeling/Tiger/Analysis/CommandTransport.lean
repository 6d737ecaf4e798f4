import Mathlib.Data.Fin.VecNotation
import Mathlib.Data.List.Nodup
import Mathlib.Data.List.TakeWhile
import Mathlib.Data.Nat.Bitwise
import Tiger.Analysis.StructuralComparison
import Tiger.Library.Delimited
import Tiger.Model.Code

/-!
# The commands of a page on their way

The codecs of `code.js`, and what they make of a request. `base64.decode` undoes
`base64.encode` up to line ends (`base64_decode_encode`). `url.decode` undoes `url.encode`
on what `base64.encode` gives, and on a text in general only where the low byte of each unit
is below 128 (`url_decode_encode`). Together the form that is posted says the commands one by
one (`form_paramter`), and each value of the answer comes back under the key of its command.
-/

set_option autoImplicit false

namespace Tiger.Analysis.CommandTransport

open Tiger.Library Tiger.Model.Misc Tiger.Model.Code
open Tiger.Analysis.StructuralComparison (ofNat_unit_digit indexKey_injective property_key)

/-! ## Groups of bits -/

/-- The mask 3 is the remainder by 4. -/
theorem and_three (n : ℕ) : n &&& 3 = n % 4 := Nat.and_two_pow_sub_one_eq_mod n 2

/-- The mask 15 is the remainder by 16. -/
theorem and_fifteen (n : ℕ) : n &&& 15 = n % 16 := Nat.and_two_pow_sub_one_eq_mod n 4

/-- The mask 31 is the remainder by 32. -/
theorem and_thirtyOne (n : ℕ) : n &&& 31 = n % 32 := Nat.and_two_pow_sub_one_eq_mod n 5

/-- The mask 63 is the remainder by 64. -/
theorem and_sixtyThree (n : ℕ) : n &&& 63 = n % 64 := Nat.and_two_pow_sub_one_eq_mod n 6

/-- Bits that are put below others. -/
theorem shiftLeft_or {b k : ℕ} (a : ℕ) (h : b < 2 ^ k) : a <<< k ||| b = a * 2 ^ k + b := by
  rw [← Nat.shiftLeft_add_eq_or_of_lt h, Nat.shiftLeft_eq]

/-- Bits below a shifted number are added to it. -/
theorem or_eq_add {b : ℕ} (k a : ℕ) (h : b < 2 ^ k) : b ||| a * 2 ^ k = a * 2 ^ k + b := by
  rw [Nat.or_comm, ← Nat.shiftLeft_eq, shiftLeft_or a h, Nat.shiftLeft_eq]

/-! ## The alphabet -/

/-- Each of the 65 letters is found at its own place. -/
theorem charAt_eq {n : ℕ} (h : n < 65) :
    ∃ k, Base64.charAt n = [k] ∧ Base64.indexOf k = n ∧ Base64.keyStr.contains k = true := by
  have hlen : n < Base64.keyStr.length := h
  have hnodup : Base64.keyStr.Nodup := by decide +kernel
  refine ⟨Base64.keyStr[n], ?_, hnodup.idxOf_getElem n hlen, ?_⟩
  · rw [Base64.charAt, List.getElem?_eq_getElem hlen, Option.toList_some]
  · rw [List.contains_iff_mem]
    exact List.getElem_mem hlen

/-! ## Three bytes and four characters -/

/-- The six bits of the first character and two of the second. -/
theorem first_byte {b : ℕ} (a : ℕ) (hb : b < 256) :
    (a / 4) <<< 2 ||| (a % 4 * 16 + b / 16) >>> 4 = a := by
  rw [Nat.shiftRight_eq_div_pow, shiftLeft_or _ (by omega)]
  omega

/-- Four bits of the second character and four of the third. -/
theorem second_byte {b c : ℕ} (a : ℕ) (hb : b < 256) (hc : c < 256) :
    ((a % 4 * 16 + b / 16) &&& 15) <<< 4 ||| (b % 16 * 4 + c / 64) >>> 2 = b := by
  rw [Nat.shiftRight_eq_div_pow, and_fifteen, shiftLeft_or _ (by omega)]
  omega

/-- Two bits of the third character and the fourth. -/
theorem third_byte {c : ℕ} (b : ℕ) (hc : c < 256) :
    ((b % 16 * 4 + c / 64) &&& 3) <<< 6 ||| c % 64 = c := by
  rw [and_three, shiftLeft_or _ (by omega)]
  omega

/-- The second letter holds two bits of the first byte and four of the second. -/
theorem enc2_eq {b : ℕ} (a : ℕ) (hb : b < 256) :
    (a &&& 3) <<< 4 ||| b >>> 4 = a % 4 * 16 + b / 16 := by
  rw [Nat.shiftRight_eq_div_pow, and_three, shiftLeft_or _ (by omega)]
  rfl

/-- The third letter holds four bits of the second byte and two of the third. -/
theorem enc3_eq {c : ℕ} (b : ℕ) (hc : c < 256) :
    (b &&& 15) <<< 2 ||| c >>> 6 = b % 16 * 4 + c / 64 := by
  rw [Nat.shiftRight_eq_div_pow, and_fifteen, shiftLeft_or _ (by omega)]
  rfl

/-- Four characters of the alphabet that `decode` reads as some bytes. -/
def Reads (text bytes : Js) : Prop :=
  ∃ k1 k2 k3 k4, text = [k1, k2, k3, k4] ∧
    Base64.triple (Base64.indexOf k1) (Base64.indexOf k2) (Base64.indexOf k3)
      (Base64.indexOf k4) = bytes ∧
    ∀ k ∈ [k1, k2, k3, k4], Base64.keyStr.contains k = true

/-- Four characters with known positions. -/
theorem reads_of_triple {e1 e2 e3 e4 : ℕ} {bytes : Js} (h1 : e1 < 65) (h2 : e2 < 65)
    (h3 : e3 < 65) (h4 : e4 < 65) (h : Base64.triple e1 e2 e3 e4 = bytes) :
    Reads (Base64.charAt e1 ++ Base64.charAt e2 ++ Base64.charAt e3 ++ Base64.charAt e4)
      bytes := by
  obtain ⟨k1, hk1, hi1, hc1⟩ := charAt_eq h1
  obtain ⟨k2, hk2, hi2, hc2⟩ := charAt_eq h2
  obtain ⟨k3, hk3, hi3, hc3⟩ := charAt_eq h3
  obtain ⟨k4, hk4, hi4, hc4⟩ := charAt_eq h4
  refine ⟨k1, k2, k3, k4, by rw [hk1, hk2, hk3, hk4]; rfl, by rw [hi1, hi2, hi3, hi4, h], ?_⟩
  intro k hk
  simp only [List.mem_cons, List.not_mem_nil, or_false] at hk
  rcases hk with rfl | rfl | rfl | rfl
  · exact hc1
  · exact hc2
  · exact hc3
  · exact hc4

/-- Four letters give back three bytes. -/
theorem reads_three {a b c : UInt16} (ha : a < 256) (hb : b < 256) (hc : c < 256) :
    Reads (Base64.quad a.toNat (some b.toNat) (some c.toNat)) [a, b, c] := by
  have ha' : a.toNat < 256 := ha
  have hb' : b.toNat < 256 := hb
  have hc' : c.toNat < 256 := hc
  simp only [Base64.quad, Option.getD_some, reduceCtorEq, or_self, if_false]
  rw [enc2_eq _ hb', enc3_eq _ hc', and_sixtyThree, Nat.shiftRight_eq_div_pow]
  refine reads_of_triple (by omega) (by omega) (by omega) (by omega) ?_
  have hthree : b.toNat % 16 * 4 + c.toNat / 64 ≠ 64 := by omega
  have hfour : c.toNat % 64 ≠ 64 := by omega
  simp only [Base64.triple]
  rw [if_pos hthree, if_pos hfour, second_byte _ hb' hc', third_byte _ hc']
  have hfirst := first_byte a.toNat hb'
  simp_all

/-- Three letters and a pad give back two bytes. -/
theorem reads_two {a b : UInt16} (ha : a < 256) (hb : b < 256) :
    Reads (Base64.quad a.toNat (some b.toNat) none) [a, b] := by
  have ha' : a.toNat < 256 := ha
  have hb' : b.toNat < 256 := hb
  simp only [Base64.quad, Option.getD_some, Option.getD_none, reduceCtorEq, or_true, if_true,
    if_false]
  rw [enc2_eq _ hb', enc3_eq _ (by decide), Nat.shiftRight_eq_div_pow]
  refine reads_of_triple (by omega) (by omega) (by omega) (by omega) ?_
  have hthree : b.toNat % 16 * 4 + 0 / 64 ≠ 64 := by omega
  simp only [Base64.triple]
  rw [if_pos hthree, second_byte _ hb' (by decide)]
  have hfirst := first_byte a.toNat hb'
  simp_all

/-- Two letters and two pads give back one byte. -/
theorem reads_one {a : UInt16} (ha : a < 256) :
    Reads (Base64.quad a.toNat none none) [a] := by
  have ha' : a.toNat < 256 := ha
  simp only [Base64.quad, Option.getD_none, or_self, if_true]
  rw [enc2_eq _ (by decide), Nat.shiftRight_eq_div_pow]
  refine reads_of_triple (by omega) (by omega) (by omega) (by omega) ?_
  simp only [Base64.triple]
  have hfirst := first_byte (b := 0) a.toNat (by decide)
  simp_all

/-- `decode` goes on behind four characters. -/
theorem decodeLoop_append {text bytes : Js} (h : Reads text bytes) (rest : Js) :
    Base64.decodeLoop (text ++ rest) = bytes ++ Base64.decodeLoop rest := by
  obtain ⟨k1, k2, k3, k4, rfl, rfl, -⟩ := h
  rfl

/-- The loop of `decode` undoes that of `encode`. -/
theorem decodeLoop_encodeLoop : ∀ bytes : Js, (∀ u ∈ bytes, u < 256) →
    Base64.decodeLoop (Base64.encodeLoop bytes) = bytes ∧
      ∀ k ∈ Base64.encodeLoop bytes, Base64.keyStr.contains k = true
  | [], _ => ⟨rfl, by simp [Base64.encodeLoop]⟩
  | [a], h => by
    have hread := reads_one (h a (by simp))
    have hdec := decodeLoop_append hread []
    obtain ⟨k1, k2, k3, k4, htext, -, hmem⟩ := hread
    rw [List.append_nil] at hdec
    exact ⟨hdec, by simpa only [Base64.encodeLoop, htext] using hmem⟩
  | [a, b], h => by
    have hread := reads_two (h a (by simp)) (h b (by simp))
    have hdec := decodeLoop_append hread []
    obtain ⟨k1, k2, k3, k4, htext, -, hmem⟩ := hread
    rw [List.append_nil] at hdec
    exact ⟨hdec, by simpa only [Base64.encodeLoop, htext] using hmem⟩
  | a :: b :: c :: rest, h => by
    have hread := reads_three (h a (by simp)) (h b (by simp)) (h c (by simp))
    obtain ⟨ih, ihmem⟩ := decodeLoop_encodeLoop rest fun u hu => h u (by simp [hu])
    rw [Base64.encodeLoop, decodeLoop_append hread, ih]
    refine ⟨rfl, ?_⟩
    intro k hk
    obtain ⟨k1, k2, k3, k4, htext, -, hmem⟩ := hread
    rcases List.mem_append.mp hk with hk | hk
    · exact hmem k (htext ▸ hk)
    · exact ihmem k hk

/-! ## UTF-8 -/

/-- A code unit has sixteen bits. -/
theorem toNat_lt {u : UInt16} : u.toNat < 65536 := UInt16.toNat_lt u

/-- A unit below 2048 comes back from its two bytes. -/
theorem two_bytes {c : ℕ} (hc : c < 2048) :
    Base64.twoBytes ((c >>> 6) ||| 192) ((c &&& 63) ||| 128) = UInt16.ofNat c := by
  have hlead : c >>> 6 ||| 192 = 192 + c / 64 := by
    rw [Nat.shiftRight_eq_div_pow]
    exact or_eq_add 6 3 (by omega)
  have htail : (c &&& 63) ||| 128 = 128 + c % 64 := by
    rw [and_sixtyThree]
    exact or_eq_add 6 2 (by omega)
  rw [Base64.twoBytes, hlead, htail, and_thirtyOne, and_sixtyThree, shiftLeft_or _ (by omega)]
  congr 1
  omega

/-- Any unit comes back from its three bytes. -/
theorem three_bytes {c : ℕ} (hc : c < 65536) :
    Base64.threeBytes ((c >>> 12) ||| 224) (((c >>> 6) &&& 63) ||| 128)
      ((c &&& 63) ||| 128) = UInt16.ofNat c := by
  have hlead : c >>> 12 ||| 224 = 224 + c / 4096 := by
    rw [Nat.shiftRight_eq_div_pow]
    exact or_eq_add 5 7 (by omega)
  have hmid : ((c >>> 6) &&& 63) ||| 128 = 128 + c / 64 % 64 := by
    rw [Nat.shiftRight_eq_div_pow, and_sixtyThree]
    exact or_eq_add 6 2 (by omega)
  have htail : (c &&& 63) ||| 128 = 128 + c % 64 := by
    rw [and_sixtyThree]
    exact or_eq_add 6 2 (by omega)
  rw [Base64.threeBytes, hlead, hmid, htail, and_fifteen, and_sixtyThree, and_sixtyThree]
  rw [Nat.or_assoc, shiftLeft_or ((128 + c / 64 % 64) % 64) (by omega : _ < 2 ^ 6),
    shiftLeft_or _ (by omega)]
  congr 1
  omega

/-- A byte below 128 stands for itself. -/
theorem utf8Decode_one {c : UInt16} (h : c < 128) (rest : Js) :
    Base64.utf8Decode (c :: rest) = c :: Base64.utf8Decode rest := by
  match rest with
  | [] => simp [Base64.utf8Decode, h]
  | [_] => simp [Base64.utf8Decode, h]
  | _ :: _ :: _ => simp [Base64.utf8Decode, h]

/-- A byte from 192 to 223 begins a pair. -/
theorem utf8Decode_two {c : UInt16} (h1 : 191 < c) (h2 : c < 224) (c2 : UInt16) (rest : Js) :
    Base64.utf8Decode (c :: c2 :: rest) =
      Base64.twoBytes c.toNat c2.toNat :: Base64.utf8Decode rest := by
  have hno : ¬ c < 128 := fun h => absurd (UInt16.lt_trans h1 h) (by decide)
  match rest with
  | [] => simp [Base64.utf8Decode, hno, h1, h2]
  | _ :: _ => simp [Base64.utf8Decode, hno, h1, h2]

/-- A byte from 224 on begins a triple. -/
theorem utf8Decode_three {c : UInt16} (h : 224 ≤ c) (c2 c3 : UInt16) (rest : Js) :
    Base64.utf8Decode (c :: c2 :: c3 :: rest) =
      Base64.threeBytes c.toNat c2.toNat c3.toNat :: Base64.utf8Decode rest := by
  have hno : ¬ c < 128 := fun hlt => absurd (UInt16.lt_of_le_of_lt h hlt) (by decide)
  have hno2 : ¬ (c > 191 ∧ c < 224) := fun hlt =>
    absurd (UInt16.lt_of_le_of_lt h hlt.2) (by decide)
  rw [Base64.utf8Decode, if_neg hno, if_neg hno2]

/-- The bytes of a code unit are read as that unit. -/
theorem utf8Decode_utf8Unit (u : UInt16) (rest : Js) :
    Base64.utf8Decode (Base64.utf8Unit u ++ rest) = u :: Base64.utf8Decode rest := by
  have hu := UInt16.toNat_lt u
  have hlow : ∀ n : ℕ, n &&& 63 ||| 128 < 65536 := by
    intro n
    rw [and_sixtyThree]
    exact Nat.or_lt_two_pow (n := 16) (by omega) (by decide)
  unfold Base64.utf8Unit
  by_cases h1 : u.toNat < 128
  · have hlt : u < 128 := h1
    simpa [h1] using utf8Decode_one hlt rest
  by_cases h2 : u.toNat > 127 ∧ u.toNat < 2048
  · have hlead : u.toNat >>> 6 ||| 192 = 192 + u.toNat / 64 := by
      rw [Nat.shiftRight_eq_div_pow]
      exact or_eq_add 6 3 (by omega)
    have hsize : u.toNat >>> 6 ||| 192 < 65536 := by omega
    have hgt : (191 : UInt16) < UInt16.ofNat (u.toNat >>> 6 ||| 192) := by
      rw [UInt16.lt_ofNat_iff hsize, hlead]
      exact Nat.lt_of_lt_of_le (by decide) (Nat.le_add_right 192 _)
    have hlt : UInt16.ofNat (u.toNat >>> 6 ||| 192) < 224 := by
      rw [UInt16.ofNat_lt_iff hsize, hlead]
      exact (by omega : 192 + u.toNat / 64 < 224)
    simp only [if_neg h1, if_pos h2]
    rw [List.cons_append, List.cons_append, List.nil_append, utf8Decode_two hgt hlt,
      UInt16.toNat_ofNat_of_lt' hsize, UInt16.toNat_ofNat_of_lt' (hlow _), two_bytes h2.2,
      UInt16.ofNat_toNat]
  · have hlead : u.toNat >>> 12 ||| 224 = 224 + u.toNat / 4096 := by
      rw [Nat.shiftRight_eq_div_pow]
      exact or_eq_add 5 7 (by omega)
    have hsize : u.toNat >>> 12 ||| 224 < 65536 := by omega
    have hge : (224 : UInt16) ≤ UInt16.ofNat (u.toNat >>> 12 ||| 224) := by
      rw [UInt16.le_ofNat_iff hsize, hlead]
      exact Nat.le_add_right 224 _
    simp only [if_neg h1, if_neg h2]
    rw [List.cons_append, List.cons_append, List.cons_append, List.nil_append,
      utf8Decode_three hge, UInt16.toNat_ofNat_of_lt' hsize, UInt16.toNat_ofNat_of_lt' (hlow _),
      UInt16.toNat_ofNat_of_lt' (hlow _), three_bytes hu, UInt16.ofNat_toNat]

/-- What a unit is encoded as are bytes. -/
theorem utf8Unit_lt (u : UInt16) : ∀ b ∈ Base64.utf8Unit u, b < 256 := by
  have hu := UInt16.toNat_lt u
  have hbyte : ∀ n < 256, UInt16.ofNat n < 256 := by
    intro n hn
    rw [UInt16.ofNat_lt_iff (by omega : n < 65536)]
    exact hn
  have hlow : ∀ n : ℕ, n &&& 63 ||| 128 < 256 := by
    intro n
    rw [and_sixtyThree]
    exact Nat.or_lt_two_pow (n := 8) (by omega) (by decide)
  simp only [Base64.utf8Unit]
  split
  next h =>
    rw [List.forall_mem_singleton]
    exact hbyte _ (by omega)
  split
  · have hlead : u.toNat >>> 6 ||| 192 < 256 := by
      rw [Nat.shiftRight_eq_div_pow]
      exact Nat.or_lt_two_pow (n := 8) (by omega) (by decide)
    rw [List.forall_mem_cons, List.forall_mem_singleton]
    exact ⟨hbyte _ hlead, hbyte _ (hlow _)⟩
  · have hlead : u.toNat >>> 12 ||| 224 < 256 := by
      rw [Nat.shiftRight_eq_div_pow]
      exact Nat.or_lt_two_pow (n := 8) (by omega) (by decide)
    rw [List.forall_mem_cons, List.forall_mem_cons, List.forall_mem_singleton]
    exact ⟨hbyte _ hlead, hbyte _ (hlow _), hbyte _ (hlow _)⟩

/-- `_utf8_decode` undoes `_utf8_encode` up to line ends. -/
theorem utf8Decode_utf8Encode (s : Js) :
    Base64.utf8Decode (Base64.utf8Encode s) = Base64.replaceCrlf s := by
  unfold Base64.utf8Encode
  induction Base64.replaceCrlf s with
  | nil => rfl
  | cons u units ih => rw [List.flatMap_cons, utf8Decode_utf8Unit, ih]

/-- `base64.encode` gives characters of the alphabet. -/
theorem keyStr_of_mem_encode {s : Js} {k : UInt16} (hk : k ∈ Base64.encode s) :
    Base64.keyStr.contains k = true := by
  refine (decodeLoop_encodeLoop _ fun u hu => ?_).2 k hk
  obtain ⟨unit, -, hmem⟩ := List.mem_flatMap.mp hu
  exact utf8Unit_lt unit u hmem

/-- A text comes back with every CRLF replaced by LF. -/
theorem base64_decode_encode (s : Js) :
    Base64.decode (Base64.encode s) = Base64.replaceCrlf s := by
  have hfilter : (Base64.encode s).filter (Base64.keyStr.contains ·) = Base64.encode s :=
    List.filter_eq_self.mpr fun k hk => keyStr_of_mem_encode hk
  have hloop : Base64.decodeLoop (Base64.encode s) = Base64.utf8Encode s := by
    refine (decodeLoop_encodeLoop _ fun u hu => ?_).1
    obtain ⟨unit, -, hmem⟩ := List.mem_flatMap.mp hu
    exact utf8Unit_lt unit u hmem
  rw [Base64.decode, hfilter, hloop, utf8Decode_utf8Encode]

/-- `base64.decode` undoes `base64.encode` for every string of the language, up to line ends:
surrogates are encoded one by one, and two strings that are encoded alike differ in carriage
returns in front of line feeds alone. -/
theorem base64_roundTrip (s t : Js) :
    Base64.decode (Base64.encode s) = Base64.replaceCrlf s ∧
      (Base64.encode s = Base64.encode t ↔ Base64.replaceCrlf s = Base64.replaceCrlf t) := by
  refine ⟨base64_decode_encode s, ?_, ?_⟩
  · intro h
    rw [← base64_decode_encode s, h, base64_decode_encode]
  · intro h
    unfold Base64.encode Base64.utf8Encode
    rw [h]

/-! ## `url` -/

/-- A hexadecimal digit is read back. -/
theorem digitValue_hexDigit : ∀ n < 16, digitValue (Url.hexDigit n) = some n := by decide

/-- `parseInt` of two hexadecimal digits, or of more. -/
theorem parseInt_hex {digits : Js} (hne : digits ≠ [])
    (h : ∀ d ∈ digits, isDigitIn 16 d = true) :
    parseInt (js "0x" ++ digits) = some (valueIn 16 digits : ℤ) := by
  have htext : (js "0x" ++ digits).dropWhile (jsSpaces.contains ·) =
      unit '0' :: unit 'x' :: digits := rfl
  have hminus : ¬ unit '0' = unit '-' := by decide
  have hplus : ¬ unit '0' = unit '+' := by decide
  have hradix : radixOf (unit '0' :: unit 'x' :: digits) = (16, digits) := by
    rw [radixOf, if_pos (by decide)]
  simp only [parseInt]
  rw [htext]
  simp only [List.head?_cons, Option.some.injEq, hminus, hplus, or_self, if_false, hradix,
    List.takeWhile_eq_self_iff.mpr h, hne]

/-- The low byte of a code unit. -/
def low (u : UInt16) : ℕ := u.toNat % 256

/-- The digits of a code unit are those of its low byte. -/
theorem parseInt_str2asc (u : UInt16) :
    parseInt (js "0x" ++ Url.str2asc u) = some (low u : ℤ) := by
  have h1 := digitValue_hexDigit (u.toNat / 16 % 16) (Nat.mod_lt _ (by decide))
  have h2 := digitValue_hexDigit (u.toNat % 16) (Nat.mod_lt _ (by decide))
  have hlt1 : u.toNat / 16 % 16 < 16 := Nat.mod_lt _ (by decide)
  have hlt2 : u.toNat % 16 < 16 := Nat.mod_lt _ (by decide)
  have hdigits : ∀ d ∈ Url.str2asc u, isDigitIn 16 d = true := by
    simp [Url.str2asc, isDigitIn, h1, h2, hlt1, hlt2]
  rw [parseInt_hex (by simp [Url.str2asc]) hdigits]
  have hval : valueIn 16 (Url.str2asc u) = low u := by
    simp only [valueIn, Url.str2asc, List.foldl_cons, List.foldl_nil, h1, h2, Option.getD_some, low]
    omega
  rw [hval]

/-- Twice the digits of a code unit. -/
theorem parseInt_str2asc_twice (u : UInt16) :
    parseInt (js "0x" ++ Url.str2asc u ++ Url.str2asc u) = some (low u * 257 : ℤ) := by
  have h1 := digitValue_hexDigit (u.toNat / 16 % 16) (Nat.mod_lt _ (by decide))
  have h2 := digitValue_hexDigit (u.toNat % 16) (Nat.mod_lt _ (by decide))
  have hlt1 : u.toNat / 16 % 16 < 16 := Nat.mod_lt _ (by decide)
  have hlt2 : u.toNat % 16 < 16 := Nat.mod_lt _ (by decide)
  have hdigits : ∀ d ∈ Url.str2asc u ++ Url.str2asc u, isDigitIn 16 d = true := by
    simp [Url.str2asc, isDigitIn, h1, h2, hlt1, hlt2]
  rw [List.append_assoc, parseInt_hex (by simp [Url.str2asc]) hdigits]
  have hval : valueIn 16 (Url.str2asc u ++ Url.str2asc u) = low u * 257 := by
    simp only [valueIn, Url.str2asc, List.cons_append, List.nil_append, List.foldl_cons,
      List.foldl_nil, h1, h2, Option.getD_some, low]
    omega
  rw [hval]
  norm_cast

/-- What a code unit comes to on its way through `url`. -/
def lowered (u : UInt16) : UInt16 :=
  if low u < 128 then u else UInt16.ofNat (low u * 257)

/-- The special characters are those of ASCII, and `+` and `%` are among them. -/
theorem lt_of_mem_strSpecial {u : UInt16} (h : Url.strSpecial.contains u = true) :
    u.toNat < 128 := by
  rw [List.contains_iff_mem] at h
  exact List.forall_iff_forall_mem.mp
    (show List.Forall (fun u : UInt16 => u.toNat < 128) Url.strSpecial by decide) u h

/-- An escape of a byte below 128 is one unit. -/
theorem decodeFrom_escape {d1 d2 : UInt16} {n : ℤ} (h : parseInt (js "0x" ++ [d1, d2]) = some n)
    (hn : ¬ n > 0x7f) (rest : Js) :
    Url.decodeFrom 0 (unit '%' :: d1 :: d2 :: rest) =
      Url.asc2str (some n) :: Url.decodeFrom 0 rest := by
  have hpercent : ¬ unit '%' = unit '+' := by decide
  have hsmall : ¬ (parseInt (js "0x" ++ (d1 :: d2 :: rest).take 2)).any (· > 0x7f) = true := by
    simpa [h] using hn
  rw [Url.decodeFrom, if_neg hpercent, if_pos rfl, if_neg hsmall]
  exact congrArg (fun o => Url.asc2str o :: Url.decodeFrom 0 rest) h

/-- An escape of a larger byte is read together with the next one. -/
theorem decodeFrom_escape_twice {d1 d2 e1 e2 p : UInt16} {n m : ℤ}
    (h : parseInt (js "0x" ++ [d1, d2]) = some n) (hn : n > 0x7f)
    (hm : parseInt (js "0x" ++ [d1, d2] ++ [e1, e2]) = some m) (rest : Js) :
    Url.decodeFrom 0 (unit '%' :: d1 :: d2 :: p :: e1 :: e2 :: rest) =
      Url.asc2str (some m) :: Url.decodeFrom 0 rest := by
  have hpercent : ¬ unit '%' = unit '+' := by decide
  have hbig : (parseInt (js "0x" ++ (d1 :: d2 :: p :: e1 :: e2 :: rest).take 2)).any (· > 0x7f) =
      true := by
    simpa [h] using hn
  rw [Url.decodeFrom, if_neg hpercent, if_pos rfl, if_pos hbig]
  exact congrArg (fun o => Url.asc2str o :: Url.decodeFrom 0 rest) hm

/-- A unit comes back as `lowered` says. -/
theorem decodeFrom_encodeUnit (u : UInt16) (rest : Js) :
    Url.decodeFrom 0 (Url.encodeUnit u ++ rest) = lowered u :: Url.decodeFrom 0 rest := by
  simp only [Url.encodeUnit, parseInt_str2asc, Option.any_some, decide_eq_true_eq]
  obtain ⟨d1, d2, hasc⟩ : ∃ d1 d2, Url.str2asc u = [d1, d2] := ⟨_, _, rfl⟩
  have hone := parseInt_str2asc u
  have hlt : low u < 256 := Nat.mod_lt _ (by decide)
  by_cases hlow : (low u : ℤ) > 0x7f
  · -- the digits stand there twice, and both copies are read
    have htwo := parseInt_str2asc_twice u
    have hnot : ¬ low u < 128 := by omega
    rw [if_pos hlow]
    rw [hasc] at hone htwo ⊢
    have hunit : Url.asc2str (some (low u * 257 : ℤ)) = UInt16.ofNat (low u * 257) := by
      have hcast : ((low u : ℤ) * 257 % 65536).toNat = low u * 257 := by omega
      rw [Url.asc2str, Option.getD_some, hcast]
    rw [lowered, if_neg hnot, ← hunit]
    exact decodeFrom_escape_twice hone hlow htwo rest
  rw [if_neg hlow, lowered, if_pos (by omega : low u < 128)]
  by_cases hspace : u = unit ' '
  · rw [if_pos hspace, hspace]
    rfl
  rw [if_neg hspace]
  by_cases hspecial : Url.strSpecial.contains u = true
  · have hsmall := lt_of_mem_strSpecial hspecial
    have hself : low u = u.toNat := Nat.mod_eq_of_lt (by omega)
    rw [if_pos hspecial]
    rw [hasc] at hone ⊢
    have hunit : Url.asc2str (some (low u : ℤ)) = u := by
      have hcast : ((low u : ℤ) % 65536).toNat = u.toNat := by omega
      rw [Url.asc2str, Option.getD_some, hcast, UInt16.ofNat_toNat]
    have hread := decodeFrom_escape hone hlow rest
    rwa [hunit] at hread
  · have hplus : ¬ u = unit '+' := fun h => hspecial (h ▸ by decide)
    have hpercent : ¬ u = unit '%' := fun h => hspecial (h ▸ by decide)
    rw [if_neg hspecial, List.singleton_append, Url.decodeFrom, if_neg hplus, if_neg hpercent]

/-- What comes out of `url.decode` behind `url.encode`. -/
theorem url_decode_encode (s : Js) : Url.decode (Url.encode s) = s.map lowered := by
  unfold Url.decode Url.encode
  induction s with
  | nil => rfl
  | cons u units ih => rw [List.flatMap_cons, decodeFrom_encodeUnit, ih, List.map_cons]

/-- A code unit survives when its low byte is below 128, or is its high byte as well. -/
theorem lowered_eq_self_iff (u : UInt16) :
    lowered u = u ↔ u.toNat % 256 < 128 ∨ u.toNat / 256 = u.toNat % 256 := by
  have hu := UInt16.toNat_lt u
  unfold lowered low
  split
  next h => simp [h]
  next h =>
    rw [← UInt16.toNat_inj, UInt16.toNat_ofNat_of_lt' (by omega : _ < 65536)]
    omega

/-- A text is unchanged exactly when no unit of it is changed. -/
theorem map_lowered_eq_iff (s : Js) :
    s.map lowered = s ↔ ∀ u ∈ s, u.toNat % 256 < 128 ∨ u.toNat / 256 = u.toNat % 256 := by
  have hself : s.map lowered = s ↔ ∀ u ∈ s, lowered u = u := by
    simpa using List.map_inj_left (f := lowered) (g := id) (l := s)
  rw [hself]
  exact forall₂_congr fun u _ => lowered_eq_self_iff u

/-- `url.decode` undoes `url.encode` on a string exactly when every code unit has a low byte
below 128 or equal to its high byte; any other unit comes out with its low byte twice. -/
theorem url_roundTrip_iff (s : Js) :
    Url.decode (Url.encode s) = s.map lowered ∧
      (Url.decode (Url.encode s) = s ↔
        ∀ u ∈ s, u.toNat % 256 < 128 ∨ u.toNat / 256 = u.toNat % 256) := by
  refine ⟨url_decode_encode s, ?_⟩
  rw [url_decode_encode, map_lowered_eq_iff]

/-- `url` carries what `base64.encode` gives. -/
theorem url_decode_encode_base64 (s : Js) :
    Url.decode (Url.encode (Base64.encode s)) = Base64.encode s := by
  rw [url_decode_encode, map_lowered_eq_iff]
  refine fun u hu => Or.inl ?_
  have hmem := keyStr_of_mem_encode hu
  rw [List.contains_iff_mem] at hmem
  have hascii : List.Forall (fun u : UInt16 => u.toNat < 128) Base64.keyStr := by decide +kernel
  have hlt : u.toNat < 128 := List.forall_iff_forall_mem.mp hascii u hmem
  omega

/-! ## The form -/

/-- The name and the value of a field of a form. -/
def field (text : Js) : Js × Js :=
  (Url.decode (text.takeWhile (· ≠ unit '=')),
    Url.decode ((text.dropWhile (· ≠ unit '=')).drop 1))

/-- What a form says: its fields stand between `&`, and empty ones are none. -/
def form (body : Js) : List (Js × Js) := ((body.splitOn (unit '&')).filter (· ≠ [])).map field

/-- A code unit that `url` and a form leave as it is. -/
def Plain (u : UInt16) : Prop :=
  u ≠ unit '&' ∧ u ≠ unit '=' ∧ u ≠ unit '+' ∧ u ≠ unit '%'

/-- A plain text is decoded as itself. -/
theorem decode_plain {s : Js} (h : ∀ u ∈ s, Plain u) : Url.decode s = s := by
  unfold Url.decode
  induction s with
  | nil => rfl
  | cons u s ih =>
    obtain ⟨-, -, hplus, hpercent⟩ := h u List.mem_cons_self
    rw [Url.decodeFrom, if_neg hplus, if_neg hpercent,
      ih fun v hv => h v (List.mem_cons_of_mem _ hv)]

/-- A digit is plain. -/
theorem plain_digit {c : Char} (h : c.isDigit = true) : Plain (unit c) := by
  have hne : ∀ d : Char, d.isDigit = false → Char.ofNat (unit d).toNat = d → unit c ≠ unit d := by
    intro d hd hback heq
    rw [← hback, ← heq, ofNat_unit_digit h] at hd
    exact Bool.false_ne_true (hd.symm.trans h)
  exact ⟨hne '&' (by decide) (by decide), hne '=' (by decide) (by decide),
    hne '+' (by decide) (by decide), hne '%' (by decide) (by decide)⟩

/-- The name of a field is plain. -/
theorem plain_heKey (t : ℕ) : ∀ u ∈ heKey t, Plain u := by
  have hname : ∀ u ∈ js "he", Plain u :=
    List.forall_iff_forall_mem.mp (by unfold Plain; decide)
  unfold heKey
  split
  · exact hname
  · intro u hu
    rcases List.mem_append.mp hu with hu | hu
    · exact hname u hu
    · obtain ⟨c, hc, rfl⟩ := List.mem_map.mp hu
      rw [Nat.toString_eq_repr, Nat.toList_repr] at hc
      exact plain_digit (Nat.isDigit_of_mem_toDigits (by decide) (by decide) hc)

/-- What is encoded has no delimiters of a form. -/
theorem encode_ne (s : Js) : ∀ u ∈ Url.encode s, u ≠ unit '&' ∧ u ≠ unit '=' := by
  have hdigit : ∀ n < 16, Url.hexDigit n ≠ unit '&' ∧ Url.hexDigit n ≠ unit '=' := by decide
  have hasc : ∀ v : UInt16, ∀ u ∈ unit '%' :: Url.str2asc v, u ≠ unit '&' ∧ u ≠ unit '=' := by
    intro v
    rw [List.forall_mem_cons]
    refine ⟨by decide, ?_⟩
    rw [Url.str2asc, List.forall_mem_cons, List.forall_mem_singleton]
    exact ⟨hdigit _ (Nat.mod_lt _ (by decide)), hdigit _ (Nat.mod_lt _ (by decide))⟩
  intro u hu
  obtain ⟨v, -, hmem⟩ := List.mem_flatMap.mp hu
  simp only [Url.encodeUnit] at hmem
  split at hmem
  · rcases List.mem_append.mp hmem with hmem | hmem <;> exact hasc v u hmem
  split at hmem
  · rw [List.mem_singleton.mp hmem]
    decide
  split at hmem
  · exact hasc v u hmem
  next hspecial =>
    rw [List.mem_singleton.mp hmem]
    exact ⟨fun h => hspecial (h ▸ by decide), fun h => hspecial (h ▸ by decide)⟩

/-- The text of one field of the request. -/
def fieldText (t : ℕ) (command : Js) : Js :=
  heKey t ++ unit '=' :: Url.encode (Base64.encode command)

/-- A posted field is split into its name and its value. -/
theorem field_fieldText (t : ℕ) (command : Js) :
    field (fieldText t command) = (heKey t, Base64.encode command) := by
  have hname : unit '=' ∉ heKey t := fun hmem => (plain_heKey t _ hmem).2.1 rfl
  unfold field fieldText
  rw [takeWhile_ne_append hname, dropWhile_ne_append hname, List.drop_one, List.tail_cons,
    decode_plain (plain_heKey t), url_decode_encode_base64]

/-- No field holds the sign between two of them. -/
theorem amp_notMem_fieldText (t : ℕ) (command : Js) : unit '&' ∉ fieldText t command := by
  unfold fieldText
  rw [List.mem_append, List.mem_cons]
  rintro (hmem | heq | hmem)
  · exact (plain_heKey t _ hmem).1 rfl
  · exact absurd heq (by decide)
  · exact (encode_ne _ _ hmem).1 rfl

/-- The form has one field for each command, in order. -/
theorem paramterFrom_eq (a : List (Js × Js)) (t : ℕ) :
    paramterFrom t a = (a.zipIdx t).flatMap fun e => unit '&' :: fieldText e.2 e.1.2 := by
  induction a generalizing t with
  | nil => rfl
  | cons e a ih =>
    rw [List.zipIdx_cons, List.flatMap_cons, ← ih]
    simp [paramterFrom, fieldText, js]

/-- The form that is posted names the commands in order, and each is read back from its value
up to line ends: no text of a command reaches into another field. -/
theorem form_paramter (a : List (Js × Js)) :
    (form (paramter a)).map (Prod.map id Base64.decode) =
      a.zipIdx.map fun e => (heKey e.2, Base64.replaceCrlf e.1.2) := by
  have hbody : paramter a =
      delimited (unit '&') [] (a.zipIdx.map fun e => fieldText e.2 e.1.2) := by
    rw [paramter, paramterFrom_eq, delimited, List.nil_append, List.flatMap_map]
  have hfree : ∀ g ∈ [] :: a.zipIdx.map (fun e => fieldText e.2 e.1.2), unit '&' ∉ g := by
    rw [List.forall_mem_cons, List.forall_mem_map]
    exact ⟨List.not_mem_nil, fun e _ => amp_notMem_fieldText _ _⟩
  have hfull : (a.zipIdx.map fun e => fieldText e.2 e.1.2).filter (· ≠ []) =
      a.zipIdx.map fun e => fieldText e.2 e.1.2 := by
    rw [List.filter_eq_self, List.forall_mem_map]
    intro e _
    simp [fieldText]
  rw [form, hbody, splitOn_delimited hfree, List.filter_cons_of_neg (by simp), hfull,
    List.map_map, List.map_map]
  refine List.map_congr_left fun e _ => ?_
  simp only [Function.comp_apply, field_fieldText, Prod.map_apply, id, base64_decode_encode]

/-! ## The keys -/

/-- Different places have different names. -/
theorem heKey_injective : Function.Injective heKey := by
  have hne : ∀ t : ℕ, js (toString t) ≠ [] := by
    intro t
    rw [js, Nat.toString_eq_repr, ne_eq, List.map_eq_nil_iff, Nat.toList_repr]
    exact Nat.toDigits_ne_nil
  have hlong : ∀ t : ℕ, t ≠ 0 → js "he" ≠ heKey t := by
    intro t ht heq
    rw [heKey, if_neg ht] at heq
    exact hne t (List.self_eq_append_right.mp heq)
  intro t t' h
  by_cases ht : t = 0 <;> by_cases ht' : t' = 0
  · rw [ht, ht']
  · rw [ht] at h
    exact absurd h (hlong t' ht')
  · rw [ht'] at h
    exact absurd h.symm (hlong t ht)
  · rw [heKey, heKey, if_neg ht, if_neg ht'] at h
    have hkey : (⟨t, by omega⟩ : Fin (t + t' + 1)) = ⟨t', by omega⟩ :=
      indexKey_injective (t + t' + 1) (List.append_cancel_left h)
    exact Fin.mk.inj hkey

/-- The index has one name for each key, in order. -/
theorem heindexFrom_eq (a : List (Js × Js)) (t : ℕ) :
    heindexFrom t a = (a.zipIdx t).map fun e => (heKey e.2, e.1.1) := by
  induction a generalizing t with
  | nil => rfl
  | cons e a ih => rw [List.zipIdx_cons, List.map_cons, ← ih, heindexFrom]

/-! ## The answer -/

section Answers

variable {N : Type} [NatCast N] {a : List (Js × Js)} {callbak : Json Js N}

/-- Every key gets what stands in the answer under the name of its field. -/
theorem value_eq (a : List (Js × Js)) (callbak : Json Js N) :
    value a callbak =
      overwrite (a.zipIdx.map fun e => (e.1.1, some (property callbak (heKey e.2))))
        fun _ => none := by
  unfold value heindex
  rw [heindexFrom_eq, List.map_map]
  rfl

/-- Each key of the request gets what stands in the answer under the name of its command. -/
theorem value_of_getElem (hkeys : (a.map Prod.fst).Nodup) {t : ℕ} {e : Js × Js}
    (he : a[t]? = some e) : value a callbak e.1 = some (property callbak (heKey t)) := by
  have hwritten : ∃ w ∈ a.zipIdx.map
      (fun e => (e.1.1, some (property callbak (heKey e.2)))), w.1 = e.1 :=
    ⟨_, List.mem_map.mpr ⟨(e, t), List.mem_zipIdx_iff_getElem?.mpr he, rfl⟩, rfl⟩
  obtain ⟨w, hmem, hkey, hvalue⟩ := exists_overwrite_eq (f := fun _ => none) hwritten
  obtain ⟨⟨e', t'⟩, hindex, rfl⟩ := List.mem_map.mp hmem
  have he' : a[t']? = some e' := List.mem_zipIdx_iff_getElem?.mp hindex
  -- one key stands at one place
  have hplace : t' = t := by
    have hlt := (List.getElem?_eq_some_iff.mp he').1
    have hfst : (a.map Prod.fst)[t']? = (a.map Prod.fst)[t]? := by
      rw [List.getElem?_map, List.getElem?_map, he, he', Option.map_some, Option.map_some]
      exact congrArg some hkey
    exact (List.getElem?_inj (by rwa [List.length_map]) hkeys).mp hfst
  rw [value_eq, hvalue, hplace]

/-- A key without a command gets nothing. -/
theorem value_of_notMem {i : Js} (h : i ∉ a.map Prod.fst) : value a callbak i = none := by
  rw [value_eq, overwrite_of_notMem]
  rw [List.forall_mem_map]
  intro e he hkey
  have hmem : e.1 ∈ a := List.fst_mem_of_mem_zipIdx he
  exact h (hkey ▸ List.mem_map_of_mem hmem)

/-- The form of a command is not empty. -/
theorem paramter_ne_nil (hne : a ≠ []) : paramter a ≠ [] := by
  obtain ⟨e, rest, rfl⟩ := List.exists_cons_of_ne_nil hne
  simp [paramter, paramterFrom, js]

/-- An answer that parses to an object gives every key its value. -/
theorem cmd_eq_values (hne : a ≠ []) {ajax : Js → Response} {parseJSON : Js → Json Js N}
    (hheaders : (ajax (paramter a)).headers = true)
    (htype : (ajax (paramter a)).contentType ≠ some (js "text/html"))
    (hjson : (Base64.decode (ajax (paramter a)).responseText).contains (unit '{') = true)
    (hobject : parseJSON (Base64.decode (ajax (paramter a)).responseText) ≠ .null) :
    cmd a false ajax parseJSON =
      .values (value a (parseJSON (Base64.decode (ajax (paramter a)).responseText))) := by
  unfold cmd
  rw [if_neg (paramter_ne_nil hne)]
  simp only [hheaders, htype, hjson, Bool.not_true, Bool.false_eq_true, if_false, decide_false,
    Bool.or_false]

/-- A request from end to end, where the server sends headers, and no page, and an answer that is
an object. The fields of the form have different names, and they say the commands in their order,
up to line ends. The page gets under the key of a command what stands in the answer under the
name of its field, and nothing under another key. -/
theorem cmd_answers (hne : a ≠ []) (hkeys : (a.map Prod.fst).Nodup) (ajax : Js → Response)
    (parseJSON : Js → Json Js N) (hheaders : (ajax (paramter a)).headers = true)
    (htype : (ajax (paramter a)).contentType ≠ some (js "text/html"))
    (hjson : (Base64.decode (ajax (paramter a)).responseText).contains (unit '{') = true)
    (hobject : parseJSON (Base64.decode (ajax (paramter a)).responseText) ≠ .null) :
    ((form (paramter a)).map Prod.fst).Nodup ∧
      (form (paramter a)).map (fun f => Base64.decode f.2) =
        a.map (fun e => Base64.replaceCrlf e.2) ∧
      ∃ v, cmd a false ajax parseJSON = .values v ∧
        (∀ (t : ℕ) (e : Js × Js), a[t]? = some e → ∃ f, (form (paramter a))[t]? = some f ∧
          Base64.decode f.2 = Base64.replaceCrlf e.2 ∧
          v e.1 = some (property
            (parseJSON (Base64.decode (ajax (paramter a)).responseText)) f.1)) ∧
        ∀ i, i ∉ a.map Prod.fst → v i = none := by
  have hform := form_paramter a
  have hnames : (form (paramter a)).map Prod.fst = a.zipIdx.map fun e => heKey e.2 := by
    have h := congrArg (List.map Prod.fst) hform
    rwa [List.map_map, List.map_map] at h
  have hvalues : (form (paramter a)).map (fun f => Base64.decode f.2) =
      a.zipIdx.map fun e => Base64.replaceCrlf e.1.2 := by
    have h := congrArg (List.map Prod.snd) hform
    rwa [List.map_map, List.map_map] at h
  refine ⟨?_, ?_, value a (parseJSON (Base64.decode (ajax (paramter a)).responseText)), ?_, ?_, ?_⟩
  · rw [hnames, ← Function.comp_def, ← List.map_map]
    have hplaces : (a.zipIdx.map Prod.snd).Nodup := by
      rw [List.zipIdx_map_snd]
      exact List.nodup_range'
    exact hplaces.map heKey_injective
  · rw [hvalues]
    nth_rewrite 2 [← List.zipIdx_map_fst 0 a]
    rw [List.map_map]
    rfl
  · exact cmd_eq_values hne hheaders htype hjson hobject
  · intro t e he
    -- the field at the place of the command has its name and its text
    have hat : ((form (paramter a)).map (Prod.map id Base64.decode))[t]? =
        some (heKey t, Base64.replaceCrlf e.2) := by
      rw [hform, List.getElem?_map, List.getElem?_zipIdx, he]
      simp
    rw [List.getElem?_map] at hat
    obtain ⟨f, hf, heq⟩ := Option.map_eq_some_iff.mp hat
    have hname : f.1 = heKey t := congrArg Prod.fst heq
    refine ⟨f, hf, congrArg Prod.snd heq, ?_⟩
    rw [value_of_getElem hkeys he, hname]
  · exact fun i hi => value_of_notMem hi

/-- Two different keys are no repetition. -/
theorem pair_injective {k l : Js} (hne : k ≠ l) : Function.Injective ![k, l] := by
  intro i j h
  match i, j with
  | 0, 0 => rfl
  | 1, 1 => rfl
  | 0, 1 => exact absurd h hne
  | 1, 0 => exact absurd h.symm hne

end Answers

/-- The same command twice, with the characters of a form and a line end in it. -/
def twoCommands : List (Js × Js) :=
  [(js "first", js "a&he=b+%\r\n"), (js "second", js "a&he=b+%\r\n")]

/-- What a server answers to them: not the same. -/
def twoAnswers : Json Js ℕ :=
  .obj 2 ⟨![heKey 0, heKey 1], pair_injective (heKey_injective.ne Nat.zero_ne_one)⟩
    ![.str (js "ttrue"), .str (js "tfalse")]

/-- Two commands, one of them with a line break in it. -/
theorem cmd_answers_two :
    ∃ v : Js → Option (Option (Json Js ℕ)),
      cmd twoCommands false (fun _ => ⟨true, none, js "e30="⟩) (fun _ => twoAnswers) = .values v ∧
        v (js "first") = some (some (.str (js "ttrue"))) ∧
        v (js "second") = some (some (.str (js "tfalse"))) := by
  obtain ⟨-, -, v, hcmd, hv, -⟩ := cmd_answers (a := twoCommands) (List.cons_ne_nil _ _)
    (by decide) (fun _ => ⟨true, none, js "e30="⟩) (fun _ => twoAnswers) rfl (by simp)
    (by decide +kernel) nofun
  have hname : ∀ t e f, twoCommands[t]? = some e → (form (paramter twoCommands))[t]? = some f →
      f.1 = heKey t := by
    intro t e f he hf
    have hform := congrArg (·[t]?) (form_paramter twoCommands)
    simp only [List.getElem?_map, List.getElem?_zipIdx, he, hf] at hform
    simpa using congrArg (Option.map Prod.fst) hform
  obtain ⟨f, hf, -, hfirst⟩ := hv 0 _ rfl
  obtain ⟨g, hg, -, hsecond⟩ := hv 1 _ rfl
  rw [hname 0 _ f rfl hf] at hfirst
  rw [hname 1 _ g rfl hg] at hsecond
  refine ⟨v, hcmd, hfirst.trans ?_, hsecond.trans ?_⟩
  · exact congrArg some (property_key ⟨![heKey 0, heKey 1], _⟩ _ 0)
  · exact congrArg some (property_key ⟨![heKey 0, heKey 1], _⟩ _ 1)

end Tiger.Analysis.CommandTransport
