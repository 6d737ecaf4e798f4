import Tiger.Library.BlockText
import Tiger.Library.Delimited
import Tiger.Model.AtScript

/-!
# Reading what was printed

What `sscanf`, `strstr` and the loop over the lines find in a text that is put together from
fields: a field is read up to its delimiter, a printed number is read back, a name is
found behind what does not hold it, and every line comes by itself.
-/

set_option autoImplicit false

namespace Tiger.Analysis.ScanRules

open Tiger.Library Tiger.Model

/-! ## Searching -/

section Searching

variable {needle a b found : List Char} {d : Char}

/-- A text is found at its start. -/
theorem strstr_self (h : needle <+: a) : strstr needle a = some a := by
  cases a with
  | nil =>
    unfold strstr
    rw [if_pos (List.prefix_nil.mp h)]
  | cons x a =>
    unfold strstr
    rw [if_pos (List.isPrefixOf_iff_prefix.mpr h)]

/-- The search goes on behind a place where the text does not begin. -/
theorem strstr_cons {x : Char} (h : ¬ needle <+: x :: a) :
    strstr needle (x :: a) = strstr needle a := by
  conv_lhs => unfold strstr
  rw [if_neg fun hfirst => h (List.isPrefixOf_iff_prefix.mp hfirst)]

/-- What is found is the needle and what follows it. -/
theorem eq_of_strstr (h : strstr needle a = some found) :
    ∃ front tail, a = front ++ (needle ++ tail) ∧ found = needle ++ tail := by
  induction a with
  | nil =>
    unfold strstr at h
    rw [Option.ite_none_right_eq_some, Option.some.injEq] at h
    obtain ⟨rfl, rfl⟩ := h
    exact ⟨[], [], rfl, rfl⟩
  | cons x a ih =>
    by_cases hfirst : needle <+: x :: a
    · rw [strstr_self hfirst, Option.some.injEq] at h
      obtain ⟨tail, htail⟩ := hfirst
      exact ⟨[], tail, htail.symm, h.symm.trans htail.symm⟩
    · rw [strstr_cons hfirst] at h
      obtain ⟨front, tail, hfront, htail⟩ := ih h
      exact ⟨x :: front, tail, by rw [hfront, List.cons_append], htail⟩

/-- A needle without `d` that stands in front of a `d` is found there. -/
theorem strstr_of_some (hd : d ∉ needle) (h : strstr needle a = some found) :
    strstr needle (a ++ d :: b) = some (found ++ d :: b) := by
  induction a with
  | nil =>
    unfold strstr at h
    rw [Option.ite_none_right_eq_some, Option.some.injEq] at h
    obtain ⟨rfl, rfl⟩ := h
    exact strstr_self List.nil_prefix
  | cons x a ih =>
    by_cases hfirst : needle <+: x :: a
    · rw [strstr_self hfirst, Option.some.injEq] at h
      rw [strstr_self ((prefix_append_cons_iff hd).mpr hfirst), h]
    · rw [strstr_cons hfirst] at h
      have hnot : ¬ needle <+: x :: (a ++ d :: b) := by
        rw [← List.cons_append, prefix_append_cons_iff hd]
        exact hfirst
      rw [List.cons_append, strstr_cons hnot]
      exact ih h

/-- One that does not is looked for behind it. -/
theorem strstr_of_none (hne : needle ≠ []) (hd : d ∉ needle) (h : strstr needle a = none) :
    strstr needle (a ++ d :: b) = strstr needle b := by
  induction a with
  | nil =>
    have hnot : ¬ needle <+: d :: b := by
      rw [← List.nil_append (d :: b), prefix_append_cons_iff hd, List.prefix_nil]
      exact hne
    exact strstr_cons hnot
  | cons x a ih =>
    have hfirst : ¬ needle <+: x :: a := by
      intro hfirst
      rw [strstr_self hfirst] at h
      cases h
    rw [strstr_cons hfirst] at h
    have hnot : ¬ needle <+: x :: (a ++ d :: b) := by
      rw [← List.cons_append, prefix_append_cons_iff hd]
      exact hfirst
    rw [List.cons_append, strstr_cons hnot]
    exact ih h

/-- `strstr` finds what stands in the text. -/
theorem contains_iff (needle : String) (s : List Char) :
    contains needle s = true ↔ needle.toList <:+: s := by
  unfold contains
  induction s with
  | nil =>
    unfold strstr
    rw [List.infix_nil]
    split
    · next h => simp [h]
    · next h => simp [h]
  | cons c s ih =>
    unfold strstr
    rw [List.infix_cons_iff, ← ih, ← List.isPrefixOf_iff_prefix]
    split
    · next h => simp [h]
    · next h => simp [h]

/-- The test fails exactly when the text does not stand in it. -/
theorem contains_eq_false_iff (needle : String) (s : List Char) :
    contains needle s = false ↔ ¬ needle.toList <:+: s := by
  rw [← contains_iff, Bool.not_eq_true]

/-- Nothing is found exactly when the text does not stand in it. -/
theorem strstr_eq_none_iff (needle : String) (s : List Char) :
    strstr needle.toList s = none ↔ ¬ needle.toList <:+: s := by
  rw [← contains_eq_false_iff, contains, Option.isSome_eq_false_iff, Option.isNone_iff_eq_none]

/-- `strstr` finds a text behind a delimiter, where it does not stand in front of it. -/
theorem strstr_behind {needle s rest : List Char} {d : Char} (hd : d ∉ needle)
    (hs : ¬ needle <:+: s) : strstr needle (s ++ d :: (needle ++ rest)) =
      some (needle ++ rest) := by
  have hne : needle ≠ [] := by
    rintro rfl
    exact hs List.nil_infix
  have hnone : strstr needle s = none := by
    cases hfound : strstr needle s with
    | none => rfl
    | some found =>
      obtain ⟨front, tail, heq, -⟩ := eq_of_strstr hfound
      exact absurd ⟨front, tail, by rw [heq, List.append_assoc]⟩ hs
  rw [strstr_of_none hne hd hnone]
  exact strstr_self (List.prefix_append needle rest)

end Searching

/-! ## Fields -/

/-- A field that is skipped up to its delimiter. -/
theorem scan_skip {c : Char} {ds : List Directive} {f rest : List Char} (hf : f ≠ [])
    (hc : c ∉ f) : scan (.skip c :: ds) (f ++ c :: rest) = scan ds (c :: rest) := by
  obtain ⟨a, f, rfl⟩ := List.exists_cons_of_ne_nil hf
  have hne : a ≠ c := by
    rintro rfl
    exact hc List.mem_cons_self
  rw [scan, if_neg (by simp), if_neg (by simp [hne]), dropWhile_ne_append hc]

/-- Nothing is skipped where the delimiter comes first. -/
theorem scan_skip_self (c : Char) (ds : List Directive) (rest : List Char) :
    scan (.skip c :: ds) (c :: rest) = ⟨[], false⟩ := by
  rw [scan, if_neg (by simp), if_pos (by simp)]

/-- A literal is skipped. -/
theorem scan_lit (c : Char) (ds : List Directive) (rest : List Char) :
    scan (.lit c :: ds) (c :: rest) = scan ds rest := by
  rw [scan, if_pos rfl]

/-- A field that is read up to its delimiter. -/
theorem scan_field {c : Char} {ds : List Directive} {f rest : List Char} (hf : f ≠ [])
    (hc : c ∉ f) : (scan (.field c :: ds) (f ++ c :: rest)).fields =
      .str f :: (scan ds (c :: rest)).fields := by
  obtain ⟨a, f, rfl⟩ := List.exists_cons_of_ne_nil hf
  have hne : a ≠ c := by
    rintro rfl
    exact hc List.mem_cons_self
  rw [scan, if_neg (by simp), if_neg (by simp [hne]), dropWhile_ne_append hc,
    takeWhile_ne_append hc]

/-- The last field is read up to the end. -/
theorem scan_field_end {c : Char} {ds : List Directive} {f : List Char} (hf : f ≠ [])
    (hc : c ∉ f) : (scan (.field c :: ds) f).fields = .str f :: (scan ds []).fields := by
  obtain ⟨a, f, rfl⟩ := List.exists_cons_of_ne_nil hf
  have hne : a ≠ c := by
    rintro rfl
    exact hc List.mem_cons_self
  rw [scan, if_neg (by simp), if_neg (by simp [hne]), dropWhile_ne_of_notMem hc,
    takeWhile_ne_of_notMem hc]

/-- A field is read, whatever comes behind it. -/
theorem scan_field_delimited {c : Char} {ds : List Directive} {f : List Char} (hf : f ≠ [])
    (hc : c ∉ f) (fs : List (List Char)) :
    (scan (.field c :: ds) (delimited c f fs)).fields =
      .str f :: (scan ds (fs.flatMap (c :: ·))).fields := by
  cases fs with
  | nil =>
    rw [delimited_nil]
    exact scan_field_end hf hc
  | cons g fs => exact scan_field hf hc

/-- A field with its delimiter behind it, in any text. -/
theorem scan_field_lit (c : Char) (ds : List Directive) (s : List Char) :
    (scan (.field c :: .lit c :: ds) s).fields =
      if s = [] ∨ s.head? = some c then []
      else .str (s.takeWhile (· ≠ c)) ::
        if s.dropWhile (· ≠ c) = [] then [] else (scan ds (s.dropWhile (· ≠ c)).tail).fields := by
  rw [scan]
  by_cases hempty : s = []
  · rw [if_pos hempty, if_pos (Or.inl hempty)]
  · by_cases hhead : s.head? = some c
    · rw [if_neg hempty, if_pos hhead, if_pos (Or.inr hhead)]
    · rw [if_neg hempty, if_neg hhead, if_neg (not_or.mpr ⟨hempty, hhead⟩)]
      cases hrest : s.dropWhile (· ≠ c) with
      | nil => rfl
      | cons c' rest =>
        have hc : c' = c := by
          have hstop := List.head?_dropWhile_not (fun x => decide (x ≠ c)) s
          rw [hrest] at hstop
          simpa using hstop
        rw [scan, if_pos hc, if_neg (List.cons_ne_nil _ _)]
        rfl

/-! ## Numbers -/

/-- The number in front of `rest` is read digit by digit. -/
theorem decimal_append {ds rest : List Char} (hds : ∀ c ∈ ds, c.isDigit = true)
    (hrest : rest.head?.any Char.isDigit = false) (acc : ℕ) :
    decimal acc (ds ++ rest) = Nat.ofDigitChars 10 ds acc := by
  induction ds generalizing acc with
  | nil =>
    rw [List.nil_append, Nat.ofDigitChars_nil]
    cases rest with
    | nil => rfl
    | cons c rest =>
      have hc : c.isDigit = false := by simpa using hrest
      unfold decimal
      rw [hc]
      rfl
  | cons c ds ih =>
    rw [List.cons_append, Nat.ofDigitChars_cons]
    unfold decimal
    rw [if_pos (hds c List.mem_cons_self)]
    exact ih (fun c' hc' => hds c' (List.mem_cons_of_mem _ hc')) _

/-- A printed natural number is read back. -/
theorem decimal_toDigits (n : ℕ) {rest : List Char}
    (hrest : rest.head?.any Char.isDigit = false) :
    decimal 0 (Nat.toDigits 10 n ++ rest) = n := by
  rw [decimal_append (fun c hc => Nat.isDigit_of_mem_toDigits (by decide) (by decide) hc) hrest,
    Nat.ofDigitChars_ten_toDigits]

/-- The digits of a number begin with one. -/
theorem toDigits_eq_cons (n : ℕ) :
    ∃ c cs, Nat.toDigits 10 n = c :: cs ∧ c.isDigit = true := by
  obtain ⟨c, cs, h⟩ := List.exists_cons_of_ne_nil (Nat.toDigits_ne_nil (n := n) (b := 10))
  refine ⟨c, cs, h, ?_⟩
  apply Nat.isDigit_of_mem_toDigits (b := 10) (n := n) (by decide) (by decide)
  rw [h]
  exact List.mem_cons_self

/-- A number ends with the digit 0 when it is a multiple of ten. -/
theorem zero_suffix_toDigits (n : ℕ) : ['0'] <:+ Nat.toDigits 10 n ↔ n % 10 = 0 := by
  have hdigit : ∀ d < 10, Nat.digitChar d = '0' ↔ d = 0 := by decide
  have hsplit : Nat.toDigits 10 n =
      (if n < 10 then [] else Nat.toDigits 10 (n / 10)) ++ [Nat.digitChar (n % 10)] := by
    rw [Nat.toDigits_eq_if (by decide)]
    split
    · next h => rw [Nat.mod_eq_of_lt h, List.nil_append]
    · rfl
  rw [hsplit, ← hdigit (n % 10) (Nat.mod_lt n (by decide))]
  constructor
  · rintro ⟨t, h⟩
    exact (List.cons.inj (List.append_inj_right' h rfl)).1.symm
  · intro h
    rw [h]
    exact List.suffix_append _ _

/-- A number begins with the digit 0 when it is 0. -/
theorem zero_prefix_toDigits (n : ℕ) : ['0'] <+: Nat.toDigits 10 n ↔ n = 0 := by
  induction n using Nat.strongRecOn with
  | ind n ih =>
    by_cases hn : n < 10
    · have hdigit : ∀ d < 10, '0' = Nat.digitChar d ↔ d = 0 := by decide
      rw [Nat.toDigits_of_lt_base hn, ← hdigit n hn]
      simp
    · have hsplit : Nat.toDigits 10 n =
          Nat.toDigits 10 (n / 10) ++ [Nat.digitChar (n % 10)] := by
        rw [Nat.toDigits_eq_if (by decide), if_neg hn]
      obtain ⟨c, cs, hcons, -⟩ := toDigits_eq_cons (n / 10)
      have hrest := ih (n / 10) (by omega)
      rw [hcons] at hrest
      rw [hsplit, hcons]
      simp only [List.cons_append, List.cons_prefix_cons, List.nil_prefix, and_true] at hrest ⊢
      rw [hrest]
      omega

/-- The digit 0 alone is the number 0. -/
theorem zero_eq_toDigits (n : ℕ) : ['0'] = Nat.toDigits 10 n ↔ n = 0 := by
  constructor
  · intro h
    exact (zero_prefix_toDigits n).mp (h ▸ List.prefix_refl _)
  · rintro rfl
    rfl

/-- A digit is no space. -/
theorem isSpace_of_isDigit {c : Char} (h : c.isDigit = true) : isSpace c = false := by
  have hne : ∀ c', c'.isDigit = false → c ≠ c' := by
    rintro c' hc' rfl
    rw [h] at hc'
    cases hc'
  simp [isSpace, hne ' ' (by decide), hne '\t' (by decide), hne '\n' (by decide),
    hne '\x0b' (by decide), hne '\x0c' (by decide), hne '\r' (by decide)]

/-- A digit is no sign. -/
theorem unsign_of_isDigit {c : Char} (h : c.isDigit = true) (cs : List Char) :
    unsign (c :: cs) = c :: cs := by
  unfold unsign
  split
  · next heq =>
    rw [(List.cons.inj heq).1] at h
    cases h
  · next heq =>
    rw [(List.cons.inj heq).1] at h
    cases h
  · rfl

/-- A number as it is printed: a minus in front of a negative one. -/
theorem toList_toString (n : ℤ) :
    (toString n).toList = if n < 0 then '-' :: Nat.toDigits 10 n.natAbs
      else Nat.toDigits 10 n.natAbs := by
  rw [Int.toString_eq_repr, Int.repr_eq_if]
  by_cases hn : 0 ≤ n
  · have habs : n.toNat = n.natAbs := by omega
    rw [if_pos hn, if_neg (by omega), habs, Nat.toList_repr]
  · have habs : (-n).toNat = n.natAbs := by omega
    rw [if_neg hn, if_pos (by omega), habs, String.toList_append, Nat.toList_repr]
    rfl

/-- A printed number is not empty. -/
theorem toString_ne_nil (n : ℤ) : (toString n).toList ≠ [] := by
  obtain ⟨c, cs, hdigits, -⟩ := toDigits_eq_cons n.natAbs
  rw [toList_toString, hdigits]
  split <;> exact List.cons_ne_nil _ _

/-- A printed number is made of digits, but for a minus. -/
theorem isDigit_of_mem_toString {n : ℤ} {c : Char} (hc : c ∈ (toString n).toList)
    (hminus : c ≠ '-') : c.isDigit = true := by
  have hdigits : ∀ c ∈ Nat.toDigits 10 n.natAbs, c.isDigit = true :=
    fun c hc => Nat.isDigit_of_mem_toDigits (by decide) (by decide) hc
  rw [toList_toString] at hc
  split at hc
  · exact hdigits c ((List.mem_cons.mp hc).resolve_left hminus)
  · exact hdigits c hc

/-- A printed number holds nothing but digits and a minus sign. -/
theorem notMem_toString {c : Char} (hdigit : c.isDigit = false) (hminus : c ≠ '-') (n : ℤ) :
    c ∉ (toString n).toList := by
  intro hc
  rw [isDigit_of_mem_toString hc hminus] at hdigit
  cases hdigit

/-- A natural number as it is printed. -/
theorem toList_natCast (n : ℕ) : (toString (n : ℤ)).toList = Nat.toDigits 10 n := by
  rw [toList_toString, if_neg (by omega), Int.natAbs_natCast]

/-- Printed digits are digits. -/
theorem notMem_toDigits {c : Char} (hc : c.isDigit = false) (n : ℕ) :
    c ∉ Nat.toDigits 10 n := by
  intro h
  rw [Nat.isDigit_of_mem_toDigits (by decide) (by decide) h] at hc
  cases hc

/-- No space stands in front of a printed number. -/
theorem dropWhile_toString (n : ℤ) (rest : List Char) :
    ((toString n).toList ++ rest).dropWhile isSpace = (toString n).toList ++ rest := by
  obtain ⟨c, cs, hdigits, hc⟩ := toDigits_eq_cons n.natAbs
  rw [toList_toString, hdigits]
  split
  · rw [List.cons_append, List.dropWhile_cons_of_neg (by decide)]
  · rw [List.cons_append, List.dropWhile_cons_of_neg (by simp [isSpace_of_isDigit hc])]

/-- Behind its sign, a printed number has its digits. -/
theorem unsign_toString (n : ℤ) (rest : List Char) :
    unsign ((toString n).toList ++ rest) = Nat.toDigits 10 n.natAbs ++ rest := by
  obtain ⟨c, cs, hdigits, hc⟩ := toDigits_eq_cons n.natAbs
  rw [toList_toString, hdigits]
  split
  · rfl
  · exact unsign_of_isDigit hc _

/-- A printed number is read back, whatever comes behind it. -/
theorem strtol_toString (w : ℕ) (n : ℤ) {rest : List Char}
    (hrest : rest.head?.any Char.isDigit = false) :
    strtol w ((toString n).toList ++ rest) = clampSigned w n := by
  have hvalue := decimal_toDigits n.natAbs hrest
  obtain ⟨c, cs, hdigits, hc⟩ := toDigits_eq_cons n.natAbs
  unfold strtol
  rw [dropWhile_toString, toList_toString]
  by_cases hn : n < 0
  · have habs : -(n.natAbs : ℤ) = n := by omega
    simp only [if_pos hn, List.cons_append]
    rw [hvalue, habs]
  · have habs : (n.natAbs : ℤ) = n := by omega
    rw [if_neg hn]
    rw [hdigits] at hvalue ⊢
    split
    · next heq =>
      rw [(List.cons.inj heq).1] at hc
      cases hc
    · next heq =>
      rw [(List.cons.inj heq).1] at hc
      cases hc
    · rw [hvalue, habs]

/-- A number within the range is not clamped. -/
theorem clampSigned_of_mem {w : ℕ} {n : ℤ} (hlow : -2 ^ (w - 1) ≤ n) (hhigh : n < 2 ^ (w - 1)) :
    clampSigned w n = n := by
  unfold clampSigned
  omega

/-- A printed number that is converted. -/
theorem scan_int (ds : List Directive) (n : ℤ) (rest : List Char)
    (hrest : rest.head?.any Char.isDigit = false) :
    scan (.int :: ds) ((toString n).toList ++ rest) =
      ⟨.num (clampSigned 32 n) :: (scan ds rest).fields, (scan ds rest).ranOut⟩ := by
  have hne : (toString n).toList ++ rest ≠ [] := by
    simp [toString_ne_nil n, -Int.toString_eq_repr]
  have hdigits : ∀ c ∈ Nat.toDigits 10 n.natAbs, c.isDigit = true :=
    fun c hc => Nat.isDigit_of_mem_toDigits (by decide) (by decide) hc
  have hskip : (Nat.toDigits 10 n.natAbs ++ rest).dropWhile Char.isDigit = rest := by
    rw [List.dropWhile_append_of_pos hdigits]
    cases rest with
    | nil => rfl
    | cons c rest => exact List.dropWhile_cons_of_neg (by simpa using hrest)
  obtain ⟨c, cs, hcons, hc⟩ := toDigits_eq_cons n.natAbs
  rw [scan, dropWhile_toString, if_neg hne, unsign_toString, hskip, strtol_toString 32 n hrest,
    if_pos (by rw [hcons]; simpa using hc)]

/-! ## Lines -/

/-- A text of lines, each ended by a newline or with one between them. -/
def Printed (ls : List (List Char)) (ack : List Char) : Prop :=
  ack = unlines '\n' ls ∨ ack = ['\n'].intercalate ls

/-- A separator ends a token. -/
theorem tokLoop_append {sep : Char} {f : List Char} (h : sep ∉ f) (seg rest : List Char) :
    tokLoop sep seg (f ++ sep :: rest) = (seg.reverse ++ f) :: tokLoop sep [] rest := by
  induction f generalizing seg with
  | nil =>
    rw [List.nil_append, List.append_nil, tokLoop, if_pos rfl]
  | cons c f ih =>
    rw [List.mem_cons, not_or] at h
    rw [List.cons_append, tokLoop, if_neg (Ne.symm h.1), ih h.2]
    simp

/-- The last token is left out where it is empty. -/
theorem tokLoop_of_notMem {sep : Char} {f : List Char} (h : sep ∉ f) (seg : List Char) :
    tokLoop sep seg f = if seg.reverse ++ f = [] then [] else [seg.reverse ++ f] := by
  induction f generalizing seg with
  | nil => simp [tokLoop]
  | cons c f ih =>
    rw [List.mem_cons, not_or] at h
    rw [tokLoop, if_neg (Ne.symm h.1), ih h.2]
    simp

/-- The loop sees the lines of a printed text, where none is empty. -/
theorem lines_of_printed {ls : List (List Char)} {ack : List Char} (hack : Printed ls ack)
    (hls : ∀ l ∈ ls, '\n' ∉ l ∧ l ≠ []) : lines ack = ls := by
  unfold lines
  rcases hack with rfl | rfl
  · induction ls with
    | nil => rfl
    | cons l ls ih =>
      rw [unlines_cons, tokLoop_append (hls l List.mem_cons_self).1,
        ih fun l' hl' => hls l' (List.mem_cons_of_mem _ hl')]
      rfl
  · induction ls with
    | nil => rfl
    | cons l ls ih =>
      have hrest := ih fun l' hl' => hls l' (List.mem_cons_of_mem _ hl')
      obtain ⟨hl, hne⟩ := hls l List.mem_cons_self
      cases ls with
      | nil =>
        rw [List.intercalate_singleton, tokLoop_of_notMem hl]
        simp [hne]
      | cons l' ls =>
        rw [List.intercalate_cons_cons, List.append_assoc, List.singleton_append,
          tokLoop_append hl, hrest]
        rfl

end Tiger.Analysis.ScanRules
