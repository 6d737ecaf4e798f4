import Mathlib.Data.List.TakeWhile
import Tiger.Model.Misc

/-!
# What the validators accept

`check.number`, `check.port` and `check.ip` against the texts they are meant for. The dot
of `/^[0-9]+.?[0-9]*$/` is not escaped, so any one symbol may stand among the digits
(`accepts_number_iff`), and `parseInt` stops in front of it. `check.ip` accepts exactly the
addresses (`checkIp_iff`). `check_iff` says on which texts all three are right.
-/

set_option autoImplicit false

namespace Tiger.Analysis.Validators

open Tiger.Library Tiger.Model.Misc

/-! ## The texts -/

/-- A text of digits. -/
def Digits (s : Js) : Prop := s ≠ [] ∧ ∀ u ∈ s, digit u = true

/-- A decimal number: digits, or digits on both sides of a dot. -/
def Decimal (s : Js) : Prop :=
  Digits s ∨ ∃ ds es, Digits ds ∧ Digits es ∧ s = ds ++ unit '.' :: es

/-- A decimal integer from 1 to 65535. -/
def PortText (s : Js) : Prop := Digits s ∧ 1 ≤ valueIn 10 s ∧ valueIn 10 s ≤ 65535

/-- One to three digits. -/
def Group (s : Js) : Prop := Digits s ∧ s.length ≤ 3

/-- Four groups of at most 255 with dots between them. -/
def IpText (s : Js) : Prop :=
  ∃ groups : List Js, groups.length = 4 ∧ (∀ g ∈ groups, Group g ∧ valueIn 10 g ≤ 255) ∧
    s = [unit '.'].intercalate groups

/-- Digits, one other symbol that ends no line, and perhaps digits. -/
structure Cut (s ds : Js) (c : UInt16) (es : Js) : Prop where
  eq : s = ds ++ c :: es
  before : Digits ds
  other : digit c = false
  inLine : anyUnit c = true
  after : ∀ u ∈ es, digit u = true

/-- The texts that are taken for what they are not: the symbol is no dot, or no digits follow
it, or the digits in front of it are those of a port. -/
def Stray (s : Js) : Prop :=
  ∃ ds c es, Cut s ds c es ∧
    (c ≠ unit '.' ∨ es = [] ∨ (1 ≤ valueIn 10 ds ∧ valueIn 10 ds ≤ 65535))

/-! ## Digits -/

/-- A digit is none of the other characters. -/
theorem ne_of_digit {u v : UInt16} (hu : digit u = true) (hv : digit v = false) : u ≠ v := by
  rintro rfl
  rw [hu] at hv
  cases hv

/-- Digits hold no other character. -/
theorem notMem_of_digits {s : Js} {v : UInt16} (hs : ∀ u ∈ s, digit u = true)
    (hv : digit v = false) : v ∉ s := fun h => ne_of_digit (hs v h) hv rfl

/-- A digit is no space. -/
theorem digit_notSpace {u : UInt16} (hu : digit u = true) : u ∉ jsSpaces := by
  have hother : ∀ v ∈ jsSpaces, digit v = false := List.forall_iff_forall_mem.mp (by decide)
  exact fun h => ne_of_digit hu (hother u h) rfl

/-- A base is not taken from a text of digits. -/
theorem radixOf_digits {ds rest : Js} (hds : Digits ds)
    (hrest : ∀ c ∈ rest.head?, c ≠ unit 'x' ∧ c ≠ unit 'X') :
    radixOf (ds ++ rest) = (10, ds ++ rest) := by
  obtain ⟨d, ds, rfl⟩ := List.exists_cons_of_ne_nil hds.1
  rw [List.cons_append]
  cases hnext : ds ++ rest with
  | nil => rfl
  | cons x tail =>
    have hx : x ≠ unit 'x' ∧ x ≠ unit 'X' := by
      cases ds with
      | nil => exact hrest x (by rw [List.nil_append] at hnext; rw [hnext]; rfl)
      | cons e ds =>
        obtain rfl : e = x := by simpa using congrArg List.head? hnext
        have he := hds.2 e (by simp)
        exact ⟨ne_of_digit he (by decide), ne_of_digit he (by decide)⟩
    rw [radixOf, if_neg fun h => h.2.elim hx.1 hx.2]

/-- **The number of a text.** `parseInt` reads the digits a text begins with, unless an `x`
follows them. -/
theorem parseInt_digits {ds rest : Js} (hds : Digits ds)
    (hrest : ∀ c ∈ rest.head?, digit c = false ∧ c ≠ unit 'x' ∧ c ≠ unit 'X') :
    parseInt (ds ++ rest) = some (valueIn 10 ds : ℤ) := by
  obtain ⟨d, tail, hcons⟩ := List.exists_cons_of_ne_nil hds.1
  have hd : digit d = true := hds.2 d (hcons ▸ List.mem_cons_self)
  have hspace : (ds ++ rest).dropWhile (jsSpaces.contains ·) = ds ++ rest := by
    rw [hcons, List.cons_append, List.dropWhile_cons_of_neg (by simp [digit_notSpace hd])]
  have hsign : ∀ c, digit c = false → (ds ++ rest).head? ≠ some c := by
    intro c hc h
    rw [hcons, List.cons_append, List.head?_cons] at h
    exact ne_of_digit hd hc (Option.some.inj h)
  have hminus := hsign (unit '-') (by decide)
  have hplus := hsign (unit '+') (by decide)
  have hstop : rest.takeWhile (isDigitIn 10) = [] := by
    cases rest with
    | nil => rfl
    | cons c rest =>
      have hc : ¬ digit c = true := by simp [(hrest c rfl).1]
      exact List.takeWhile_cons_of_neg hc
  have hdigits : (ds ++ rest).takeWhile (isDigitIn 10) = ds := by
    rw [List.takeWhile_append_of_pos (p := isDigitIn 10) hds.2, hstop, List.append_nil]
  have hradix := radixOf_digits hds fun c hc => (hrest c hc).2
  unfold parseInt
  simp only [hspace, hminus, hplus, or_self, if_false, hradix, hdigits, if_neg hds.1]

/-- Digits are read as their number. -/
theorem parseInt_of_digits {s : Js} (hs : Digits s) : parseInt s = some (valueIn 10 s : ℤ) := by
  have hnone : ∀ c ∈ ([] : Js).head?, digit c = false ∧ c ≠ unit 'x' ∧ c ≠ unit 'X' := nofun
  have h := parseInt_digits hs hnone
  rwa [List.append_nil] at h

/-! ## `check.number` -/

/-- The pattern accepts digits with at most one other symbol among them. -/
theorem accepts_number_iff (s : Js) :
    accepts numberPattern s = true ↔ Digits s ∨ ∃ ds c es, Cut s ds c es := by
  have hcons := fun (p q : Piece UInt16) ps s => accepts_cons_iff p (q :: ps) s
  unfold numberPattern
  simp only [hcons, accepts_singleton_iff, Piece.allows]
  constructor
  · rintro ⟨ds, v, rfl, hds, hdigits, mid, es, rfl, hmid, hline, -, hes⟩
    have hpos : 1 ≤ ds.length := by simpa using hds
    have hne : ds ≠ [] := List.ne_nil_of_length_pos hpos
    match mid, hmid, hline with
    | [], _, _ =>
      refine Or.inl ⟨by simp [hne], fun u hu => ?_⟩
      rcases List.mem_append.mp hu with hu | hu
      · exact hdigits u hu
      · exact hes u hu
    | [c], _, hline =>
      by_cases hc : digit c = true
      · refine Or.inl ⟨by simp, fun u hu => ?_⟩
        simp only [List.mem_append, List.mem_cons, List.not_mem_nil, or_false] at hu
        rcases hu with hu | rfl | hu
        · exact hdigits u hu
        · exact hc
        · exact hes u hu
      · exact Or.inr ⟨ds, c, es, rfl, ⟨hne, hdigits⟩, by simpa using hc, hline c (by simp), hes⟩
  · rintro (hs | ⟨ds, c, es, hcut⟩)
    · have hpos : 1 ≤ s.length := List.length_pos_iff.mpr hs.1
      exact ⟨s, [], by simp, by simpa using hpos, hs.2, [], [], by simp⟩
    · have hpos : 1 ≤ ds.length := List.length_pos_iff.mpr hcut.before.1
      refine ⟨ds, c :: es, hcut.eq, by simpa using hpos, hcut.before.2, [c], es, rfl, by simp, ?_,
        by simp, hcut.after⟩
      simpa using hcut.inLine

/-- A text with a cut in it is not all digits. -/
theorem Cut.not_digits {s ds es : Js} {c : UInt16} (h : Cut s ds c es) : ¬ Digits s := by
  intro hs
  have hc := hs.2 c (h.eq ▸ by simp)
  rw [h.other] at hc
  cases hc

/-- A text is cut in one way. -/
theorem Cut.unique {s ds es ds' es' : Js} {c c' : UInt16} (h : Cut s ds c es)
    (h' : Cut s ds' c' es') : ds = ds' ∧ c = c' ∧ es = es' := by
  have hstart : ∀ {ds es : Js} {c : UInt16}, Cut s ds c es → s.takeWhile digit = ds := by
    intro ds es c h
    have hother : ¬ digit c = true := by simp [h.other]
    rw [h.eq, List.takeWhile_append_of_pos h.before.2, List.takeWhile_cons_of_neg hother,
      List.append_nil]
  have hds : ds = ds' := (hstart h).symm.trans (hstart h')
  subst hds
  have hrest : c :: es = c' :: es' := List.append_cancel_left (h.eq.symm.trans h'.eq)
  exact ⟨rfl, List.cons.inj hrest⟩

/-- A cut text is a decimal number when a dot and digits follow. -/
theorem decimal_of_cut_iff {s ds es : Js} {c : UInt16} (h : Cut s ds c es) :
    Decimal s ↔ c = unit '.' ∧ es ≠ [] := by
  constructor
  · rintro (hs | ⟨ds', es', hds', hes', heq⟩)
    · exact absurd hs h.not_digits
    · have hcut : Cut s ds' (unit '.') es' := ⟨heq, hds', by decide, by decide, hes'.2⟩
      obtain ⟨-, hc, hes⟩ := h.unique hcut
      exact ⟨hc, hes ▸ hes'.1⟩
  · rintro ⟨rfl, hes⟩
    exact Or.inr ⟨ds, es, h.before, ⟨hes, h.after⟩, h.eq⟩

/-- A decimal number is accepted. -/
theorem accepts_of_decimal {s : Js} (h : Decimal s) : accepts numberPattern s = true := by
  rw [accepts_number_iff]
  rcases h with hs | ⟨ds, es, hds, hes, heq⟩
  · exact Or.inl hs
  · exact Or.inr ⟨ds, unit '.', es, heq, hds, by decide, by decide, hes.2⟩

/-! ## `check.port` -/

/-- What `check.port` accepts. -/
theorem checkPort_iff (s : Js) :
    checkPort s = true ↔
      accepts numberPattern s = true ∧ ∀ n, parseInt s = some n → 1 ≤ n ∧ n ≤ 65535 := by
  unfold checkPort
  rw [Bool.and_eq_true]
  refine and_congr_right fun _ => ?_
  cases parseInt s with
  | none => simp
  | some n =>
    simp only [Option.any_some, Option.some.injEq, forall_eq', Bool.not_eq_true',
      Bool.or_eq_false_iff, decide_eq_false_iff_not]
    omega

/-- Digits are accepted exactly when they are a port. -/
theorem checkPort_digits_iff {s : Js} (hs : Digits s) : checkPort s = true ↔ PortText s := by
  rw [checkPort_iff, accepts_number_iff, parseInt_of_digits hs]
  unfold PortText
  simp only [hs, true_or, true_and, Option.some.injEq, forall_eq']
  omega

/-- On a decimal fraction it looks at the digits in front of the dot. -/
theorem checkPort_dot_iff {s ds es : Js} (h : Cut s ds (unit '.') es) :
    checkPort s = true ↔ 1 ≤ valueIn 10 ds ∧ valueIn 10 ds ≤ 65535 := by
  have hnumber : parseInt s = some (valueIn 10 ds : ℤ) := by
    rw [h.eq]
    refine parseInt_digits h.before ?_
    intro c hc
    obtain rfl : unit '.' = c := Option.some.inj hc
    exact ⟨by decide, by decide, by decide⟩
  rw [checkPort_iff, accepts_number_iff, hnumber]
  simp only [Option.some.injEq, forall_eq']
  constructor
  · rintro ⟨-, h⟩
    omega
  · intro hrange
    exact ⟨Or.inr ⟨ds, _, es, h⟩, by omega⟩

/-! ## `check.ip` -/

/-- A group is what its pattern allows. -/
theorem group_iff (g : Js) :
    Group g ↔ groupPattern.allows g.length = true ∧ ∀ u ∈ g, groupPattern.cls u = true := by
  unfold Group Digits groupPattern Piece.allows
  simp only [Bool.and_eq_true, decide_eq_true_eq, Option.all_some]
  rw [← List.length_pos_iff]
  constructor
  · rintro ⟨⟨hpos, hdigits⟩, hlen⟩
    exact ⟨⟨hpos, hlen⟩, hdigits⟩
  · rintro ⟨⟨hpos, hlen⟩, hdigits⟩
    exact ⟨⟨hpos, hdigits⟩, hlen⟩

/-- One group and a dot. -/
theorem accepts_group_dot_iff (ps : List (Piece UInt16)) (s : Js) :
    accepts (groupPattern :: dotPattern :: ps) s = true ↔
      ∃ g rest, Group g ∧ s = g ++ unit '.' :: rest ∧ accepts ps rest = true := by
  rw [accepts_cons_iff]
  constructor
  · rintro ⟨g, v, rfl, hlen, hdigits, hrest⟩
    rw [accepts_cons_iff] at hrest
    obtain ⟨dot, rest, rfl, hone, hdot, hrest⟩ := hrest
    unfold dotPattern Piece.allows at hone
    have hlen' : dot.length = 1 := by
      simp only [Bool.and_eq_true, decide_eq_true_eq, Option.all_some] at hone
      exact le_antisymm hone.2 hone.1
    obtain ⟨c, rfl⟩ := List.length_eq_one_iff.mp hlen'
    obtain rfl : c = unit '.' := by simpa [dotPattern] using hdot
    exact ⟨g, rest, (group_iff g).mpr ⟨hlen, hdigits⟩, rfl, hrest⟩
  · rintro ⟨g, rest, hg, rfl, hrest⟩
    obtain ⟨hlen, hdigits⟩ := (group_iff g).mp hg
    refine ⟨g, unit '.' :: rest, rfl, hlen, hdigits, ?_⟩
    rw [accepts_cons_iff]
    exact ⟨[unit '.'], rest, rfl, rfl, by simp [dotPattern], hrest⟩

/-- The pattern accepts four groups with dots between them. -/
theorem accepts_ip_iff (s : Js) :
    accepts ipPattern s = true ↔
      ∃ groups : List Js, groups.length = 4 ∧ (∀ g ∈ groups, Group g) ∧
        s = [unit '.'].intercalate groups := by
  have hpattern : ipPattern = [groupPattern, dotPattern, groupPattern, dotPattern, groupPattern,
      dotPattern, groupPattern] := rfl
  rw [hpattern]
  simp only [accepts_group_dot_iff, accepts_singleton_iff, ← group_iff]
  constructor
  · rintro ⟨a, -, ha, rfl, b, -, hb, rfl, c, d, hc, rfl, hd⟩
    refine ⟨[a, b, c, d], rfl, ?_, ?_⟩
    · simp [ha, hb, hc, hd]
    · simp [List.intercalate_cons_cons]
  · rintro ⟨groups, hlen, hgroups, rfl⟩
    obtain ⟨a, b, c, d, rfl⟩ : ∃ a b c d, groups = [a, b, c, d] := by
      match groups, hlen with
      | [a, b, c, d], _ => exact ⟨a, b, c, d, rfl⟩
    simp only [List.mem_cons, List.not_mem_nil, or_false, forall_eq_or_imp, forall_eq] at hgroups
    obtain ⟨ha, hb, hc, hd⟩ := hgroups
    refine ⟨a, b ++ unit '.' :: (c ++ unit '.' :: d), ha, ?_, b, c ++ unit '.' :: d, hb, rfl, c, d,
      hc, rfl, hd⟩
    simp [List.intercalate_cons_cons]

/-- The groups of an address are what it is split into. -/
theorem splitOn_groups {groups : List Js} (hne : groups ≠ []) (h : ∀ g ∈ groups, Group g) :
    ([unit '.'].intercalate groups).splitOn (unit '.') = groups := by
  apply List.splitOn_intercalate
  · intro g hg
    exact notMem_of_digits (h g hg).1.2 (by decide)
  · exact hne

/-- **Addresses.** `check.ip` accepts exactly the addresses. -/
theorem checkIp_iff (s : Js) : checkIp s = true ↔ IpText s := by
  have hlimit : ∀ {groups : List Js}, (∀ g ∈ groups, Group g) →
      ((groups.any fun group => (parseInt group).any (· > 255)) = false ↔
        ∀ g ∈ groups, valueIn 10 g ≤ 255) := by
    intro groups h
    rw [List.any_eq_false]
    refine forall₂_congr fun g hg => ?_
    rw [parseInt_of_digits (h g hg).1, Option.any_some, decide_eq_true_eq]
    omega
  unfold checkIp
  rw [Bool.and_eq_true, accepts_ip_iff, Bool.not_eq_true']
  constructor
  · rintro ⟨⟨groups, hlen, hgroups, rfl⟩, hvalues⟩
    have hne : groups ≠ [] := List.ne_nil_of_length_pos (by omega)
    rw [splitOn_groups hne hgroups, hlimit hgroups] at hvalues
    exact ⟨groups, hlen, fun g hg => ⟨hgroups g hg, hvalues g hg⟩, rfl⟩
  · rintro ⟨groups, hlen, hgroups, rfl⟩
    have hne : groups ≠ [] := List.ne_nil_of_length_pos (by omega)
    have hdigits : ∀ g ∈ groups, Group g := fun g hg => (hgroups g hg).1
    refine ⟨⟨groups, hlen, hdigits, rfl⟩, ?_⟩
    rw [splitOn_groups hne hdigits, hlimit hdigits]
    exact fun g hg => (hgroups g hg).2

/-! ## The three validators -/

/-- Each validator accepts a text exactly when it is one of its own. -/
structure Right (s : Js) : Prop where
  number : checkNumber s = true ↔ Decimal s
  port : checkPort s = true ↔ PortText s
  ip : checkIp s = true ↔ IpText s

/-- A text without a cut is judged rightly. -/
theorem right_of_not_cut {s : Js} (h : ∀ ds c es, ¬ Cut s ds c es) : Right s := by
  have hcut : ¬ ∃ ds c es, Cut s ds c es := fun ⟨ds, c, es, hcut⟩ => h ds c es hcut
  have hnumber : accepts numberPattern s = true ↔ Digits s := by
    rw [accepts_number_iff]
    simp [hcut]
  refine ⟨⟨fun hs => Or.inl (hnumber.mp hs), accepts_of_decimal⟩, ?_, checkIp_iff s⟩
  by_cases hs : Digits s
  · exact checkPort_digits_iff hs
  · refine iff_of_false (fun hport => hs ?_) fun hport => hs hport.1
    exact hnumber.mp ((checkPort_iff s).mp hport).1

/-- A cut text is judged right when a dot and digits follow and no port is in front of it. -/
theorem right_of_cut_iff {s ds es : Js} {c : UInt16} (h : Cut s ds c es) :
    Right s ↔ c = unit '.' ∧ es ≠ [] ∧ ¬ (1 ≤ valueIn 10 ds ∧ valueIn 10 ds ≤ 65535) := by
  have hnumber : (checkNumber s = true ↔ Decimal s) ↔ c = unit '.' ∧ es ≠ [] := by
    have haccepts : checkNumber s = true := (accepts_number_iff s).mpr (Or.inr ⟨ds, c, es, h⟩)
    rw [← decimal_of_cut_iff h]
    simp [haccepts]
  have hport : ¬ PortText s := fun hport => h.not_digits hport.1
  constructor
  · intro hright
    obtain ⟨rfl, hes⟩ := hnumber.mp hright.number
    refine ⟨rfl, hes, fun hrange => hport ?_⟩
    exact hright.port.mp ((checkPort_dot_iff h).mpr hrange)
  · rintro ⟨rfl, hes, hrange⟩
    refine ⟨hnumber.mpr ⟨rfl, hes⟩, ?_, checkIp_iff s⟩
    rw [checkPort_dot_iff h]
    exact iff_of_false hrange hport

/-- **The validators.** All three are right about a text if and only if it is not stray. -/
theorem check_iff (s : Js) : Right s ↔ ¬ Stray s := by
  by_cases hcut : ∃ ds c es, Cut s ds c es
  · obtain ⟨ds, c, es, h⟩ := hcut
    rw [right_of_cut_iff h]
    constructor
    · rintro ⟨hdot, hes, hrange⟩ ⟨ds', c', es', h', hstray⟩
      obtain ⟨rfl, rfl, rfl⟩ := h.unique h'
      rcases hstray with hc | hempty | hport
      · exact hc hdot
      · exact hes hempty
      · exact hrange hport
    · intro hstray
      refine ⟨?_, fun hes => hstray ⟨ds, c, es, h, Or.inr (Or.inl hes)⟩,
        fun hport => hstray ⟨ds, c, es, h, Or.inr (Or.inr hport)⟩⟩
      by_contra hc
      exact hstray ⟨ds, c, es, h, Or.inl hc⟩
  · refine iff_of_true (right_of_not_cut fun ds c es h => hcut ⟨ds, c, es, h⟩) ?_
    rintro ⟨ds, c, es, h, -⟩
    exact hcut ⟨ds, c, es, h⟩

/-- A number with a semicolon in it is accepted as a number and as a port. -/
theorem semicolon_accepted :
    checkNumber (js "80;1") = true ∧ checkPort (js "80;1") = true ∧ ¬ Decimal (js "80;1") ∧
      ¬ PortText (js "80;1") := by
  have hcut : Cut (js "80;1") (js "80") (unit ';') (js "1") :=
    ⟨by decide, ⟨by decide, List.forall_iff_forall_mem.mp (by decide)⟩, by decide, by decide,
      List.forall_iff_forall_mem.mp (by decide)⟩
  refine ⟨by decide, by decide, fun h => ?_, fun h => hcut.not_digits h.1⟩
  exact absurd ((decimal_of_cut_iff hcut).mp h).1 (by decide)

end Tiger.Analysis.Validators
