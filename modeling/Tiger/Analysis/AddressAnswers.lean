import Tiger.Analysis.ContractFields
import Tiger.Analysis.NetworkInfo

/-!
# The answers that give an address

`AT+CGCONTRDP` gives the address of a context with its mask, its gateway and its name
servers, `AT+CGPADDR` gives the address alone. The zero address is looked for as a text,
so an address and a mask that hold `0.0.0.0` across their groups pass for it, and a text
that is no address passes for one unless it happens to fail the scan (`answer_iff`).
-/

set_option autoImplicit false

namespace Tiger.Analysis.AddressAnswers

open Tiger.Library Tiger.Model Tiger.Model.Em350
open Tiger.Analysis.ScanRules Tiger.Analysis.ContractFields
open Tiger.Analysis.NetworkInfo (quote)

/-! ## Addresses -/

/-- An address or a mask, in four groups. -/
structure Quad where
  a : Fin 256
  b : Fin 256
  c : Fin 256
  d : Fin 256
  deriving DecidableEq

def Quad.zero : Quad := ⟨0, 0, 0, 0⟩

def Quad.groups (q : Quad) : List ℕ := [q.a, q.b, q.c, q.d]

/-- Numbers with dots between them. -/
def dots (n : ℕ) (ns : List ℕ) : List Char :=
  delimited '.' (Nat.toDigits 10 n) (ns.map (Nat.toDigits 10))

/-- An address as a text. -/
def Quad.text (q : Quad) : List Char := dots q.a [q.b, q.c, q.d]

/-- An address as a field. -/
def Quad.field (q : Quad) : List Char := quote q.text

def Quad.string (q : Quad) : String := String.ofList q.text

/-- An address and its mask as the modem joins them. -/
def pairText (ip mask : Quad) : List Char :=
  dots ip.a [ip.b, ip.c, ip.d, mask.a, mask.b, mask.c, mask.d]

/-- Somewhere a group that is a multiple of ten comes in front of three zero groups. -/
def ZeroRun : List ℕ → Prop
  | g :: gs => (g % 10 = 0 ∧ [0, 0, 0] <+: gs) ∨ ZeroRun gs
  | [] => False

instance decidableZeroRun : (gs : List ℕ) → Decidable (ZeroRun gs)
  | g :: gs =>
    have := decidableZeroRun gs
    inferInstanceAs (Decidable ((g % 10 = 0 ∧ [0, 0, 0] <+: gs) ∨ ZeroRun gs))
  | [] => instDecidableFalse

/-! ## The zero address as a text -/

/-- One number stands alone. -/
theorem dots_nil (n : ℕ) : dots n [] = Nat.toDigits 10 n := delimited_nil _ _

/-- A dot stands between a number and the next ones. -/
theorem dots_cons (n m : ℕ) (ns : List ℕ) :
    dots n (m :: ns) = Nat.toDigits 10 n ++ '.' :: dots m ns := delimited_cons _ _ _ _

/-- A dot is no digit. -/
theorem dot_notMem_digits (n : ℕ) : '.' ∉ Nat.toDigits 10 n := notMem_toDigits (by decide) n

/-- Dotted numbers begin with the digit 0 only where the first is 0. -/
theorem zero_prefix_dots (n : ℕ) (ns : List ℕ) : ['0'] <+: dots n ns ↔ n = 0 := by
  cases ns with
  | nil => rw [dots_nil, zero_prefix_toDigits]
  | cons m ns => rw [dots_cons, prefix_append_cons_iff (by decide), zero_prefix_toDigits]

/-- Zero groups at the start of a text. -/
theorem zeros_prefix_dots (n : ℕ) (ns : List ℕ) :
    "0.0.0".toList <+: dots n ns ↔ [0, 0, 0] <+: n :: ns := by
  have hshort : ∀ (p : List Char) (n : ℕ), ¬ ['0'] ++ '.' :: p <+: Nat.toDigits 10 n := by
    intro p n h
    exact dot_notMem_digits n (h.subset (by simp))
  have hsplit : ∀ (p : List Char) (n m : ℕ) (ns : List ℕ),
      ['0'] ++ '.' :: p <+: dots n (m :: ns) ↔ n = 0 ∧ p <+: dots m ns := by
    intro p n m ns
    rw [dots_cons, cons_prefix_cons_iff (by decide) (dot_notMem_digits n), zero_eq_toDigits]
  change ['0'] ++ '.' :: (['0'] ++ '.' :: ['0']) <+: _ ↔ _
  rcases ns with _ | ⟨m, _ | ⟨k, ns⟩⟩
  · rw [dots_nil]
    exact iff_of_false (hshort _ n) (by simp)
  · rw [hsplit, dots_nil]
    exact iff_of_false (fun h => hshort _ m h.2) (by simp)
  · rw [hsplit, hsplit, zero_prefix_dots]
    simp [eq_comm]

/-- The zero address stands in a text exactly when there is a run of zero groups. -/
theorem zero_infix_dots (n : ℕ) (ns : List ℕ) :
    "0.0.0.0".toList <:+: dots n ns ↔ ZeroRun (n :: ns) := by
  change ['0'] ++ '.' :: "0.0.0".toList <:+: _ ↔ _
  induction ns generalizing n with
  | nil =>
    rw [dots_nil]
    constructor
    · intro h
      exact absurd (h.subset (by simp)) (dot_notMem_digits n)
    · rintro (⟨-, h⟩ | h)
      · exact absurd h (by simp)
      · exact h.elim
  | cons m ns ih =>
    rw [dots_cons, cons_infix_cons_iff (by decide) (dot_notMem_digits n), zero_suffix_toDigits,
      zeros_prefix_dots, ih]
    rfl

/-! ## The groups are read -/

/-- A pattern of numbers with dots between them, as many as the list has and one more. -/
def groupsPattern (ns : List ℕ) : List Directive :=
  .int :: ns.flatMap fun _ => [.lit '.', .int]

/-- Numbers with dots between them are read back. -/
theorem scan_dots (n : ℕ) (ns : List ℕ) (hns : ∀ m ∈ n :: ns, m < 256) :
    (scan (groupsPattern ns) (dots n ns)).fields = (n :: ns).map fun m => .num m := by
  have hclamp : ∀ m : ℕ, m < 256 → clampSigned 32 (m : ℤ) = m := by
    intro m hm
    simp only [clampSigned]
    omega
  induction ns generalizing n with
  | nil =>
    have hscan := scan_int [] n [] rfl
    rw [List.append_nil, toList_natCast] at hscan
    change (scan [.int] (dots n [])).fields = _
    rw [dots_nil, hscan, hclamp n (hns n List.mem_cons_self)]
    rfl
  | cons m ns ih =>
    have hscan := scan_int (.lit '.' :: groupsPattern ns) n ('.' :: dots m ns) rfl
    rw [toList_natCast] at hscan
    change (scan (.int :: .lit '.' :: groupsPattern ns) (dots n (m :: ns))).fields = _
    rw [dots_cons, hscan, hclamp n (hns n List.mem_cons_self), scan_lit,
      ih m fun k hk => hns k (List.mem_cons_of_mem _ hk)]
    rfl

/-- An address is printed group by group. -/
theorem string_eq (q : Quad) : q.string = dotted (q.a : ℕ) (q.b : ℕ) (q.c : ℕ) (q.d : ℕ) := by
  apply String.toList_injective
  unfold Quad.string Quad.text dots dotted
  rw [String.toList_ofList]
  simp only [String.toList_append, toList_natCast]
  simp [delimited]

/-- Eight numbers that are read make up an address and a mask. -/
theorem addressAndMask_of_fields {s : String} {p1 p2 p3 p4 p5 p6 p7 p8 : ℤ}
    (h : (scan groupsFormat s.toList).fields =
      [.num p1, .num p2, .num p3, .num p4, .num p5, .num p6, .num p7, .num p8]) :
    addressAndMask s = some (dotted p1 p2 p3 p4, dotted p5 p6 p7 p8) := by
  unfold addressAndMask
  rw [h]

/-- The address and the mask are read back. -/
theorem addressAndMask_pairText (ip mask : Quad) :
    addressAndMask (String.ofList (pairText ip mask)) = some (ip.string, mask.string) := by
  have hscan := scan_dots ip.a [ip.b, ip.c, ip.d, mask.a, mask.b, mask.c, mask.d] (by
    intro m hm
    simp only [List.mem_cons, List.not_mem_nil, or_false] at hm
    rcases hm with rfl | rfl | rfl | rfl | rfl | rfl | rfl | rfl <;> exact Fin.isLt _)
  rw [string_eq, string_eq]
  apply addressAndMask_of_fields
  rw [String.toList_ofList]
  exact hscan

/-! ## The answers -/

/-- An answer to `AT+CGCONTRDP`: the gateway and the servers, as many as there are, stand
behind the address. `address` is the field with the address and the mask, or what stands
there in place of it. -/
structure ContractAnswer where
  cid : ℕ
  bearer : ℕ
  apn : List Char
  address : List Char
  servers : List Quad
  empties : ℕ
  plain : ∀ f ∈ [apn, address], ',' ∉ f
  few : servers.length ≤ 3
  short : ∀ f ∈ ["CGCONTRDP: ".toList ++ Nat.toDigits 10 cid, Nat.toDigits 10 bearer, quote apn,
    address], f.length < nameMax

/-- The fields in front of the empty ones, without the first. -/
def ContractAnswer.filled (a : ContractAnswer) : List (List Char) :=
  [Nat.toDigits 10 a.bearer, quote a.apn, a.address] ++ a.servers.map Quad.field

/-- The answer as the modem prints it. -/
def ContractAnswer.text (a : ContractAnswer) : List Char :=
  '+' :: delimited ',' ("CGCONTRDP: ".toList ++ Nat.toDigits 10 a.cid)
    (a.filled ++ List.replicate a.empties [])

/-- What an answer with an address and a mask says. -/
def ContractAnswer.report (a : ContractAnswer) (ip mask : Quad) : Contract :=
  ⟨true, ip.string, mask.string, a.servers[0]?.map Quad.string, a.servers[1]?.map Quad.string,
    a.servers[2]?.map Quad.string⟩

/-- An answer to `AT+CGPADDR`. `address` is the text in the quotes. -/
structure AddressAnswer where
  cid : ℕ
  address : List Char
  plain : '"' ∉ address
  short : address.length < nameMax

/-- The answer as the modem prints it. -/
def AddressAnswer.text (a : AddressAnswer) : List Char :=
  '+' :: ("CGPADDR: ".toList ++ (Nat.toDigits 10 a.cid ++ ',' :: quote a.address))

/-- An answer of either kind. -/
inductive Answer where
  | contract (a : ContractAnswer)
  | address (a : AddressAnswer)

/-- The question. -/
def Answer.command (cid : String) : Answer → Command
  | contract _ => .set .cgcontrdp [.raw cid]
  | address _ => .set .cgpaddr [.raw cid]

def Answer.text : Answer → List Char
  | contract a => a.text
  | address a => a.text

/-- The operation that asks. -/
def Answer.ask (cid : String) : Answer → Op Ret
  | contract _ => Em350.cgcontrdp cid
  | address _ => cgpaddr cid

/-- An answer with an address that is not zero is a success with the values it lists, and one
with the zero address or no address is a failure. -/
def Answer.Handled (value : Ret) : Answer → Prop
  | contract a =>
    (∀ ip mask, a.address = quote (pairText ip mask) → ip ≠ .zero →
        value = .succeed ∧ contractOf a.text = a.report ip mask) ∧
      ((∀ ip mask, a.address = quote (pairText ip mask) → ip = .zero) → value = .failed)
  | address a =>
    (∀ ip : Quad, a.address = ip.text → ip ≠ .zero →
        value = .succeed ∧ cgpaddrOf a.text = some ip.text) ∧
      ((∀ ip : Quad, a.address = ip.text → ip = .zero) → value = .failed)

/-- The groups hold no run of zeros that reads as the zero address, and what is no address is
seen to be none: it is empty or holds the zero address, or its numbers are not found. -/
def Answer.Telling : Answer → Prop
  | contract a =>
    (∀ ip mask, a.address = quote (pairText ip mask) → ip ≠ .zero →
        ¬ ZeroRun (ip.groups ++ mask.groups)) ∧
      ((∀ ip mask, a.address ≠ quote (pairText ip mask)) →
        a.address = [] ∨ "0.0.0.0".toList <:+: a.address ∨
          eightGroups (a.address.tail.takeWhile (· ≠ '"')) = false)
  | address a =>
    (∀ ip : Quad, a.address = ip.text → ip ≠ .zero → ¬ ZeroRun ip.groups) ∧
      ((∀ ip : Quad, a.address ≠ ip.text) → a.address = [] ∨ "0.0.0.0".toList <:+: a.address)

/-! ## What is read -/

/-- A pattern without quotes stands in a quoted text when it stands in the text. -/
theorem infix_quote_iff {p s : List Char} (hp : '"' ∉ p) (hne : p ≠ []) :
    p <:+: quote s ↔ p <:+: s := by
  have hsplit : quote s = [] ++ '"' :: (s ++ '"' :: []) := rfl
  rw [hsplit, infix_append_cons_iff hp, infix_append_cons_iff hp, List.infix_nil]
  simp [hne]

/-- A quoted text without its quotes. -/
theorem inner_quote {s : List Char} (hs : '"' ∉ s) : (quote s).tail.takeWhile (· ≠ '"') = s := by
  change (s ++ '"' :: []).takeWhile (· ≠ '"') = s
  exact takeWhile_ne_append hs

/-- Dotted numbers hold nothing but digits and dots. -/
theorem notMem_dots {c : Char} (hdigit : c.isDigit = false) (hdot : c ≠ '.') (n : ℕ)
    (ns : List ℕ) : c ∉ dots n ns := by
  induction ns generalizing n with
  | nil =>
    rw [dots_nil]
    exact notMem_toDigits hdigit n
  | cons m ns ih =>
    rw [dots_cons, List.mem_append, List.mem_cons]
    rintro (h | h | h)
    · exact notMem_toDigits hdigit n h
    · exact hdot h
    · exact ih m h

/-- The empty fields behind the others are left out. -/
theorem takeWhile_append_empties {fs : List (List Char)} (h : ∀ f ∈ fs, f ≠ []) (e : ℕ) :
    (fs ++ List.replicate e []).takeWhile (· ≠ []) = fs := by
  rw [List.takeWhile_append_of_pos fun f hf => decide_eq_true (h f hf)]
  cases e with
  | zero => rw [List.replicate_zero, List.takeWhile_nil, List.append_nil]
  | succ e =>
    rw [List.replicate_succ, List.takeWhile_cons_of_neg (by simp), List.append_nil]

/-- The fields that are found, unless the address is empty. -/
theorem contractFields_text (a : ContractAnswer) :
    (strstr "CGCONTRDP:".toList a.text).bind contractFields =
      if a.address = [] then none
      else some ((("CGCONTRDP: ".toList ++ Nat.toDigits 10 a.cid) :: a.filled).map .str) := by
  have hstr : strstr "CGCONTRDP:".toList a.text = some a.text.tail :=
    strstr_behind (s := []) (d := '+') (by decide) (by decide)
  have hcomma : ∀ n, ',' ∉ Nat.toDigits 10 n := notMem_toDigits (by decide)
  have hplain : ∀ x ∈ ("CGCONTRDP: ".toList ++ Nat.toDigits 10 a.cid) ::
      (a.filled ++ List.replicate a.empties []), ',' ∉ x := by
    have hapn : ',' ∉ quote a.apn := by
      simp [quote, a.plain a.apn (by simp)]
    have haddress := a.plain a.address (by simp)
    have hserver : ∀ q : Quad, ',' ∉ q.field := by
      intro q
      simp [Quad.field, quote, Quad.text, notMem_dots]
    intro x hx
    simp only [ContractAnswer.filled, List.mem_cons, List.mem_append, List.mem_map,
      List.not_mem_nil, or_false, List.mem_replicate] at hx
    rcases hx with rfl | ((rfl | rfl | rfl) | ⟨q, -, rfl⟩) | ⟨-, rfl⟩
    · simp [hcomma]
    · exact hcomma _
    · exact hapn
    · exact haddress
    · exact hserver q
    · exact List.not_mem_nil
  rw [hstr, Option.bind_some, contractFields_eq]
  change (if 4 ≤ (scan (commaFields 7) (delimited ',' _ _)).fields.length then
    some (scan (commaFields 7) (delimited ',' _ _)).fields else none) = _
  rw [scan_commaFields_delimited 7 _ _ hplain]
  by_cases hempty : a.address = []
  · have hfound : (((("CGCONTRDP: ".toList ++ Nat.toDigits 10 a.cid) ::
        (a.filled ++ List.replicate a.empties [])).takeWhile (· ≠ [])).take 7).length = 3 := by
      simp [ContractAnswer.filled, hempty, quote, Nat.toDigits_ne_nil]
    rw [if_pos hempty, List.length_map, hfound, if_neg (by decide)]
  · have hfilled : ∀ x ∈ ("CGCONTRDP: ".toList ++ Nat.toDigits 10 a.cid) :: a.filled, x ≠ [] := by
      simp [ContractAnswer.filled, Quad.field, hempty, quote, Nat.toDigits_ne_nil]
    have hlen : (("CGCONTRDP: ".toList ++ Nat.toDigits 10 a.cid) :: a.filled).length =
        4 + a.servers.length := by
      simp [ContractAnswer.filled]
      omega
    have hfew := a.few
    rw [if_neg hempty, ← List.cons_append, takeWhile_append_empties hfilled,
      List.take_of_length_le (by omega), List.length_map, if_pos (by omega)]

/-- The quotes around an address come off. -/
theorem innerText_field (q : Quad) : innerText (.str q.field) = q.string := by
  have hquote : '"' ∉ q.text := notMem_dots (by decide) (by decide) _ _
  change String.ofList ((quote q.text).tail.takeWhile (· ≠ '"')) = _
  rw [inner_quote hquote]
  rfl

/-- What is read in the answer. -/
theorem contractOf_text (a : ContractAnswer) :
    contractOf a.text =
      if a.address = [] ∨ "0.0.0.0".toList <:+: a.address then noContract
      else
        let found := addressAndMask (String.ofList (a.address.tail.takeWhile (· ≠ '"')))
        ⟨found.isSome, found.map Prod.fst, found.map Prod.snd, a.servers[0]?.map Quad.string,
          a.servers[1]?.map Quad.string, a.servers[2]?.map Quad.string⟩ := by
  unfold contractOf
  rw [contractFields_text]
  by_cases hempty : a.address = []
  · rw [if_pos hempty, if_pos (Or.inl hempty)]
  · have hserver : ∀ i : ℕ, ((a.servers.map Quad.field).map Field.str)[i]?.map innerText =
        a.servers[i]?.map Quad.string := by
      intro i
      have hinner : innerText ∘ Field.str ∘ Quad.field = Quad.string := funext innerText_field
      rw [List.getElem?_map, List.getElem?_map, Option.map_map, Option.map_map,
        Function.comp_assoc, hinner]
    rw [if_neg hempty]
    change (if contains "0.0.0.0" a.address = true then noContract else
      (let found := addressAndMask (innerText (.str a.address))
       (⟨found.isSome, found.map Prod.fst, found.map Prod.snd,
        ((a.servers.map Quad.field).map Field.str)[0]?.map innerText,
        ((a.servers.map Quad.field).map Field.str)[1]?.map innerText,
        ((a.servers.map Quad.field).map Field.str)[2]?.map innerText⟩ : Contract))) = _
    rw [hserver, hserver, hserver]
    by_cases hzero : "0.0.0.0".toList <:+: a.address
    · rw [if_pos ((contains_iff _ _).mpr hzero), if_pos (Or.inr hzero)]
    · rw [if_neg (mt (contains_iff _ _).mp hzero), if_neg (not_or.mpr ⟨hempty, hzero⟩)]
      rfl

/-- The answer is a success when numbers are found that do not read as the zero address. -/
theorem succeeds_iff (a : ContractAnswer) :
    (contractOf a.text).succeeds = true ↔
      ¬ (a.address = [] ∨ "0.0.0.0".toList <:+: a.address ∨
        eightGroups (a.address.tail.takeWhile (· ≠ '"')) = false) := by
  rw [contractOf_text, ← or_assoc]
  by_cases hno : a.address = [] ∨ "0.0.0.0".toList <:+: a.address
  · rw [if_pos hno]
    exact iff_of_false (by decide) (not_not.mpr (Or.inl hno))
  · rw [if_neg hno, or_iff_right hno, Bool.not_eq_false]
    change (addressAndMask (String.ofList _)).isSome = true ↔ _
    rw [addressAndMask_isSome, String.toList_ofList]

/-- The address that is read in the answer to `AT+CGPADDR`. -/
theorem cgpaddrOf_text (a : AddressAnswer) :
    cgpaddrOf a.text = if a.address = [] then none else some a.address := by
  have hstr : strstr "CGPADDR:".toList a.text = some a.text.tail :=
    strstr_behind (s := []) (d := '+') (by decide) (by decide)
  have hskip : (scan [.skip '"', .lit '"', .field '"'] a.text.tail).fields =
      (scan [.field '"'] (a.address ++ ['"'])).fields := by
    have htail : a.text.tail = ("CGPADDR: ".toList ++ (Nat.toDigits 10 a.cid ++ [','])) ++
        '"' :: (a.address ++ ['"']) := by
      rw [List.append_assoc, List.append_assoc]
      rfl
    have hdigits : '"' ∉ Nat.toDigits 10 a.cid := notMem_toDigits (by decide) _
    rw [htail, scan_skip (by simp) (by simp [hdigits]), scan_lit]
  unfold cgpaddrOf
  rw [hstr, Option.map_some, hskip]
  by_cases hempty : a.address = []
  · rw [hempty, if_pos rfl]
    rfl
  · rw [if_neg hempty, scan_field hempty a.plain]
    rfl

/-! ## The judgement -/

/-- An address and a mask are taken for the zero address when their groups read as it. -/
theorem refused_pairText (ip mask : Quad) :
    (quote (pairText ip mask) = [] ∨ "0.0.0.0".toList <:+: quote (pairText ip mask) ∨
        eightGroups ((quote (pairText ip mask)).tail.takeWhile (· ≠ '"')) = false) ↔
      ZeroRun (ip.groups ++ mask.groups) := by
  have hinner : (quote (pairText ip mask)).tail.takeWhile (· ≠ '"') = pairText ip mask :=
    inner_quote (notMem_dots (by decide) (by decide) _ _)
  have hread : eightGroups (pairText ip mask) = true := by
    rw [← String.toList_ofList (l := pairText ip mask), ← addressAndMask_isSome,
      addressAndMask_pairText]
    rfl
  have hzero : "0.0.0.0".toList <:+: pairText ip mask ↔ ZeroRun (ip.groups ++ mask.groups) :=
    zero_infix_dots _ _
  rw [hinner, hread, infix_quote_iff (by decide) (by decide), hzero]
  simp [quote]

/-- The same without a mask. -/
theorem refused_text (ip : Quad) :
    (ip.text = [] ∨ "0.0.0.0".toList <:+: ip.text) ↔ ZeroRun ip.groups := by
  have hne : ip.text ≠ [] := by
    simp [Quad.text, dots, delimited]
  have hzero : "0.0.0.0".toList <:+: ip.text ↔ ZeroRun ip.groups := zero_infix_dots _ _
  rw [hzero, or_iff_right hne]

/-- An answer that begins with the zero address begins with a run of zeros. -/
theorem zeroRun_zero (gs : List ℕ) : ZeroRun (Quad.zero.groups ++ gs) := by
  left
  exact ⟨rfl, List.prefix_append [0, 0, 0] gs⟩

/-- What is read where an address and a mask are found. -/
theorem contractOf_pairText {a : ContractAnswer} {ip mask : Quad}
    (ha : a.address = quote (pairText ip mask)) (hzero : ¬ ZeroRun (ip.groups ++ mask.groups)) :
    contractOf a.text = a.report ip mask := by
  have hno := mt (refused_pairText ip mask).mp hzero
  rw [← ha, ← or_assoc, not_or] at hno
  have hquote : '"' ∉ pairText ip mask := notMem_dots (by decide) (by decide) _ _
  have hinner : a.address.tail.takeWhile (· ≠ '"') = pairText ip mask := by
    rw [ha, inner_quote hquote]
  rw [contractOf_text, if_neg hno.1, hinner, addressAndMask_pairText]
  rfl

/-- The judgement of an answer with an address and a mask. -/
theorem handled_contract_iff (a : ContractAnswer) :
    (Answer.contract a).Handled
        (if (contractOf a.text).succeeds = true then .succeed else .failed) ↔
      (Answer.contract a).Telling := by
  have hsucceeds := succeeds_iff a
  change (_ ∧ _) ↔ (_ ∧ _)
  refine and_congr ?_ ?_
  · refine forall_congr' fun ip => forall_congr' fun mask => imp_congr_right fun ha =>
      imp_congr_right fun _ => ?_
    have hrun := refused_pairText ip mask
    rw [← ha] at hrun
    rw [hrun] at hsucceeds
    constructor
    · rintro ⟨hvalue, -⟩
      refine hsucceeds.mp (by_contra fun hfail => ?_)
      rw [if_neg hfail] at hvalue
      cases hvalue
    · intro hzero
      exact ⟨if_pos (hsucceeds.mpr hzero), contractOf_pairText ha hzero⟩
  · constructor
    · intro hvalue hnone
      have hfailed := hvalue fun ip mask ha => absurd ha (hnone ip mask)
      refine by_contra fun hno => ?_
      rw [if_pos (hsucceeds.mpr hno)] at hfailed
      cases hfailed
    · intro hrefused hzero
      refine if_neg fun hsucc => hsucceeds.mp hsucc ?_
      by_cases hsome : ∃ ip mask, a.address = quote (pairText ip mask)
      · obtain ⟨ip, mask, ha⟩ := hsome
        rw [ha, refused_pairText, hzero ip mask ha]
        exact zeroRun_zero _
      · exact hrefused fun ip mask ha => hsome ⟨ip, mask, ha⟩

/-- The judgement of an answer with an address alone. -/
theorem handled_address_iff (a : AddressAnswer) :
    (Answer.address a).Handled
        (if a.address = [] ∨ "0.0.0.0".toList <:+: a.address then .failed else .succeed) ↔
      (Answer.address a).Telling := by
  change (_ ∧ _) ↔ (_ ∧ _)
  refine and_congr ?_ ?_
  · refine forall_congr' fun ip => imp_congr_right fun ha => imp_congr_right fun _ => ?_
    have hrun := refused_text ip
    rw [← ha] at hrun
    rw [← hrun]
    constructor
    · rintro ⟨hvalue, -⟩ hrefused
      rw [if_pos hrefused] at hvalue
      cases hvalue
    · intro hno
      rw [cgpaddrOf_text, if_neg hno, if_neg (not_or.mp hno).1, ha]
      exact ⟨rfl, rfl⟩
  · constructor
    · intro hvalue hnone
      have hfailed := hvalue fun ip ha => absurd ha (hnone ip)
      refine by_contra fun hno => ?_
      rw [if_neg hno] at hfailed
      cases hfailed
    · intro hrefused hzero
      refine if_pos ?_
      by_cases hsome : ∃ ip : Quad, a.address = ip.text
      · obtain ⟨ip, ha⟩ := hsome
        rw [ha, refused_text, hzero ip ha]
        exact zeroRun_zero []
      · exact hrefused fun ip ha => hsome ⟨ip, ha⟩

section Run

variable {M : Type} (answer : M → Command → Reply × M)

/-- What a run of `em350_cgcontrdp` returns. -/
theorem value_cgcontrdp (cid : String) (a : ContractAnswer) (m : M) (s : Device)
    (hret : (answer m (.set .cgcontrdp [.raw cid])).1.ret = .succeed)
    (hack : (answer m (.set .cgcontrdp [.raw cid])).1.ack = a.text) :
    (Script.run answer (Em350.cgcontrdp cid) m s).value =
      if (contractOf a.text).succeeds = true then .succeed else .failed := by
  unfold Em350.cgcontrdp
  rw [tx_bind, Script.run, hret, hack, cgcontrdp_succeeds, if_neg (by decide)]
  by_cases h : (contractOf a.text).succeeds = true
  · rw [if_pos h, if_pos h]
    rfl
  · rw [if_neg h, if_neg h]
    rfl

/-- What a run of `em350_cgpaddr` returns. -/
theorem value_cgpaddr (cid : String) (a : AddressAnswer) (m : M) (s : Device)
    (hret : (answer m (.set .cgpaddr [.raw cid])).1.ret = .succeed)
    (hack : (answer m (.set .cgpaddr [.raw cid])).1.ack = a.text) :
    (Script.run answer (cgpaddr cid) m s).value =
      if a.address = [] ∨ "0.0.0.0".toList <:+: a.address then .failed else .succeed := by
  have hfound : (cgpaddrOf a.text).any (! contains "0.0.0.0" ·) = true ↔
      ¬ (a.address = [] ∨ "0.0.0.0".toList <:+: a.address) := by
    rw [cgpaddrOf_text]
    by_cases hempty : a.address = []
    · rw [if_pos hempty]
      simp [hempty]
    · rw [if_neg hempty, or_iff_right hempty, Option.any_some, Bool.not_eq_true',
        contains_eq_false_iff]
  unfold cgpaddr
  rw [tx_bind, Script.run, hret, hack, if_neg (by decide)]
  by_cases h : a.address = [] ∨ "0.0.0.0".toList <:+: a.address
  · rw [if_pos h, if_neg (mt hfound.mp (not_not.mpr h))]
    rfl
  · rw [if_neg h, if_pos (hfound.mpr h)]
    rfl

/-- **The address answers.** An answer with an address is reported with exactly its values,
and one with the zero address or none as a failure, if and only if no groups of a listed
address read as the zero address, and what is listed in place of an address is empty, holds
the zero address, or lacks the numbers. -/
theorem answer_iff (cid : String) (a : Answer) (m : M) (s : Device)
    (hret : (answer m (a.command cid)).1.ret = .succeed)
    (hack : (answer m (a.command cid)).1.ack = a.text) :
    a.Handled (Script.run answer (a.ask cid) m s).value ↔ a.Telling := by
  cases a with
  | contract a =>
    rw [← handled_contract_iff, ← value_cgcontrdp answer cid a m s hret hack]
    rfl
  | address a =>
    rw [← handled_address_iff, ← value_cgpaddr answer cid a m s hret hack]
    rfl

end Run

/-- The answer to the question in the comment of the source. -/
def rapid : ContractAnswer where
  cid := 1
  bearer := 5
  apn := "rapid.com".toList
  address := quote (pairText ⟨172, 18, 9, 5⟩ ⟨255, 255, 255, 252⟩)
  servers := [⟨172, 18, 9, 6⟩, ⟨192, 168, 3, 40⟩]
  empties := 3
  plain := by decide
  few := by decide
  short := by decide

/-- A modem that answers every command with the same text. -/
def saying (ack : List Char) (_ : Unit) (_ : Command) : Reply × Unit := (⟨.succeed, ack, [], 0⟩, ())

/-- The contract of this answer. -/
theorem answer_iff_rapid :
    (Answer.contract rapid).Handled
        (Script.run (saying rapid.text) (Em350.cgcontrdp "1") () (fun _ => none)).value ↔
      (Answer.contract rapid).Telling :=
  answer_iff (saying rapid.text) "1" (.contract rapid) () (fun _ => none) rfl rfl

/-- The same answer with the mask 240.0.0.0. -/
def wide : ContractAnswer where
  cid := 1
  bearer := 5
  apn := "rapid.com".toList
  address := quote (pairText ⟨172, 18, 9, 5⟩ ⟨240, 0, 0, 0⟩)
  servers := [⟨172, 18, 9, 6⟩, ⟨192, 168, 3, 40⟩]
  empties := 3
  plain := by decide
  few := by decide
  short := by decide

/-- An address with the mask 240.0.0.0 is a failure. -/
theorem answer_wide_fails :
    ¬ (Answer.contract wide).Handled
      (Script.run (saying wide.text) (Em350.cgcontrdp "1") () (fun _ => none)).value := by
  intro h
  have hvalue := (h.1 ⟨172, 18, 9, 5⟩ ⟨240, 0, 0, 0⟩ rfl (by decide)).1
  revert hvalue
  decide

end Tiger.Analysis.AddressAnswers
