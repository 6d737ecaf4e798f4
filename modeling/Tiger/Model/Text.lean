import Mathlib.Algebra.Ring.Int.Defs
import Mathlib.Algebra.Ring.Nat

/-!
# C strings

The library functions the components use on text: `atoi`, `inet_pton`,
the `tok`/`tokkey` loop over a separator, and the readings `iptables` gives a port
and a MAC address. `int` and `long` have 32 bits on the target, `long long` 64.

Characters are bytes. A text never contains the terminating zero.
-/

set_option autoImplicit false

namespace Tiger.Model

/-- `LINE_MAX`, the size of the buffers the components copy a line into. -/
def lineMax : ℕ := 2048

/-- `NAME_MAX`, the size of the buffers they build a name in. -/
def nameMax : ℕ := 255

/-! ## Numbers -/

/-- `isspace` in the C locale. -/
def isSpace (c : Char) : Bool :=
  c == ' ' || c == '\t' || c == '\n' || c == '\x0b' || c == '\x0c' || c == '\r'

/-- The value of a decimal digit. -/
def digitVal (c : Char) : ℕ := c.toNat - '0'.toNat

/-- The number read from the leading digits, in front of which stands `acc`. -/
def decimal (acc : ℕ) : List Char → ℕ
  | [] => acc
  | c :: cs => if c.isDigit then decimal (10 * acc + digitVal c) cs else acc

/-- The `w`-bit signed number nearest to `v`. -/
def clampSigned (w : ℕ) (v : ℤ) : ℤ := max (-2 ^ (w - 1)) (min (2 ^ (w - 1) - 1) v)

/-- `strtol` in base 10 with a `w`-bit result: spaces, one sign, digits; what follows is
ignored and a number out of range is clamped. -/
def strtol (w : ℕ) (s : List Char) : ℤ :=
  match s.dropWhile isSpace with
  | '-' :: cs => clampSigned w (-(decimal 0 cs : ℤ))
  | '+' :: cs => clampSigned w (decimal 0 cs)
  | cs => clampSigned w (decimal 0 cs)

/-- `atoi`. -/
def atoi (s : String) : ℤ := strtol 32 s.toList

example : atoi " -12abc" = -12 := by decide

/-! ## Searching and printing -/

/-- `strstr`: the text from the first place on where `needle` stands in it. -/
def strstr (needle : List Char) : List Char → Option (List Char)
  | [] => if needle = [] then some [] else none
  | c :: cs => if needle.isPrefixOf (c :: cs) then some (c :: cs) else strstr needle cs

/-- `strrchr`: the text from the last place on where `c` stands. -/
def strrchr (c : Char) : List Char → Option (List Char)
  | [] => none
  | a :: s => (strrchr c s).or (if a = c then some (a :: s) else none)

/-- `snprintf( buffer, sizeof(buffer), .. )`: what does not fit is cut off. -/
def snprintf (size : ℕ) (s : String) : String := String.ofList (s.toList.take (size - 1))

/-- What fits into the buffer is printed whole. -/
theorem snprintf_of_length_lt {size : ℕ} {s : String} (h : s.length < size) :
    snprintf size s = s := by
  unfold snprintf
  rw [List.take_of_length_le (by rw [String.length_toList]; omega)]
  exact String.ofList_toList

/-! ## Addresses -/

/-- An IPv4 address. -/
abbrev Ipv4 := UInt32

/-- One decimal group of an IPv4 address: one to three digits, no leading zero, at most 255. -/
def ipv4Group (g : List Char) : Option ℕ :=
  if g.all Char.isDigit && 0 < g.length && g.length ≤ 3
      && (g.length == 1 || g.head? != some '0') && decimal 0 g ≤ 255 then
    some (decimal 0 g)
  else none

/-- `inet_pton( AF_INET, .. )`: four groups separated by dots, `none` when it returns 0. -/
def inetPton (s : String) : Option Ipv4 :=
  match (s.toList.splitOn '.').map ipv4Group with
  | [some a, some b, some c, some d] =>
    some (UInt32.ofNat (((a * 256 + b) * 256 + c) * 256 + d))
  | _ => none

/-- A MAC address. -/
abbrev Mac := BitVec 48

/-- The value of a hexadecimal digit. -/
def hexVal (c : Char) : Option ℕ :=
  if c.isDigit then some (digitVal c)
  else if 'a' ≤ c ∧ c ≤ 'f' then some (c.toNat - 'a'.toNat + 10)
  else if 'A' ≤ c ∧ c ≤ 'F' then some (c.toNat - 'A'.toNat + 10)
  else none

/-- The MAC address `iptables --mac-source` accepts: six groups of two hexadecimal digits
separated by colons. -/
def macText (s : String) : Option Mac :=
  let group : List Char → Option ℕ
    | [a, b] => do pure (16 * (← hexVal a) + (← hexVal b))
    | _ => none
  match (s.toList.splitOn ':').mapM group with
  | some [a, b, c, d, e, f] =>
    some (BitVec.ofNat 48 (((((a * 256 + b) * 256 + c) * 256 + d) * 256 + e) * 256 + f))
  | _ => none

/-- A lower-case hexadecimal digit. -/
def hexDigit (n : ℕ) : Char :=
  if n < 10 then Char.ofNat ('0'.toNat + n) else Char.ofNat ('a'.toNat + (n - 10))

/-- The six bytes of a MAC address. -/
def macBytes (m : Mac) : List ℕ :=
  [m.toNat / 2 ^ 40 % 256, m.toNat / 2 ^ 32 % 256, m.toNat / 2 ^ 24 % 256,
    m.toNat / 2 ^ 16 % 256, m.toNat / 2 ^ 8 % 256, m.toNat % 256]

/-- A MAC address as a text, in six groups of two digits. -/
def macString (m : Mac) : String :=
  String.ofList ([':'].intercalate
    ((macBytes m).map fun b => [hexDigit (b / 16 % 16), hexDigit (b % 16)]))

/-- A hexadecimal digit is read back. -/
theorem hexVal_hexDigit : ∀ n < 16, hexVal (hexDigit n) = some n := by decide

/-- A hexadecimal digit is no colon. -/
theorem hexDigit_ne_colon : ∀ n < 16, hexDigit n ≠ ':' := by decide

/-- A MAC address is read back from its text. -/
theorem macText_macString (m : Mac) : macText (macString m) = some m := by
  have hval : ∀ n, hexVal (hexDigit (n % 16)) = some (n % 16) :=
    fun n => hexVal_hexDigit _ (Nat.mod_lt _ (by decide))
  have hsplit : (macString m).toList.splitOn ':' =
      (macBytes m).map fun b => [hexDigit (b / 16 % 16), hexDigit (b % 16)] := by
    unfold macString
    rw [String.toList_ofList, List.splitOn_intercalate]
    · intro l hl hmem
      obtain ⟨b, -, rfl⟩ := List.mem_map.mp hl
      rw [List.mem_cons, List.mem_singleton] at hmem
      rcases hmem with h | h
      · exact hexDigit_ne_colon _ (Nat.mod_lt _ (by decide)) h.symm
      · exact hexDigit_ne_colon _ (Nat.mod_lt _ (by decide)) h.symm
    · exact List.cons_ne_nil _ _
  have hlt := m.isLt
  unfold macText
  rw [hsplit]
  simp only [macBytes, List.map_cons, List.map_nil, List.mapM_cons, List.mapM_nil, hval]
  refine congrArg some (BitVec.eq_of_toNat_eq ?_)
  simp only [BitVec.toNat_ofNat]
  omega

/-- A character other than the separator stands in one of the parts. -/
theorem mem_splitOn_of_ne {sep c : Char} {s : List Char} (hc : c ∈ s) (hne : c ≠ sep) :
    ∃ g ∈ s.splitOn sep, c ∈ g := by
  induction s with
  | nil => cases hc
  | cons a s ih =>
    unfold List.splitOn at ih ⊢
    rw [List.splitOnP_cons_eq_if_modifyHead]
    obtain ⟨g, gs, hgs⟩ := List.exists_cons_of_ne_nil (List.splitOnP_ne_nil (· == sep) s)
    rw [hgs] at ih ⊢
    by_cases ha : (a == sep) = true
    · rw [if_pos ha]
      have hca : c ≠ a := by
        rintro rfl
        exact hne (by simpa using ha)
      obtain ⟨g', hg', hcg⟩ := ih ((List.mem_cons.mp hc).resolve_left hca)
      exact ⟨g', List.mem_cons_of_mem _ hg', hcg⟩
    · rw [if_neg ha, List.modifyHead_cons]
      by_cases hca : c = a
      · exact ⟨a :: g, List.mem_cons_self, by simp [hca]⟩
      · obtain ⟨g', hg', hcg⟩ := ih ((List.mem_cons.mp hc).resolve_left hca)
        rcases List.mem_cons.mp hg' with rfl | hg'
        · exact ⟨a :: g', List.mem_cons_self, List.mem_cons_of_mem _ hcg⟩
        · exact ⟨g', List.mem_cons_of_mem _ hg', hcg⟩

/-- The letters of a group of an address are digits. -/
theorem isDigit_of_ipv4Group {g : List Char} {n : ℕ} (h : ipv4Group g = some n) {c : Char}
    (hc : c ∈ g) : c.isDigit = true := by
  unfold ipv4Group at h
  split at h
  · next hg =>
    simp only [Bool.and_eq_true, List.all_eq_true] at hg
    exact hg.1.1.1.1 c hc
  · cases h

/-- No text is both: an IPv4 address has no colon. -/
theorem macText_of_inetPton {s : String} {ip : Ipv4} (h : inetPton s = some ip) :
    macText s = none := by
  have hgroups : ∀ g ∈ s.toList.splitOn '.', (ipv4Group g).isSome := by
    intro g hg
    unfold inetPton at h
    split at h
    · next a b c d heq =>
      have hmem := List.mem_map_of_mem (f := ipv4Group) hg
      rw [heq] at hmem
      simp only [List.mem_cons, List.not_mem_nil, or_false] at hmem
      rcases hmem with hm | hm | hm | hm <;> rw [hm] <;> rfl
    · cases h
  have hcolon : ∀ c ∈ s.toList, (c == ':') = false := by
    intro c hc
    by_cases hdot : c = '.'
    · rw [hdot]
      rfl
    · obtain ⟨g, hg, hcg⟩ := mem_splitOn_of_ne hc hdot
      obtain ⟨n, hn⟩ := Option.isSome_iff_exists.mp (hgroups g hg)
      have hdigit := isDigit_of_ipv4Group hn hcg
      rw [beq_eq_false_iff_ne]
      rintro rfl
      exact absurd hdigit (by decide)
  have hone : s.toList.splitOn ':' = [s.toList] := List.splitOnP_eq_singleton hcolon
  unfold macText
  rw [hone]
  simp only [List.mapM_cons, List.mapM_nil]
  split
  · next heq =>
    -- one group is no six groups
    simp [bind, Option.bind] at heq
    split at heq <;> simp at heq
  · rfl

/-! ## The splitting loop -/

/-- The segments the body of the `tok`/`tokkey` loop sees, where `seg` is the part of the
current segment already read, in reverse. The loop ends when the text does, so an empty
segment after the last separator is not seen. -/
def tokLoop (sep : Char) (seg : List Char) : List Char → List (List Char)
  | [] => if seg = [] then [] else [seg.reverse]
  | c :: cs =>
    if c = sep then seg.reverse :: tokLoop sep [] cs else tokLoop sep (c :: seg) cs

/-- The segments of a text that was copied into a buffer of `LINE_MAX` bytes with
`strncpy( buffer, ptr, sizeof(buffer)-1 )`. -/
def tokSegments (sep : Char) (ptr : String) : List String :=
  (tokLoop sep [] (ptr.toList.take (lineMax - 1))).map String.ofList

example : tokSegments ';' "a;;b;" = ["a", "", "b"] := by decide

/-- Empty segments aside, the loop sees the parts between the separators. -/
theorem filter_tokLoop (sep : Char) (seg s : List Char) :
    (tokLoop sep seg s).filter (· ≠ []) =
      (s.splitOnPPrepend (· == sep) seg).filter (· ≠ []) := by
  induction s generalizing seg with
  | nil =>
    unfold tokLoop
    rw [List.splitOnPPrepend_nil]
    by_cases hseg : seg = []
    · simp [hseg]
    · rw [if_neg hseg]
  | cons c cs ih =>
    unfold tokLoop
    rw [List.splitOnPPrepend_cons_eq_if]
    by_cases hc : c = sep
    · have hbeq : (c == sep) = true := beq_iff_eq.mpr hc
      rw [if_pos hc, if_pos hbeq, List.filter_cons, List.filter_cons, ih []]
      rfl
    · have hbeq : ¬ (c == sep) = true := fun h => hc (beq_iff_eq.mp h)
      rw [if_neg hc, if_neg hbeq]
      exact ih (c :: seg)

/-- A non-empty text has at least one segment. -/
theorem tokLoop_ne_nil (sep : Char) (seg s : List Char) (h : seg ≠ [] ∨ s ≠ []) :
    tokLoop sep seg s ≠ [] := by
  induction s generalizing seg with
  | nil => simp_all [tokLoop]
  | cons c cs ih =>
    unfold tokLoop
    split
    · exact List.cons_ne_nil _ _
    · exact ih (c :: seg) (Or.inl (List.cons_ne_nil _ _))

/-- The loop body runs at least once on a non-empty text. -/
theorem tokSegments_ne_nil (sep : Char) {ptr : String} (h : ptr ≠ "") :
    tokSegments sep ptr ≠ [] := by
  have hlist : ptr.toList ≠ [] := by simpa using h
  have htake : ptr.toList.take (lineMax - 1) ≠ [] := by
    simpa [lineMax, List.take_eq_nil_iff] using hlist
  simpa [tokSegments] using tokLoop_ne_nil sep [] _ (Or.inr htake)

end Tiger.Model
