import Tiger.Analysis.ScanRules
import Tiger.Library.Script.Writes
import Tiger.Model.Modemdrv.Em350
import Tiger.Model.Modemdrv.Mu609

/-!
# The two readers of `AT^SYSINFOEX`

The sixth field of the answer is the kind of the network. Both drivers skip five fields to
get there, and skipping fails on an empty one: the fifth field is empty on some modems. The
driver of the EM350 has a second pattern for these, its copy for the MU609 takes the
network for missing (`sysinfoex_iff`).
-/

set_option autoImplicit false

namespace Tiger.Analysis.SysinfoexCopies

open Tiger.Library Tiger.Model
open Tiger.Analysis.ScanRules

/-! ## The answer -/

/-- An answer: five numbers, the fifth of which may be missing, the kind of the network, and
more fields. -/
structure Answer where
  status : ℤ
  domain : ℤ
  roam : ℤ
  sim : ℤ
  lock : Option ℤ
  mode : ℤ
  more : List (List Char)

/-- A number as the modem prints it. -/
def printed (n : ℤ) : List Char := (toString n).toList

/-- The fields in front of the lock. -/
def Answer.start (a : Answer) : List (List Char) :=
  ["^SYSINFOEX: ".toList ++ printed a.status, printed a.domain, printed a.roam, printed a.sim]

/-- The lock, as it is printed. -/
def Answer.lockText (a : Answer) : List Char := a.lock.elim [] printed

/-- The field the readers are after, with what comes behind it. -/
def Answer.tail (a : Answer) : List Char := delimited ',' (printed a.mode) a.more

/-- The answer as the modem prints it. -/
def Answer.text (a : Answer) : List Char :=
  a.start.flatMap (· ++ [',']) ++ (a.lockText ++ ',' :: a.tail)

/-- The drivers that have the reader. -/
inductive Copy where
  | em350
  | mu609
  deriving DecidableEq

def Copy.sysinfoex : Copy → Op Ret
  | .em350 => Tiger.Model.sysinfoex Em350.sysinfoexTypeOf
  | .mu609 => Tiger.Model.sysinfoex fun ack => (sysinfoexType ack).numD

/-- The number a copy reads in an answer. -/
def Copy.typeOf : Copy → List Char → ℤ
  | .em350 => Em350.sysinfoexTypeOf
  | .mu609 => fun ack => (sysinfoexType ack).numD

/-! ## The scans -/

/-- A printed number is not empty. -/
theorem printed_ne_nil (n : ℤ) : printed n ≠ [] := toString_ne_nil n

/-- A printed number holds no comma. -/
theorem comma_notMem_printed (n : ℤ) : ',' ∉ printed n :=
  notMem_toString (by decide) (by decide) n

/-- Fields that are skipped, each with the comma behind it. -/
theorem scan_skipFields (fs : List (List Char)) (hfs : ∀ f ∈ fs, f ≠ [] ∧ ',' ∉ f)
    (ds : List Directive) (rest : List Char) :
    scan (skipFields fs.length ++ ds) (fs.flatMap (· ++ [',']) ++ rest) = scan ds rest := by
  induction fs with
  | nil => rfl
  | cons f fs ih =>
    obtain ⟨hne, hcomma⟩ := hfs f List.mem_cons_self
    have hcons : skipFields (f :: fs).length ++ ds =
        .skip ',' :: .lit ',' :: (skipFields fs.length ++ ds) := by
      simp [skipFields, List.replicate_succ]
    have htext : (f :: fs).flatMap (· ++ [',']) ++ rest =
        f ++ ',' :: (fs.flatMap (· ++ [',']) ++ rest) := by
      simp
    rw [hcons, htext, scan_skip hne hcomma, scan_lit,
      ih fun f' hf' => hfs f' (List.mem_cons_of_mem _ hf')]

/-- The fields in front are not empty and hold no comma. -/
theorem plain_start (a : Answer) : ∀ f ∈ a.start, f ≠ [] ∧ ',' ∉ f := by
  unfold Answer.start
  simp [printed_ne_nil, comma_notMem_printed]

/-- The kind of the network is read where the scan comes to it. -/
theorem scan_tail (a : Answer) :
    scan [.int] a.tail = ⟨[.num (clampSigned 32 a.mode)], false⟩ := by
  have hrest : (a.more.flatMap (',' :: ·)).head?.any Char.isDigit = false := by
    cases a.more with
    | nil => rfl
    | cons f fs => rfl
  exact scan_int [] a.mode _ hrest

/-- With the lock the mode is the sixth number. -/
theorem sysinfoexType_of_some {a : Answer} {lock : ℤ} (h : a.lock = some lock) :
    sysinfoexType a.text = ⟨[.num (clampSigned 32 a.mode)], false⟩ := by
  have htext : a.text = (a.start ++ [printed lock]).flatMap (· ++ [',']) ++ a.tail := by
    simp [Answer.text, Answer.lockText, h]
  have hplain : ∀ f ∈ a.start ++ [printed lock], f ≠ [] ∧ ',' ∉ f := by
    intro f hf
    rcases List.mem_append.mp hf with hf | hf
    · exact plain_start a f hf
    · rw [List.mem_singleton.mp hf]
      exact ⟨printed_ne_nil lock, comma_notMem_printed lock⟩
  unfold sysinfoexType
  rw [htext]
  exact (scan_skipFields _ hplain [.int] a.tail).trans (scan_tail a)

/-- The first pattern fails on an empty lock. -/
theorem sysinfoexType_of_none {a : Answer} (h : a.lock = none) :
    sysinfoexType a.text = ⟨[], false⟩ := by
  have hlock : a.lockText = [] := by simp [Answer.lockText, h]
  unfold sysinfoexType Answer.text
  rw [hlock]
  change scan (skipFields a.start.length ++ [.skip ',', .lit ',', .int]) _ = _
  rw [scan_skipFields _ (plain_start a)]
  exact scan_skip_self ',' _ _

/-- The second pattern reads behind an empty lock. -/
theorem scan_of_none {a : Answer} (h : a.lock = none) :
    scan (skipFields 4 ++ [.lit ',', .int]) a.text =
      ⟨[.num (clampSigned 32 a.mode)], false⟩ := by
  have hlock : a.lockText = [] := by simp [Answer.lockText, h]
  unfold Answer.text
  rw [hlock]
  change scan (skipFields a.start.length ++ [.lit ',', .int]) _ = _
  rw [scan_skipFields _ (plain_start a)]
  exact scan_tail a

/-- What a copy reads. -/
def Copy.reads (c : Copy) (a : Answer) : ℤ :=
  if c = .mu609 ∧ a.lock = none then 0 else clampSigned 32 a.mode

/-- Every copy reads what its own format gives. -/
theorem typeOf_text (c : Copy) (a : Answer) : c.typeOf a.text = c.reads a := by
  unfold Copy.reads
  cases hlock : a.lock with
  | none =>
    cases c with
    | em350 =>
      change Em350.sysinfoexTypeOf a.text = _
      unfold Em350.sysinfoexTypeOf
      rw [sysinfoexType_of_none hlock, scan_of_none hlock]
      rfl
    | mu609 =>
      change (sysinfoexType a.text).numD = _
      rw [sysinfoexType_of_none hlock]
      rfl
  | some lock =>
    cases c with
    | em350 =>
      change Em350.sysinfoexTypeOf a.text = _
      unfold Em350.sysinfoexTypeOf
      rw [sysinfoexType_of_some hlock]
      rfl
    | mu609 =>
      change (sysinfoexType a.text).numD = _
      rw [sysinfoexType_of_some hlock]
      rfl

/-! ## The runs -/

/-- What is recorded of a kind of network. -/
def typeEdits (type : ℤ) : List (String × Option String) :=
  (sysinfoexNettype type).toList.map fun nettype => ("nettype", some nettype)

/-- The result a kind of network stands for. -/
def typeValue (type : ℤ) : Ret := if type = 0 then .failed else .succeed

/-- A number that is out of range stands for no kind either way. -/
theorem typeEdits_clampSigned (n : ℤ) : typeEdits (clampSigned 32 n) = typeEdits n := by
  have hiff : ∀ k : ℤ, 0 ≤ k → k ≤ 6 → (clampSigned 32 n = k ↔ n = k) := by
    intro k hlow hhigh
    simp only [clampSigned]
    omega
  unfold typeEdits sysinfoexNettype
  simp only [hiff 0 (by omega) (by omega), hiff 1 (by omega) (by omega),
    hiff 2 (by omega) (by omega), hiff 3 (by omega) (by omega), hiff 4 (by omega) (by omega),
    hiff 5 (by omega) (by omega), hiff 6 (by omega) (by omega)]

/-- Clamping changes no type. -/
theorem typeValue_clampSigned (n : ℤ) : typeValue (clampSigned 32 n) = typeValue n := by
  have hiff : clampSigned 32 n = 0 ↔ n = 0 := by
    simp only [clampSigned]
    omega
  unfold typeValue
  simp only [hiff]

variable {M : Type} (answer : M → Command → Reply × M)

/-- A run records what stands for the number that is read, and returns it. -/
theorem run_sysinfoex (c : Copy) {m : M} (s : Device) (a : Answer)
    (hret : (answer m (.exec .sysinfoex)).1.ret = .succeed)
    (hack : (answer m (.exec .sysinfoex)).1.ack = a.text) :
    Script.run answer c.sysinfoex m s =
      ⟨[(.exec .sysinfoex, (answer m (.exec .sysinfoex)).1)], typeEdits (c.reads a),
        typeValue (c.reads a), (answer m (.exec .sysinfoex)).2,
        overwrite (typeEdits (c.reads a)) s⟩ := by
  have hwrites : ∀ type : ℤ, (do
      setGiven "nettype" ((sysinfoexNettype type).map String.toList)
      pure (if type = 0 then .failed else .succeed) : Op Ret) =
        Script.writes (typeEdits type) (typeValue type) := by
    intro type
    unfold typeEdits typeValue
    cases sysinfoexNettype type with
    | none => rfl
    | some nettype =>
      have htext : String.ofList nettype.toList = nettype := String.ofList_toList
      simp only [Option.map_some, setGiven, setString, htext]
      rfl
  have hcopy : c.sysinfoex = Tiger.Model.sysinfoex c.typeOf := by
    cases c with
    | em350 => rfl
    | mu609 => rfl
  rw [hcopy]
  unfold Tiger.Model.sysinfoex
  rw [tx_bind]
  apply Script.run_call_writes
  rw [if_neg (by simp [hret]), hack, typeOf_text]
  exact hwrites _

/-- A run records the kind of network a number stands for, and returns what it stands for. -/
def Reports (o : Script.Outcome Command Reply String String Ret M) (type : ℤ) : Prop :=
  o.edits = typeEdits type ∧ o.value = typeValue type

/-- **The two copies.** On an answer of the modem both copies record and return what the sixth
field says if and only if the fifth field is not empty or the sixth is 0. -/
theorem sysinfoex_iff {m : M} (s : Device) (a : Answer)
    (hret : (answer m (.exec .sysinfoex)).1.ret = .succeed)
    (hack : (answer m (.exec .sysinfoex)).1.ack = a.text) :
    (∀ c : Copy, Reports (Script.run answer c.sysinfoex m s) a.mode) ↔
      a.lock ≠ none ∨ a.mode = 0 := by
  have hrun : ∀ c : Copy, Reports (Script.run answer c.sysinfoex m s) a.mode ↔
      typeEdits (c.reads a) = typeEdits a.mode ∧ typeValue (c.reads a) = typeValue a.mode := by
    intro c
    rw [run_sysinfoex answer c s a hret hack]
    exact Iff.rfl
  have hread : ∀ c : Copy, ¬ (c = .mu609 ∧ a.lock = none) →
      typeEdits (c.reads a) = typeEdits a.mode ∧ typeValue (c.reads a) = typeValue a.mode := by
    intro c hc
    unfold Copy.reads
    rw [if_neg hc]
    exact ⟨typeEdits_clampSigned _, typeValue_clampSigned _⟩
  simp only [hrun]
  constructor
  · intro h
    by_contra hnot
    obtain ⟨hlock, hmode⟩ := not_or.mp hnot
    have hvalue := (h .mu609).2
    unfold Copy.reads typeValue at hvalue
    rw [if_pos (show Copy.mu609 = Copy.mu609 ∧ a.lock = none from ⟨rfl, not_not.mp hlock⟩),
      if_pos rfl, if_neg hmode] at hvalue
    cases hvalue
  · intro h c
    by_cases hc : c = .mu609 ∧ a.lock = none
    · have hmode : a.mode = 0 := h.resolve_left fun hlock => hlock hc.2
      unfold Copy.reads
      rw [if_pos hc, hmode]
      exact ⟨rfl, rfl⟩
    · exact hread c hc

/-- An answer of a modem that leaves the fifth field empty. -/
def wcdma : Answer := ⟨2, 3, 0, 1, none, 3, ["\"WCDMA\"".toList, "41".toList]⟩

/-- The same answer with the field filled. -/
def locked : Answer := { wcdma with lock := some 0 }

/-- A modem that gives one answer to every command. -/
def always (a : Answer) (_ : Unit) (_ : Command) : Reply × Unit := (⟨.succeed, a.text, [], 0⟩, ())

/-- An answer with the lock. -/
theorem sysinfoex_locked :
    (∀ c : Copy, Reports (Script.run (always locked) c.sysinfoex () fun _ => none) 3) ↔
      locked.lock ≠ none ∨ locked.mode = 0 :=
  sysinfoex_iff (always locked) (fun _ => none) locked rfl rfl

/-- The copy of the MU609 takes the network for missing. -/
theorem sysinfoex_empty_lock :
    ¬ ∀ c : Copy, Reports (Script.run (always wcdma) c.sysinfoex () fun _ => none) wcdma.mode := by
  intro h
  have hvalue := (h .mu609).2
  have hrun := run_sysinfoex (always wcdma) .mu609 (m := ()) (fun _ => none) wcdma rfl rfl
  rw [hrun] at hvalue
  exact absurd hvalue (by decide)

end Tiger.Analysis.SysinfoexCopies
