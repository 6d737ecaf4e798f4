import Mathlib.Data.List.Induction
import Tiger.Model.ClockSource

/-!
# What the mark of the clock source means

The mark is to name a source that has set the clock, and a call that was to set the
clock and did not is to leave the mark alone and report its failure. Both are facts
about one call (`mark_of_call`, `failed_call`), and the first goes over to runs by
induction.

Two calls break them. `time_setting` overwrites the answer of `date_set`, and
`ntpclient` ends with status 0 when the answer to its request is an error of the
socket. `mark_trusted_iff` says that runs without these are all that is needed.
-/

set_option autoImplicit false

namespace Tiger.Analysis.SourceMark

open Tiger.Model Tiger.Model.ClockSource

/-- The call is to set the clock; a time zone alone is no time. -/
def AsksTime : Op → Prop
  | .setting tt _ _ => given tt
  | .sync _ _ => True

/-- The call set the clock. It does not depend on the mark. -/
def SetsClock (op : Op) : Prop := (op.done none).clockSet = true

/-- In a run, the mark names a source that has set the clock before, and a call that was to set
the clock and did not leaves the mark alone and does not report success. -/
structure Trusted (ops : List Op) : Prop where
  mark : ∀ before after, ops = before ++ after → ∀ source, markAfter before = some source →
    source ≠ "" → ∃ op ∈ before, op.source = source ∧ SetsClock op
  failed : ∀ before op after, ops = before ++ op :: after → AsksTime op → ¬ SetsClock op →
    markAfter (before ++ [op]) = markAfter before ∧ (op.done (markAfter before)).ret = false

/-- An end of the wait for an answer that is no answer. -/
def NoAnswer (e : NtpEvent) : Prop := e = .timeout ∨ e = .recvError ∨ e = .odd

/-- No error of the socket, odd packet or second timeout comes after the request and before an
answer that passes. -/
def Answered (es : List NtpEvent) : Prop :=
  ∀ before e after, es = before ++ e :: after → NoAnswer e → .timeout ∈ before →
    ∃ set, .accepted set ∈ before

/-- What a call needs: a time that is well formed is taken by the system, one that is not comes
without a time zone, and a server that is asked answers. -/
def Sound : Op → Prop
  | .setting tt zone dateSet => given tt →
      (∀ tm, timeOf (tt.getD "") = some tm → dateSet tm = true) ∧
        (timeOf (tt.getD "") = none → given zone = false)
  | .sync server es => given server → Answered es

/-! ## The loop of `ntpclient` -/

/-- A clock that was set stays set. -/
theorem primaryLoop_set (sent : ℕ) (es : List NtpEvent) :
    (primaryLoop sent true es).clockSet = true := by
  induction es generalizing sent with
  | nil => rfl
  | cons e es ih =>
    cases e with
    | accepted set =>
      cases set with
      | true =>
        unfold primaryLoop
        split
        · rfl
        · exact ih sent
      | false => rfl
    | interrupted => exact ih sent
    | rejected => exact ih sent
    | timeout =>
      unfold primaryLoop
      split
      · rfl
      · exact ih _
    | recvError =>
      unfold primaryLoop
      split
      · rfl
      · exact ih _
    | odd =>
      unfold primaryLoop
      split
      · rfl
      · exact ih _

/-- A member of a list with what stands before it: the head, or one of the rest. -/
theorem exists_split_cons {α : Type} {P : List α → α → Prop} {a : α} {l : List α} :
    (∃ before x after, a :: l = before ++ x :: after ∧ P before x) ↔
      P [] a ∨ ∃ before x after, l = before ++ x :: after ∧ P (a :: before) x := by
  constructor
  · rintro ⟨before, x, after, hsplit, hP⟩
    cases before with
    | nil =>
      rw [List.nil_append, List.cons.injEq] at hsplit
      rw [hsplit.1]
      exact .inl hP
    | cons b before =>
      rw [List.cons_append, List.cons.injEq] at hsplit
      rw [← hsplit.1] at hP
      exact .inr ⟨before, x, after, hsplit.2, hP⟩
  · rintro (hP | ⟨before, x, after, hsplit, hP⟩)
    · exact ⟨[], a, l, rfl, hP⟩
    · exact ⟨a :: before, x, after, by rw [hsplit, List.cons_append], hP⟩

/-- What stands before an end of the wait without an answer: the request is out, and nothing was
accepted. -/
def Unanswered (sent : ℕ) (before : List NtpEvent) (e : NtpEvent) : Prop :=
  NoAnswer e ∧ (1 ≤ sent ∨ .timeout ∈ before) ∧ ∀ set, .accepted set ∉ before

/-- **The exit of `ntpclient`.** It ends with status 0 and has not set the clock exactly when its
wait ends without an answer. -/
theorem primaryLoop_unset_iff (sent : ℕ) (es : List NtpEvent) :
    primaryLoop sent false es = ⟨true, false⟩ ↔
      ∃ before e after, es = before ++ e :: after ∧ Unanswered sent before e := by
  induction es generalizing sent with
  | nil => simp [primaryLoop]
  | cons e es ih =>
    rw [exists_split_cons]
    cases e with
    | interrupted =>
      unfold primaryLoop
      rw [ih sent]
      simp [Unanswered, NoAnswer]
    | rejected =>
      unfold primaryLoop
      rw [ih sent]
      simp [Unanswered, NoAnswer]
    | timeout =>
      unfold primaryLoop
      by_cases hsent : 1 ≤ sent
      · simp [hsent, Unanswered, NoAnswer]
      · rw [if_neg hsent, ih (sent + 1)]
        simp [hsent, Unanswered, NoAnswer]
    | recvError =>
      unfold primaryLoop
      by_cases hsent : 1 ≤ sent
      · simp [hsent, Unanswered, NoAnswer]
      · rw [if_neg hsent, ih sent]
        simp [hsent, Unanswered, NoAnswer]
    | odd =>
      unfold primaryLoop
      by_cases hsent : 1 ≤ sent
      · simp [hsent, Unanswered, NoAnswer]
      · rw [if_neg hsent, ih sent]
        simp [hsent, Unanswered, NoAnswer]
    | accepted set =>
      have hnone : ¬ ∃ before x after, es = before ++ x :: after ∧
          Unanswered sent (.accepted set :: before) x := by
        rintro ⟨before, x, after, -, -, -, hfree⟩
        exact hfree set List.mem_cons_self
      have hhead : ¬ Unanswered sent [] (.accepted set) := by simp [Unanswered, NoAnswer]
      refine iff_of_false ?_ (by simp only [hhead, hnone, or_self, not_false_iff])
      intro hexit
      cases set with
      | false => simp [primaryLoop] at hexit
      | true =>
        unfold primaryLoop at hexit
        split at hexit
        · simp at hexit
        · have hset := primaryLoop_set sent es
          rw [hexit] at hset
          cases hset

/-- A status of 0 means that the clock was set exactly when the request was answered. -/
theorem answered_iff (es : List NtpEvent) :
    Answered es ↔ ((ntpclient es).status0 = true → (ntpclient es).clockSet = true) := by
  have hunset : ((ntpclient es).status0 = true → (ntpclient es).clockSet = true) ↔
      ¬ primaryLoop 0 false es = ⟨true, false⟩ := by
    unfold ntpclient
    cases primaryLoop 0 false es with
    | mk status0 clockSet => cases status0 <;> cases clockSet <;> simp
  rw [hunset, primaryLoop_unset_iff]
  unfold Answered Unanswered
  constructor
  · rintro h ⟨before, e, after, hsplit, hend, hsent, hfree⟩
    have hrequest : NtpEvent.timeout ∈ before := hsent.resolve_left (by decide)
    obtain ⟨set, hset⟩ := h before e after hsplit hend hrequest
    exact hfree set hset
  · intro h before e after hsplit hend hrequest
    by_contra hfree
    exact h ⟨before, e, after, hsplit, hend, .inr hrequest, not_exists.mp hfree⟩

/-! ## One call -/

/-- What a call leaves, for any mark: the mark it records, or the one it found. -/
theorem done_cases (op : Op) (dateSrc : Option String) :
    (op.done dateSrc).clockSet = (op.done none).clockSet ∧
      (op.done dateSrc).ret = (op.done none).ret ∧
      ((op.done dateSrc).dateSrc = dateSrc ∧ (op.done none).dateSrc = none ∨
        (op.done dateSrc).dateSrc = some op.source ∧
          (op.done none).dateSrc = some op.source ∧ (op.done none).ret = true) := by
  cases op with
  | setting tt zone dateSet =>
    unfold Op.done timeSetting
    dsimp only
    cases tt with
    | none => simp
    | some text =>
      by_cases htext : text = ""
      · simp [htext]
      · cases htime : timeOf text <;> simp [htext, htime, Op.source]
  | sync server es =>
    unfold Op.done ntpclientSync
    dsimp only
    by_cases hserver : given server
    · by_cases hstatus : (ntpclient es).status0 = true
      · simp [hserver, hstatus, Op.source]
      · simp [hserver, hstatus]
    · simp [hserver]

/-- A call is sound exactly when it sets the clock or, where it was to, reports that it did
not. -/
theorem sound_iff (op : Op) :
    Sound op ↔ (AsksTime op → ¬ SetsClock op → (op.done none).ret = false) := by
  cases op with
  | setting tt zone dateSet =>
    unfold Sound AsksTime SetsClock Op.done timeSetting
    dsimp only
    cases tt with
    | none => simp [given]
    | some text =>
      by_cases htext : text = ""
      · simp [htext, given]
      · cases htime : timeOf text <;> simp [htext, htime, given]
  | sync server es =>
    unfold Sound AsksTime SetsClock Op.done ntpclientSync
    dsimp only
    rw [answered_iff]
    by_cases hserver : given server
    · by_cases hstatus : (ntpclient es).status0 = true
      · simp [hserver, hstatus]
      · simp [hserver, hstatus]
    · simp [hserver]

/-- A sound call that records its name has set the clock. -/
theorem setsClock_of_mark {op : Op} (hsound : Sound op) (hmark : (op.done none).dateSrc ≠ none) :
    SetsClock op := by
  by_contra hfail
  have hasks : AsksTime op := by
    cases op with
    | setting tt zone dateSet =>
      unfold Op.done timeSetting at hmark
      unfold AsksTime
      cases tt with
      | none => simp at hmark
      | some text =>
        by_cases htext : text = ""
        · simp [htext] at hmark
        · simpa [given] using htext
    | sync server es => trivial
  have hret := (sound_iff op).mp hsound hasks hfail
  obtain ⟨-, -, ⟨-, hnone⟩ | ⟨-, -, htrue⟩⟩ := done_cases op none
  · exact hmark hnone
  · rw [hret] at htrue
    cases htrue

/-! ## Runs -/

/-- The mark after one more operation is what it leaves. -/
theorem markAfter_concat (ops : List Op) (op : Op) :
    markAfter (ops ++ [op]) = (op.done (markAfter ops)).dateSrc := by
  simp [markAfter]

/-- **One call more.** In a run of sound calls the mark names a source that has set the clock. -/
theorem mark_of_sound {ops : List Op} (h : ∀ op ∈ ops, Sound op) {source : String}
    (hmark : markAfter ops = some source) : ∃ op ∈ ops, op.source = source ∧ SetsClock op := by
  induction ops using List.reverseRecOn with
  | nil => cases hmark
  | append_singleton ops op ih =>
    rw [markAfter_concat] at hmark
    obtain ⟨-, -, ⟨hkeep, -⟩ | ⟨hnew, hrecord, -⟩⟩ := done_cases op (markAfter ops)
    · rw [hkeep] at hmark
      obtain ⟨found, hmem, hfound⟩ :=
        ih (fun op hop => h op (List.mem_append_left _ hop)) hmark
      exact ⟨found, List.mem_append_left _ hmem, hfound⟩
    · rw [hnew, Option.some.injEq] at hmark
      have hop : op ∈ ops ++ [op] := by simp
      exact ⟨op, hop, hmark, setsClock_of_mark (h op hop) (by simp [hrecord])⟩

/-- **The mark of the clock source** is to be trusted in a run if and only if every call of it is
sound. -/
theorem mark_trusted_iff (ops : List Op) : Trusted ops ↔ ∀ op ∈ ops, Sound op := by
  constructor
  · intro htrusted op hop
    obtain ⟨before, after, hsplit⟩ := List.append_of_mem hop
    rw [sound_iff]
    intro hasks hfail
    obtain ⟨-, hret⟩ := htrusted.failed before op after hsplit hasks hfail
    obtain ⟨-, hsame, -⟩ := done_cases op (markAfter before)
    rw [← hsame]
    exact hret
  · intro h
    constructor
    · intro before after hsplit source hmark _
      have hbefore : ∀ op ∈ before, Sound op := by
        intro op hop
        exact h op (by rw [hsplit]; exact List.mem_append_left _ hop)
      exact mark_of_sound hbefore hmark
    · intro before op after hsplit hasks hfail
      have hret := (sound_iff op).mp (h op (by simp [hsplit])) hasks hfail
      obtain ⟨-, hsame, ⟨hkeep, -⟩ | ⟨-, -, htrue⟩⟩ := done_cases op (markAfter before)
      · exact ⟨by rw [markAfter_concat, hkeep], by rw [hsame, hret]⟩
      · rw [hret] at htrue
        cases htrue

/-- `date_set` refuses the time. -/
def refusedSetting : Op := .setting (some "11:12:23:07:08:2019") none fun _ => false

/-- The server's port is closed: the request is answered by an error of the socket. -/
def refusedSync : Op := .sync (some "ntp1.aliyun.com") [.timeout, .recvError]

/-- Neither sets the clock, both are recorded and report success. -/
theorem mark_untrusted :
    (refusedSetting.done none = ⟨some "set", true, false⟩ ∧
      refusedSync.done none = ⟨some "ntp", true, false⟩) ∧
      ¬ Trusted [refusedSetting] ∧ ¬ Trusted [refusedSync] := by
  refine ⟨⟨rfl, rfl⟩, ?_, ?_⟩
  · intro h
    have hasks : AsksTime refusedSetting := by
      unfold AsksTime refusedSetting
      decide
    obtain ⟨-, hret⟩ := h.failed [] refusedSetting [] rfl hasks
      (by unfold SetsClock; decide)
    cases hret
  · intro h
    obtain ⟨-, hret⟩ := h.failed [] refusedSync [] rfl (by unfold AsksTime refusedSync; trivial)
      (by unfold SetsClock; decide)
    cases hret

end Tiger.Analysis.SourceMark
