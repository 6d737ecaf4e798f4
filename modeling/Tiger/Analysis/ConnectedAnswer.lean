import Tiger.Analysis.ConnectContract
import Tiger.Model.Contexts

/-!
# What `_at_connected` takes for a connection

Four drivers ask one question about the connection and look for something in the answer.
`ttrue` stands for an answer in which it was found (`value_ttrue_iff`), and the question
is asked at most once (`question_unique`). So a driver is right about a connection
exactly when every answer with that in it states that the context of the profile is
active (`connected_iff`).

What they look for says little about the context: the digits `1,1`, a number 1 in front,
a dot, or nothing at all.
-/

set_option autoImplicit false

namespace Tiger.Analysis.ConnectedAnswer

open Tiger.Library Tiger.Model Tiger.Analysis.ConnectContract

/-- The drivers that judge by one answer. -/
inductive Asking where
  | ec200x
  | inne7b01
  | ne16u
  | zte7520

namespace Asking

def driver : Asking → Driver
  | ec200x => .ec200x
  | inne7b01 => .inne7b01
  | ne16u => .ne16u
  | zte7520 => .zte7520

/-- The exchange whose text is the answer. -/
def question (cid : String) : Asking → Command
  | ec200x => .rx
  | inne7b01 => .exec .cgpaddr
  | ne16u => .set .qnetdevstatus [.raw cid]
  | zte7520 => .read .zgact

/-- How an answer reports a context. -/
def statusOf : Asking → ℤ → List Char → Option Status
  | ec200x => fun _ => qiactStatus
  | inne7b01 => fun _ => cgpaddrStatus
  | ne16u => qnetdevstatusStatus
  | zte7520 => fun _ => zgactStatus

/-- What the driver looks for in an answer. -/
def finds : Asking → List Char → Prop
  | ec200x => fun ack => Ec200x.addressed ack
  | inne7b01 => fun ack => scanInt ':' ack = some 1
  | ne16u => fun _ => True
  | zte7520 => fun ack => contains "1,1" ack

end Asking

/-- The context id of a configuration. -/
def cfgCid (cfg : Option Talk) : String := cidOf (jsonValue cfg "profile_cfg")

/-- The answer in which a driver finds what it looks for. -/
def Found (cfg : Option Talk) (a : Asking) (c : Command) (r : Reply) : Prop :=
  c = a.question (cfgCid cfg) ∧ r.ret = .succeed ∧ a.finds r.ack

/-- `ttrue` only where the answer states that the context of the profile is active. -/
def Connected {M : Type} (cfg : Option Talk) (a : Asking)
    (o : Script.Outcome Command Reply String String Boole M) : Prop :=
  o.value = .ttrue → ∃ e ∈ o.trace, e.1 = a.question (cfgCid cfg) ∧
    AnswerActive a.statusOf (cfgCid cfg) e.2.ack

/-- Every answer in which the driver finds what it looks for states that the context of the
profile is active. -/
def Telling (cfg : Option Talk) (a : Asking) (t : Trace) : Prop :=
  ∀ e ∈ t, Found cfg a e.1 e.2 → AnswerActive a.statusOf (cfgCid cfg) e.2.ack

/-! ## The value -/

/-- A question, and what is made of the reply. -/
def ask (c : Command) (judge : Reply → Ret) : Op Ret := Script.call c fun r => pure (judge r)

/-- The ZTE7520 asks which contexts are active and looks for `1,1`. -/
theorem zgact_eq : Zte7520.zgact = ask (.read .zgact) fun r =>
    if r.ret ≠ .succeed then r.ret else if contains "1,1" r.ack then .succeed else .failed := by
  rw [Zte7520.zgact, tx_bind]
  unfold ask
  congr 1
  funext r
  dsimp only
  split
  · rfl
  · split <;> rfl

/-- The INNE7B01 asks for its addresses and looks for the number 1. -/
theorem cgpaddr_eq : Inne7b01.cgpaddr = ask (.exec .cgpaddr) fun r =>
    if r.ret ≠ .succeed then r.ret
    else if scanInt ':' r.ack = some 1 then .succeed else .failed := by
  rw [Inne7b01.cgpaddr, tx_bind]
  unfold ask
  congr 1
  funext r
  dsimp only
  split
  · rfl
  · split <;> rfl

/-- The NE16U goes by the value of its question alone. -/
theorem qnetdevstatus_eq (cid : String) : Ne16u.qnetdevstatus cid =
    ask (.set .qnetdevstatus [.raw cid]) Reply.ret := by
  rw [Ne16u.qnetdevstatus, tx_bind]
  unfold ask
  congr 1
  funext r
  split
  · rfl
  · next hret =>
    rw [not_not.mp hret, ite_self]

/-- What becomes of a judgement. -/
def conclude (i : Ret) : Boole :=
  if i = .error then .terror else if i ≠ .succeed then .tfalse else .ttrue

/-- Success and nothing else becomes `ttrue`. -/
theorem conclude_eq_ttrue_iff (i : Ret) : conclude i = .ttrue ↔ i = .succeed := by
  unfold conclude
  by_cases herror : i = .error
  · simp [herror]
  · by_cases hret : i = .succeed <;> simp [herror, hret]

/-- A question that is required ends with the judgement of its answer. -/
theorem require_ask (c : Command) (judge : Reply → Ret) :
    require (ask c judge) (pure .ttrue) =
      Script.call c fun r => pure (conclude (judge r)) := by
  change (Script.call c fun r => _) = _
  congr 1
  funext r
  unfold conclude
  rw [apply_ite pure, apply_ite pure]
  rfl

/-- A required question reports what its judgement looks for. -/
theorem reports_require_ask {event : Command → Reply → Prop} {c : Command} {judge : Reply → Ret}
    (hjudge : ∀ r, judge r = .succeed ↔ event c r) :
    (require (ask c judge) (pure .ttrue)).Reports event (· = .ttrue) := by
  rw [require_ask]
  apply Script.Reports.call
  · intro r h
    exact (conclude_eq_ttrue_iff _).mpr ((hjudge r).mpr h)
  · intro r h hvalue
    exact h ((hjudge r).mp ((conclude_eq_ttrue_iff _).mp hvalue))

/-- The EC200 is connected exactly when it finds its context. -/
theorem reports_ec200x_atConnected (cfg : Option Talk) :
    Ec200x.atConnected.Reports (Found cfg .ec200x) (· = .ttrue) := by
  apply reports_check_never nofun nofun
  · exact reports_txRet_never fun r h => nomatch h.1
  · intro _
    rw [tx_bind]
    apply Script.Reports.call
    · rintro r ⟨-, hret, hfind⟩
      have hboth : (r.ret = .succeed && Ec200x.addressed r.ack) = true := by
        rw [hret]
        exact hfind
      rw [if_pos hboth]
      exact (rfl : Boole.ttrue = .ttrue)
    · intro r h
      rw [if_neg]
      · exact (nofun : ¬ Boole.tfalse = .ttrue)
      · intro hboth
        rw [Bool.and_eq_true, decide_eq_true_eq] at hboth
        exact h ⟨rfl, hboth⟩

/-- `ttrue` stands for an answer in which the driver found what it looks for. -/
theorem reports_atConnected (cfg : Option Talk) (a : Asking) :
    (a.driver.atConnected cfg).Reports (Found cfg a) (· = .ttrue) := by
  cases a with
  | ec200x => exact reports_ec200x_atConnected cfg
  | inne7b01 =>
    change (require Inne7b01.cgpaddr _).Reports _ _
    rw [cgpaddr_eq]
    apply reports_require_ask
    intro r
    by_cases hret : r.ret = .succeed <;> simp [Found, Asking.finds, Asking.question, hret]
  | ne16u =>
    cases cfg with
    | none => exact (nofun : ¬ Boole.terror = .ttrue)
    | some cfg =>
      change (require (Ne16u.qnetdevstatus (cfgCid (some cfg))) _).Reports _ _
      rw [qnetdevstatus_eq]
      apply reports_require_ask
      intro r
      simp [Found, Asking.finds, Asking.question]
  | zte7520 =>
    change (require Zte7520.zgact _).Reports _ _
    rw [zgact_eq]
    apply reports_require_ask
    intro r
    by_cases hret : r.ret = .succeed <;> simp [Found, Asking.finds, Asking.question, hret]

/-! ## The question -/

section Question

variable {M : Type} (modem : M → Command → Reply × M) (m : M) (dev : Device)

/-- A required question is all that is sent. -/
theorem trace_require_ask (c : Command) (judge : Reply → Ret) :
    (Script.run modem (require (ask c judge) (pure .ttrue)) m dev).trace =
      [(c, (modem m c).1)] := by
  rw [require_ask]
  rfl

/-- The EC200 asks for its contexts and may receive once more. -/
theorem trace_ec200x_atConnected :
    (Script.run modem Ec200x.atConnected m dev).trace =
        [(.read .qiact, (modem m (.read .qiact)).1)] ∨
      ∃ r, (Script.run modem Ec200x.atConnected m dev).trace =
        [(.read .qiact, (modem m (.read .qiact)).1), (.rx, r)] := by
  rw [Ec200x.atConnected, check, txRet_bind]
  unfold Script.run
  dsimp only
  split
  · exact Or.inl rfl
  · split
    · exact Or.inl rfl
    · right
      rw [tx_bind]
      unfold Script.run
      dsimp only
      split <;> exact ⟨_, rfl⟩

/-- Only one exchange of a run has an answer to look at. -/
theorem question_unique (cfg : Option Talk) (a : Asking) {e e' : Command × Reply}
    (he : e ∈ (Script.run modem (a.driver.atConnected cfg) m dev).trace)
    (he' : e' ∈ (Script.run modem (a.driver.atConnected cfg) m dev).trace)
    (hq : e.1 = a.question (cfgCid cfg)) (hq' : e'.1 = a.question (cfgCid cfg)) : e = e' := by
  have hone : ∀ (c : Command) (judge : Reply → Ret),
      e ∈ (Script.run modem (require (ask c judge) (pure .ttrue)) m dev).trace →
      e' ∈ (Script.run modem (require (ask c judge) (pure .ttrue)) m dev).trace → e = e' := by
    intro c judge h h'
    rw [trace_require_ask, List.mem_singleton] at h h'
    exact h.trans h'.symm
  cases a with
  | ec200x =>
    rcases trace_ec200x_atConnected modem m dev with htrace | ⟨r, htrace⟩
    · rw [Asking.driver, Driver.atConnected, htrace, List.mem_singleton] at he
      rw [he] at hq
      cases hq
    · rw [Asking.driver, Driver.atConnected, htrace] at he he'
      rcases List.mem_pair.mp he with rfl | rfl
      · cases hq
      · rcases List.mem_pair.mp he' with rfl | rfl
        · cases hq'
        · rfl
  | inne7b01 =>
    change e ∈ (Script.run modem (require Inne7b01.cgpaddr _) m dev).trace at he
    change e' ∈ (Script.run modem (require Inne7b01.cgpaddr _) m dev).trace at he'
    rw [cgpaddr_eq] at he he'
    exact hone _ _ he he'
  | ne16u =>
    cases cfg with
    | none => exact absurd he List.not_mem_nil
    | some cfg =>
      change e ∈ (Script.run modem (require (Ne16u.qnetdevstatus _) _) m dev).trace at he
      change e' ∈ (Script.run modem (require (Ne16u.qnetdevstatus _) _) m dev).trace at he'
      rw [qnetdevstatus_eq] at he he'
      exact hone _ _ he he'
  | zte7520 =>
    change e ∈ (Script.run modem (require Zte7520.zgact _) m dev).trace at he
    change e' ∈ (Script.run modem (require Zte7520.zgact _) m dev).trace at he'
    rw [zgact_eq] at he he'
    exact hone _ _ he he'

/-- Against any modem, from any record and for any context id, a driver is right about a
connection exactly when the answer in which it finds what it looks for tells of it. -/
theorem connected_iff (cfg : Option Talk) (a : Asking) :
    Connected cfg a (Script.run modem (a.driver.atConnected cfg) m dev) ↔
      Telling cfg a (Script.run modem (a.driver.atConnected cfg) m dev).trace := by
  have hvalue := Script.reports_iff modem (reports_atConnected cfg a) m dev
  constructor
  · intro h e he hfound
    obtain ⟨e', he', hq', hactive⟩ := h (hvalue.mpr ⟨e, he, hfound⟩)
    have heq := question_unique modem m dev cfg a he he' hfound.1 hq'
    rw [heq]
    exact hactive
  · intro h htrue
    obtain ⟨e, he, hfound⟩ := hvalue.mp htrue
    exact ⟨e, he, hfound.1, h e he hfound⟩

end Question

/-- A modem with context 11 active and no other. -/
def elevenModem (_ : Unit) (_ : Command) : Reply × Unit :=
  (⟨.succeed, "+ZGACT: 11,1".toList, [], 0⟩, ())

/-- The ZTE 7520 takes context 11 for context 1. -/
theorem connected_fails_at_eleven :
    ¬ Connected (some (.json [])) .zte7520
      (Script.run elevenModem (Driver.zte7520.atConnected (some (.json []))) ()
        fun _ => none) := by
  intro h
  obtain ⟨e, he, -, n, hn, hline⟩ := h (by decide)
  have hack : e = (.read .zgact, ⟨.succeed, "+ZGACT: 11,1".toList, [], 0⟩) :=
    List.mem_singleton.mp he
  have hone : cidNumber (cfgCid (some (.json []))) = some 1 := by decide
  rw [hone] at hn
  cases hn
  rw [hack] at hline
  revert hline
  decide

end Tiger.Analysis.ConnectedAnswer
