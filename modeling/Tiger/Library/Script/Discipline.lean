import Tiger.Library.Script

/-!
# Replies that end a script

* `Obeys`: a reply that has to stop the script stops it, up to exempted replies, and
  an exempted reply is never obeyed (`obeys_disciplined_iff`),
* `Reports`: the value tells whether there was an exchange of some kind (`reports_iff`).

`Quiet` and `Strays` are what follows such a reply, and `Sends` is for scripts in which none
can occur.
-/

set_option autoImplicit false

namespace Tiger.Library

namespace Script

variable {C R K V A B M : Type}

/-! ## Stopping -/

/-- No command is sent any more and the value is in `Q`. -/
def Quiet (Q : A → Prop) : Script C R K V A → Prop
  | done a => Q a
  | call _ _ => False
  | edit _ _ next => next.Quiet Q
  | read _ next => ∀ x, (next x).Quiet Q

/-- Another command is sent or the value is in `Q`. -/
def Strays (Q : A → Prop) : Script C R K V A → Prop
  | done a => Q a
  | call _ _ => True
  | edit _ _ next => next.Strays Q
  | read _ next => ∀ x, (next x).Strays Q

/-- A script that is done is quiet when its value is as asked. -/
@[simp] theorem quiet_done (Q : A → Prop) (a : A) :
    (done a : Script C R K V A).Quiet Q ↔ Q a := Iff.rfl

/-- A script that calls is not quiet. -/
@[simp] theorem quiet_call (Q : A → Prop) (c : C) (next : R → Script C R K V A) :
    (call c next).Quiet Q ↔ False := Iff.rfl

/-- An edit is quiet when what follows is. -/
@[simp] theorem quiet_edit (Q : A → Prop) (k : K) (v : Option V) (next : Script C R K V A) :
    (edit k v next).Quiet Q ↔ next.Quiet Q := Iff.rfl

/-- A read is quiet when what follows is, whatever is read. -/
@[simp] theorem quiet_read (Q : A → Prop) (k : K) (next : Option V → Script C R K V A) :
    (read k next).Quiet Q ↔ ∀ x, (next x).Quiet Q := Iff.rfl

/-- A script that is done has made no call, so its value has to be as asked. -/
@[simp] theorem strays_done (Q : A → Prop) (a : A) :
    (done a : Script C R K V A).Strays Q ↔ Q a := Iff.rfl

/-- Behind a call nothing is asked. -/
@[simp] theorem strays_call (Q : A → Prop) (c : C) (next : R → Script C R K V A) :
    (call c next).Strays Q := trivial

/-- An edit asks of what follows. -/
@[simp] theorem strays_edit (Q : A → Prop) (k : K) (v : Option V)
    (next : Script C R K V A) : (edit k v next).Strays Q ↔ next.Strays Q := Iff.rfl

/-- A read asks of what follows, whatever is read. -/
@[simp] theorem strays_read (Q : A → Prop) (k : K) (next : Option V → Script C R K V A) :
    (read k next).Strays Q ↔ ∀ x, (next x).Strays Q := Iff.rfl

/-- A sequence stays quiet when both parts do. -/
theorem Quiet.bind {Q : A → Prop} {Q' : B → Prop} {p : Script C R K V A}
    {f : A → Script C R K V B} (hp : p.Quiet Q) (hf : ∀ a, Q a → (f a).Quiet Q') :
    (p >>= f).Quiet Q' := by
  induction p with
  | done a => exact hf a hp
  | call c next ih => exact hp.elim
  | edit k v next ih => exact ih hp
  | read k next ih => exact fun x => ih x (hp x)

/-- A sequence strays when its first part does, and its second part after the values the
first part may end with. -/
theorem Strays.bind {Q : A → Prop} {Q' : B → Prop} {p : Script C R K V A}
    {f : A → Script C R K V B} (hp : p.Strays Q) (hf : ∀ a, Q a → (f a).Strays Q') :
    (p >>= f).Strays Q' := by
  induction p with
  | done a => exact hf a hp
  | call c next ih => exact trivial
  | edit k v next ih => exact ih hp
  | read k next ih => exact fun x => ih x (hp x)

/-- A script that is done is quiet. -/
theorem quiet_done' (a : A) : (done a : Script C R K V A).Quiet fun _ => True := trivial

/-- A single edit is quiet. -/
theorem quiet_put (k : K) (v : Option V) :
    (put k v : Script C R K V Unit).Quiet fun _ => True := trivial

/-- A read is quiet when what follows is. -/
theorem Quiet.read {Q : A → Prop} {k : K} {next : Option V → Script C R K V A}
    (h : ∀ x, (next x).Quiet Q) : (Script.read k next).Quiet Q := h

/-- Edits in front of a quiet script are quiet. -/
theorem quiet_puts {Q : A → Prop} (es : List (K × Option V)) {f : Unit → Script C R K V A}
    (hf : (f ()).Quiet Q) : (puts es >>= f).Quiet Q := by
  induction es with
  | nil => exact hf
  | cons e es ih => exact ih

/-- Edits are quiet. -/
theorem quiet_puts' (es : List (K × Option V)) :
    (puts es : Script C R K V Unit).Quiet fun _ => True := by
  induction es with
  | nil => exact trivial
  | cons e es ih => exact ih

/-- A loop of quiet turns is quiet. -/
theorem quiet_foldlM {f : B → A → Script C R K V B} (hf : ∀ b a, (f b a).Quiet fun _ => True)
    (b : B) (l : List A) : (l.foldlM f b).Quiet fun _ => True := by
  induction l generalizing b with
  | nil => exact trivial
  | cons a l ih =>
    rw [List.foldlM_cons]
    exact (hf b a).bind fun b' _ => ih b'

/-- A discipline on scripts with values `A`: `stop` are the exchanges that have to stop a
script, `good` the values it then has to end with, and `exempt` the exchanges that are let
off, after which it sends another command or ends with a value in `bad`. -/
structure Discipline (C R A : Type) where
  stop : C → R → Prop
  exempt : C → R → Prop
  good : R → A → Prop
  bad : R → A → Prop

/-- The discipline holds on every path. -/
def Obeys (d : Discipline C R A) : Script C R K V A → Prop
  | done _ => True
  | call c next => ∀ r,
      (d.exempt c r → (next r).Strays (d.bad r)) ∧
      (¬ d.exempt c r → d.stop c r → (next r).Quiet (d.good r)) ∧
      (¬ d.exempt c r → ¬ d.stop c r → (next r).Obeys d)
  | edit _ _ next => next.Obeys d
  | read _ next => ∀ x, (next x).Obeys d

/-- A script that is done obeys. -/
@[simp] theorem obeys_done (d : Discipline C R A) (a : A) :
    (done a : Script C R K V A).Obeys d := trivial

/-- An edit obeys when what follows does. -/
@[simp] theorem obeys_edit (d : Discipline C R A) (k : K) (v : Option V)
    (next : Script C R K V A) : (edit k v next).Obeys d ↔ next.Obeys d := Iff.rfl

/-- A read obeys when what follows does, whatever is read. -/
@[simp] theorem obeys_read (d : Discipline C R A) (k : K)
    (next : Option V → Script C R K V A) :
    (read k next).Obeys d ↔ ∀ x, (next x).Obeys d := Iff.rfl

/-- A command, by what its reply is. -/
theorem Obeys.call {d : Discipline C R A} {c : C} {next : R → Script C R K V A}
    (hexempt : ∀ r, d.exempt c r → (next r).Strays (d.bad r))
    (hstop : ∀ r, ¬ d.exempt c r → d.stop c r → (next r).Quiet (d.good r))
    (hnext : ∀ r, ¬ d.exempt c r → ¬ d.stop c r → (next r).Obeys d) :
    (Script.call c next).Obeys d :=
  fun r => ⟨hexempt r, hstop r, hnext r⟩

/-- A read obeys when what follows does. -/
theorem Obeys.read {d : Discipline C R A} {k : K} {next : Option V → Script C R K V A}
    (h : ∀ x, (next x).Obeys d) : (Script.read k next).Obeys d := h

/-- A quiet script obeys every discipline. -/
theorem Quiet.obeys {Q : A → Prop} {d : Discipline C R A} {p : Script C R K V A}
    (hp : p.Quiet Q) : p.Obeys d := by
  induction p with
  | done a => exact trivial
  | call c next ih => exact hp.elim
  | edit k v next ih => exact ih hp
  | read k next ih => exact fun x => ih x (hp x)

/-- What follows a quiet script decides. -/
theorem Quiet.obeys_bind {Q : A → Prop} {d : Discipline C R B} {p : Script C R K V A}
    {f : A → Script C R K V B} (hp : p.Quiet Q) (hf : ∀ a, (f a).Obeys d) :
    (p >>= f).Obeys d := by
  induction p with
  | done a => exact hf a
  | call c next ih => exact hp.elim
  | edit k v next ih => exact ih hp
  | read k next ih => exact fun x => ih x (hp x)

/-- A sequence obeys a discipline when its first part obeys one that stops at the same
replies, and the second part ends as it should after what the first part ends with. -/
theorem Obeys.bind {d : Discipline C R A} {d' : Discipline C R B} {p : Script C R K V A}
    {f : A → Script C R K V B} (hp : p.Obeys d) (hstop : d'.stop = d.stop)
    (hexempt : d'.exempt = d.exempt)
    (hquiet : ∀ c r a, d.stop c r → d.good r a → (f a).Quiet (d'.good r))
    (hstray : ∀ c r a, d.exempt c r → d.bad r a → (f a).Strays (d'.bad r))
    (hf : ∀ a, (f a).Obeys d') : (p >>= f).Obeys d' := by
  induction p with
  | done a => exact hf a
  | call c next ih =>
    intro r
    obtain ⟨hx, hs, hn⟩ := hp r
    rw [hstop, hexempt]
    exact ⟨fun h => (hx h).bind fun a => hstray c r a h,
      fun h h' => (hs h h').bind fun a => hquiet c r a h', fun h h' => ih r (hn h h')⟩
  | edit k v next ih => exact ih hp
  | read k next ih => exact fun x => ih x (hp x)

section Discipline

variable [DecidableEq K] (answer : M → C → R × M)

/-- A quiet script sends nothing and ends with one of the values. -/
theorem Quiet.run {Q : A → Prop} {p : Script C R K V A} (hp : p.Quiet Q) (m : M)
    (s : K → Option V) :
    (run answer p m s).trace = [] ∧ Q (run answer p m s).value := by
  induction p generalizing m s with
  | done a => exact ⟨rfl, hp⟩
  | call c next ih => exact hp.elim
  | edit k v next ih => exact ih hp m _
  | read k next ih => exact ih (s k) (hp (s k)) m s

/-- A run without a call ends with a value as asked. -/
theorem Strays.run {Q : A → Prop} {p : Script C R K V A} (hp : p.Strays Q) (m : M)
    (s : K → Option V) :
    (run answer p m s).trace = [] → Q (run answer p m s).value := by
  induction p generalizing m s with
  | done a => exact fun _ => hp
  | call c next ih => exact fun h => (List.cons_ne_nil _ _ h).elim
  | edit k v next ih => exact ih hp m _
  | read k next ih => exact ih (s k) (hp (s k)) m s

/-- The discipline as a property of one run: a reply that has to stop the script is the
last one and the value is the one it stands for. -/
def Disciplined (d : Discipline C R A) (o : Outcome C R K V A M) : Prop :=
  ∀ before c r after, o.trace = before ++ (c, r) :: after → d.stop c r →
    after = [] ∧ d.good r o.value

omit [DecidableEq K] in
/-- At most one exchange of a disciplined run has to stop it. -/
theorem Disciplined.unique {d : Discipline C R A} {o : Outcome C R K V A M}
    (h : Disciplined d o) {e e' : C × R} (he : e ∈ o.trace) (hs : d.stop e.1 e.2)
    (he' : e' ∈ o.trace) (hs' : d.stop e'.1 e'.2) : e = e' := by
  obtain ⟨before, after, htrace⟩ := List.append_of_mem he
  obtain ⟨before', after', htrace'⟩ := List.append_of_mem he'
  obtain ⟨rfl, -⟩ := h before e.1 e.2 after htrace hs
  obtain ⟨rfl, -⟩ := h before' e'.1 e'.2 after' htrace' hs'
  rw [htrace] at htrace'
  exact (List.append_inj' htrace' rfl).2 |> List.cons.inj |>.1

/-- A trace of one exchange splits in one way. -/
theorem eq_of_trace_eq_singleton {c c' : C} {r r' : R} {t before after : List (C × R)}
    (ht : t = []) (h : (c, r) :: t = before ++ (c', r') :: after) :
    c = c' ∧ r = r' ∧ after = [] := by
  subst ht
  cases before with
  | nil =>
    obtain ⟨hhead, hafter⟩ := List.cons.inj h
    exact ⟨(Prod.mk.inj hhead).1, (Prod.mk.inj hhead).2, hafter.symm⟩
  | cons e before =>
    obtain ⟨-, htail⟩ := List.cons.inj h
    exact absurd htail.symm (by simp)

/-- A run keeps a discipline exactly when it has no exempted exchange. -/
theorem obeys_disciplined_iff {d : Discipline C R A}
    (hexempt : ∀ c r, d.exempt c r → d.stop c r) (hbad : ∀ r a, d.bad r a → ¬ d.good r a)
    {p : Script C R K V A} (hp : p.Obeys d) (m : M) (s : K → Option V) :
    Disciplined d (run answer p m s) ↔
      ∀ e ∈ (run answer p m s).trace, ¬ d.exempt e.1 e.2 := by
  induction p generalizing m s with
  | done a =>
    refine ⟨fun _ e he => absurd he List.not_mem_nil, fun _ before c r after h => ?_⟩
    exact absurd h.symm (by simp)
  | call c next ih =>
    obtain ⟨hx, hs, hn⟩ := hp (answer m c).1
    unfold Disciplined
    by_cases hex : d.exempt c (answer m c).1
    · -- the exempted reply is the head of the trace
      refine iff_of_false (fun h => ?_) fun h => h _ List.mem_cons_self hex
      obtain ⟨hnil, hgood⟩ := h [] c _ _ rfl (hexempt _ _ hex)
      exact hbad _ _ ((hx hex).run answer _ s hnil) hgood
    · by_cases hst : d.stop c (answer m c).1
      · obtain ⟨hnil, hgood⟩ := (hs hex hst).run answer (answer m c).2 s
        refine iff_of_true (fun before c' r' after heq _ => ?_) fun e he => ?_
        · obtain ⟨-, hhead, hafter⟩ := eq_of_trace_eq_singleton hnil heq
          exact ⟨hafter, hhead ▸ hgood⟩
        · rcases List.mem_cons.mp he with rfl | he
          · exact hex
          · rw [hnil] at he
            exact absurd he List.not_mem_nil
      · have htail := ih (answer m c).1 (hn hex hst) (answer m c).2 s
        unfold Disciplined at htail
        constructor
        · intro h e he
          rcases List.mem_cons.mp he with rfl | he
          · exact hex
          · refine htail.mp (fun before c' r' after heq hstop => ?_) e he
            exact h (_ :: before) c' r' after (congrArg (_ :: ·) heq) hstop
        · intro h before c' r' after heq hstop
          cases before with
          | nil =>
            obtain ⟨hhead, -⟩ := List.cons.inj heq
            obtain ⟨rfl, rfl⟩ := Prod.mk.inj hhead
            exact absurd hstop hst
          | cons e before =>
            obtain ⟨-, htrace⟩ := List.cons.inj heq
            exact htail.mpr (fun e he => h e (List.mem_cons_of_mem _ he)) before c' r' after
              htrace hstop
  | edit k v next ih => exact ih hp m _
  | read k next ih => exact ih (s k) (hp (s k)) m s

end Discipline

/-! ## Reporting -/

/-- Only commands in `P` are sent. -/
def Sends (P : C → Prop) : Script C R K V A → Prop
  | done _ => True
  | call c next => P c ∧ ∀ r, (next r).Sends P
  | edit _ _ next => next.Sends P
  | read _ next => ∀ x, (next x).Sends P

/-- A call sends what is allowed when it and all that follows do. -/
theorem Sends.call {P : C → Prop} {c : C} {next : R → Script C R K V A} (hc : P c)
    (hnext : ∀ r, (next r).Sends P) : (Script.call c next).Sends P :=
  ⟨hc, hnext⟩

/-- Two scripts send what is allowed when each does. -/
theorem Sends.bind {P : C → Prop} {p : Script C R K V A} {f : A → Script C R K V B}
    (hp : p.Sends P) (hf : ∀ a, (f a).Sends P) : (p >>= f).Sends P := by
  induction p with
  | done a => exact hf a
  | call c next ih => exact ⟨hp.1, fun r => ih r (hp.2 r)⟩
  | edit k v next ih => exact ih hp
  | read k next ih => exact fun x => ih x (hp x)

/-- What sends only some commands sends only those of a larger class. -/
theorem Sends.mono {P P' : C → Prop} (h : ∀ c, P c → P' c) {p : Script C R K V A}
    (hp : p.Sends P) : p.Sends P' := by
  induction p with
  | done a => exact trivial
  | call c next ih => exact ⟨h c hp.1, fun r => ih r (hp.2 r)⟩
  | edit k v next ih => exact ih hp
  | read k next ih => exact fun x => ih x (hp x)

/-- A quiet script sends nothing. -/
theorem Quiet.sends {Q : A → Prop} {P : C → Prop} {p : Script C R K V A} (hp : p.Quiet Q) :
    p.Sends P := by
  induction p with
  | done a => exact trivial
  | call c next ih => exact hp.elim
  | edit k v next ih => exact ih hp
  | read k next ih => exact fun x => ih x (hp x)

/-- The script ends at the exchanges in `event`, with a value in `W`, and a path without such
an exchange ends with another value. -/
def Reports (event : C → R → Prop) (W : A → Prop) : Script C R K V A → Prop
  | done a => ¬ W a
  | call c next => ∀ r,
      (event c r → (next r).Quiet W) ∧ (¬ event c r → (next r).Reports event W)
  | edit _ _ next => next.Reports event W
  | read _ next => ∀ x, (next x).Reports event W

/-- A script that is done without the event must not have the value of it. -/
@[simp] theorem reports_done (event : C → R → Prop) (W : A → Prop) (a : A) :
    (done a : Script C R K V A).Reports event W ↔ ¬ W a := Iff.rfl

/-- A call reports when an answer with the event settles the value and the others go on to
report. -/
theorem Reports.call {event : C → R → Prop} {W : A → Prop} {c : C}
    {next : R → Script C R K V A} (hevent : ∀ r, event c r → (next r).Quiet W)
    (hnext : ∀ r, ¬ event c r → (next r).Reports event W) :
    (Script.call c next).Reports event W :=
  fun r => ⟨hevent r, hnext r⟩

/-- A sequence reports when its parts do and the second ends quietly with what the first
reports. -/
theorem Reports.bind {event : C → R → Prop} {W : A → Prop} {W' : B → Prop}
    {p : Script C R K V A} {f : A → Script C R K V B} (hp : p.Reports event W)
    (hquiet : ∀ a, W a → (f a).Quiet W') (hf : ∀ a, ¬ W a → (f a).Reports event W') :
    (p >>= f).Reports event W' := by
  induction p with
  | done a => exact hf a hp
  | call c next ih =>
    exact fun r => ⟨fun h => ((hp r).1 h).bind hquiet, fun h => ih r ((hp r).2 h)⟩
  | edit k v next ih => exact ih hp
  | read k next ih => exact fun x => ih x (hp x)

/-- What follows a quiet script does the reporting. -/
theorem Quiet.reports_bind {Q : A → Prop} {event : C → R → Prop} {W : B → Prop}
    {p : Script C R K V A} {f : A → Script C R K V B} (hp : p.Quiet Q)
    (hf : ∀ a, (f a).Reports event W) : (p >>= f).Reports event W := by
  induction p with
  | done a => exact hf a
  | call c next ih => exact hp.elim
  | edit k v next ih => exact ih hp
  | read k next ih => exact fun x => ih x (hp x)

/-- A script that sends no command of an event reports nothing. -/
theorem Sends.reports {P : C → Prop} {event : C → R → Prop} (h : ∀ c r, P c → ¬ event c r)
    {p : Script C R K V A} (hp : p.Sends P) : p.Reports event fun _ => False := by
  induction p with
  | done a => exact id
  | call c next ih => exact fun r => ⟨fun he => absurd he (h c r hp.1), fun _ => ih r (hp.2 r)⟩
  | edit k v next ih => exact ih hp
  | read k next ih => exact fun x => ih x (hp x)

/-- What follows a script without a command that has to stop it decides. -/
theorem Sends.obeys_bind {P : C → Prop} {d : Discipline C R B}
    (h : ∀ c r, P c → ¬ d.exempt c r ∧ ¬ d.stop c r) {p : Script C R K V A}
    {f : A → Script C R K V B} (hp : p.Sends P) (hf : ∀ a, (f a).Obeys d) :
    (p >>= f).Obeys d := by
  induction p with
  | done a => exact hf a
  | call c next ih =>
    exact Obeys.call (fun r he => absurd he (h c r hp.1).1)
      (fun r _ hs => absurd hs (h c r hp.1).2) fun r _ _ => ih r (hp.2 r)
  | edit k v next ih => exact ih hp
  | read k next ih => exact fun x => ih x (hp x)

/-- The value tells whether there was such an exchange. -/
theorem reports_iff [DecidableEq K] (answer : M → C → R × M) {event : C → R → Prop}
    {W : A → Prop} {p : Script C R K V A} (hp : p.Reports event W) (m : M)
    (s : K → Option V) :
    W (run answer p m s).value ↔ ∃ e ∈ (run answer p m s).trace, event e.1 e.2 := by
  induction p generalizing m s with
  | done a => exact iff_of_false hp (by simp)
  | call c next ih =>
    obtain ⟨hevent, hnext⟩ := hp (answer m c).1
    by_cases he : event c (answer m c).1
    · refine iff_of_true ((hevent he).run answer (answer m c).2 s).2 ?_
      exact ⟨_, List.mem_cons_self, he⟩
    · refine (ih (answer m c).1 (hnext he) (answer m c).2 s).trans ?_
      constructor
      · rintro ⟨e, hmem, h⟩
        exact ⟨e, List.mem_cons_of_mem _ hmem, h⟩
      · rintro ⟨e, hmem, h⟩
        rcases List.mem_cons.mp hmem with rfl | hmem
        · exact absurd h he
        · exact ⟨e, hmem, h⟩
  | edit k v next ih => exact ih hp m _
  | read k next ih => exact ih (s k) (hp (s k)) m s

end Script

end Tiger.Library
