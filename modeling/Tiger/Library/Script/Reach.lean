import Tiger.Library.Script.Discipline

/-!
# What a script gets to

* `Reaches` and `Ends`: a command a run does send and the values it may end with, where
  the replies are restricted to `E`,
* `Spells`: the commands of some kind, in their order (`Spells.run`),
* `Opens`: the command a run begins with, and what may follow it (`Opens.run`),
* `Meets`: conditions on the device before and after a run.
-/

set_option autoImplicit false

namespace Tiger.Library

namespace Script

variable {C R K V A B M : Type}

/-! ## What a script reaches -/

/-- On every path whose exchanges are in `E` the value is in `Q`. -/
def Ends (E : C → R → Prop) (Q : A → Prop) : Script C R K V A → Prop
  | done a => Q a
  | call c next => ∀ r, E c r → (next r).Ends E Q
  | edit _ _ next => next.Ends E Q
  | read _ next => ∀ x, (next x).Ends E Q

/-- On every path whose exchanges are in `E` a command in `P` is sent. -/
def Reaches (E : C → R → Prop) (P : C → Prop) : Script C R K V A → Prop
  | done _ => False
  | call c next => P c ∨ ∀ r, E c r → (next r).Reaches E P
  | edit _ _ next => next.Reaches E P
  | read _ next => ∀ x, (next x).Reaches E P

/-- A call ends as asked when it does behind every answer that is expected. -/
theorem Ends.call {E : C → R → Prop} {Q : A → Prop} {c : C} {next : R → Script C R K V A}
    (h : ∀ r, E c r → (next r).Ends E Q) : (Script.call c next).Ends E Q := h

/-- A sequence ends where its second part does after the values of the first. -/
theorem Ends.bind {E : C → R → Prop} {Q : A → Prop} {Q' : B → Prop} {p : Script C R K V A}
    {f : A → Script C R K V B} (hp : p.Ends E Q) (hf : ∀ a, Q a → (f a).Ends E Q') :
    (p >>= f).Ends E Q' := by
  induction p with
  | done a => exact hf a hp
  | call c next ih => exact fun r hr => ih r (hp r hr)
  | edit k v next ih => exact ih hp
  | read k next ih => exact fun x => ih x (hp x)

/-- The second part of a sequence reaches a command after the values of the first. -/
theorem Ends.reaches_bind {E : C → R → Prop} {P : C → Prop} {Q : A → Prop}
    {p : Script C R K V A} {f : A → Script C R K V B} (hp : p.Ends E Q)
    (hf : ∀ a, Q a → (f a).Reaches E P) : (p >>= f).Reaches E P := by
  induction p with
  | done a => exact hf a hp
  | call c next ih => exact Or.inr fun r hr => ih r (hp r hr)
  | edit k v next ih => exact ih hp
  | read k next ih => exact fun x => ih x (hp x)

/-- A quiet script ends with its value under any answers. -/
theorem Quiet.ends {E : C → R → Prop} {Q : A → Prop} {p : Script C R K V A}
    (hp : p.Quiet Q) : p.Ends E Q := by
  induction p with
  | done a => exact hp
  | call c next ih => exact hp.elim
  | edit k v next ih => exact ih hp
  | read k next ih => exact fun x => ih x (hp x)

section Reach

variable [DecidableEq K] (answer : M → C → R × M) {E : C → R → Prop}

/-- Every command of a run is one that is allowed. -/
theorem Sends.run {P : C → Prop} {p : Script C R K V A} (hp : p.Sends P) (m : M)
    (s : K → Option V) : ∀ e ∈ (run answer p m s).trace, P e.1 := by
  induction p generalizing m s with
  | done a => exact fun e he => absurd he List.not_mem_nil
  | call c next ih =>
    intro e he
    rcases List.mem_cons.mp he with rfl | he
    · exact hp.1
    · exact ih _ (hp.2 _) _ s e he
  | edit k v next ih => exact ih hp m _
  | read k next ih => exact ih (s k) (hp (s k)) m s

/-- A run against a device whose replies are in `E` ends with one of the values. -/
theorem Ends.run {Q : A → Prop} {p : Script C R K V A} (hp : p.Ends E Q)
    (hanswer : ∀ m c, E c (answer m c).1) (m : M) (s : K → Option V) :
    Q (run answer p m s).value := by
  induction p generalizing m s with
  | done a => exact hp
  | call c next ih => exact ih _ (hp _ (hanswer m c)) _ s
  | edit k v next ih => exact ih hp m _
  | read k next ih => exact ih (s k) (hp (s k)) m s

/-- A run against a device whose replies are in `E` sends one of the commands. -/
theorem Reaches.run {P : C → Prop} {p : Script C R K V A} (hp : p.Reaches E P)
    (hanswer : ∀ m c, E c (answer m c).1) (m : M) (s : K → Option V) :
    ∃ e ∈ (run answer p m s).trace, P e.1 := by
  induction p generalizing m s with
  | done a => exact hp.elim
  | call c next ih =>
    rcases hp with hc | hnext
    · exact ⟨_, List.mem_cons_self, hc⟩
    · obtain ⟨e, he, hP⟩ := ih _ (hnext _ (hanswer m c)) (answer m c).2 s
      exact ⟨e, List.mem_cons_of_mem _ he, hP⟩
  | edit k v next ih => exact ih hp m _
  | read k next ih => exact ih (s k) (hp (s k)) m s

/-- A device that changes with the commands alone is where the commands of the trace take
it. -/
theorem run_device {step : C → M → M} (hstep : ∀ m c, (answer m c).2 = step c m)
    (p : Script C R K V A) (m : M) (s : K → Option V) :
    (run answer p m s).device =
      (run answer p m s).trace.foldl (fun m e => step e.1 m) m := by
  induction p generalizing m s with
  | done a => rfl
  | call c next ih =>
    unfold run
    rw [List.foldl_cons, ← hstep]
    exact ih _ _ s
  | edit k v next ih => exact ih m _
  | read k next ih => exact ih (s k) m s

end Reach

/-! ## The sequence of the commands -/

/-- On every path whose exchanges are in `E`, the commands that `sel` selects are the ones in
the list, and the value is in `Q`. -/
def Spells (E : C → R → Prop) (sel : C → Bool) (Q : A → Prop) :
    Script C R K V A → List C → Prop
  | done a, l => l = [] ∧ Q a
  | call c next, l => ∀ r, E c r →
      if sel c then ∃ l', l = c :: l' ∧ (next r).Spells E sel Q l'
      else (next r).Spells E sel Q l
  | edit _ _ next, l => next.Spells E sel Q l
  | read _ next, l => ∀ x, (next x).Spells E sel Q l

section Spells

variable {E : C → R → Prop} {sel : C → Bool} {Q : A → Prop} {Q' : B → Prop}

/-- A call that is looked at stands first in what is spelled. -/
theorem Spells.call_of_sel {c : C} {next : R → Script C R K V A} {l : List C}
    (hc : sel c = true) (h : ∀ r, E c r → (next r).Spells E sel Q l) :
    (Script.call c next).Spells E sel Q (c :: l) := by
  intro r hr
  rw [if_pos hc]
  exact ⟨l, rfl, h r hr⟩

/-- A call that is not looked at is not spelled. -/
theorem Spells.call_of_not {c : C} {next : R → Script C R K V A} {l : List C}
    (hc : sel c = false) (h : ∀ r, E c r → (next r).Spells E sel Q l) :
    (Script.call c next).Spells E sel Q l := by
  intro r hr
  rw [if_neg (by simp [hc])]
  exact h r hr

/-- A sequence spells the commands of its parts one after the other. -/
theorem Spells.bind {p : Script C R K V A} {f : A → Script C R K V B} {l l' : List C}
    (hp : p.Spells E sel Q l) (hf : ∀ a, Q a → (f a).Spells E sel Q' l') :
    (p >>= f).Spells E sel Q' (l ++ l') := by
  induction p generalizing l with
  | done a =>
    obtain ⟨rfl, ha⟩ := hp
    exact hf a ha
  | call c next ih =>
    intro r hr
    have hnext := hp r hr
    split at hnext
    · next hc =>
      obtain ⟨tail, rfl, htail⟩ := hnext
      rw [if_pos hc]
      exact ⟨tail ++ l', rfl, ih r htail⟩
    · next hc =>
      rw [if_neg hc]
      exact ih r hnext
  | edit k v next ih => exact ih hp
  | read k next ih => exact fun x => ih x (hp x)

/-- A quiet script spells nothing. -/
theorem Quiet.spells {p : Script C R K V A} (hp : p.Quiet Q) : p.Spells E sel Q [] := by
  induction p with
  | done a => exact ⟨rfl, hp⟩
  | call c next ih => exact hp.elim
  | edit k v next ih => exact ih hp
  | read k next ih => exact fun x => ih x (hp x)

/-- A run whose exchanges are in `E` sends what the script spells. -/
theorem Spells.run [DecidableEq K] (answer : M → C → R × M) {p : Script C R K V A}
    {l : List C} (hp : p.Spells E sel Q l) (m : M) (s : K → Option V)
    (hE : ∀ e ∈ (run answer p m s).trace, E e.1 e.2) :
    ((run answer p m s).trace.map Prod.fst).filter sel = l ∧ Q (run answer p m s).value := by
  induction p generalizing m s l with
  | done a => exact ⟨hp.1.symm, hp.2⟩
  | call c next ih =>
    have hnext := hp (answer m c).1 (hE _ List.mem_cons_self)
    have htail := fun e he => hE e (List.mem_cons_of_mem _ he)
    unfold Script.run
    dsimp only
    split at hnext
    · next hc =>
      obtain ⟨l', rfl, hl'⟩ := hnext
      obtain ⟨hfilter, hQ⟩ := ih _ hl' _ s htail
      rw [List.map_cons, List.filter_cons_of_pos hc, hfilter]
      exact ⟨rfl, hQ⟩
    · next hc =>
      obtain ⟨hfilter, hQ⟩ := ih _ hnext _ s htail
      rw [List.map_cons, List.filter_cons_of_neg hc, hfilter]
      exact ⟨rfl, hQ⟩
  | edit k v next ih => exact ih hp m _ hE
  | read k next ih => exact ih (s k) (hp (s k)) m s hE

end Spells

/-! ## The first command -/

/-- A run begins with the command `c`, and behind it only commands in `P` are sent. -/
def Opens (c : C) (P : C → Prop) : Script C R K V A → Prop
  | done _ => False
  | call c' next => c' = c ∧ ∀ r, (next r).Sends P
  | edit _ _ next => next.Opens c P
  | read _ next => ∀ x, (next x).Opens c P

/-- A script that begins with a call opens with it. -/
theorem opens_call {c : C} {P : C → Prop} {next : R → Script C R K V A}
    (h : ∀ r, (next r).Sends P) : (call c next).Opens c P := ⟨rfl, h⟩

/-- Behind a script without commands the next one opens. -/
theorem Quiet.opens_bind {Q : A → Prop} {c : C} {P : C → Prop} {p : Script C R K V A}
    {f : A → Script C R K V B} (hp : p.Quiet Q) (hf : ∀ a, (f a).Opens c P) :
    (p >>= f).Opens c P := by
  induction p with
  | done a => exact hf a
  | call c next ih => exact hp.elim
  | edit k v next ih => exact ih hp
  | read k next ih => exact fun x => ih x (hp x)

/-- What a run sends begins with the first command. -/
theorem Opens.run [DecidableEq K] (answer : M → C → R × M) {c : C} {P : C → Prop}
    {p : Script C R K V A} (hp : p.Opens c P) (m : M) (s : K → Option V) :
    ∃ r rest, (Script.run answer p m s).trace = (c, r) :: rest ∧ ∀ e ∈ rest, P e.1 := by
  induction p generalizing m s with
  | done a => exact hp.elim
  | call c' next ih =>
    obtain ⟨rfl, hnext⟩ := hp
    exact ⟨_, _, rfl, (hnext _).run answer _ s⟩
  | edit k v next ih => exact ih hp m _
  | read k next ih => exact ih (s k) (hp (s k)) m s

/-! ## Before and after -/

section Meets

variable [DecidableEq K] (answer : M → C → R × M)

/-- From a device in `P`, a run ends with a value and a device in `Q`. -/
def Meets (P : M → Prop) (p : Script C R K V A) (Q : A → M → Prop) : Prop :=
  ∀ m s, P m → Q (run answer p m s).value (run answer p m s).device

variable {answer} {P P' : M → Prop} {Q Q' : A → M → Prop}

/-- A contract holds with a stronger start and a weaker end. -/
theorem Meets.mono {p : Script C R K V A} (hp : p.Meets answer P Q) (hpre : ∀ m, P' m → P m)
    (hpost : ∀ a m, Q a m → Q' a m) : p.Meets answer P' Q' :=
  fun m s h => hpost _ _ (hp m s (hpre m h))

/-- Two contracts with one start hold together. -/
theorem Meets.and {p : Script C R K V A} (hp : p.Meets answer P Q)
    (hp' : p.Meets answer P Q') : p.Meets answer P fun a m => Q a m ∧ Q' a m :=
  fun m s h => ⟨hp m s h, hp' m s h⟩

/-- A script that is done meets a contract when its value does where it starts. -/
theorem meets_done {a : A} (h : ∀ m, P m → Q a m) :
    (done a : Script C R K V A).Meets answer P Q := fun m _ hm => h m hm

/-- A command, from one device at a time. -/
theorem meets_call {c : C} {next : R → Script C R K V A}
    (h : ∀ m, P m → (next (answer m c).1).Meets answer (· = (answer m c).2) Q) :
    (call c next).Meets answer P Q := fun m s hm => h m hm _ s rfl

/-- A sequence, through what holds between its parts. -/
theorem Meets.bind {p : Script C R K V A} {f : A → Script C R K V B} {S : B → M → Prop}
    (hp : p.Meets answer P Q) (hf : ∀ a, (f a).Meets answer (Q a) S) :
    (p >>= f).Meets answer P S := by
  intro m s hm
  rw [run_bind]
  exact hf _ _ _ (hp m s hm)

/-- What every command of a script keeps, the script keeps. -/
theorem Sends.meets {T : C → Prop} {p : Script C R K V A} (hp : p.Sends T)
    (hkeep : ∀ m c, T c → P m → P (answer m c).2) : p.Meets answer P fun _ m => P m := by
  intro m s hm
  induction p generalizing m s with
  | done a => exact hm
  | call c next ih => exact ih _ (hp.2 _) _ s (hkeep m c hp.1 hm)
  | edit k v next ih => exact ih hp m _ hm
  | read k next ih => exact ih (s k) (hp (s k)) m s hm

/-- A script whose replies are in `E` ends with one of its values. -/
theorem Ends.meets {E : C → R → Prop} {W : A → Prop} {p : Script C R K V A} (hp : p.Ends E W)
    (hanswer : ∀ m c, E c (answer m c).1) : p.Meets answer P fun a _ => W a :=
  fun m s _ => hp.run answer hanswer m s

end Meets

end Script

end Tiger.Library
