import Tiger.Library.Script

/-!
# Scripts that do not look back

`After` is what is known at the end of every path, where only edited keys are read. Two runs
from different stores then go the same way, and leave the same under a key exactly when
it was edited or the same before (`After.agree`).
-/

set_option autoImplicit false

namespace Tiger.Library

namespace Script

variable {C R K V A B M : Type}

/-! ## Paths -/

/-- What is known on a path: the keys that were edited, the store, whether an exchange of some
kind was met, and the last exchange. -/
structure Path (C R K V : Type) where
  edited : K → Prop
  store : K → Option V
  met : Prop
  last : Option (C × R)

section Paths

variable [DecidableEq K] (event : Option (C × R) → C → R → Prop)

/-- The path behind an exchange. Whether it is an event may depend on the one before. -/
def Path.exchange (σ : Path C R K V) (c : C) (r : R) : Path C R K V :=
  { σ with met := σ.met ∨ event σ.last c r, last := some (c, r) }

/-- The path behind an edit. -/
def Path.edit (σ : Path C R K V) (k : K) (v : Option V) : Path C R K V :=
  { σ with
    edited := fun k' => k' = k ∨ σ.edited k'
    store := Function.update σ.store k v }

/-- Every path from `σ` on reads no key but the edited ones and ends in `Q`. -/
def After : Script C R K V A → (A → Path C R K V → Prop) → Path C R K V → Prop
  | done a, Q, σ => Q a σ
  | call c next, Q, σ => ∀ r, (next r).After Q (σ.exchange event c r)
  | edit k v next, Q, σ => next.After Q (σ.edit k v)
  | read k next, Q, σ => σ.edited k ∧ (next (σ.store k)).After Q σ

variable {event}

/-- What holds behind every path holds when it is weakened. -/
theorem After.mono {p : Script C R K V A} {Q Q' : A → Path C R K V → Prop}
    {σ : Path C R K V} (hp : p.After event Q σ) (h : ∀ a σ, Q a σ → Q' a σ) :
    p.After event Q' σ := by
  induction p generalizing σ with
  | done a => exact h a σ hp
  | call c next ih => exact fun r => ih r (hp r)
  | edit k v next ih => exact ih hp
  | read k next ih => exact ⟨hp.1, ih _ hp.2⟩

/-- The paths of a sequence are those of its parts, one behind the other. -/
theorem after_bind (p : Script C R K V A) (f : A → Script C R K V B)
    (Q : B → Path C R K V → Prop) (σ : Path C R K V) :
    (p >>= f).After event Q σ ↔ p.After event (fun a σ => (f a).After event Q σ) σ := by
  induction p generalizing σ with
  | done a => exact Iff.rfl
  | call c next ih => exact forall_congr' fun r => ih r _
  | edit k v next ih => exact ih _
  | read k next ih => exact and_congr_right fun _ => ih _ σ

/-- Several edits, one after the other. -/
theorem after_puts (es : List (K × Option V))
    {Q : Unit → Path C R K V → Prop} {σ : Path C R K V}
    (hQ : ∀ σ', (∀ k, σ'.edited k ↔ k ∈ es.map Prod.fst ∨ σ.edited k) →
      (σ'.met ↔ σ.met) → Q () σ') : (puts es : Script C R K V Unit).After event Q σ := by
  induction es generalizing σ with
  | nil => exact hQ σ (fun k => by simp) Iff.rfl
  | cons e es ih =>
    refine ih fun σ' hedited hmet => hQ σ' (fun k => (hedited k).trans ?_) hmet
    simp only [Path.edit, List.map_cons, List.mem_cons]
    rw [or_left_comm, or_assoc]

/-- An event is in a trace, behind the exchange `last`. -/
def Met (event : Option (C × R) → C → R → Prop) : Option (C × R) → List (C × R) → Prop
  | _, [] => False
  | last, e :: t => event last e.1 e.2 ∨ Met event (some e) t

variable (answer : M → C → R × M)

/-- A run goes along a path. -/
theorem After.run {p : Script C R K V A} {Q : A → Path C R K V → Prop} {σ : Path C R K V}
    (hp : p.After event Q σ) (m : M) :
    ∃ σ', Q (run answer p m σ.store).value σ' ∧
      (∀ k, σ'.edited k ↔
        k ∈ (run answer p m σ.store).edits.map Prod.fst ∨ σ.edited k) ∧
      (σ'.met ↔ σ.met ∨ Met event σ.last (run answer p m σ.store).trace) := by
  induction p generalizing σ m with
  | done a => exact ⟨σ, hp, fun k => by simp [Script.run], by simp [Script.run, Met]⟩
  | call c next ih =>
    obtain ⟨σ', hQ, hedited, hmet⟩ := ih _ (hp (answer m c).1) (answer m c).2
    exact ⟨σ', hQ, hedited, hmet.trans or_assoc⟩
  | edit k v next ih =>
    obtain ⟨σ', hQ, hedited, hmet⟩ := ih hp m
    refine ⟨σ', hQ, fun k' => (hedited k').trans ?_, hmet⟩
    simp only [Script.run, Path.edit, List.map_cons, List.mem_cons]
    rw [or_left_comm, or_assoc]
  | read k next ih => exact ih _ hp.2 m

/-- Two runs from stores that agree on the edited keys exchange and edit the same, and the
stores they leave agree on a key exactly when it was edited or agreed upon before. -/
theorem After.agree {p : Script C R K V A} {Q : A → Path C R K V → Prop} {σ : Path C R K V}
    (hp : p.After event Q σ) (m : M) {s : K → Option V}
    (h : ∀ k, σ.edited k → σ.store k = s k) :
    (Script.run answer p m σ.store).trace = (Script.run answer p m s).trace ∧
      (Script.run answer p m σ.store).value = (Script.run answer p m s).value ∧
      ∀ k, (Script.run answer p m σ.store).store k = (Script.run answer p m s).store k ↔
        k ∈ (Script.run answer p m σ.store).edits.map Prod.fst ∨ σ.store k = s k := by
  induction p generalizing σ m s with
  | done a => exact ⟨rfl, rfl, fun k => by simp [Script.run]⟩
  | call c next ih =>
    obtain ⟨htrace, hvalue, hstore⟩ := ih _ (hp (answer m c).1) (answer m c).2 h
    exact ⟨congrArg (_ :: ·) htrace, hvalue, hstore⟩
  | edit k v next ih =>
    have hupd : ∀ k', (σ.edit k v).edited k' →
        (σ.edit k v).store k' = Function.update s k v k' := by
      intro k' hk'
      change Function.update σ.store k v k' = _
      by_cases heq : k' = k
      · rw [heq, Function.update_self, Function.update_self]
      · rw [Function.update_of_ne heq, Function.update_of_ne heq]
        exact h k' (hk'.resolve_left heq)
    obtain ⟨htrace, hvalue, hstore⟩ := ih hp m hupd
    refine ⟨htrace, hvalue, fun k' => (hstore k').trans ?_⟩
    simp only [Script.run, Path.edit, List.map_cons, List.mem_cons]
    by_cases heq : k' = k
    · simp [heq]
    · simp [heq]
  | read k next ih =>
    have hread : Script.run answer (read k next) m s =
        Script.run answer (next (σ.store k)) m s := by
      rw [h k hp.1]
      rfl
    rw [hread]
    exact ih _ hp.2 m h

end Paths

end Script

end Tiger.Library
