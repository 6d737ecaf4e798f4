import Mathlib.Logic.Function.Basic

/-!
# Writing a list of values

A list of keys and values is written into a register, one after the other, and every
write that finds the value already there is a write that changes nothing. A second pass
over the same list changes nothing exactly when the list gives no key two values
(`not_changes_overwrite_iff`); otherwise no pass ever comes to rest.
-/

set_option autoImplicit false

namespace Tiger.Library

variable {K V : Type} [DecidableEq K] {l : List (K × V)} {f : K → V}

/-- The register after a pass. -/
def overwrite (l : List (K × V)) (f : K → V) : K → V :=
  l.foldl (fun f e => Function.update f e.1 e.2) f

/-- Some write of a pass changes something. -/
def Changes : List (K × V) → (K → V) → Prop
  | [], _ => False
  | e :: l, f => f e.1 ≠ e.2 ∨ Changes l (Function.update f e.1 e.2)

instance decidableChanges [DecidableEq V] :
    (l : List (K × V)) → (f : K → V) → Decidable (Changes l f)
  | [], _ => instDecidableFalse
  | e :: l, f =>
    have := decidableChanges l (Function.update f e.1 e.2)
    inferInstanceAs (Decidable (f e.1 ≠ e.2 ∨ Changes l (Function.update f e.1 e.2)))

/-- No key has two values. -/
def SingleValued (l : List (K × V)) : Prop := ∀ e ∈ l, ∀ e' ∈ l, e.1 = e'.1 → e.2 = e'.2

/-- Nothing written leaves the function as it is. -/
@[simp] theorem overwrite_nil (f : K → V) : overwrite [] f = f := rfl

/-- The first pair is written first. -/
@[simp] theorem overwrite_cons (e : K × V) (l : List (K × V)) (f : K → V) :
    overwrite (e :: l) f = overwrite l (Function.update f e.1 e.2) := rfl

/-- Nothing written changes nothing. -/
@[simp] theorem not_changes_nil (f : K → V) : ¬ Changes [] f := id

/-- Writing pairs changes something when the first one does or, behind it, the others. -/
theorem changes_cons (e : K × V) (l : List (K × V)) (f : K → V) :
    Changes (e :: l) f ↔ f e.1 ≠ e.2 ∨ Changes l (Function.update f e.1 e.2) := Iff.rfl

/-- Writing pairs changes nothing exactly when every pair is in the function. -/
theorem not_changes_iff : ¬ Changes l f ↔ ∀ e ∈ l, f e.1 = e.2 := by
  induction l generalizing f with
  | nil => simp
  | cons e l ih =>
    rw [changes_cons, not_or, not_not, List.forall_mem_cons, ih]
    refine and_congr_right fun he => ?_
    have hsame : Function.update f e.1 e.2 = f := by
      rw [← he]
      exact Function.update_eq_self e.1 f
    rw [hsame]

/-- A key that is not written keeps its value. -/
theorem overwrite_of_notMem {k : K} (h : ∀ e ∈ l, e.1 ≠ k) : overwrite l f k = f k := by
  induction l generalizing f with
  | nil => rfl
  | cons e l ih =>
    rw [overwrite_cons, ih fun e' he' => h e' (List.mem_cons_of_mem _ he')]
    exact Function.update_of_ne (h e List.mem_cons_self).symm _ _

/-- A key that is written has a value from the list. -/
theorem exists_overwrite_eq {k : K} (hk : ∃ e ∈ l, e.1 = k) :
    ∃ e ∈ l, e.1 = k ∧ overwrite l f k = e.2 := by
  induction l generalizing f with
  | nil =>
    obtain ⟨e, he, -⟩ := hk
    exact absurd he List.not_mem_nil
  | cons e l ih =>
    rw [overwrite_cons]
    by_cases hlater : ∃ e' ∈ l, e'.1 = k
    · obtain ⟨e', he', hkey, hvalue⟩ := ih (f := Function.update f e.1 e.2) hlater
      exact ⟨e', List.mem_cons_of_mem _ he', hkey, hvalue⟩
    · -- the last write of the key is the head of the list
      have hhead : e.1 = k := by
        obtain ⟨e', he', hkey⟩ := hk
        rcases List.mem_cons.mp he' with rfl | he'
        · exact hkey
        · exact absurd ⟨e', he', hkey⟩ hlater
      refine ⟨e, List.mem_cons_self, hhead, ?_⟩
      rw [overwrite_of_notMem fun e' he' hkey => hlater ⟨e', he', hkey⟩, ← hhead]
      exact Function.update_self e.1 e.2 f

/-- A second pass changes nothing exactly when no key has two values. -/
theorem not_changes_overwrite_iff : ¬ Changes l (overwrite l f) ↔ SingleValued l := by
  rw [not_changes_iff]
  constructor
  · intro h e he e' he' hkey
    rw [← h e he, ← h e' he', hkey]
  · intro h e he
    obtain ⟨e', he', hkey, hvalue⟩ := exists_overwrite_eq (f := f) ⟨e, he, rfl⟩
    rw [hvalue]
    exact h e' he' e he hkey

end Tiger.Library
