import Mathlib.Data.Fintype.EquivFin
import Mathlib.Logic.Embedding.Basic

/-!
# JSON values

A JSON value with strings from `K` and numbers from `N`. The keys of an object stand in the
order in which a loop `for .. in` visits them, the integer ones first and rising, and none
stands twice. `Equal` is structural equality, in which the order of the keys does not count;
it is an equivalence (`equal_equivalence`).
-/

set_option autoImplicit false

namespace Tiger.Library

/-- A JSON value. -/
inductive Json (K N : Type) where
  | null
  | bool (b : Bool)
  | num (x : N)
  | str (s : K)
  | arr (n : ℕ) (elems : Fin n → Json K N)
  | obj (n : ℕ) (keys : Fin n ↪ K) (vals : Fin n → Json K N)

namespace Json

variable {K N : Type}

/-- Structural equality. -/
def Equal : Json K N → Json K N → Prop
  | .null, .null => True
  | .bool b, .bool c => b = c
  | .num x, .num y => x = y
  | .str s, .str t => s = t
  | .arr n elems, .arr m elems' => ∃ h : n = m, ∀ i, Equal (elems i) (elems' (i.cast h))
  | .obj n keys vals, .obj m keys' vals' =>
    n = m ∧ ∀ i, ∃ j, keys i = keys' j ∧ Equal (vals i) (vals' j)
  | _, _ => False

/-- A value equals itself. -/
theorem Equal.refl (a : Json K N) : Equal a a := by
  induction a with
  | null => trivial
  | bool b => rfl
  | num x => rfl
  | str s => rfl
  | arr n elems ih => exact ⟨rfl, ih⟩
  | obj n keys vals ih => exact ⟨rfl, fun i => ⟨i, rfl, ih i⟩⟩

/-- Equality does not depend on the sides. -/
theorem Equal.symm {a b : Json K N} (h : Equal a b) : Equal b a := by
  induction a generalizing b with
  | null => cases b <;> exact h
  | bool x => cases b <;> first | exact Eq.symm h | exact h.elim
  | num x => cases b <;> first | exact Eq.symm h | exact h.elim
  | str s => cases b <;> first | exact Eq.symm h | exact h.elim
  | arr n elems ih =>
    cases b with
    | arr m elems' =>
      obtain ⟨rfl, helems⟩ := h
      exact ⟨rfl, fun i => ih i (helems i)⟩
    | _ => exact h.elim
  | obj n keys vals ih =>
    cases b with
    | obj m keys' vals' =>
      obtain ⟨rfl, hvals⟩ := h
      choose at_ hkeys hequal using hvals
      -- every key of the right object is met, since both have as many
      have hinj : Function.Injective at_ := by
        intro i i' heq
        apply keys.injective
        rw [hkeys i, hkeys i', heq]
      have hsurj : Function.Surjective at_ := Finite.surjective_of_injective hinj
      refine ⟨rfl, fun j => ?_⟩
      obtain ⟨i, rfl⟩ := hsurj j
      exact ⟨i, (hkeys i).symm, ih i (hequal i)⟩
    | _ => exact h.elim

/-- Values equal to one in between are equal. -/
theorem Equal.trans {a b c : Json K N} (hab : Equal a b) (hbc : Equal b c) : Equal a c := by
  induction a generalizing b c with
  | null =>
    cases b with
    | null => exact hbc
    | _ => exact hab.elim
  | bool x =>
    cases b with
    | bool y => exact (show x = y from hab) ▸ hbc
    | _ => exact hab.elim
  | num x =>
    cases b with
    | num y => exact (show x = y from hab) ▸ hbc
    | _ => exact hab.elim
  | str s =>
    cases b with
    | str t => exact (show s = t from hab) ▸ hbc
    | _ => exact hab.elim
  | arr n elems ih =>
    cases b with
    | arr m elems' =>
      obtain ⟨rfl, hleft⟩ := hab
      cases c with
      | arr k elems'' =>
        obtain ⟨rfl, hright⟩ := hbc
        exact ⟨rfl, fun i => ih i (hleft i) (hright i)⟩
      | _ => exact hbc.elim
    | _ => exact hab.elim
  | obj n keys vals ih =>
    cases b with
    | obj m keys' vals' =>
      cases c with
      | obj k keys'' vals'' =>
        refine ⟨hab.1.trans hbc.1, fun i => ?_⟩
        obtain ⟨j, hkey, hval⟩ := hab.2 i
        obtain ⟨j', hkey', hval'⟩ := hbc.2 j
        exact ⟨j', hkey.trans hkey', ih i hval hval'⟩
      | _ => exact hbc.elim
    | _ => exact hab.elim

/-- Structural equality is an equivalence. -/
theorem equal_equivalence : Equivalence (Equal (K := K) (N := N)) :=
  ⟨Equal.refl, Equal.symm, Equal.trans⟩

end Json

end Tiger.Library
