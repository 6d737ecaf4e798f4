import Tiger.Library.Latest
import Tiger.Library.Overwrite
import Tiger.Library.Script

/-!
# Scripts that only write

A script that neither sends nor reads is a list of edits and a value (`writes`). Such
scripts put together are one such script, and so is a loop whose body is one. What they
leave under a key is the latest edit of it (`overwrite_apply`).
-/

set_option autoImplicit false

namespace Tiger.Library.Script

variable {C R K V A B M : Type}

/-- The script that makes some edits and gives a value. -/
def writes (es : List (K × Option V)) (a : A) : Script C R K V A := puts es >>= fun _ => done a

/-- Edits alone are writes with no value. -/
theorem puts_eq_writes (es : List (K × Option V)) :
    (puts es : Script C R K V Unit) = writes es () := by
  unfold writes
  induction es with
  | nil => rfl
  | cons e es ih => exact congrArg (edit e.1 e.2) ih

/-- Edits in sequence. -/
theorem writes_bind (es : List (K × Option V)) {es' : List (K × Option V)} {a : A} {b : B}
    {f : A → Script C R K V B} (h : f a = writes es' b) :
    (writes es a >>= f) = writes (es ++ es') b := by
  unfold writes at h ⊢
  induction es with
  | nil => exact h
  | cons e es ih => exact congrArg (edit e.1 e.2) ih

/-- Edits, and then another value. -/
theorem writes_bind_done (es : List (K × Option V)) (a : A) (g : A → B) :
    ((writes es a : Script C R K V A) >>= fun a => done (g a)) = writes es (g a) := by
  unfold writes
  induction es with
  | nil => rfl
  | cons e es ih => exact congrArg (edit e.1 e.2) ih

/-- A loop whose body only writes, the same whatever the value so far. -/
theorem foldlM_writes {f : B → A → Script C R K V B} {w : A → List (K × Option V)}
    {g : B → A → B} (h : ∀ b a, f b a = writes (w a) (g b a)) (l : List A) (b : B) :
    l.foldlM f b = writes (l.flatMap w) (l.foldl g b) := by
  induction l generalizing b with
  | nil => rfl
  | cons a l ih =>
    rw [List.foldlM_cons, h, List.flatMap_cons, List.foldl_cons]
    exact writes_bind (w a) (ih (g b a))

section Run

variable [DecidableEq K] (answer : M → C → R × M)

/-- A script of writes makes its edits and no call. -/
@[simp] theorem run_writes (es : List (K × Option V)) (a : A) (m : M) (s : K → Option V) :
    run answer (writes es a) m s = ⟨[], es, a, m, overwrite es s⟩ := by
  unfold writes
  induction es generalizing s with
  | nil => rfl
  | cons e es ih =>
    change (let o := run answer (puts es >>= fun _ => done a) m (Function.update s e.1 e.2)
      { o with edits := e :: o.edits }) = _
    rw [ih]
    rfl

/-- A command, and edits that depend on the reply. -/
theorem run_call_writes {c : C} {next : R → Script C R K V A} {m : M}
    {es : List (K × Option V)} {a : A} (h : next (answer m c).1 = writes es a)
    (s : K → Option V) :
    run answer (call c next) m s =
      ⟨[(c, (answer m c).1)], es, a, (answer m c).2, overwrite es s⟩ := by
  rw [run, h, run_writes]

end Run

end Tiger.Library.Script

namespace Tiger.Library

/-! ## The latest edit -/

section Latest

variable {K V : Type} [DecidableEq K]

/-- What an edit says about a key. -/
def editOf (k : K) (e : K × V) : Option V := if e.1 = k then some e.2 else none

/-- A value that is written is its edit. -/
@[simp] theorem editOf_self (k : K) (v : V) : editOf k (k, v) = some v := if_pos rfl

/-- What edits leave under a key is the latest one of it. -/
theorem overwrite_apply (k : K) (es : List (K × V)) (s : K → V) :
    overwrite es s k = (latest (editOf k) es).getD (s k) := by
  refine latest_run (R := fun (s : K → V) v => s k = v) (fun s v e hs => ?_) rfl es
  by_cases hk : e.1 = k
  · rw [← hk, editOf, if_pos rfl, Function.update_self]
    rfl
  · rw [editOf, if_neg hk, Function.update_of_ne (Ne.symm hk)]
    exact hs

end Latest

end Tiger.Library
