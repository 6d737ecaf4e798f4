import Mathlib.Logic.Function.Basic

/-!
# Scripts

A script sends commands to a device and edits a store on the way. What it does next
may depend on every reply and on every value it reads back from the store. A device
is any machine `answer` that takes a command to a reply and a next state.

The modules behind this one have judgements that follow a script along all its paths. Each
has a rule for sequencing, so that a judgement about an operation is put together from
its steps, and a theorem about runs.
-/

set_option autoImplicit false

namespace Tiger.Library

/-- A script over commands `C` with replies `R`, and a store of values `V` under keys `K`.
An edit with `none` deletes the key. -/
inductive Script (C R K V A : Type) where
  | done (a : A)
  | call (c : C) (next : R → Script C R K V A)
  | edit (k : K) (v : Option V) (next : Script C R K V A)
  | read (k : K) (next : Option V → Script C R K V A)

namespace Script

variable {C R K V A B M : Type}

/-- Go on with the value of a script. -/
protected def bind : Script C R K V A → (A → Script C R K V B) → Script C R K V B
  | done a, f => f a
  | call c next, f => call c fun r => (next r).bind f
  | edit k v next, f => edit k v (next.bind f)
  | read k next, f => read k fun x => (next x).bind f

instance : Monad (Script C R K V) where
  pure := done
  bind := Script.bind

/-- Send a command and take its reply. -/
def send (c : C) : Script C R K V R := call c done

/-- Edit one key. -/
def put (k : K) (v : Option V) : Script C R K V Unit := edit k v (done ())

/-- Edit several keys, one after the other. -/
def puts : List (K × Option V) → Script C R K V Unit
  | [] => done ()
  | (k, v) :: es => edit k v (puts es)

/-- Read one key. -/
def get (k : K) : Script C R K V (Option V) := read k done

/-- A value is the script that is done with it. -/
@[simp] theorem pure_eq (a : A) : (pure a : Script C R K V A) = done a := rfl

/-- A script that is done goes on with its value. -/
@[simp] theorem done_bind (a : A) (f : A → Script C R K V B) : (done a >>= f) = f a := rfl

/-- What follows a call follows each of its answers. -/
@[simp] theorem call_bind (c : C) (next : R → Script C R K V A) (f : A → Script C R K V B) :
    (call c next >>= f) = call c fun r => next r >>= f := rfl

/-- What follows an edit follows what stands behind it. -/
@[simp] theorem edit_bind (k : K) (v : Option V) (next : Script C R K V A)
    (f : A → Script C R K V B) : (edit k v next >>= f) = edit k v (next >>= f) := rfl

/-- What follows a read follows each value that is read. -/
@[simp] theorem read_bind (k : K) (next : Option V → Script C R K V A)
    (f : A → Script C R K V B) : (read k next >>= f) = read k fun x => next x >>= f := rfl

/-- Getting a value is reading it and going on. -/
@[simp] theorem get_bind (k : K) (f : Option V → Script C R K V B) :
    (get k >>= f) = read k f := rfl

/-- Sequencing is associative. -/
theorem bind_assoc (p : Script C R K V A) {D : Type} (f : A → Script C R K V B)
    (g : B → Script C R K V D) : (p >>= f >>= g) = p >>= fun a => f a >>= g := by
  induction p with
  | done a => rfl
  | call c next ih => exact congrArg (call c) (funext ih)
  | edit k v next ih => exact congrArg (edit k v) ih
  | read k next ih => exact congrArg (read k) (funext ih)

/-! ## Runs -/

/-- What a run leaves: the exchanges and the edits in their order, the value, the state of
the device and the store. -/
structure Outcome (C R K V A M : Type) where
  trace : List (C × R)
  edits : List (K × Option V)
  value : A
  device : M
  store : K → Option V

section Run

variable [DecidableEq K] (answer : M → C → R × M)

/-- Run a script against a device. -/
def run : Script C R K V A → M → (K → Option V) → Outcome C R K V A M
  | done a, m, s => ⟨[], [], a, m, s⟩
  | call c next, m, s =>
    let o := run (next (answer m c).1) (answer m c).2 s
    { o with trace := (c, (answer m c).1) :: o.trace }
  | edit k v next, m, s =>
    let o := run next m (Function.update s k v)
    { o with edits := (k, v) :: o.edits }
  | read k next, m, s => run (next (s k)) m s

/-- A script that is done calls nothing and leaves everything as it is. -/
@[simp] theorem run_done (a : A) (m : M) (s : K → Option V) :
    run answer (done a : Script C R K V A) m s = ⟨[], [], a, m, s⟩ := rfl

/-- The second part of a sequence runs where the first part ended. -/
theorem run_bind (p : Script C R K V A) (f : A → Script C R K V B) (m : M)
    (s : K → Option V) :
    run answer (p >>= f) m s =
      let o := run answer p m s
      let o' := run answer (f o.value) o.device o.store
      { o' with trace := o.trace ++ o'.trace, edits := o.edits ++ o'.edits } := by
  induction p generalizing m s with
  | done a => rfl
  | call c next ih =>
    rw [call_bind, run, ih]
    rfl
  | edit k v next ih =>
    rw [edit_bind, run, ih]
    rfl
  | read k next ih =>
    rw [read_bind, run, ih]
    rfl

end Run

end Script

end Tiger.Library
