/-!
# The latest decision

Of a list of events some decide a value and the others leave it as it is. What stands
at the end is the latest decision (`latest`), or the value from before the list. A
state that takes the decisions one by one agrees with it (`latest_run`).
-/

set_option autoImplicit false

namespace Tiger.Library

variable {α β γ σ : Type} {w : α → Option β}

/-- What the last of the events that decide says. -/
def latest (w : α → Option β) (l : List α) : Option β := (l.filterMap w).getLast?

/-- In no elements nothing is written. -/
@[simp] theorem latest_nil (w : α → Option β) : latest w [] = none := rfl

/-- The second list is written over the first. -/
@[simp] theorem latest_append (w : α → Option β) (l m : List α) :
    latest w (l ++ m) = (latest w m).or (latest w l) := by
  unfold latest
  rw [List.filterMap_append, List.getLast?_append]

/-- The first element counts where no later one writes. -/
@[simp] theorem latest_cons (w : α → Option β) (a : α) (l : List α) :
    latest w (a :: l) = (latest w l).or (w a) := by
  have hone : latest w [a] = w a := by
    cases h : w a with
    | none => simp [latest, h]
    | some b => simp [latest, h]
  rw [← List.singleton_append, latest_append, hone]

/-- Elements that write nothing leave nothing. -/
theorem latest_eq_none {l : List α} (h : ∀ a ∈ l, w a = none) : latest w l = none := by
  unfold latest
  rw [List.filterMap_eq_nil_iff.mpr h]
  rfl

/-- The latest decision is one of the events. -/
theorem exists_of_latest {l : List α} {b : β} (h : latest w l = some b) :
    ∃ a ∈ l, w a = some b :=
  List.mem_filterMap.mp (List.mem_of_getLast? h)

/-- Nothing is written exactly when no element writes. -/
theorem latest_eq_none_iff {l : List α} : latest w l = none ↔ ∀ a ∈ l, w a = none := by
  unfold latest
  rw [List.getLast?_eq_none_iff, List.filterMap_eq_nil_iff]

/-- Events that come in groups are decided by the groups. -/
theorem latest_flatMap (w : α → Option β) (g : γ → List α) (l : List γ) :
    latest w (l.flatMap g) = latest (fun c => latest w (g c)) l := by
  induction l with
  | nil => rfl
  | cons c l ih => rw [List.flatMap_cons, latest_append, latest_cons, ih]

/-- A decision that is put in another form. -/
theorem latest_map (f : β → γ) (w : α → Option β) (l : List α) :
    latest (fun a => (w a).map f) l = (latest w l).map f := by
  unfold latest
  rw [← List.getLast?_map, List.map_filterMap]

/-- What one event keeps of a state and the value decided last, a list of events keeps. -/
theorem latest_run {R : σ → β → Prop} {step : σ → α → σ}
    (hstep : ∀ s b a, R s b → R (step s a) ((w a).getD b)) {s : σ} {b : β} (h : R s b)
    (l : List α) : R (l.foldl step s) ((latest w l).getD b) := by
  induction l generalizing s b with
  | nil => exact h
  | cons a l ih =>
    have hrest : ((latest w l).or (w a)).getD b = (latest w l).getD ((w a).getD b) := by
      cases latest w l with
      | none => rfl
      | some b' => rfl
    rw [List.foldl_cons, latest_cons, hrest]
    exact ih (hstep s b a h)

end Tiger.Library
