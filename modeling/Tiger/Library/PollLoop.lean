import Mathlib.Data.List.Induction
import Mathlib.Data.List.TakeWhile

/-!
# Polling loops

A loop that polls for ever and leaves on some poll is a partial step `turn`: the
state to go on with, or `none` when this poll ends the loop. `stateAfter` is the
state after a list of polls, `endsAt` the poll at which the loop ends.

`endsAt_eq_some_iff` reads `endsAt` through `stateAfter`, so a loop is understood
from an invariant of its state and the polls on which `turn` gives `none`.
`trailing` is the length of the run a list ends with.
-/

set_option autoImplicit false

namespace Tiger.Library

variable {α σ : Type}

/-- The state after all polls, `none` when one of them ended the loop. -/
def stateAfter (turn : α → σ → Option σ) : σ → List α → Option σ
  | s, [] => some s
  | s, a :: polls =>
    match turn a s with
    | none => none
    | some s' => stateAfter turn s' polls

/-- The index of the poll at which the loop ends. -/
def endsAt (turn : α → σ → Option σ) : σ → List α → Option ℕ
  | _, [] => none
  | s, a :: polls =>
    match turn a s with
    | none => some 0
    | some s' => (endsAt turn s' polls).map (· + 1)

/-- The state after one poll more. -/
theorem stateAfter_concat (turn : α → σ → Option σ) (s : σ) (polls : List α) (a : α) :
    stateAfter turn s (polls ++ [a]) = (stateAfter turn s polls).bind (turn a) := by
  induction polls generalizing s with
  | nil =>
    simp only [List.nil_append, stateAfter, Option.bind_some]
    cases turn a s <;> rfl
  | cons b polls ih =>
    simp only [List.cons_append, stateAfter]
    cases turn b s with
    | none => rfl
    | some s' => exact ih s'

/-- The loop ends at poll `k` when the polls before it leave a state on which poll `k`
ends it. -/
theorem endsAt_eq_some_iff (turn : α → σ → Option σ) (s : σ) (polls : List α) (k : ℕ) :
    endsAt turn s polls = some k ↔
      ∃ s' a, stateAfter turn s (polls.take k) = some s' ∧ polls[k]? = some a ∧
        turn a s' = none := by
  induction polls generalizing s k with
  | nil => simp [endsAt]
  | cons b polls ih =>
    unfold endsAt
    cases hturn : turn b s with
    | none =>
      cases k with
      | zero => simp [stateAfter, hturn]
      | succ k => simp [stateAfter, hturn]
    | some s' =>
      cases k with
      | zero => simp [stateAfter, hturn]
      | succ k => simpa [stateAfter, hturn] using ih s' k

section Trailing

variable [DecidableEq α]

/-- The length of the run of `x` a list ends with. -/
def trailing (x : α) (l : List α) : ℕ := (l.reverse.takeWhile (· = x)).length

/-- No polls end in no run. -/
@[simp] theorem trailing_nil (x : α) : trailing x [] = 0 := rfl

/-- One more of the same makes the run longer. -/
theorem trailing_concat_self (x : α) (l : List α) :
    trailing x (l ++ [x]) = trailing x l + 1 := by
  simp [trailing]

/-- Anything else ends the run. -/
theorem trailing_concat_of_ne {x y : α} (h : y ≠ x) (l : List α) :
    trailing x (l ++ [y]) = 0 := by
  simp [trailing, h]

/-- The run a list ends with is no longer than the list has members of its kind. -/
theorem trailing_le_count (x : α) (l : List α) : trailing x l ≤ l.count x := by
  induction l using List.reverseRecOn with
  | nil => exact le_rfl
  | append_singleton l y ih =>
    rw [List.count_append]
    by_cases hy : y = x
    · subst hy
      rw [trailing_concat_self, List.count_singleton_self]
      omega
    · rw [trailing_concat_of_ne hy]
      exact Nat.zero_le _

/-- A list with more than `n` members `x` among its first `k` has one with exactly `n` of
them before it. -/
theorem exists_count_take_eq (x : α) (l : List α) {n k : ℕ} (h : n < (l.take k).count x) :
    ∃ m < k, l[m]? = some x ∧ (l.take m).count x = n := by
  induction k with
  | zero => simp at h
  | succ k ih =>
    by_cases hbefore : n < (l.take k).count x
    · obtain ⟨m, hm, hfound⟩ := ih hbefore
      exact ⟨m, by omega, hfound⟩
    · rw [List.take_add_one, List.count_append] at h
      cases hk : l[k]? with
      | none => simp [hk] at h; omega
      | some y =>
        rw [hk, Option.toList_some, List.count_singleton] at h
        by_cases hy : y = x
        · subst hy
          rw [beq_self_eq_true, if_pos rfl] at h
          exact ⟨k, by omega, hk, by omega⟩
        · have hne : ¬ (y == x) = true := fun heq => hy (beq_iff_eq.mp heq)
          rw [if_neg hne] at h
          omega

/-- A list ends with a run of `m` exactly when its last `m` members are all `x`. -/
theorem le_trailing_iff (x : α) (l : List α) (m : ℕ) :
    m ≤ trailing x l ↔
      m ≤ l.length ∧ ∀ j, l.length - m ≤ j → j < l.length → l[j]? = some x := by
  induction l using List.reverseRecOn generalizing m with
  | nil => simp
  | append_singleton l y ih =>
    have hlast : (l ++ [y])[l.length]? = some y := by simp
    cases m with
    | zero =>
      simp only [Nat.zero_le, true_and, true_iff, Nat.sub_zero]
      intro j hlow hhigh
      omega
    | succ m =>
      rw [List.length_append, List.length_singleton]
      by_cases hy : y = x
      · subst hy
        rw [trailing_concat_self, Nat.add_le_add_iff_right, ih m, Nat.add_le_add_iff_right,
          Nat.add_sub_add_right]
        refine and_congr_right fun _ => ?_
        constructor
        · intro hrun j hlow hhigh
          rcases Nat.lt_succ_iff_lt_or_eq.mp hhigh with hlt | rfl
          · rw [List.getElem?_append_left hlt]
            exact hrun j hlow hlt
          · exact hlast
        · intro hrun j hlow hhigh
          rw [← List.getElem?_append_left hhigh]
          exact hrun j hlow (by omega)
      · rw [trailing_concat_of_ne hy]
        constructor
        · intro h
          omega
        · rintro ⟨-, hrun⟩
          have hbad := hrun l.length (by omega) (by omega)
          rw [hlast] at hbad
          exact absurd (Option.some.inj hbad) hy

end Trailing

end Tiger.Library
