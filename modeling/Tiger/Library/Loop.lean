import Mathlib.Data.Nat.Notation

/-!
# Loops that may fault

A turn of a loop goes on with another state, ends the loop with a result, or faults: it
touches what it may not. `Ends turn s r` says that the loop ends from `s` with `r` after
finitely many turns and without a fault. One turn of a loop is rewritten with
`ends_iff_of_again`, `ends_iff_of_done` and `not_ends_of_fault`.
-/

set_option autoImplicit false

namespace Tiger.Library

variable {σ ρ : Type}

/-- What one turn of a loop gives. -/
inductive Turn (σ ρ : Type) where
  | again (s : σ)
  | done (r : ρ)
  | fault
  deriving DecidableEq

/-- At most `n` turns of a loop. -/
def loopFor (turn : σ → Turn σ ρ) : ℕ → σ → Turn σ ρ
  | 0, s => .again s
  | n + 1, s =>
    match turn s with
    | .again s' => loopFor turn n s'
    | .done r => .done r
    | .fault => .fault

/-- The loop ends with `r`. -/
def Ends (turn : σ → Turn σ ρ) (s : σ) (r : ρ) : Prop := ∃ n, loopFor turn n s = .done r

variable {turn : σ → Turn σ ρ} {s s' : σ} {r r' : ρ}

/-- A loop that goes on ends as it does from there. -/
theorem ends_iff_of_again (h : turn s = .again s') : Ends turn s r ↔ Ends turn s' r := by
  constructor
  · rintro ⟨n, hn⟩
    cases n with
    | zero => cases hn
    | succ n =>
      rw [loopFor, h] at hn
      exact ⟨n, hn⟩
  · rintro ⟨n, hn⟩
    refine ⟨n + 1, ?_⟩
    rw [loopFor, h]
    exact hn

/-- A loop that is done ends with its value alone. -/
theorem ends_iff_of_done (h : turn s = .done r') : Ends turn s r ↔ r' = r := by
  constructor
  · rintro ⟨n, hn⟩
    cases n with
    | zero => cases hn
    | succ n =>
      rw [loopFor, h] at hn
      exact Turn.done.inj hn
  · rintro rfl
    refine ⟨1, ?_⟩
    rw [loopFor, h]

/-- A loop that fails does not end. -/
theorem not_ends_of_fault (h : turn s = .fault) : ¬ Ends turn s r := by
  rintro ⟨n, hn⟩
  cases n with
  | zero => cases hn
  | succ n =>
    rw [loopFor, h] at hn
    cases hn

end Tiger.Library
