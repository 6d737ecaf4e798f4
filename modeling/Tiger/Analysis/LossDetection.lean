import Mathlib.Data.Nat.Find
import Tiger.Model.Keeplive

/-!
# Loss detection of the keeplive services

The station counts the failed polls since the last good one, so it declares the
connection lost at the poll that completes the first run of eleven failed polls
(`sta_lost_iff`). The netcard device never sets its counter back, so it does so at
the eleventh failed poll of all (`netcard_lost_iff`).

`detects_loss_iff` is where the two meet: the eleventh failed poll, if there is
one, has to stand at the end of eleven failed polls in a row.
-/

set_option autoImplicit false

namespace Tiger.Analysis.LossDetection

open Tiger.Library Tiger.Model.Keeplive

/-- Poll `k` completes a run of eleven failed polls. -/
def CompletesRun (polls : List Poll) (k : ℕ) : Prop :=
  10 ≤ k ∧ ∀ j, k - 10 ≤ j → j ≤ k → polls[j]? = some .broke

/-- The connection is declared lost exactly at the first poll that completes a run. -/
def LostAtRuns (lostAt : Option ℕ) (polls : List Poll) : Prop :=
  ∀ k, lostAt = some k ↔ CompletesRun polls k ∧ ∀ k' < k, ¬ CompletesRun polls k'

/-- Loss detection of both services on the same polls. -/
def DetectsLoss (c : WifiComs) (object : String) (ssidDisable : Option String)
    (polls : List Poll) : Prop :=
  LostAtRuns (netcardLostAt polls) polls ∧
    LostAtRuns (staLostAt c object ssidDisable polls) polls ∧
    netcardLostAt polls = staLostAt c object ssidDisable polls

/-- The eleventh failed poll, if there is one, follows ten failed polls in a row. -/
def EleventhInARow (polls : List Poll) : Prop :=
  ∀ k, polls[k]? = some .broke → (polls.take k).count .broke = 10 → CompletesRun polls k

/-- A run is completed where eleven failed polls end. -/
theorem completesRun_iff (polls : List Poll) (k : ℕ) (hk : k < polls.length) :
    CompletesRun polls k ↔ 11 ≤ trailing .broke (polls.take (k + 1)) := by
  have hlen : (polls.take (k + 1)).length = k + 1 := by simp; omega
  rw [le_trailing_iff, hlen]
  unfold CompletesRun
  constructor
  · rintro ⟨hten, hrun⟩
    refine ⟨by omega, fun j hlow hhigh => ?_⟩
    rw [List.getElem?_take_of_lt hhigh]
    exact hrun j (by omega) (by omega)
  · rintro ⟨hten, hrun⟩
    refine ⟨by omega, fun j hlow hhigh => ?_⟩
    rw [← List.getElem?_take_of_lt (show j < k + 1 by omega)]
    exact hrun j (by omega) (by omega)

/-- A run is completed at a poll. -/
theorem lt_length_of_completesRun {polls : List Poll} {k : ℕ} (h : CompletesRun polls k) :
    k < polls.length := by
  have hlast := h.2 k (by omega) le_rfl
  exact (List.getElem?_eq_some_iff.mp hlast).1

/-- Where a run is completed, eleven polls have failed. -/
theorem eleven_le_count {polls : List Poll} {k : ℕ} (h : CompletesRun polls k) :
    11 ≤ (polls.take (k + 1)).count .broke :=
  ((completesRun_iff polls k (lt_length_of_completesRun h)).mp h).trans
    (trailing_le_count Poll.broke _)

/-- A run among the first polls is completed at one of them. -/
theorem lt_of_completesRun_take {polls : List Poll} {n k : ℕ}
    (h : CompletesRun (polls.take n) k) : k < n := by
  have hlt := lt_length_of_completesRun h
  rw [List.length_take] at hlt
  omega

/-- A run among the first polls is a run of all. -/
theorem completesRun_of_take {polls : List Poll} {n k : ℕ}
    (h : CompletesRun (polls.take n) k) : CompletesRun polls k := by
  have hkn := lt_of_completesRun_take h
  refine ⟨h.1, fun j hlow hhigh => ?_⟩
  rw [← List.getElem?_take_of_lt (show j < n by omega)]
  exact h.2 j hlow hhigh

/-- The polls up to and with poll `k`. -/
theorem take_succ_eq_concat {polls : List Poll} {k : ℕ} {a : Poll} (h : polls[k]? = some a) :
    polls.take (k + 1) = polls.take k ++ [a] := by
  rw [List.take_add_one, h]
  rfl

/-! ## The station -/

/-- The counter `i` of the station is the length of the run of failed polls so far. -/
theorem sta_counter {c : WifiComs} {object : String} {ssidDisable : Option String}
    {polls : List Poll} {st : StaState}
    (h : stateAfter (staTurn c object ssidDisable) ⟨0, 0, []⟩ polls = some st) :
    st.i = trailing .broke polls := by
  induction polls using List.reverseRecOn generalizing st with
  | nil =>
    cases h
    rfl
  | append_singleton polls a ih =>
    rw [stateAfter_concat] at h
    obtain ⟨st', hbefore, hturn⟩ := Option.bind_eq_some_iff.mp h
    have hcount := ih hbefore
    cases a with
    | connected =>
      cases hturn
      rw [trailing_concat_of_ne (by decide)]
    | broke =>
      rw [staTurn_broke] at hturn
      by_cases hten : 10 ≤ st'.i
      · rw [if_pos hten] at hturn
        cases hturn
      · rw [if_neg hten] at hturn
        cases hturn
        rw [trailing_concat_self, ← hcount]

/-- The station goes on as long as no run is completed. -/
theorem sta_goes_on (c : WifiComs) (object : String) (ssidDisable : Option String)
    {polls : List Poll} (h : ∀ k, ¬ CompletesRun polls k) (n : ℕ) :
    ∃ st, stateAfter (staTurn c object ssidDisable) ⟨0, 0, []⟩ (polls.take n) = some st := by
  induction n with
  | zero => exact ⟨_, rfl⟩
  | succ n ih =>
    obtain ⟨st, hst⟩ := ih
    by_cases hn : n < polls.length
    · have hpoll : polls[n]? = some polls[n] := List.getElem?_eq_getElem hn
      rw [take_succ_eq_concat hpoll, stateAfter_concat, hst]
      cases ha : polls[n] with
      | connected => exact ⟨_, rfl⟩
      | broke =>
        have hshort : ¬ 11 ≤ trailing .broke (polls.take (n + 1)) :=
          fun hlong => h n ((completesRun_iff polls n hn).mpr hlong)
        rw [take_succ_eq_concat hpoll, ha, trailing_concat_self, ← sta_counter hst] at hshort
        refine ⟨{ st with i := st.i + 1 }, ?_⟩
        exact if_neg (by omega)
    · rw [List.take_of_length_le (by omega)] at hst ⊢
      exact ⟨st, hst⟩

/-- **The station.** It declares the connection lost exactly at the first completed run. -/
theorem sta_lost_iff (c : WifiComs) (object : String) (ssidDisable : Option String)
    (polls : List Poll) : LostAtRuns (staLostAt c object ssidDisable polls) polls := by
  have hfirst : ∀ k, CompletesRun polls k → (∀ k' < k, ¬ CompletesRun polls k') →
      staLostAt c object ssidDisable polls = some k := by
    intro k hrun hmin
    have hpoll : polls[k]? = some .broke := hrun.2 k (by omega) le_rfl
    have hlong := (completesRun_iff polls k (lt_length_of_completesRun hrun)).mp hrun
    have hnone : ∀ k', ¬ CompletesRun (polls.take k) k' := fun k' h =>
      hmin k' (lt_of_completesRun_take h) (completesRun_of_take h)
    obtain ⟨st, hst⟩ := sta_goes_on c object ssidDisable hnone k
    rw [List.take_take, Nat.min_self] at hst
    rw [take_succ_eq_concat hpoll, trailing_concat_self, ← sta_counter hst] at hlong
    refine (endsAt_eq_some_iff _ _ _ _).mpr ⟨st, .broke, hst, hpoll, ?_⟩
    rw [staTurn_broke, if_pos (by omega)]
  intro k
  constructor
  · intro hlost
    obtain ⟨st, a, hst, hpoll, hturn⟩ := (endsAt_eq_some_iff _ _ _ _).mp hlost
    have hrun : CompletesRun polls k := by
      cases a with
      | connected => cases hturn
      | broke =>
        rw [staTurn_broke] at hturn
        by_cases hten : 10 ≤ st.i
        · have hk := (List.getElem?_eq_some_iff.mp hpoll).1
          rw [completesRun_iff polls k hk, take_succ_eq_concat hpoll, trailing_concat_self,
            ← sta_counter hst]
          omega
        · rw [if_neg hten] at hturn
          cases hturn
    refine ⟨hrun, fun k' hlt hrun' => ?_⟩
    -- the first completed run would have ended the loop before `k`
    classical
    have hex : ∃ k', CompletesRun polls k' := ⟨k', hrun'⟩
    have hfound := hfirst (Nat.find hex) (Nat.find_spec hex) fun _ h => Nat.find_min hex h
    have hle : Nat.find hex ≤ k' := Nat.find_min' hex hrun'
    rw [hlost] at hfound
    have hsame : k = Nat.find hex := Option.some.inj hfound
    omega
  · rintro ⟨hrun, hmin⟩
    exact hfirst k hrun hmin

/-! ## The netcard device -/

/-- The counter `i` of the netcard device counts all failed polls. -/
theorem netcard_counter (polls : List Poll) :
    stateAfter netcardTurn 0 polls =
      if polls.count .broke ≤ 10 then some (polls.count .broke) else none := by
  induction polls using List.reverseRecOn with
  | nil => rfl
  | append_singleton polls a ih =>
    rw [stateAfter_concat, ih, List.count_append]
    cases a with
    | connected =>
      by_cases hten : polls.count .broke ≤ 10
      · simp [hten, netcardTurn]
      · simp [hten]
    | broke =>
      by_cases hten : polls.count .broke ≤ 10
      · rw [if_pos hten, Option.bind_some, netcardTurn_broke, List.count_singleton_self]
        by_cases hnine : polls.count .broke + 1 ≤ 10
        · rw [if_neg (by omega), if_pos hnine]
        · rw [if_pos (by omega), if_neg hnine]
      · have hmore : ¬ polls.count .broke + 1 ≤ 10 := by omega
        simp [hten, hmore]

/-- **The netcard device.** It declares the connection lost exactly at the eleventh failed
poll of all. -/
theorem netcard_lost_iff (polls : List Poll) (k : ℕ) :
    netcardLostAt polls = some k ↔
      polls[k]? = some .broke ∧ (polls.take k).count .broke = 10 := by
  unfold netcardLostAt
  rw [endsAt_eq_some_iff]
  constructor
  · rintro ⟨i, a, hstate, hpoll, hturn⟩
    rw [netcard_counter] at hstate
    cases a with
    | connected => cases hturn
    | broke =>
      refine ⟨hpoll, ?_⟩
      rw [netcardTurn_broke] at hturn
      by_cases hten : (polls.take k).count .broke ≤ 10
      · rw [if_pos hten, Option.some.injEq] at hstate
        by_cases hfull : 10 ≤ i
        · omega
        · rw [if_neg hfull] at hturn
          cases hturn
      · rw [if_neg hten] at hstate
        cases hstate
  · rintro ⟨hpoll, hcount⟩
    refine ⟨10, .broke, ?_, hpoll, rfl⟩
    rw [netcard_counter, hcount]
    rfl

/-! ## Both services -/

/-- The first eleven failed polls hold the first completed run when they are in a row. -/
theorem netcard_at_runs_iff (polls : List Poll) :
    LostAtRuns (netcardLostAt polls) polls ↔ EleventhInARow polls := by
  constructor
  · intro h k hpoll hcount
    exact ((h k).mp ((netcard_lost_iff polls k).mpr ⟨hpoll, hcount⟩)).1
  · intro h k
    rw [netcard_lost_iff]
    constructor
    · rintro ⟨hpoll, hcount⟩
      refine ⟨h k hpoll hcount, fun k' hlt hrun => ?_⟩
      have heleven := eleven_le_count hrun
      have hfirst : (polls.take (k' + 1)).Sublist (polls.take k) :=
        List.take_sublist_take_left hlt
      have hmore := hfirst.count_le Poll.broke
      omega
    · rintro ⟨hrun, hmin⟩
      have hpoll : polls[k]? = some .broke := hrun.2 k (by omega) le_rfl
      refine ⟨hpoll, ?_⟩
      have heleven := eleven_le_count hrun
      rw [take_succ_eq_concat hpoll, List.count_append, List.count_singleton_self] at heleven
      by_contra hne
      obtain ⟨m, hlt, hm, hcount⟩ :=
        exists_count_take_eq Poll.broke polls (show 10 < (polls.take k).count .broke by omega)
      exact hmin m hlt (h m hm hcount)

/-- **Loss detection.** Both services declare the connection lost at the first run of eleven
failed polls, and so at the same poll, if and only if the eleventh failed poll of all, if
there is one, ends eleven failed polls in a row. -/
theorem detects_loss_iff (c : WifiComs) (object : String) (ssidDisable : Option String)
    (polls : List Poll) : DetectsLoss c object ssidDisable polls ↔ EleventhInARow polls := by
  have hsta := sta_lost_iff c object ssidDisable polls
  constructor
  · rintro ⟨hnetcard, -, -⟩
    exact (netcard_at_runs_iff polls).mp hnetcard
  · intro h
    have hnetcard := (netcard_at_runs_iff polls).mpr h
    refine ⟨hnetcard, hsta, Option.ext fun k => ?_⟩
    rw [hnetcard k, hsta k]

/-- Ten failed polls, a good one and a failed one: the netcard device declares the
connection lost, the station does not. -/
theorem detects_loss_fails_after_good_poll :
    netcardLostAt (List.replicate 10 .broke ++ [.connected, .broke]) = some 11 ∧
      ∀ c object ssidDisable,
        staLostAt c object ssidDisable (List.replicate 10 .broke ++ [.connected, .broke]) = none ∧
          ¬ DetectsLoss c object ssidDisable
            (List.replicate 10 .broke ++ [.connected, .broke]) := by
  refine ⟨by decide, fun c object ssidDisable => ⟨rfl, ?_⟩⟩
  rintro ⟨-, -, hsame⟩
  have hnetcard : netcardLostAt (List.replicate 10 .broke ++ [.connected, .broke]) = some 11 := by
    decide
  rw [hnetcard] at hsame
  cases hsame

end Tiger.Analysis.LossDetection
