import Tiger.Model.Restart

/-!
# Timing of the idle restart

The idle mode re-bases its start and its age on the uptime at which the service
runs, with unsigned subtractions. They stay in range exactly when the service runs
before `idle_start`; `_set` restarts the service at any uptime, and past
`idle_start` the first of them wraps into a sleep of about 136 years.

`idle_loop_ends` bounds the polling loop: the turn counter follows the polls, so
the loop ends at poll `max 1 sleepCount` at the latest whatever the polls answer.
`idle_timing_iff` puts the two together.
-/

set_option autoImplicit false

namespace Tiger.Analysis.IdleRestart

open Tiger.Model Tiger.Model.Restart

/-- The three subtractions on the way to the polling loop stay in range. -/
def NoWrap (c : IdleConfig) (pass : UInt32) : Prop :=
  pass ≤ c.start ∧ pass ≤ c.age ∧ c.pollDelay pass ≤ c.ageLeft pass

/-- The restart is requested, and at the latest one poll interval after the age limit. -/
def RequestedInTime (c : IdleConfig) (pass : UInt32) (polls : ℕ → Poll) : Prop :=
  ∃ fuel r, idleService c pass polls fuel = some (.restart r) ∧
    r.uptime ≤ max pass.toNat c.age.toNat + 50

/-- The timing of the idle mode for a service that runs at the uptime `pass`. -/
def TimingHolds (c : IdleConfig) (pass : UInt32) : Prop :=
  NoWrap c pass ∧
    (c.pollDelay pass).toNat ≤ c.start.toNat - min pass.toNat c.start.toNat ∧
    ∀ polls, RequestedInTime c pass polls

/-- A turn that goes on has counted itself and has not used up the turns. -/
theorem idle_turn_ok {c : IdleConfig} {sleepCount idleCount : UInt32} {p : Poll}
    {s s' : IdleState} (h : idleTurn c sleepCount idleCount p s = .ok s') :
    s'.t = s.t + 1 ∧ ¬ sleepCount ≤ s.t + 1 := by
  unfold idleTurn at h
  generalize (if p.stations = true then (0 : ℤ) else s.i + 1) = i at h
  dsimp only at h
  by_cases hidle : idleCount ≤ UInt32.ofInt i
  · rw [if_pos hidle] at h
    cases h
  rw [if_neg hidle] at h
  by_cases hsleep : sleepCount ≤ s.t + 1
  · rw [if_pos hsleep] at h
    cases h
  rw [if_neg hsleep] at h
  refine ⟨?_, hsleep⟩
  by_cases hpoint : p.dateSrc.getD "" ≠ "" ∧ c.hour = p.hour ∧ c.minute = p.minute
  · rw [if_pos hpoint] at h
    cases h
  · rw [if_neg hpoint] at h
    cases h
    rfl

/-- **The loop ends.** With `d` turns left before poll `max 1 sleepCount`, it asks for a
restart within `d` polls. -/
theorem idle_loop_ends (c : IdleConfig) (sleepCount idleCount : UInt32) (polls : ℕ → Poll)
    (d n : ℕ) (s : IdleState) (hd : 0 < d) (ht : s.t.toNat = n)
    (hn : n + d = max 1 sleepCount.toNat) :
    ∃ cause m, idleLoop c sleepCount idleCount polls d n s = some (cause, m) ∧
      m ≤ max 1 sleepCount.toNat := by
  induction d generalizing n s with
  | zero => omega
  | succ d ih =>
    unfold idleLoop
    cases hturn : idleTurn c sleepCount idleCount (polls n) s with
    | error cause => exact ⟨cause, n + 1, rfl, by omega⟩
    | ok s' =>
      obtain ⟨hcount, hleft⟩ := idle_turn_ok hturn
      have hbound := sleepCount.toNat_lt
      -- the counter cannot wrap: it is still below `sleepCount`
      have hsucc : (s.t + 1).toNat = n + 1 := by
        rw [UInt32.toNat_add, ht]
        exact Nat.mod_eq_of_lt (by simp only [UInt32.toNat_one]; omega)
      rw [UInt32.le_iff_toNat_le, hsucc] at hleft
      exact ih (n + 1) s' (by omega) (by rw [hcount]; exact hsucc) (by omega)

/-- Before `idle_start`, what is left for polling is the time between start and age. -/
theorem poll_age_eq {c : IdleConfig} {pass : UInt32} (hguard : c.Guard)
    (hpass : pass ≤ c.start) :
    (c.pollDelay pass).toNat = c.start.toNat - pass.toNat ∧
      (c.ageLeft pass).toNat = c.age.toNat - pass.toNat ∧
      (c.pollAge pass).toNat = c.age.toNat - c.start.toNat := by
  have hage : c.start < c.age := hguard.2.2
  rw [UInt32.le_iff_toNat_le] at hpass
  rw [UInt32.lt_iff_toNat_lt] at hage
  have hdelay : (c.pollDelay pass).toNat = c.start.toNat - pass.toNat :=
    UInt32.toNat_sub_of_le _ _ (UInt32.le_iff_toNat_le.mpr hpass)
  have hleft : (c.ageLeft pass).toNat = c.age.toNat - pass.toNat :=
    UInt32.toNat_sub_of_le _ _ (UInt32.le_iff_toNat_le.mpr (by omega))
  refine ⟨hdelay, hleft, ?_⟩
  have hpoll : (c.pollAge pass).toNat = (c.ageLeft pass).toNat - (c.pollDelay pass).toNat :=
    UInt32.toNat_sub_of_le _ _ (UInt32.le_iff_toNat_le.mpr (by omega))
  omega

/-- Before `idle_start`, every run of polls leads to a restart in time. -/
theorem requested_in_time {c : IdleConfig} {pass : UInt32} (hguard : c.Guard)
    (hpass : pass ≤ c.start) (polls : ℕ → Poll) : RequestedInTime c pass polls := by
  obtain ⟨hdelay, -, hpoll⟩ := poll_age_eq hguard hpass
  have hage : c.start.toNat < c.age.toNat := UInt32.lt_iff_toNat_lt.mp hguard.2.2
  rw [UInt32.le_iff_toNat_le] at hpass
  obtain ⟨cause, m, hloop, hm⟩ := idle_loop_ends c (c.pollAge pass / 50) (c.idle / 50) polls
    (max 1 (c.pollAge pass / 50).toNat) 0 ⟨0, 0⟩ (by omega) rfl (by omega)
  rw [UInt32.toNat_div, hpoll] at hm
  refine ⟨max 1 (c.pollAge pass / 50).toNat,
    ⟨cause, m, pass.toNat + (c.pollDelay pass).toNat + 50 * (m - 1)⟩, ?_, ?_⟩
  · unfold idleService
    rw [if_pos hguard, hloop]
    rfl
  · change pass.toNat + (c.pollDelay pass).toNat + 50 * (m - 1) ≤ _
    have h50 : (50 : UInt32).toNat = 50 := rfl
    rw [h50] at hm
    omega

/-- **Timing of the idle restart.** For settings that pass the guard, no subtraction wraps,
the sleep before polling is at most what is left until `idle_start`, and the restart is
requested in time, if and only if the service runs no later than `idle_start`. -/
theorem idle_timing_iff (c : IdleConfig) (pass : UInt32) (hguard : c.Guard) :
    TimingHolds c pass ↔ pass ≤ c.start := by
  constructor
  · rintro ⟨hwrap, -, -⟩
    exact hwrap.1
  · intro hpass
    obtain ⟨hdelay, hleft, -⟩ := poll_age_eq hguard hpass
    have hage : c.start.toNat < c.age.toNat := UInt32.lt_iff_toNat_lt.mp hguard.2.2
    have hnat : pass.toNat ≤ c.start.toNat := UInt32.le_iff_toNat_le.mp hpass
    refine ⟨⟨hpass, ?_, ?_⟩, ?_, requested_in_time hguard hpass⟩
    · rw [UInt32.le_iff_toNat_le]
      omega
    · rw [UInt32.le_iff_toNat_le]
      omega
    · omega

/-- The default settings with the service running after ten minutes. -/
theorem idle_timing_at_boot :
    (idleConfig none).Guard ∧ TimingHolds (idleConfig none) 600 :=
  ⟨by decide, (idle_timing_iff (idleConfig none) 600 (by decide)).mpr (by decide)⟩

/-- A service that `_set` restarts after 200000 seconds, with the default start of two days:
the sleep before polling is 4294940096 seconds. -/
theorem idle_timing_fails_after_set :
    (idleConfig (some (.json [("mode", .text "idle")]))).Guard ∧
      (idleConfig (some (.json [("mode", .text "idle")]))).pollDelay 200000 = 4294940096 ∧
      ¬ TimingHolds (idleConfig (some (.json [("mode", .text "idle")]))) 200000 := by
  refine ⟨by decide, by decide, ?_⟩
  rintro ⟨⟨hstart, -, -⟩, -, -⟩
  exact absurd hstart (by decide)

end Tiger.Analysis.IdleRestart
