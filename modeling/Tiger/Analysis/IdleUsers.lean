import Tiger.Analysis.IdleRestart
import Tiger.Library.PollLoop

/-!
# The idle restart and its users

The idle mode counts the polls without a station in a row and leaves its loop when
there are `idle_time / 50` of them. The counter always is the length of the run of
empty polls the loop has come to (`idle_loop_cause`), so a restart for idleness
follows such a run, and one for age comes when the age is nearly reached.

An `idle_time` below 50 asks for no empty poll at all, and the first poll ends the
loop under a connected station.
-/

set_option autoImplicit false

namespace Tiger.Analysis.IdleUsers

open Tiger.Library Tiger.Model Tiger.Model.Restart Tiger.Analysis.IdleRestart

/-- The number of polls without a station that the first `n` polls end with. -/
def emptyRun (polls : ℕ → Poll) (n : ℕ) : ℕ :=
  trailing false ((List.range n).map fun j => (polls j).stations)

/-- A restart for idleness comes at a poll without a station, at the end of a run of
`idle_time / 50` such polls and at least one; and a restart for age not earlier than two poll
intervals before the age. -/
def UsersSafe (c : IdleConfig) (pass : UInt32) (polls : ℕ → Poll) : Prop :=
  ∀ fuel r, idleService c pass polls fuel = some (.restart r) →
    (r.cause = .idle →
      max 1 (c.idle.toNat / 50) ≤ r.polls ∧
        ∀ j, r.polls - max 1 (c.idle.toNat / 50) ≤ j → j < r.polls → (polls j).stations = false) ∧
    (r.cause = .age → c.age.toNat ≤ r.uptime + 2 * 50)

/-- Before the first poll the run is empty. -/
@[simp] theorem emptyRun_zero (polls : ℕ → Poll) : emptyRun polls 0 = 0 := rfl

/-- A poll without stations makes the run longer, and one with stations ends it. -/
theorem emptyRun_succ (polls : ℕ → Poll) (n : ℕ) :
    emptyRun polls (n + 1) = if (polls n).stations then 0 else emptyRun polls n + 1 := by
  unfold emptyRun
  rw [List.range_succ, List.map_append, List.map_singleton]
  cases h : (polls n).stations with
  | true => exact trailing_concat_of_ne (by decide) _
  | false => exact trailing_concat_self false _

/-- The run is no longer than the polls. -/
theorem emptyRun_le (polls : ℕ → Poll) (n : ℕ) : emptyRun polls n ≤ n := by
  induction n with
  | zero => simp
  | succ n ih =>
    rw [emptyRun_succ]
    split <;> omega

/-- The run has at least `m` polls exactly when the last `m` polls are empty. -/
theorem le_emptyRun_iff (polls : ℕ → Poll) (n m : ℕ) :
    m ≤ emptyRun polls n ↔ m ≤ n ∧ ∀ j, n - m ≤ j → j < n → (polls j).stations = false := by
  unfold emptyRun
  rw [le_trailing_iff]
  simp only [List.length_map, List.length_range]
  refine and_congr_right fun _ => forall_congr' fun j => imp_congr_right fun _ =>
    imp_congr_right fun hj => ?_
  simp [hj]

/-- A count below `2 ^ 32` is compared as it is. -/
theorem toNat_ofInt_of_lt {k : ℕ} (h : k < 2 ^ 32) : (UInt32.ofInt (k : ℤ)).toNat = k := by
  have hmod : ((k : ℤ) % 2 ^ 32).toNat = k := by omega
  have hcast : UInt32.ofInt (k : ℤ) = UInt32.ofNat ((k : ℤ) % 2 ^ 32).toNat := rfl
  rw [hcast, hmod, UInt32.toNat_ofNat_of_lt' h]

/-- One turn, from counters that follow the polls. -/
theorem idle_turn_cases (c : IdleConfig) {sleepCount : UInt32} (idleCount : UInt32)
    {polls : ℕ → Poll} {s : IdleState} {n : ℕ} (hi : s.i = emptyRun polls n) (ht : s.t.toNat = n)
    (hn : n < max 1 sleepCount.toNat) :
    (idleTurn c sleepCount idleCount (polls n) s = .error .idle ∧
        idleCount.toNat ≤ emptyRun polls (n + 1)) ∨
      (idleTurn c sleepCount idleCount (polls n) s = .error .age ∧ sleepCount.toNat ≤ n + 1) ∨
      idleTurn c sleepCount idleCount (polls n) s = .error .point ∨
      ∃ s', idleTurn c sleepCount idleCount (polls n) s = .ok s' ∧
        s'.i = emptyRun polls (n + 1) ∧ s'.t.toNat = n + 1 ∧ n + 1 < max 1 sleepCount.toNat := by
  have hbound := sleepCount.toNat_lt
  have hcount : (if (polls n).stations = true then (0 : ℤ) else s.i + 1) =
      emptyRun polls (n + 1) := by
    rw [emptyRun_succ, hi]
    split <;> simp
  have hrun : (UInt32.ofInt (emptyRun polls (n + 1) : ℤ)).toNat = emptyRun polls (n + 1) := by
    have hle := emptyRun_le polls (n + 1)
    exact toNat_ofInt_of_lt (by omega)
  have htime : (s.t + 1).toNat = n + 1 := by
    rw [UInt32.toNat_add, ht]
    exact Nat.mod_eq_of_lt (by simp only [UInt32.toNat_one]; omega)
  unfold idleTurn
  dsimp only
  rw [hcount]
  by_cases hidle : idleCount ≤ UInt32.ofInt (emptyRun polls (n + 1) : ℤ)
  · rw [if_pos hidle]
    rw [UInt32.le_iff_toNat_le, hrun] at hidle
    exact .inl ⟨rfl, hidle⟩
  rw [if_neg hidle]
  by_cases hsleep : sleepCount ≤ s.t + 1
  · rw [if_pos hsleep]
    rw [UInt32.le_iff_toNat_le, htime] at hsleep
    exact .inr (.inl ⟨rfl, hsleep⟩)
  rw [if_neg hsleep]
  rw [UInt32.le_iff_toNat_le, htime] at hsleep
  by_cases hpoint : (polls n).dateSrc.getD "" ≠ "" ∧ c.hour = (polls n).hour ∧
      c.minute = (polls n).minute
  · rw [if_pos hpoint]
    exact .inr (.inr (.inl rfl))
  · rw [if_neg hpoint]
    exact .inr (.inr (.inr ⟨_, rfl, rfl, htime, by omega⟩))

/-- **The end of the loop.** It ends for idleness after a run of `idleCount` empty polls, and for
age at poll `sleepCount` or later. -/
theorem idle_loop_cause {c : IdleConfig} {sleepCount idleCount : UInt32} {polls : ℕ → Poll}
    {fuel n m : ℕ} {s : IdleState} {cause : Cause}
    (h : idleLoop c sleepCount idleCount polls fuel n s = some (cause, m))
    (hi : s.i = emptyRun polls n) (ht : s.t.toNat = n) (hn : n < max 1 sleepCount.toNat) :
    n < m ∧ (cause = .idle → idleCount.toNat ≤ emptyRun polls m) ∧
      (cause = .age → sleepCount.toNat ≤ m) := by
  induction fuel generalizing n s with
  | zero => cases h
  | succ fuel ih =>
    unfold idleLoop at h
    rcases idle_turn_cases c idleCount hi ht hn with
      ⟨hturn, hidle⟩ | ⟨hturn, hage⟩ | hturn | ⟨s', hturn, hi', ht', hn'⟩
    · rw [hturn, Option.some.injEq, Prod.mk.injEq] at h
      obtain ⟨rfl, rfl⟩ := h
      exact ⟨by omega, fun _ => hidle, by simp⟩
    · rw [hturn, Option.some.injEq, Prod.mk.injEq] at h
      obtain ⟨rfl, rfl⟩ := h
      exact ⟨by omega, by simp, fun _ => hage⟩
    · rw [hturn, Option.some.injEq, Prod.mk.injEq] at h
      obtain ⟨rfl, rfl⟩ := h
      exact ⟨by omega, by simp, by simp⟩
    · rw [hturn] at h
      obtain ⟨hlt, hrest⟩ := ih h hi' ht' hn'
      exact ⟨by omega, hrest⟩

/-- What a request for a restart is made of. -/
theorem idleService_restart {c : IdleConfig} {pass : UInt32} {polls : ℕ → Poll} {fuel : ℕ}
    {r : Request} (hguard : c.Guard) (h : idleService c pass polls fuel = some (.restart r)) :
    idleLoop c (c.pollAge pass / 50) (c.idle / 50) polls fuel 0 ⟨0, 0⟩ = some (r.cause, r.polls) ∧
      r.uptime = pass.toNat + (c.pollDelay pass).toNat + 50 * (r.polls - 1) := by
  unfold idleService at h
  rw [if_pos hguard] at h
  obtain ⟨⟨cause, m⟩, hloop, hr⟩ := Option.map_eq_some_iff.mp h
  cases hr
  exact ⟨hloop, rfl⟩

/-- With an `idle_time` below 50 the first poll ends the loop for idleness. -/
theorem idleLoop_of_small {c : IdleConfig} (sleepCount : UInt32) (polls : ℕ → Poll)
    (h : c.idle.toNat < 50) (fuel : ℕ) :
    idleLoop c sleepCount (c.idle / 50) polls (fuel + 1) 0 ⟨0, 0⟩ = some (.idle, 1) := by
  have hcount : c.idle / 50 = 0 := by
    apply UInt32.toNat_inj.mp
    rw [UInt32.toNat_div]
    exact Nat.div_eq_of_lt h
  unfold idleLoop idleTurn
  dsimp only
  rw [hcount, if_pos (UInt32.le_iff_toNat_le.mpr (Nat.zero_le _))]

/-- **The users of an idle restart.** For settings that pass the guard and a service that runs no
later than `idle_start`, no user is cut off if and only if `idle_time` is at least one poll
interval or the first poll finds no station. -/
theorem users_safe_iff (c : IdleConfig) (pass : UInt32) (polls : ℕ → Poll) (hguard : c.Guard)
    (hpass : pass ≤ c.start) :
    UsersSafe c pass polls ↔ 50 ≤ c.idle.toNat ∨ (polls 0).stations = false := by
  have h50 : (50 : UInt32).toNat = 50 := rfl
  constructor
  · intro hsafe
    by_cases hidle : 50 ≤ c.idle.toNat
    · exact .inl hidle
    refine .inr ?_
    have hloop := idleLoop_of_small (c.pollAge pass / 50) polls (not_le.mp hidle) 0
    have hservice : idleService c pass polls 1 = some (.restart ⟨.idle, 1,
        pass.toNat + (c.pollDelay pass).toNat + 50 * (1 - 1)⟩) := by
      unfold idleService
      rw [if_pos hguard, hloop, Option.map_some]
    obtain ⟨hrun, -⟩ := hsafe 1 _ hservice
    obtain ⟨hlen, hempty⟩ := hrun rfl
    exact hempty 0 (by dsimp only at hlen ⊢; omega) (by simp)
  · intro hfirst fuel r hr
    obtain ⟨hloop, huptime⟩ := idleService_restart hguard hr
    obtain ⟨hpolls, hidle, hage⟩ := idle_loop_cause hloop rfl rfl (by omega)
    rw [UInt32.toNat_div, h50] at hidle hage
    refine ⟨fun hcause => ?_, fun hcause => ?_⟩
    · -- the run is not empty: below 50 the loop ends at the first poll
      have hone : 1 ≤ emptyRun polls r.polls := by
        rcases hfirst with hlarge | hempty
        · have hcount := hidle hcause
          omega
        · by_cases hlarge : 50 ≤ c.idle.toNat
          · have hcount := hidle hcause
            omega
          · cases fuel with
            | zero => cases hloop
            | succ fuel =>
              rw [idleLoop_of_small _ _ (not_le.mp hlarge), Option.some.injEq,
                Prod.mk.injEq] at hloop
              rw [← hloop.2, emptyRun_succ, hempty]
              simp
      exact (le_emptyRun_iff polls r.polls _).mp (max_le hone (hidle hcause))
    · obtain ⟨hdelay, -, hpoll⟩ := poll_age_eq hguard hpass
      have hturns := hage hcause
      have hnat := UInt32.le_iff_toNat_le.mp hpass
      have hless := UInt32.lt_iff_toNat_lt.mp hguard.2.2
      rw [hpoll] at hturns
      rw [huptime, hdelay]
      omega

/-- A poll without a station. -/
def emptyPoll : Poll where
  stations := false
  dateSrc := none
  hour := 12
  minute := 0

/-- The default settings, ten minutes after the start of the machine. -/
theorem users_safe_by_default :
    (idleConfig none).Guard ∧ UsersSafe (idleConfig none) 600 fun _ => emptyPoll :=
  ⟨by decide, (users_safe_iff (idleConfig none) 600 _ (by decide) (by decide)).mpr
    (.inl (by decide))⟩

/-- An idle time of 30 seconds. -/
def briefIdle : IdleConfig := idleConfig (some (.json [("idle_time", .text "30")]))

/-- A station is there at every poll, and the first one restarts the machine for idleness. -/
theorem users_cut_off :
    briefIdle.Guard ∧
      idleService briefIdle 600 (fun _ => { emptyPoll with stations := true }) 1 =
        some (.restart ⟨.idle, 1, 172800⟩) ∧
      ¬ UsersSafe briefIdle 600 fun _ => { emptyPoll with stations := true } := by
  have hguard : briefIdle.Guard := by decide
  have hservice : idleService briefIdle 600 (fun _ => { emptyPoll with stations := true }) 1 =
      some (.restart ⟨.idle, 1, 172800⟩) := by
    unfold idleService
    rw [if_pos hguard, idleLoop_of_small _ _ (by decide) 0]
    rfl
  refine ⟨hguard, hservice, ?_⟩
  intro hsafe
  obtain ⟨hrun, -⟩ := hsafe 1 _ hservice
  obtain ⟨-, hempty⟩ := hrun rfl
  exact absurd (hempty 0 (by decide) (by decide)) (by decide)

end Tiger.Analysis.IdleUsers
