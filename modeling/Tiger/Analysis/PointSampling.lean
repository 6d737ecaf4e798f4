import Tiger.Library.Sampling
import Tiger.Model.PointRestart

/-!
# The point mode misses no minute

The loop looks at the clock at instants that are at least 50 and, with less than ten
seconds of work, less than 60 seconds apart. So one of them falls into the first
minute that matches the setting, and the restart is requested there, or before for the
age. The uptime passes every age in the end, and the first turn that sees it asks for
the restart, with or without a mark.
-/

set_option autoImplicit false

namespace Tiger.Analysis.PointSampling

open Tiger.Library Tiger.Model Tiger.Model.Restart Tiger.Model.PointRestart

/-- Minute `j`, counted from the midnight the clock counts from, is the one of the setting. -/
def Matches (c : PointConfig) (j : ℤ) : Prop := c.hour = j / 60 % 24 ∧ c.minute = j % 60

/-- The local time is the start of minute `j` or later. -/
def Begun (c : PointConfig) (r : PointRun) (j : ℤ) (k : ℕ) : Prop :=
  60 * (j : ℚ) ≤ r.clock + r.time c k

/-- The local time is before the end of minute `j`. -/
def NotOver (c : PointConfig) (r : PointRun) (j : ℤ) (k : ℕ) : Prop :=
  r.clock + r.time c k < 60 * (j : ℚ) + 60

/-- The first minute of the setting that is not over at the end of the start delay: the current
one, or the first that begins later. -/
def FirstMinute (c : PointConfig) (r : PointRun) (j : ℤ) : Prop :=
  Matches c j ∧ NotOver c r j 0 ∧ ∀ j' < j, Matches c j' → ¬ NotOver c r j' 0

/-- The restart is requested in minute `j`, or before its end because of the age. -/
def RequestedBy (c : PointConfig) (r : PointRun) (j : ℤ) : Prop :=
  ∃ fuel k cause, firstRequest c r fuel = some (k, cause) ∧ NotOver c r j k ∧
    (cause = .point ∧ Begun c r j k ∨ cause = .age ∧ c.age ≤ (r.reading c k).uptime.toUInt32)

/-- The uptime reaches the age at turn `k`, or had reached it when the start delay was over. -/
def AgeReached (c : PointConfig) (r : PointRun) (k : ℕ) : Prop :=
  (c.age.toNat : ℤ) ≤ r.uptime c k ∧ (k = 0 ∨ r.uptime c (k - 1) < c.age.toNat)

/-! ## The instants of the loop -/

section Instants

variable {c : PointConfig} {r : PointRun}

/-- Turns are at least 50 seconds apart. -/
theorem time_step (c : PointConfig) (r : PointRun) (k : ℕ) :
    r.time c k + 50 ≤ r.time c (k + 1) := by
  have hwork := r.work_nonneg k
  simp only [PointRun.time]
  linarith

/-- Later turns are not earlier. -/
theorem time_mono (c : PointConfig) (r : PointRun) : Monotone (r.time c) :=
  monotone_nat_of_le_succ fun k => by linarith [time_step c r k]

/-- Some turn sees the minute, when it is not over at the start. -/
theorem exists_turn_in_minute (hwork : ∀ k, r.work k < 10) {j : ℤ} (h : NotOver c r j 0) :
    ∃ k, Begun c r j k ∧ NotOver c r j k := by
  have hgap : ∀ k, r.clock + r.time c (k + 1) < r.clock + r.time c k + 60 := by
    intro k
    simp only [PointRun.time]
    linarith [hwork k]
  have hstep : ∀ k, r.clock + r.time c k + 50 ≤ r.clock + r.time c (k + 1) := by
    intro k
    linarith [time_step c r k]
  exact exists_mem_window hgap (exists_le_of_step (by norm_num) hstep _) h

/-- The whole seconds inside a minute. -/
theorem localTime_of_mem {j : ℤ} {k : ℕ} (hbegun : Begun c r j k) (hover : NotOver c r j k) :
    r.localTime c k / 60 = j := by
  unfold Begun at hbegun
  unfold NotOver at hover
  have hlow : 60 * j ≤ r.localTime c k := by
    apply Int.le_floor.mpr
    push_cast
    linarith
  have hhigh : r.localTime c k < 60 * j + 60 := by
    apply Int.floor_lt.mpr
    push_cast
    linarith
  omega

/-- A turn is inside the minute its whole seconds name. -/
theorem mem_of_localTime (c : PointConfig) (r : PointRun) (k : ℕ) :
    Begun c r (r.localTime c k / 60) k ∧ NotOver c r (r.localTime c k / 60) k := by
  have hfloor : (r.localTime c k : ℚ) ≤ r.clock + r.time c k := Int.floor_le _
  have hceil : r.clock + r.time c k < (r.localTime c k : ℚ) + 1 := Int.lt_floor_add_one _
  have hlow : 60 * (r.localTime c k / 60) ≤ r.localTime c k := by omega
  have hhigh : r.localTime c k + 1 ≤ 60 * (r.localTime c k / 60) + 60 := by omega
  have hlow' : 60 * ((r.localTime c k / 60 : ℤ) : ℚ) ≤ (r.localTime c k : ℚ) := by
    exact_mod_cast hlow
  have hhigh' : (r.localTime c k : ℚ) + 1 ≤ 60 * ((r.localTime c k / 60 : ℤ) : ℚ) + 60 := by
    exact_mod_cast hhigh
  exact ⟨le_trans hlow' hfloor, lt_of_lt_of_le hceil hhigh'⟩

/-- A turn reads the hour and the minute of the setting exactly when its minute matches. -/
theorem reading_matches_iff (k : ℕ) :
    (c.hour = (r.reading c k).hour ∧ c.minute = (r.reading c k).minute) ↔
      Matches c (r.localTime c k / 60) := by
  have hhour : r.localTime c k / 3600 = r.localTime c k / 60 / 60 := by omega
  simp [PointRun.reading, Matches, hhour]

/-- There is a first minute of every setting. -/
theorem exists_firstMinute (c : PointConfig) (r : PointRun) (hhour : 0 ≤ c.hour ∧ c.hour < 24)
    (hminute : 0 ≤ c.minute ∧ c.minute < 60) : ∃ j, FirstMinute c r j := by
  -- the minute of the first turn, and the minutes left from it to the setting
  obtain ⟨hbegun, hover⟩ := mem_of_localTime c r 0
  generalize r.localTime c 0 / 60 = now at hbegun hover
  unfold Begun at hbegun
  unfold NotOver at hover
  have hmatch : ∀ j, Matches c j ↔ j % 1440 = 60 * c.hour + c.minute := by
    intro j
    unfold Matches
    omega
  refine ⟨now + (60 * c.hour + c.minute - now) % 1440, ?_, ?_, ?_⟩
  · rw [hmatch]
    omega
  · have hle : now ≤ now + (60 * c.hour + c.minute - now) % 1440 := by omega
    have hle' : (now : ℚ) ≤ ((now + (60 * c.hour + c.minute - now) % 1440 : ℤ) : ℚ) := by
      exact_mod_cast hle
    unfold NotOver
    linarith
  · intro j hj hmatches hnot
    rw [hmatch] at hmatches
    have hlt : j + 1 ≤ now := by omega
    have hlt' : (j : ℚ) + 1 ≤ now := by exact_mod_cast hlt
    unfold NotOver at hnot
    linarith

end Instants

/-! ## The requests of the loop -/

section Requests

variable {c : PointConfig} {reads : ℕ → Reading}

/-- The mark as it is known in the loop: not read yet, or set. -/
def KnownSet (dateSrc : Option String) : Prop := dateSrc = none ∨ dateSrc.getD "" ≠ ""

/-- A turn that is sure to ask for a restart: the first request comes there or before. `Known` is
what holds of the mark throughout. -/
theorem head_pointLoop {Known : Option String → Prop}
    (hknown : ∀ n dateSrc, Known dateSrc → Known (dateSrc.or (reads n).dateSrc)) {k : ℕ}
    (hask : ∀ dateSrc, Known dateSrc →
      (pointRequest c (dateSrc.or (reads k).dateSrc) (reads k)).isSome)
    (d : ℕ) {n : ℕ} (hn : n + d = k) {dateSrc : Option String} (hstart : Known dateSrc) :
    ∃ m cause mark, (pointLoop c reads (d + 1) n dateSrc).head? = some (m, cause) ∧ m ≤ k ∧
      pointRequest c mark (reads m) = some cause := by
  induction d generalizing n dateSrc with
  | zero =>
    obtain rfl : n = k := by omega
    obtain ⟨cause, hcause⟩ := Option.isSome_iff_exists.mp (hask dateSrc hstart)
    refine ⟨n, cause, _, ?_, le_rfl, hcause⟩
    unfold pointLoop
    dsimp only
    rw [hcause]
    cases cause <;> rfl
  | succ d ih =>
    unfold pointLoop
    dsimp only
    cases hreq : pointRequest c (dateSrc.or (reads n).dateSrc) (reads n) with
    | none => exact ih (by omega) (hknown n dateSrc hstart)
    | some cause =>
      refine ⟨n, cause, _, ?_, by omega, hreq⟩
      cases cause <;> rfl

/-- What a request for a cause saw. -/
theorem of_pointRequest {mark : Option String} {r : Reading} {cause : Cause}
    (h : pointRequest c mark r = some cause) :
    (cause = .point ∧ c.hour = r.hour ∧ c.minute = r.minute) ∨
      (cause = .age ∧ c.age ≤ r.uptime.toUInt32) := by
  unfold pointRequest at h
  split at h
  · next hpoint =>
    rw [Option.some.injEq] at h
    exact .inl ⟨h.symm, hpoint.2⟩
  · split at h
    · next hage =>
      rw [Option.some.injEq] at h
      exact .inr ⟨h.symm, hage⟩
    · cases h

end Requests

/-- With the mark set and less than ten seconds of work a turn, the restart is requested by the
first minute of the setting. -/
theorem requested_by_first_minute {c : PointConfig} {r : PointRun}
    (hmark : ∀ k, (r.mark k).getD "" ≠ "") (hwork : ∀ k, r.work k < 10) {j : ℤ}
    (hj : FirstMinute c r j) : RequestedBy c r j := by
  obtain ⟨hmatches, hover, hfirst⟩ := hj
  obtain ⟨k, hbegun, hnot⟩ := exists_turn_in_minute hwork hover
  have hreading := (reading_matches_iff (r := r) k).mpr (by
    rw [localTime_of_mem hbegun hnot]
    exact hmatches)
  have hset : ∀ n dateSrc, KnownSet dateSrc →
      (dateSrc.or (r.reading c n).dateSrc).getD "" ≠ "" := by
    rintro n dateSrc (rfl | hset)
    · exact hmark n
    · cases dateSrc with
      | none => exact absurd rfl hset
      | some text => exact hset
  have hask : ∀ dateSrc, KnownSet dateSrc →
      (pointRequest c (dateSrc.or (r.reading c k).dateSrc) (r.reading c k)).isSome := by
    intro dateSrc hknown
    unfold pointRequest
    rw [if_pos ⟨hset k dateSrc hknown, hreading⟩]
    rfl
  obtain ⟨m, cause, mark, hhead, hm, hcause⟩ :=
    head_pointLoop (fun n dateSrc hknown => .inr (hset n dateSrc hknown)) hask k (Nat.zero_add k)
      (.inl rfl)
  have hnotm : NotOver c r j m := by
    have hle := time_mono c r hm
    unfold NotOver at hnot ⊢
    linarith
  refine ⟨k + 1, m, cause, hhead, hnotm, ?_⟩
  rcases of_pointRequest hcause with ⟨rfl, hpoint⟩ | ⟨rfl, hage⟩
  · -- the minute of turn `m` matches, so it is not one before the first
    refine .inl ⟨rfl, ?_⟩
    have hmatch := (reading_matches_iff m).mp hpoint
    obtain ⟨hbegunm, hoverm⟩ := mem_of_localTime c r m
    have hge : j ≤ r.localTime c m / 60 := by
      by_contra hlt
      apply hfirst _ (not_le.mp hlt) hmatch
      have hle := time_mono c r (Nat.zero_le m)
      unfold NotOver at hoverm ⊢
      linarith
    have hge' : (j : ℚ) ≤ ((r.localTime c m / 60 : ℤ) : ℚ) := by exact_mod_cast hge
    unfold Begun at hbegunm ⊢
    linarith
  · exact .inr ⟨rfl, hage⟩

/-- The unsigned number an uptime is compared as. -/
theorem toNat_ofInt_toUInt32 {z : ℤ} (h : 0 ≤ z) (hfits : z < 2 ^ 32) :
    ((Int32.ofInt z).toUInt32.toNat : ℤ) = z := by
  have hbits : (Int32.ofInt z).toUInt32.toNat = (BitVec.ofInt 32 z).toNat := rfl
  rw [hbits, BitVec.toNat_ofInt]
  omega

/-- The uptime reaches every age. -/
theorem exists_ageReached (c : PointConfig) (r : PointRun) : ∃ k, AgeReached c r k := by
  have hstep : ∀ k, r.boot + r.time c k + 50 ≤ r.boot + r.time c (k + 1) := by
    intro k
    linarith [time_step c r k]
  have hpass := exists_le_of_step (by norm_num : (0 : ℚ) < 50) hstep (c.age.toNat : ℚ)
  obtain ⟨k, hk, hfirst⟩ := exists_first hpass
  refine ⟨k, Int.le_floor.mpr (by exact_mod_cast hk), hfirst.imp_right fun hbefore => ?_⟩
  exact Int.floor_lt.mpr (by exact_mod_cast hbefore)

/-- A turn at which the uptime has reached the age asks for the restart, whatever the mark. -/
theorem requested_by_age {c : PointConfig} {r : PointRun} {k : ℕ}
    (hage : (c.age.toNat : ℤ) ≤ r.uptime c k) (hfits : r.uptime c k < 2 ^ 32) :
    ∃ fuel m cause, firstRequest c r fuel = some (m, cause) ∧ m ≤ k := by
  have hseen : c.age ≤ (r.reading c k).uptime.toUInt32 := by
    have huptime := toNat_ofInt_toUInt32 (by omega) hfits
    rw [UInt32.le_iff_toNat_le]
    change c.age.toNat ≤ (Int32.ofInt (r.uptime c k)).toUInt32.toNat
    omega
  have hask : ∀ dateSrc : Option String, True →
      (pointRequest c (dateSrc.or (r.reading c k).dateSrc) (r.reading c k)).isSome := by
    intro dateSrc _
    unfold pointRequest
    rw [if_pos hseen]
    split <;> rfl
  obtain ⟨m, cause, -, hhead, hm, -⟩ :=
    head_pointLoop (fun _ _ _ => trivial) hask k (Nat.zero_add k) trivial
  exact ⟨k + 1, m, cause, hhead, hm⟩

/-- With any settings the service reads, absent ones at their defaults, the restart is requested in
the first minute of the setting unless it was requested for the age before. -/
theorem requested_by_pointConfig (cfg : Option Talk) {r : PointRun}
    (hhour : 0 ≤ intSetting cfg "point_hour" 3 ∧ intSetting cfg "point_hour" 3 < 24)
    (hminute : 0 ≤ intSetting cfg "point_minute" 30 ∧ intSetting cfg "point_minute" 30 < 60)
    (hmark : ∀ k, (r.mark k).getD "" ≠ "") (hwork : ∀ k, r.work k < 10) :
    ∃ j, FirstMinute (pointConfig cfg) r j ∧ RequestedBy (pointConfig cfg) r j := by
  obtain ⟨j, hj⟩ := exists_firstMinute (pointConfig cfg) r hhour hminute
  exact ⟨j, hj, requested_by_first_minute hmark hwork hj⟩

/-- **The restart at a point in time.** With the mark set and less than ten seconds of work a turn,
the restart is requested in the first minute of the setting unless it was requested for the age
before; and in every run it is requested at the latest by the turn at which the uptime reached
the age, as long as 32 bits hold that uptime. -/
theorem point_restart_in_time (c : PointConfig) (r : PointRun) :
    (0 ≤ c.hour ∧ c.hour < 24 → 0 ≤ c.minute ∧ c.minute < 60 →
      (∀ k, (r.mark k).getD "" ≠ "") → (∀ k, r.work k < 10) →
        ∃ j, FirstMinute c r j ∧ RequestedBy c r j) ∧
      ∃ k, AgeReached c r k ∧ (r.uptime c k < 2 ^ 32 →
        ∃ fuel m cause, firstRequest c r fuel = some (m, cause) ∧ m ≤ k) := by
  constructor
  · intro hhour hminute hmark hwork
    obtain ⟨j, hj⟩ := exists_firstMinute c r hhour hminute
    exact ⟨j, hj, requested_by_first_minute hmark hwork hj⟩
  · obtain ⟨k, hk⟩ := exists_ageReached c r
    exact ⟨k, hk, requested_by_age hk.1⟩

/-- A service that starts at midnight, one minute after the machine, with a second of work a turn
and the clock set by ntp. -/
def midnightRun : PointRun where
  begins := 0
  work := fun _ => 1
  work_nonneg := fun _ => by norm_num
  clock := 0
  boot := 60
  mark := fun _ => some "ntp"

/-- The default settings restart it at 03:30. -/
theorem point_restart_by_default :
    (∃ j, FirstMinute (pointConfig none) midnightRun j ∧
      RequestedBy (pointConfig none) midnightRun j) ∧
      ∃ k, AgeReached (pointConfig none) midnightRun k ∧
        (midnightRun.uptime (pointConfig none) k < 2 ^ 32 →
          ∃ fuel m cause, firstRequest (pointConfig none) midnightRun fuel = some (m, cause) ∧
            m ≤ k) := by
  have hin := point_restart_in_time (pointConfig none) midnightRun
  refine ⟨hin.1 (by decide) (by decide) (fun k => ?_) (fun k => ?_), hin.2⟩
  · change "ntp" ≠ ""
    decide
  · change (1 : ℚ) < 10
    norm_num

end Tiger.Analysis.PointSampling
