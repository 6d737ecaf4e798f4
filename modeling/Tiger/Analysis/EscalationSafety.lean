import Tiger.Analysis.RetryEscalation

/-!
# The remainder of the escalation

A run divides by `failed_everytime` when the two other comparisons miss. The number is
the configured text as `atoi` reads it, so `"0"` and every text without a number make it
zero, and the run ends there (`service_safe_iff`). Such a run leaves the register as it
was, and every later run that comes to the decision ends in the same place
(`service_fails_again`).
-/

set_option autoImplicit false

namespace Tiger.Analysis.EscalationSafety

open Tiger.Model Tiger.Model.ConnectService

/-- The run comes to the decision whether to reset the device. -/
def Decides (con : Con) (cfg : Option Talk) (env : Dial) : Prop :=
  ifdevFound env = true ∧ cfg ≠ none ∧ (con = .lte → env.up = true)

/-- The decision is about the backup simcard. -/
def Switches (con : Con) (env : Dial) : Prop :=
  con = .lte ∧ (env.bsimMode = some 3 ∨ env.bsimMode = some 4)

/-- `failed_everytime` is configured as a text that `atoi` reads as 0. -/
def ZeroEverytime (cfg : Option Talk) : Prop :=
  ∃ text, jsonString cfg "failed_everytime" = some text ∧ text ≠ "" ∧ atoi text = 0

/-! ## The divisor -/

/-- A setting that is not read from its text has its default. -/
theorem failedSetting_eq_zero_iff {cfg : Option Talk} {key : String} {default : ℤ}
    (hdefault : default ≠ 0) :
    failedSetting cfg key default = 0 ↔
      ∃ text, jsonString cfg key = some text ∧ text ≠ "" ∧ atoi text = 0 := by
  unfold failedSetting
  cases jsonString cfg key with
  | none => simp [hdefault]
  | some text =>
    by_cases hempty : text = ""
    · simp [hempty, hdefault]
    · simp [hempty]

/-- The setting is zero exactly where its text is read so. -/
theorem everytime_eq_zero_iff (con : Con) (cfg : Option Talk) :
    (con.settings cfg).everytime = 0 ↔ ZeroEverytime cfg := by
  cases con with
  | lte => exact failedSetting_eq_zero_iff (by decide)
  | eth => exact failedSetting_eq_zero_iff (by decide)

/-! ## The decision -/

/-- The comparisons come to a remainder by zero only when both thresholds are missed. -/
theorem escalate_eq_none_iff (s : FailedSettings) (connectFailed : ℤ) :
    escalate s connectFailed = none ↔
      connectFailed ≠ s.threshold ∧ connectFailed ≠ s.threshold2 ∧ s.everytime = 0 := by
  unfold escalate
  by_cases hfirst : connectFailed = s.threshold
  · simp [hfirst]
  · by_cases hsecond : connectFailed = s.threshold2
    · simp [hsecond]
    · simp [hfirst, hsecond]

/-- `ethcon` divides by zero only for a count above zero. -/
theorem ethEscalate_eq_none_iff (s : FailedSettings) (connectFailed : ℤ) :
    ethEscalate s connectFailed = none ↔
      0 < connectFailed ∧ escalate s connectFailed = none := by
  unfold ethEscalate
  by_cases hpos : connectFailed > 0
  · simp [hpos]
  · simp [hpos]

/-- `ltecon` divides by zero only for a count above zero and without switching. -/
theorem lteEscalate_eq_none_iff (s : FailedSettings) (env : Dial) (connectFailed : ℤ) :
    lteEscalate s env connectFailed = none ↔
      0 < connectFailed ∧ ¬ (env.bsimMode = some 3 ∨ env.bsimMode = some 4) ∧
        escalate s connectFailed = none := by
  unfold lteEscalate
  by_cases hpos : connectFailed > 0
  · rw [if_pos hpos]
    by_cases hswitch : env.bsimMode = some 3 ∨ env.bsimMode = some 4
    · rw [if_pos hswitch]
      -- the backup simcard divides by a positive number only
      constructor
      · intro hnone
        split at hnone
        · cases hnone
        · split at hnone <;> cases hnone
      · rintro ⟨-, hnot, -⟩
        exact absurd hswitch hnot
    · simp [hpos, hswitch]
  · simp [hpos]

/-! ## A run -/

/-- A run ends at the remainder exactly when it comes to a decision that has none. -/
theorem service_eq_none_iff (con : Con) (cfg : Option Talk) (env : Dial) (count : Option ℤ) :
    con.service cfg env count = none ↔
      Decides con cfg env ∧ ¬ Switches con env ∧ 0 < count.getD 0 ∧
        escalate (con.settings cfg) (count.getD 0) = none := by
  unfold Decides Switches
  cases hfound : ifdevFound env with
  | false => cases con <;> simp [Con.service, lteService, ethService, hfound]
  | true =>
    by_cases hcfg : cfg = none
    · cases con <;> simp [Con.service, lteService, ethService, hfound, hcfg]
    · cases con with
      | lte =>
        cases hup : env.up with
        | false => simp [Con.service, lteService, hfound, hcfg, hup]
        | true =>
          simp only [Con.service, Con.settings, lteService, hfound, hcfg, hup, Bool.not_true,
            Bool.false_eq_true, if_false, Option.map_eq_none_iff, lteEscalate_eq_none_iff]
          simp [hcfg, and_left_comm]
      | eth =>
        simp only [Con.service, Con.settings, ethService, hfound, hcfg, Bool.not_true,
          Bool.false_eq_true, if_false, Option.map_eq_none_iff, ethEscalate_eq_none_iff]
        simp [hcfg]

/-- A run that ended at the remainder left the register as it was, and every later run that
comes to the decision ends there again. -/
theorem service_fails_again {con : Con} {cfg : Option Talk} {env later : Dial}
    {count : Option ℤ} (h : con.service cfg env count = none) (hdecides : Decides con cfg later)
    (hswitches : ¬ Switches con later) : con.service cfg later count = none := by
  obtain ⟨-, -, hpos, hnone⟩ := (service_eq_none_iff con cfg env count).mp h
  exact (service_eq_none_iff con cfg later count).mpr ⟨hdecides, hswitches, hpos, hnone⟩

/-- **The remainder.** A run takes no remainder by zero if and only if it does not come to
the decision, decides about the backup simcard, has no failures counted, or has
`failed_everytime` not configured as zero, or meets one of the thresholds. -/
theorem service_safe_iff (con : Con) (cfg : Option Talk) (env : Dial) (count : Option ℤ) :
    con.service cfg env count ≠ none ↔
      ¬ Decides con cfg env ∨ Switches con env ∨ count.getD 0 ≤ 0 ∨ ¬ ZeroEverytime cfg ∨
        count.getD 0 = (con.settings cfg).threshold ∨
        count.getD 0 = (con.settings cfg).threshold2 := by
  rw [ne_eq, service_eq_none_iff, escalate_eq_none_iff, everytime_eq_zero_iff,
    ← Int.not_lt (a := 0)]
  tauto

/-- A configuration that never resets. -/
def zeroEverytime : Talk := .json [("failed_everytime", .text "0")]

/-- With `"0"` the second run takes the remainder by zero, in both services. -/
theorem service_unsafe :
    ¬ ∀ (con : Con) (cfg : Option Talk) (env : Dial) (count : Option ℤ),
      con.service cfg env count ≠ none := by
  intro h
  exact h .eth (some zeroEverytime) RetryEscalation.neverConnected (some 1) rfl

end Tiger.Analysis.EscalationSafety
