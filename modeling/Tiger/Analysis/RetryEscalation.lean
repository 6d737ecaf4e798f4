import Tiger.Model.ConnectService

/-!
# Escalation of failed connections

The law of both services: a run that does not end online is counted once, and the
runs whose entering count is due (`Due`) reset the device. `service_run` is the law
for one run, `lawful_of_up` and `up_of_lawful` carry it over the runs since the
interface was last online.

`ethcon` counts before it brings the device up and keeps the law. `ltecon` brings the
device up first, and a run that fails there is not counted, so the device is never
reset for it (`retry_escalation_iff`).
-/

set_option autoImplicit false

namespace Tiger.Analysis.RetryEscalation

open Tiger.Model Tiger.Model.ConnectService

/-- The entering counts at which a run resets the device. -/
def Due (s : FailedSettings) (k : ℕ) : Prop :=
  1 ≤ k ∧ ((k : ℤ) = s.threshold ∨ (k : ℤ) = s.threshold2 ∨ (k : ℤ) % s.everytime = 0)

/-- The device is there and offers a reset, and there is no switching of simcards. -/
structure Ready (env : Dial) : Prop where
  found : ifdevFound env = true
  reset : env.hasReset = true
  noSwitch : ¬ (env.bsimMode = some 3 ∨ env.bsimMode = some 4)

/-- No run ends with the interface online. -/
def AllOffline (con : Con) (cfg : Option Talk) : Option ℤ → List Dial → Prop
  | _, [] => True
  | count, env :: envs => ∀ e, con.service cfg env count = some e →
      e.online = false ∧ AllOffline con cfg e.count envs

/-- The runs, the first of them with `k` runs before it, return, are counted once each, and
reset the device exactly when that is due. -/
def Lawful (con : Con) (cfg : Option Talk) : ℕ → Option ℤ → List Dial → Prop
  | _, _, [] => True
  | k, count, env :: envs => ∃ e, con.service cfg env count = some e ∧
      e.count = some ((k : ℤ) + 1) ∧ (.reset ∈ e.calls ↔ Due (con.settings cfg) k) ∧
      Lawful con cfg (k + 1) e.count envs

/-! ## The decision to reset -/

/-- With a positive `failed_everytime` the comparisons decide whether a reset is due. -/
theorem escalate_due {s : FailedSettings} (hevery : 0 < s.everytime) {k : ℕ} (hk : 1 ≤ k) :
    ∃ b, escalate s k = some b ∧ (b = true ↔ Due s k) := by
  unfold escalate
  have hdue : Due s k ↔
      (k : ℤ) = s.threshold ∨ (k : ℤ) = s.threshold2 ∨ (k : ℤ) % s.everytime = 0 :=
    and_iff_right hk
  rw [hdue]
  by_cases hfirst : (k : ℤ) = s.threshold
  · exact ⟨true, if_pos hfirst, by simp [hfirst]⟩
  · rw [if_neg hfirst]
    by_cases hsecond : (k : ℤ) = s.threshold2
    · exact ⟨true, if_pos hsecond, by simp [hsecond]⟩
    · have hne : s.everytime ≠ 0 := by omega
      have hmod : (k : ℤ).tmod s.everytime = (k : ℤ) % s.everytime :=
        Int.tmod_eq_emod_of_nonneg (Int.natCast_nonneg k)
      rw [if_neg hsecond, if_neg hne, hmod]
      exact ⟨_, rfl, by simp [hfirst, hsecond]⟩

/-- No reset is due before a run was counted. -/
theorem not_due_zero (s : FailedSettings) : ¬ Due s 0 := by
  rintro ⟨h, -⟩
  omega

/-- `ethcon` resets exactly when it is due. -/
theorem ethEscalate_due {s : FailedSettings} (hevery : 0 < s.everytime) (k : ℕ) :
    ∃ b, ethEscalate s k = some b ∧ (b = true ↔ Due s k) := by
  unfold ethEscalate
  by_cases hk : 1 ≤ k
  · have hpos : (k : ℤ) > 0 := by omega
    rw [if_pos hpos]
    exact escalate_due hevery hk
  · have hzero : k = 0 := by omega
    rw [hzero]
    refine ⟨false, rfl, ?_⟩
    simpa using not_due_zero s

/-- `ltecon` resets exactly when it is due, and leaves the simcards alone. -/
theorem lteEscalate_due {s : FailedSettings} (hevery : 0 < s.everytime) {env : Dial}
    (hready : Ready env) (k : ℕ) :
    ∃ b, lteEscalate s env k = some (b, env.bsimSetting) ∧ (b = true ↔ Due s k) := by
  unfold lteEscalate
  by_cases hk : 1 ≤ k
  · have hpos : (k : ℤ) > 0 := by omega
    obtain ⟨b, hb, hdue⟩ := escalate_due hevery hk
    rw [if_pos hpos, if_neg hready.noSwitch, hb]
    exact ⟨b, rfl, hdue⟩
  · have hzero : k = 0 := by omega
    rw [hzero]
    refine ⟨false, rfl, ?_⟩
    simpa using not_due_zero s

/-! ## The calls of a run -/

/-- Setting the address resets nothing. -/
theorem reset_notMem_setmacCalls (cfg : Option Talk) : .reset ∉ setmacCalls cfg := by
  intro h
  obtain ⟨mac, hmac⟩ := mem_setmacCalls h
  cases hmac

/-- The start resets nothing. -/
theorem reset_notMem_startCalls (env : Dial) : .reset ∉ startCalls env := by
  intro h
  cases mem_startCalls h

/-- Recording the mode resets nothing. -/
theorem reset_notMem_modeCalls (cfg : Option Talk) : .reset ∉ modeCalls cfg := by
  intro h
  obtain ⟨name, value, hregister⟩ := mem_modeCalls h
  cases hregister

/-- What follows the count of `ltecon` resets nothing, and leaves the count unless the
interface comes online. -/
theorem lteDial_spec (cfg : Option Talk) (s : FailedSettings) (env : Dial) {calls : List Call}
    (connectFailed bsimSetting : ℤ) (hcalls : .reset ∉ calls) :
    .reset ∉ (lteDial cfg s env calls connectFailed bsimSetting).calls ∧
      ((lteDial cfg s env calls connectFailed bsimSetting).online = false →
        (lteDial cfg s env calls connectFailed bsimSetting).count = some connectFailed) := by
  have hsetmac := reset_notMem_setmacCalls cfg
  unfold lteDial
  dsimp only
  split
  · refine ⟨?_, fun _ => rfl⟩
    simp [hcalls, hsetmac]
  · refine ⟨?_, ?_⟩
    · simp [hcalls, hsetmac]
    · intro honline
      dsimp only at honline
      rw [honline]
      rfl

/-- The same for `ethcon`. -/
theorem ethDial_spec (cfg : Option Talk) (s : FailedSettings) (env : Dial) {calls : List Call}
    (connectFailed : ℤ) (hcalls : .reset ∉ calls) :
    .reset ∉ (ethDial cfg s env calls connectFailed).calls ∧
      ((ethDial cfg s env calls connectFailed).online = false →
        (ethDial cfg s env calls connectFailed).count = some connectFailed) := by
  have hsetmac := reset_notMem_setmacCalls cfg
  unfold ethDial
  dsimp only
  split
  · exact ⟨by simp [hcalls], fun _ => rfl⟩
  split
  · exact ⟨by simp [hcalls], fun _ => rfl⟩
  split
  · exact ⟨by simp [hcalls], fun _ => rfl⟩
  split
  · exact ⟨by simp [hcalls, hsetmac], fun _ => rfl⟩
  · refine ⟨?_, ?_⟩
    · simp [hcalls, hsetmac]
    · intro honline
      dsimp only at honline
      rw [honline]
      rfl

/-! ## One run -/

/-- A run that resets the device is counted and not online; otherwise it is `rest`. -/
theorem resetOr_spec (b : Bool) {env : Dial} (calls : List Call) {connectFailed : ℤ}
    (bsimSetting : ℤ) {rest : ServiceEnd} (hreset : env.hasReset = true)
    (hrest : .reset ∉ rest.calls ∧ (rest.online = false → rest.count = some connectFailed)) :
    (.reset ∈ (resetOr b env calls connectFailed bsimSetting rest).calls ↔ b = true) ∧
      ((resetOr b env calls connectFailed bsimSetting rest).online = false →
        (resetOr b env calls connectFailed bsimSetting rest).count = some connectFailed) := by
  unfold resetOr
  cases b with
  | true =>
    refine ⟨?_, fun _ => rfl⟩
    simp [hreset]
  | false =>
    refine ⟨?_, hrest.2⟩
    simp [hrest.1]

/-- **One run**, entered with the count `k`, resets the device exactly when that is due, and
counts itself unless it ends online. For `ltecon` the device has to come up. -/
theorem service_run {con : Con} {cfg : Option Talk} {env : Dial} {count : Option ℤ}
    (hcfg : cfg ≠ none) (hevery : 0 < (con.settings cfg).everytime) (hready : Ready env)
    (hup : con = .lte → env.up = true) {k : ℕ} (hk : count.getD 0 = k) :
    ∃ e, con.service cfg env count = some e ∧
      (.reset ∈ e.calls ↔ Due (con.settings cfg) k) ∧
      (e.online = false → e.count = some (int32 (k + 1))) := by
  have hstart := reset_notMem_startCalls env
  have hmode := reset_notMem_modeCalls cfg
  have hfound : ¬ (!ifdevFound env) = true := by simp [hready.found]
  cases con with
  | lte =>
    obtain ⟨b, hb, hdue⟩ := lteEscalate_due hevery hready k
    have hupped : ¬ (!env.up) = true := by simp [hup rfl]
    have hcalls : .reset ∉ startCalls env ++ modeCalls cfg ++ [.up] ++ [.onlineing] := by
      simp [hstart, hmode]
    have hrest := lteDial_spec cfg (failedSettings lteDefaults cfg) env (int32 (k + 1))
      env.bsimSetting hcalls
    obtain ⟨hreset, hcount⟩ := resetOr_spec b
      (startCalls env ++ modeCalls cfg ++ [.up] ++ [.onlineing]) env.bsimSetting hready.reset hrest
    have hdecide : lteEscalate (failedSettings lteDefaults cfg) env k =
        some (b, env.bsimSetting) := hb
    refine ⟨_, ?_, hreset.trans hdue, hcount⟩
    change lteService cfg env count = _
    unfold lteService
    rw [if_neg hfound, if_neg hcfg, if_neg hupped, hk]
    dsimp only
    rw [hdecide]
    rfl
  | eth =>
    obtain ⟨b, hb, hdue⟩ := ethEscalate_due hevery k
    have hcalls : .reset ∉ startCalls env ++ modeCalls cfg := by
      simp [hstart, hmode]
    have hrest := ethDial_spec cfg (failedSettings ethDefaults cfg) env (int32 (k + 1)) hcalls
    obtain ⟨hreset, hcount⟩ := resetOr_spec b
      (startCalls env ++ modeCalls cfg) env.bsimSetting hready.reset hrest
    have hdecide : ethEscalate (failedSettings ethDefaults cfg) k = some b := hb
    refine ⟨_, ?_, hreset.trans hdue, hcount⟩
    change ethService cfg env count = _
    unfold ethService
    rw [if_neg hfound, if_neg hcfg, hk]
    dsimp only
    rw [hdecide]
    rfl

/-- A run of `ltecon` whose device does not come up leaves the count alone. -/
theorem lteService_of_not_up {cfg : Option Talk} {env : Dial} (count : Option ℤ)
    (hcfg : cfg ≠ none) (hready : Ready env) (hup : env.up = false) :
    ∃ e, lteService cfg env count = some e ∧ e.count = count := by
  have hfound : ¬ (!ifdevFound env) = true := by simp [hready.found]
  unfold lteService
  rw [if_neg hfound, if_neg hcfg, hup]
  exact ⟨_, rfl, rfl⟩

/-! ## All runs -/

/-- An `int` holds the numbers below `2 ^ 31`. -/
theorem int32_eq_iff {k : ℕ} (hk : k < 2 ^ 31) :
    int32 ((k : ℤ) + 1) = (k : ℤ) + 1 ↔ k + 1 < 2 ^ 31 := by
  unfold int32
  rw [Int.bmod_def]
  omega

/-- Runs whose device comes up, fewer than `2 ^ 31` of them, obey the law. -/
theorem lawful_of_up {con : Con} {cfg : Option Talk} (hcfg : cfg ≠ none)
    (hevery : 0 < (con.settings cfg).everytime) (envs : List Dial)
    (hready : ∀ env ∈ envs, Ready env) (hup : con = .lte → ∀ env ∈ envs, env.up = true)
    {count : Option ℤ} {k : ℕ} (hk : count.getD 0 = k) (hlen : k + envs.length < 2 ^ 31)
    (hoffline : AllOffline con cfg count envs) : Lawful con cfg k count envs := by
  induction envs generalizing count k with
  | nil => trivial
  | cons env envs ih =>
    have hfirst : Ready env := hready env List.mem_cons_self
    obtain ⟨e, hrun, hreset, hcount⟩ := service_run hcfg hevery hfirst
      (fun hcon => hup hcon env List.mem_cons_self) hk
    obtain ⟨honline, hlater⟩ := hoffline e hrun
    rw [List.length_cons] at hlen
    have hnext : e.count = some ((k : ℤ) + 1) := by
      have hint : int32 ((k : ℤ) + 1) = (k : ℤ) + 1 := (int32_eq_iff (by omega)).mpr (by omega)
      rw [hcount honline, hint]
    refine ⟨e, hrun, hnext, hreset, ?_⟩
    apply ih
    · intro later hlater
      exact hready later (List.mem_cons_of_mem _ hlater)
    · intro hcon later hlater
      exact hup hcon later (List.mem_cons_of_mem _ hlater)
    · rw [hnext]
      rfl
    · omega
    · exact hlater

/-- Runs that obey the law are fewer than `2 ^ 31`, and those of `ltecon` bring their device
up. -/
theorem up_of_lawful {con : Con} {cfg : Option Talk} (hcfg : cfg ≠ none)
    (hevery : 0 < (con.settings cfg).everytime) (envs : List Dial)
    (hready : ∀ env ∈ envs, Ready env) {count : Option ℤ} {k : ℕ} (hk : count.getD 0 = k)
    (hbound : k < 2 ^ 31) (hoffline : AllOffline con cfg count envs)
    (hlawful : Lawful con cfg k count envs) :
    (con = .lte → ∀ env ∈ envs, env.up = true) ∧ k + envs.length < 2 ^ 31 := by
  induction envs generalizing count k with
  | nil =>
    refine ⟨?_, hbound⟩
    intro _ env henv
    cases henv
  | cons env envs ih =>
    have hfirst : Ready env := hready env List.mem_cons_self
    obtain ⟨e, hrun, hnext, -, hrest⟩ := hlawful
    obtain ⟨honline, hlater⟩ := hoffline e hrun
    have hup : con = .lte → env.up = true := by
      rintro rfl
      by_contra hdown
      -- the run was not counted
      obtain ⟨e', hrun', hcount⟩ := lteService_of_not_up count hcfg hfirst
        (Bool.eq_false_iff.mpr hdown)
      have hsame : e' = e := Option.some.inj (hrun'.symm.trans hrun)
      rw [hsame, hnext] at hcount
      rw [← hcount] at hk
      change (k : ℤ) + 1 = k at hk
      omega
    have hbound' : k + 1 < 2 ^ 31 := by
      obtain ⟨e', hrun', -, hcount⟩ := service_run hcfg hevery hfirst hup hk
      have hsame : e' = e := Option.some.inj (hrun'.symm.trans hrun)
      rw [hsame] at hcount
      have hint := hcount honline
      rw [hnext, Option.some.injEq] at hint
      exact (int32_eq_iff hbound).mp hint.symm
    obtain ⟨hups, hlen⟩ := ih (fun later h => hready later (List.mem_cons_of_mem _ h))
      (by rw [hnext]; rfl) hbound' hlater hrest
    refine ⟨?_, by rw [List.length_cons]; omega⟩
    intro hcon later hmem
    rcases List.mem_cons.mp hmem with rfl | hmem
    · exact hup hcon
    · exact hups hcon later hmem

/-- A run comes online by address acquisition only. -/
theorem offline_of_acquire {con : Con} {cfg : Option Talk} {env : Dial} {count : Option ℤ}
    {e : ServiceEnd} (h : ∀ mode method, (env.acquire mode method).online = false)
    (hrun : con.service cfg env count = some e) : e.online = false := by
  cases con with
  | lte =>
    change lteService cfg env count = some e at hrun
    unfold lteService at hrun
    dsimp only at hrun
    split at hrun
    · cases hrun
      rfl
    split at hrun
    · cases hrun
      rfl
    split at hrun
    · cases hrun
      rfl
    obtain ⟨b, -, rfl⟩ := Option.map_eq_some_iff.mp hrun
    unfold resetOr lteDial
    dsimp only
    split
    · rfl
    split
    · rfl
    · exact h _ _
  | eth =>
    change ethService cfg env count = some e at hrun
    unfold ethService at hrun
    dsimp only at hrun
    split at hrun
    · cases hrun
      rfl
    split at hrun
    · cases hrun
      rfl
    obtain ⟨b, -, rfl⟩ := Option.map_eq_some_iff.mp hrun
    unfold resetOr ethDial
    dsimp only
    split
    · rfl
    split
    · rfl
    split
    · rfl
    split
    · rfl
    split
    · rfl
    · exact h _ _

/-- Runs in which no address is acquired stay offline. -/
theorem allOffline_of_acquire {con : Con} {cfg : Option Talk} (envs : List Dial)
    (h : ∀ env ∈ envs, ∀ mode method, (env.acquire mode method).online = false)
    (count : Option ℤ) : AllOffline con cfg count envs := by
  induction envs generalizing count with
  | nil => trivial
  | cons env envs ih =>
    intro e hrun
    refine ⟨offline_of_acquire (h env List.mem_cons_self) hrun, ?_⟩
    apply ih
    intro later hlater
    exact h later (List.mem_cons_of_mem _ hlater)

/-- **Escalation.** From a count of `k` on, over the runs in which the interface does not come
online, with a positive `failed_everytime`, the law holds if and only if the count stays below
`2 ^ 31` and, for `ltecon`, the device comes up in each of them. -/
theorem retry_escalation_iff (con : Con) (cfg : Talk) (envs : List Dial) (start : Option ℤ)
    {k : ℕ} (hevery : 0 < (con.settings (some cfg)).everytime)
    (hready : ∀ env ∈ envs, Ready env) (hstart : start.getD 0 = k) (hbound : k < 2 ^ 31)
    (hoffline : AllOffline con (some cfg) start envs) :
    Lawful con (some cfg) k start envs ↔
      (con = .lte → ∀ env ∈ envs, env.up = true) ∧ k + envs.length < 2 ^ 31 := by
  have hcfg : some cfg ≠ none := Option.some_ne_none cfg
  constructor
  · intro hlawful
    exact up_of_lawful hcfg hevery envs hready hstart hbound hoffline hlawful
  · rintro ⟨hups, hlen⟩
    exact lawful_of_up hcfg hevery envs hready hups hstart hlen hoffline

/-- A device that comes up and never connects. -/
def neverConnected : Dial where
  onNetwork := false
  ifdev := some "modem@lte"
  ifdevExist := true
  up := true
  hasReset := true
  bsimMode := none
  bsimDialFailed := none
  bsimSetting := 0
  connect _ := false
  connected _ := false
  netdev := none
  acquire _ _ := ⟨false, .tfalse⟩

/-- The same device, when it does not even come up. -/
def neverUp : Dial := { neverConnected with up := false }

/-- Settings that leave little time to connect. -/
def shortTimeout : Talk := .json [("failed_timeout", .text "1")]

/-- The twentieth and the twenty-first run since the interface was online. -/
theorem retry_escalation_not_connecting :
    Lawful .lte (some shortTimeout) 19 (some 19) [neverConnected, neverConnected] := by
  have hready : ∀ env ∈ [neverConnected, neverConnected], Ready env := by
    simp only [List.mem_cons, List.not_mem_nil, or_false, or_self, forall_eq]
    exact ⟨rfl, rfl, by decide⟩
  have hup : ∀ env ∈ [neverConnected, neverConnected], env.up = true := by
    simp only [List.mem_cons, List.not_mem_nil, or_false, or_self, forall_eq]
    rfl
  have hoffline : ∀ env ∈ [neverConnected, neverConnected], ∀ mode method,
      (env.acquire mode method).online = false := by
    simp only [List.mem_cons, List.not_mem_nil, or_false, or_self, forall_eq]
    exact fun _ _ => rfl
  exact (retry_escalation_iff .lte shortTimeout [neverConnected, neverConnected] (some 19)
    (by decide) hready rfl (by decide) (allOffline_of_acquire _ hoffline (some 19))).mpr
      ⟨fun _ => hup, by decide⟩

/-- Runs of `ltecon` whose device does not come up are not counted. -/
theorem retry_escalation_fails_when_not_up :
    (∀ env ∈ [neverUp, neverUp], Ready env) ∧
      AllOffline .lte (some shortTimeout) none [neverUp, neverUp] ∧
      ¬ Lawful .lte (some shortTimeout) 0 none [neverUp, neverUp] := by
  refine ⟨?_, ?_, ?_⟩
  · simp only [List.mem_cons, List.not_mem_nil, or_false, or_self, forall_eq]
    exact ⟨rfl, rfl, by decide⟩
  · apply allOffline_of_acquire
    simp only [List.mem_cons, List.not_mem_nil, or_false, or_self, forall_eq]
    exact fun _ _ => rfl
  · rintro ⟨e, hrun, hcount, -⟩
    cases hrun
    cases hcount

end Tiger.Analysis.RetryEscalation
