import Tiger.Model.Online

/-!
# The mode that is recorded and the mode that is dialed

A run records the mode and the method of the configuration before anything else can
fail (`record_service`), and `_online` and `_upline` take the DNS servers from the
parts of the configuration that are recorded. `ltecon` dials with what it recorded
(`lteService_acquire`), but for two fallbacks that it does not record: without a
network device it dials `ppp`, and a mode or a method it does not know is dialed as
`dhcpc` or not at all (`recorded_iff`).
-/

set_option autoImplicit false

namespace Tiger.Analysis.RecordedMode

open Tiger.Model Tiger.Model.ConnectService Tiger.Model.Online

/-- What a call does to the register of the interface. -/
def recordCall (reg : Register) : Call → Register
  | .register name value =>
    if name = "mode" then { reg with mode := some value }
    else if name = "method" then { reg with method := some value }
    else reg
  | _ => reg

/-- The register after the calls. -/
def record (reg : Register) (calls : List Call) : Register := calls.foldl recordCall reg

/-- The mode a mode is dialed as: the client of `dhcpc` runs for every mode that is not known. -/
def dialedMode (mode : String) : String := if mode = "static" ∨ mode = "ppp" then mode else "dhcpc"

/-- The method a method is dialed as. -/
def dialedMethod (method : String) : String :=
  if method ∈ ["manual", "automatic", "slaac"] then method else "disable"

/-- The run dials with the mode and the method and brings the interface online or upline. -/
def BringsUp (clients : Clients) (e : ServiceEnd) (mode method : String) : Prop :=
  .acquire mode method ∈ e.calls ∧ lteNetwork mode method clients ≠ []

/-- The register has the mode and the method of the dial, and the parts of the configuration that
`_online` and `_upline` read are theirs. -/
structure Agrees (cfg : Option Talk) (reg : Register) (mode method : String) : Prop where
  recordedMode : reg.mode = some (dialedMode mode)
  recordedMethod : reg.method = some (dialedMethod method)
  dns : reg.mode.bind (jsonValue cfg) = jsonValue cfg (dialedMode mode)
  resolve : reg.method.bind (jsonValue cfg) = jsonValue cfg (dialedMethod method)

/-! ## What a run records -/

/-- No calls record nothing. -/
@[simp] theorem record_nil (reg : Register) : record reg [] = reg := rfl

/-- The first call is recorded first. -/
@[simp] theorem record_cons (reg : Register) (c : Call) (calls : List Call) :
    record reg (c :: calls) = record (recordCall reg c) calls := rfl

/-- Calls are recorded one list after the other. -/
@[simp] theorem record_append (reg : Register) (calls calls' : List Call) :
    record reg (calls ++ calls') = record (record reg calls) calls' := List.foldl_append

/-- Calls that do not write the register. -/
theorem record_of_silent {calls : List Call} (h : ∀ c ∈ calls, ∀ reg, recordCall reg c = reg)
    (reg : Register) : record reg calls = reg := by
  induction calls with
  | nil => rfl
  | cons c calls ih =>
    rw [record_cons, h c List.mem_cons_self]
    exact ih fun c' hc' => h c' (List.mem_cons_of_mem c hc')

/-- Connecting records no mode. -/
@[simp] theorem record_connect (reg : Register) (n : ℕ) :
    record reg (List.replicate n .connect) = reg := by
  refine record_of_silent (fun c hc reg => ?_) reg
  rw [List.eq_of_mem_replicate hc]
  rfl

/-- Waiting for the connection records no mode. -/
@[simp] theorem record_connected (reg : Register) (n : ℕ) :
    record reg (List.replicate n .connected) = reg := by
  refine record_of_silent (fun c hc reg => ?_) reg
  rw [List.eq_of_mem_replicate hc]
  rfl

/-- Setting the address records no mode. -/
@[simp] theorem record_setmacCalls (reg : Register) (cfg : Option Talk) :
    record reg (setmacCalls cfg) = reg := by
  refine record_of_silent (fun c hc reg => ?_) reg
  obtain ⟨mac, rfl⟩ := mem_setmacCalls hc
  rfl

/-- The start records no mode. -/
@[simp] theorem record_startCalls (reg : Register) (env : Dial) :
    record reg (startCalls env) = reg := by
  refine record_of_silent (fun c hc reg => ?_) reg
  rw [mem_startCalls hc]
  rfl

/-- The mode and the method are recorded. -/
@[simp] theorem record_modeCalls (reg : Register) (cfg : Option Talk) :
    record reg (modeCalls cfg) =
      { reg with mode := some (dialMode cfg), method := some (dialMethod cfg) } := by
  simp [modeCalls, recordCall]

/-- What follows the count in `ltecon` records no mode. -/
theorem record_lteDial (cfg : Option Talk) (s : FailedSettings) (env : Dial) (calls : List Call)
    (connectFailed bsimSetting : ℤ) (reg : Register) :
    record reg (lteDial cfg s env calls connectFailed bsimSetting).calls = record reg calls := by
  unfold lteDial
  dsimp only
  split
  · simp [recordCall]
  · simp [recordCall]

/-- What follows the count in `ethcon` records no mode. -/
theorem record_ethDial (cfg : Option Talk) (s : FailedSettings) (env : Dial) (calls : List Call)
    (connectFailed : ℤ) (reg : Register) :
    record reg (ethDial cfg s env calls connectFailed).calls = record reg calls := by
  unfold ethDial
  dsimp only
  split
  · simp [recordCall]
  split
  · simp [recordCall]
  split
  · simp [recordCall]
  split
  · simp [recordCall]
  · simp [recordCall]

/-- A reset records no mode. -/
theorem record_resetOr (reset : Bool) (env : Dial) {calls : List Call}
    (connectFailed bsimSetting : ℤ) {rest : ServiceEnd} {reg : Register}
    (hrest : record reg rest.calls = record reg calls) :
    record reg (resetOr reset env calls connectFailed bsimSetting rest).calls =
      record reg calls := by
  unfold resetOr
  split
  · rw [record_append]
    split
    · rfl
    · rfl
  · exact hrest

/-- Without a device nothing is recorded. -/
theorem serviceRegister_of_not_found {env : Dial} (hfound : ¬ ifdevFound env)
    (cfg : Option Talk) (reg : Register) : serviceRegister cfg env reg = reg := by
  unfold serviceRegister
  rw [Bool.eq_false_iff.mpr hfound]
  rfl

/-- Without a configuration nothing is recorded. -/
theorem serviceRegister_none (env : Dial) (reg : Register) :
    serviceRegister none env reg = reg := by
  unfold serviceRegister
  rw [Option.isSome_none, Bool.and_false]
  rfl

/-- With both, the mode and the method are recorded. -/
theorem serviceRegister_of_found {cfg : Option Talk} {env : Dial} (hfound : ifdevFound env)
    (hcfg : cfg ≠ none) (reg : Register) : serviceRegister cfg env reg =
      { reg with mode := some (dialMode cfg), method := some (dialMethod cfg) } := by
  unfold serviceRegister
  rw [hfound, Option.isSome_iff_ne_none.mpr hcfg]
  rfl

/-- A run of `ltecon` records what its service says. -/
theorem record_lteService {cfg : Option Talk} {env : Dial} {count : Option ℤ} {e : ServiceEnd}
    (hrun : lteService cfg env count = some e) (reg : Register) :
    record reg e.calls = serviceRegister cfg env reg := by
  unfold lteService at hrun
  dsimp only at hrun
  split at hrun
  · next hfound =>
    cases hrun
    rw [serviceRegister_of_not_found (by simpa using hfound)]
    exact record_startCalls reg env
  · next hfound =>
    replace hfound : ifdevFound env := by simpa using hfound
    split at hrun
    · next hcfg =>
      cases hrun
      rw [hcfg, serviceRegister_none]
      exact record_startCalls reg env
    · next hcfg =>
      rw [serviceRegister_of_found hfound hcfg]
      split at hrun
      · cases hrun
        simp [recordCall]
      · obtain ⟨escalated, -, rfl⟩ := Option.map_eq_some_iff.mp hrun
        rw [record_resetOr _ _ _ _ (record_lteDial _ _ _ _ _ _ _)]
        simp [recordCall]

/-- A run of `ethcon` records what its service says. -/
theorem record_ethService {cfg : Option Talk} {env : Dial} {count : Option ℤ} {e : ServiceEnd}
    (hrun : ethService cfg env count = some e) (reg : Register) :
    record reg e.calls = serviceRegister cfg env reg := by
  unfold ethService at hrun
  dsimp only at hrun
  split at hrun
  · next hfound =>
    cases hrun
    rw [serviceRegister_of_not_found (by simpa using hfound)]
    exact record_startCalls reg env
  · next hfound =>
    replace hfound : ifdevFound env := by simpa using hfound
    split at hrun
    · next hcfg =>
      cases hrun
      rw [hcfg, serviceRegister_none]
      exact record_startCalls reg env
    · next hcfg =>
      rw [serviceRegister_of_found hfound hcfg]
      obtain ⟨reset, -, rfl⟩ := Option.map_eq_some_iff.mp hrun
      rw [record_resetOr _ _ _ _ (record_ethDial _ _ _ _ _ _)]
      simp

/-- **The register after a run** of either component: the mode and the method of the
configuration, once the device and the configuration are there. -/
theorem record_service {con : Con} {cfg : Option Talk} {env : Dial} {count : Option ℤ}
    {e : ServiceEnd} (hrun : con.service cfg env count = some e) (reg : Register) :
    record reg e.calls = serviceRegister cfg env reg := by
  cases con with
  | lte => exact record_lteService hrun reg
  | eth => exact record_ethService hrun reg

/-! ## What `ltecon` dials -/

/-- A run that dials has found the device and its configuration, and falls back to `ppp` when
there is no network device. -/
theorem lteService_acquire {cfg : Option Talk} {env : Dial} {count : Option ℤ} {e : ServiceEnd}
    {mode method : String} (hrun : lteService cfg env count = some e)
    (hdial : .acquire mode method ∈ e.calls) :
    ifdevFound env ∧ cfg ≠ none ∧
      mode = (if given env.netdev then dialMode cfg else "ppp") ∧
      method = (if given env.netdev then dialMethod cfg else "disable") := by
  have hstart : .acquire mode method ∉ startCalls env := by
    intro h
    cases mem_startCalls h
  have hmode : .acquire mode method ∉ modeCalls cfg := by
    intro h
    obtain ⟨name, value, hregister⟩ := mem_modeCalls h
    cases hregister
  have hsetmac : .acquire mode method ∉ setmacCalls cfg := by
    intro h
    obtain ⟨mac, hmac⟩ := mem_setmacCalls h
    cases hmac
  unfold lteService at hrun
  dsimp only at hrun
  split at hrun
  · cases hrun
    exact absurd hdial hstart
  · next hfound =>
    replace hfound : ifdevFound env := by simpa using hfound
    split at hrun
    · cases hrun
      exact absurd hdial hstart
    · next hcfg =>
      refine ⟨hfound, hcfg, ?_⟩
      split at hrun
      · cases hrun
        simp [hstart, hmode] at hdial
      · obtain ⟨escalated, -, rfl⟩ := Option.map_eq_some_iff.mp hrun
        unfold resetOr at hdial
        split at hdial
        · dsimp only at hdial
          split at hdial <;> simp [hstart, hmode] at hdial
        · unfold lteDial at hdial
          dsimp only at hdial
          split at hdial
          · simp [hstart, hmode, hsetmac] at hdial
          · have hnetdev := given_iff env.netdev
            simp [hstart, hmode, hsetmac] at hdial
            by_cases hempty : env.netdev.getD "" = "" <;> simp_all

/-! ## The fallbacks -/

/-- These are the modes that are dialled as they are. -/
theorem dialedMode_eq_iff (mode : String) :
    dialedMode mode = mode ↔ mode ∈ ["static", "ppp", "dhcpc"] := by
  unfold dialedMode
  by_cases hknown : mode = "static" ∨ mode = "ppp"
  · rw [if_pos hknown]
    rcases hknown with rfl | rfl <;> simp
  · rw [if_neg hknown]
    obtain ⟨hstatic, hppp⟩ := not_or.mp hknown
    simp [hstatic, hppp, eq_comm]

/-- These are the methods that are dialled as they are. -/
theorem dialedMethod_eq_iff (method : String) :
    dialedMethod method = method ↔ method ∈ ["manual", "automatic", "slaac", "disable"] := by
  unfold dialedMethod
  by_cases hknown : method ∈ ["manual", "automatic", "slaac"]
  · rw [if_pos hknown]
    simp only [List.mem_cons, List.not_mem_nil, or_false] at hknown ⊢
    rcases hknown with rfl | rfl | rfl <;> simp
  · rw [if_neg hknown]
    simp only [List.mem_cons, List.not_mem_nil, or_false, not_or] at hknown
    obtain ⟨hmanual, hautomatic, hslaac⟩ := hknown
    simp [hmanual, hautomatic, hslaac, eq_comm]

/-- PPP leaves IPv6 off. -/
theorem dialMethod_of_ppp {cfg : Option Talk} (h : dialMode cfg = "ppp") :
    dialMethod cfg = "disable" := by
  unfold dialMethod
  rw [if_pos h]

/-- Register and interface agree exactly when both values are recorded. -/
theorem agrees_iff {cfg : Option Talk} {reg : Register} {mode method : String} :
    Agrees cfg reg mode method ↔
      reg.mode = some (dialedMode mode) ∧ reg.method = some (dialedMethod method) := by
  constructor
  · intro h
    exact ⟨h.recordedMode, h.recordedMethod⟩
  · rintro ⟨hmode, hmethod⟩
    refine ⟨hmode, hmethod, ?_, ?_⟩
    · rw [hmode]
      rfl
    · rw [hmethod]
      rfl

/-- **The recorded mode.** In a run that brings the interface online or upline the register has
the mode and the method of the dial exactly when there was a network device, or the mode is `ppp`
anyway, and the configuration names a mode and a method that the service knows. -/
theorem recorded_iff {cfg : Option Talk} {env : Dial} {count : Option ℤ} {clients : Clients}
    {e : ServiceEnd} {mode method : String}
    (hrun : lteService cfg { env with acquire := lteAcquire clients } count = some e)
    (hup : BringsUp clients e mode method) (reg : Register) :
    Agrees cfg (record reg e.calls) mode method ↔
      (given env.netdev ∨ dialMode cfg = "ppp") ∧
        dialMode cfg ∈ ["static", "ppp", "dhcpc"] ∧
        dialMethod cfg ∈ ["manual", "automatic", "slaac", "disable"] := by
  obtain ⟨hfound, hcfg, hmode, hmethod⟩ := lteService_acquire hrun hup.1
  rw [record_lteService hrun, serviceRegister_of_found hfound hcfg, agrees_iff, hmode, hmethod]
  dsimp only
  rw [Option.some_inj, Option.some_inj]
  by_cases hnetdev : given env.netdev
  · -- the dial takes the recorded names, as far as it knows them
    rw [if_pos hnetdev, if_pos hnetdev, eq_comm, dialedMode_eq_iff, eq_comm, dialedMethod_eq_iff]
    exact (and_iff_right (.inl hnetdev)).symm
  · -- the dial is `ppp` whatever was recorded
    rw [if_neg hnetdev, if_neg hnetdev]
    constructor
    · rintro ⟨hppp, -⟩
      have hppp : dialMode cfg = "ppp" := hppp
      rw [dialMethod_of_ppp hppp, hppp]
      exact ⟨.inr rfl, by simp, by simp⟩
    · rintro ⟨hnamed, -⟩
      have hppp := hnamed.resolve_left hnetdev
      exact ⟨hppp, dialMethod_of_ppp hppp⟩

/-- A modem that connects at once, with the given network device. -/
def modem (netdev : Option String) : Dial where
  onNetwork := false
  ifdev := some "ifdev@lte"
  ifdevExist := true
  up := true
  hasReset := true
  bsimMode := none
  bsimDialFailed := none
  bsimSetting := 1
  connect := fun _ => true
  connected := fun _ => true
  netdev := netdev
  acquire := fun _ _ => ⟨true, .ttrue⟩

/-- Every client gets an address. -/
def allConnect : Clients where
  modeStatic := true
  methodManual := true
  automatic := true
  ppp := true
  dhcp := true
  ret := .ttrue

/-- The modem gets its addresses by DHCP and from a router. -/
def configDhcpc : Option Talk :=
  some (.json [("mode", .text "dhcpc"), ("method", .text "automatic"),
    ("dhcpc", .json [("custom_dns", .text "enable"), ("dns", .text "10.1.1.1")])])

/-- A run of the modem without a backup simcard, since it was last online. -/
def runOf (netdev : Option String) : Option ServiceEnd :=
  lteService configDhcpc { modem netdev with acquire := lteAcquire allConnect } none

/-- A run on `usb0` with DHCP. -/
theorem recorded_on_usb0 : ∃ e, runOf (some "usb0") = some e ∧
    BringsUp allConnect e "dhcpc" "automatic" ∧
    Agrees configDhcpc (record Register.empty e.calls) "dhcpc" "automatic" := by
  have hdial : ∃ e, runOf (some "usb0") = some e ∧ .acquire "dhcpc" "automatic" ∈ e.calls :=
    ⟨_, rfl, by decide⟩
  obtain ⟨e, hrun, hdial⟩ := hdial
  have hup : BringsUp allConnect e "dhcpc" "automatic" := ⟨hdial, by decide⟩
  exact ⟨e, hrun, hup, (recorded_iff hrun hup Register.empty).mpr (by decide)⟩

/-- Without a network device the modem dials `ppp`, and `_online` reads the servers of `dhcpc`. -/
theorem recorded_without_netdev : ∃ e, runOf none = some e ∧
    BringsUp allConnect e "ppp" "disable" ∧
    ¬ Agrees configDhcpc (record Register.empty e.calls) "ppp" "disable" := by
  refine ⟨_, rfl, ⟨by decide, by decide⟩, fun h => ?_⟩
  have hmode := h.recordedMode
  revert hmode
  decide

end Tiger.Analysis.RecordedMode
