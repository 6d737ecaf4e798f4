import Tiger.Model.Talk
import Tiger.Model.Text

/-!
# The connection services (`ifname/ltecon`, `ifname/ethcon`)

One run of `_service` brings the device up, connects it, waits until it is connected
and acquires an address. It ends early where a step fails, and the supervisor starts
it again. The register `connect_failed` lives on between the runs; at certain counts
a run resets the device instead of connecting.

What a run reads from the outside (the device's replies and registers, and what
address acquisition comes to) is its `Dial`. A run is `none` where the program takes a
remainder by zero. `int` has 32 bits and wraps.
-/

set_option autoImplicit false

namespace Tiger.Model.ConnectService

/-- An `int`. -/
def int32 (v : ℤ) : ℤ := v.bmod (2 ^ 32)

/-! ## Settings -/

/-- The settings of the escalation. -/
structure FailedSettings where
  timeout : ℤ
  threshold : ℤ
  threshold2 : ℤ
  everytime : ℤ

/-- A setting read with `atoi`, unless it is absent or empty. -/
def failedSetting (cfg : Option Talk) (key : String) (default : ℤ) : ℤ :=
  match jsonString cfg key with
  | none => default
  | some ptr => if ptr = "" then default else atoi ptr

/-- The settings of the configuration over the given defaults. -/
def failedSettings (defaults : FailedSettings) (cfg : Option Talk) : FailedSettings where
  timeout := failedSetting cfg "failed_timeout" defaults.timeout
  threshold := failedSetting cfg "failed_threshold" defaults.threshold
  threshold2 := failedSetting cfg "failed_threshold2" defaults.threshold2
  everytime := failedSetting cfg "failed_everytime" defaults.everytime

def lteDefaults : FailedSettings := ⟨45, 3, 15, 37⟩

def ethDefaults : FailedSettings := ⟨45, 3, 15, 24⟩

/-- A text setting, unless it is absent or empty. -/
def textSetting (cfg : Option Talk) (key default : String) : String :=
  let ptr := (jsonString cfg key).getD ""
  if ptr = "" then default else ptr

/-- The IPv4 mode. -/
def dialMode (cfg : Option Talk) : String := textSetting cfg "mode" "dhcpc"

/-- The IPv6 method, which the mode `ppp` disables. -/
def dialMethod (cfg : Option Talk) : String :=
  if dialMode cfg = "ppp" then "disable" else textSetting cfg "method" "disable"

/-! ## A run -/

/-- What a service function returns. -/
inductive Ret where
  | ttrue
  | tfalse
  | terror
  deriving DecidableEq

/-- What address acquisition comes to: whether the interface is online, and the result. -/
structure Acquired where
  online : Bool
  ret : Ret

/-- What a run reads from the outside. -/
structure Dial where
  /-- The network component still has the interface. -/
  onNetwork : Bool
  ifdev : Option String
  ifdevExist : Bool
  up : Bool
  hasReset : Bool
  bsimMode : Option ℤ
  bsimDialFailed : Option ℤ
  bsimSetting : ℤ
  /-- The replies of the device to `connect` and to `connected`, in order. -/
  connect : ℕ → Bool
  connected : ℕ → Bool
  netdev : Option String
  acquire : String → String → Acquired

/-- The calls a run makes. -/
inductive Call where
  | networkOffline
  | register (name value : String)
  | up
  | onlineing
  | reset
  | connect
  | setmac (mac : String)
  | connected
  | down
  | acquire (mode method : String)
  deriving DecidableEq

/-- What a run leaves: the calls it made, the register `connect_failed`, the backup simcard
setting, whether the interface is online, and the result. -/
structure ServiceEnd where
  calls : List Call
  count : Option ℤ
  bsimSetting : ℤ
  online : Bool
  ret : Ret

/-- `while ( check < limit ) { if reply then break; check++; }` with `left` turns to go: the
value of `check` at the end. -/
def pollUntil (reply : ℕ → Bool) : ℕ → ℕ → ℕ
  | 0, check => check
  | left + 1, check => if reply check then check else pollUntil reply left (check + 1)

/-- The count that the comparisons with the settings ask to reset at. -/
def escalate (s : FailedSettings) (connectFailed : ℤ) : Option Bool :=
  if connectFailed = s.threshold then some true
  else if connectFailed = s.threshold2 then some true
  else if s.everytime = 0 then none
  else some (connectFailed.tmod s.everytime = 0)

/-- `_online` clears the count, unless the keeplive does. -/
def onlineCount (cfg : Option Talk) (online : Bool) (connectFailed : ℤ) : ℤ :=
  if online && jsonString (jsonValue cfg "keeplive") "type" ≠ some "icmp" then 0
  else connectFailed

/-- The call that sets the MAC address, when one is configured. -/
def setmacCalls (cfg : Option Talk) : List Call :=
  let ptr := (jsonString cfg "mac").getD ""
  if ptr = "" then [] else [.setmac ptr]

/-- The calls before the device is looked for. -/
def startCalls (env : Dial) : List Call := if env.onNetwork then [.networkOffline] else []

/-- The calls that record the mode and the method. -/
def modeCalls (cfg : Option Talk) : List Call :=
  [.register "mode" (dialMode cfg), .register "method" (dialMethod cfg)]

/-- A service starts with nothing but taking the interface offline. -/
theorem mem_startCalls {env : Dial} {c : Call} (h : c ∈ startCalls env) :
    c = .networkOffline := by
  unfold startCalls at h
  split at h
  · exact List.mem_singleton.mp h
  · exact absurd h List.not_mem_nil

/-- The address is set by calls of `setmac` alone. -/
theorem mem_setmacCalls {cfg : Option Talk} {c : Call} (h : c ∈ setmacCalls cfg) :
    ∃ mac, c = .setmac mac := by
  unfold setmacCalls at h
  dsimp only at h
  split at h
  · exact absurd h List.not_mem_nil
  · exact ⟨_, List.mem_singleton.mp h⟩

/-- The modes are calls on the register alone. -/
theorem mem_modeCalls {cfg : Option Talk} {c : Call} (h : c ∈ modeCalls cfg) :
    ∃ name value, c = .register name value := by
  rcases List.mem_pair.mp h with rfl | rfl
  · exact ⟨_, _, rfl⟩
  · exact ⟨_, _, rfl⟩

/-- The device is there. -/
def ifdevFound (env : Dial) : Bool := env.ifdev.getD "" ≠ "" && env.ifdevExist

/-- What follows the count: reset the device and end the run, or go on with `rest`. -/
def resetOr (reset : Bool) (env : Dial) (calls : List Call) (connectFailed bsimSetting : ℤ)
    (rest : ServiceEnd) : ServiceEnd :=
  if reset then
    ⟨calls ++ if env.hasReset then [.reset] else [], some connectFailed, bsimSetting, false,
      .tfalse⟩
  else rest

/-! ## `ltecon` -/

/-- Whether to reset, and the backup simcard to use. -/
def lteEscalate (s : FailedSettings) (env : Dial) (connectFailed : ℤ) : Option (Bool × ℤ) :=
  if connectFailed > 0 then
    if env.bsimMode = some 3 ∨ env.bsimMode = some 4 then
      match env.bsimDialFailed with
      | none => some (false, env.bsimSetting)
      | some dfailed =>
        if dfailed > 0 ∧ connectFailed.tmod dfailed = 0 then
          some (true, if env.bsimSetting = 1 then 2 else 1)
        else some (false, env.bsimSetting)
    else (escalate s connectFailed).map (·, env.bsimSetting)
  else some (false, env.bsimSetting)

/-- The run from `connect` on. Without a network device it falls back to `ppp`. -/
def lteDial (cfg : Option Talk) (s : FailedSettings) (env : Dial) (calls : List Call)
    (connectFailed bsimSetting : ℤ) : ServiceEnd :=
  let tries := (s.timeout.tdiv 5).toNat
  let check := pollUntil env.connect tries 0
  let calls := calls ++ List.replicate (min (check + 1) tries) .connect ++ setmacCalls cfg
  let check := pollUntil env.connected s.timeout.toNat 0
  let calls := calls ++ List.replicate (min (check + 1) s.timeout.toNat) .connected
  if s.timeout ≤ check then ⟨calls ++ [.down], some connectFailed, bsimSetting, false, .tfalse⟩
  else
    let noNetdev := env.netdev.getD "" = ""
    let mode := if noNetdev then "ppp" else dialMode cfg
    let method := if noNetdev then "disable" else dialMethod cfg
    let got := env.acquire mode method
    ⟨calls ++ [.onlineing, .acquire mode method], some (onlineCount cfg got.online connectFailed),
      bsimSetting, got.online, got.ret⟩

/-- `_service` of `ltecon`, with the register `connect_failed`. -/
def lteService (cfg : Option Talk) (env : Dial) (count : Option ℤ) : Option ServiceEnd :=
  let s := failedSettings lteDefaults cfg
  let calls := startCalls env
  if !ifdevFound env then some ⟨calls, count, env.bsimSetting, false, .tfalse⟩
  else if cfg = none then some ⟨calls, count, env.bsimSetting, false, .terror⟩
  else
    let calls := calls ++ modeCalls cfg ++ [.up]
    if !env.up then some ⟨calls, count, env.bsimSetting, false, .tfalse⟩
    else
      let calls := calls ++ [.onlineing]
      let connectFailed := count.getD 0
      (lteEscalate s env connectFailed).map fun e =>
        let connectFailed := int32 (connectFailed + 1)
        resetOr e.1 env calls connectFailed e.2 (lteDial cfg s env calls connectFailed e.2)

/-! ## `ethcon` -/

/-- The wait for three replies in a row: the value of `check` at the end and the number of
replies taken. `n` replies were taken before, the last `ready` of them positive. -/
def readyLoop (reply : ℕ → Bool) (limit ready check n : ℕ) : ℕ × ℕ :=
  if check < limit then
    if reply n then
      if 3 ≤ ready + 1 then (check, n + 1) else readyLoop reply limit (ready + 1) check (n + 1)
    else readyLoop reply limit 0 (check + 1) (n + 1)
  else (check, n)
  termination_by 4 * (limit - check) + (3 - ready)

/-- The run from `up` on. -/
def ethDial (cfg : Option Talk) (s : FailedSettings) (env : Dial) (calls : List Call)
    (connectFailed : ℤ) : ServiceEnd :=
  let failed (calls : List Call) : ServiceEnd :=
    ⟨calls, some connectFailed, env.bsimSetting, false, .tfalse⟩
  let calls := calls ++ [.up]
  if !env.up then failed calls
  else
    let calls := calls ++ [.onlineing]
    if env.netdev.getD "" = "" then failed calls
    else
      let calls := calls ++ [.connect]
      if !env.connect 0 then failed calls
      else
        let wait := readyLoop env.connected s.timeout.toNat 0 0 0
        let calls := calls ++ setmacCalls cfg ++ List.replicate wait.2 .connected
        if s.timeout ≤ wait.1 then failed (calls ++ [.down])
        else
          let got := env.acquire (dialMode cfg) (dialMethod cfg)
          ⟨calls ++ [.onlineing, .acquire (dialMode cfg) (dialMethod cfg)],
            some (onlineCount cfg got.online connectFailed), env.bsimSetting, got.online, got.ret⟩

/-- Whether to reset. -/
def ethEscalate (s : FailedSettings) (connectFailed : ℤ) : Option Bool :=
  if connectFailed > 0 then escalate s connectFailed else some false

/-- `_service` of `ethcon`, with the register `connect_failed`. -/
def ethService (cfg : Option Talk) (env : Dial) (count : Option ℤ) : Option ServiceEnd :=
  let s := failedSettings ethDefaults cfg
  let calls := startCalls env
  if !ifdevFound env then some ⟨calls, count, env.bsimSetting, false, .tfalse⟩
  else if cfg = none then some ⟨calls, count, env.bsimSetting, false, .terror⟩
  else
    let calls := calls ++ modeCalls cfg
    let connectFailed := count.getD 0
    (ethEscalate s connectFailed).map fun reset =>
      let connectFailed := int32 (connectFailed + 1)
      resetOr reset env calls connectFailed env.bsimSetting
        (ethDial cfg s env calls connectFailed)

/-! ## The two services -/

/-- The components that connect an interface. -/
inductive Con where
  | lte
  | eth
  deriving DecidableEq

def Con.settings : Con → Option Talk → FailedSettings
  | .lte => failedSettings lteDefaults
  | .eth => failedSettings ethDefaults

def Con.service : Con → Option Talk → Dial → Option ℤ → Option ServiceEnd
  | .lte => lteService
  | .eth => ethService

end Tiger.Model.ConnectService
