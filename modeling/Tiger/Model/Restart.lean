import Tiger.Model.Talk
import Tiger.Model.Text

/-!
# The restart plan (`clock/restart`)

`_service` sleeps for its start-up delay, reads the uptime (`pass`) and then runs one of
three modes. This file has the idle mode: the settings it reads, the delay before it polls,
and the polling loop.

Seconds counted in `unsigned int` are `UInt32`, so a subtraction wraps here where
it wraps in the program. What a turn of the loop reads from the outside (the
station list, the clock mark and the local time) is its `Poll`.
-/

set_option autoImplicit false

namespace Tiger.Model.Restart

/-! ## Settings -/

/-- A setting read with `atoi` into an `unsigned int`. -/
def unsignedSetting (cfg : Option Talk) (key : String) (default : UInt32) : UInt32 :=
  (jsonString cfg key).elim default fun p => UInt32.ofInt (atoi p)

/-- A setting read with `atoi` into an `int`. -/
def intSetting (cfg : Option Talk) (key : String) (default : ℤ) : ℤ :=
  (jsonString cfg key).elim default atoi

/-- The settings of the idle mode. -/
structure IdleConfig where
  start : UInt32
  idle : UInt32
  age : UInt32
  hour : ℤ
  minute : ℤ

/-- The settings as the service reads them, with its defaults: start after two days, five
minutes idle, one week of age, at 03:30. -/
def idleConfig (cfg : Option Talk) : IdleConfig where
  start := unsignedSetting cfg "idle_start" 172800
  idle := unsignedSetting cfg "idle_time" 300
  age := unsignedSetting cfg "idle_age" 604800
  hour := intSetting cfg "idle_hour" 3
  minute := intSetting cfg "idle_minute" 30

/-- The guard of the idle mode. -/
def IdleConfig.Guard (c : IdleConfig) : Prop := 300 ≤ c.start ∧ 0 < c.idle ∧ c.start < c.age

instance (c : IdleConfig) : Decidable c.Guard := by unfold IdleConfig.Guard; infer_instance

/-- `start -= pass`: the seconds slept before the first poll. -/
def IdleConfig.pollDelay (c : IdleConfig) (pass : UInt32) : UInt32 := c.start - pass

/-- `age -= pass`. -/
def IdleConfig.ageLeft (c : IdleConfig) (pass : UInt32) : UInt32 := c.age - pass

/-- `age -= start`: the seconds left for polling. -/
def IdleConfig.pollAge (c : IdleConfig) (pass : UInt32) : UInt32 :=
  c.ageLeft pass - c.pollDelay pass

/-- What one turn of the polling loop reads. -/
structure Poll where
  stations : Bool
  dateSrc : Option String
  hour : ℤ
  minute : ℤ

/-- Why the loop asks for a restart. -/
inductive Cause where
  | idle
  | age
  | point
  deriving DecidableEq

/-- The counters of the loop. -/
structure IdleState where
  i : ℤ
  t : UInt32

/-- One turn of the loop: the cause of the restart, or the counters to go on with after a
sleep of 50 seconds. `i` is compared as an unsigned number. -/
def idleTurn (c : IdleConfig) (sleepCount idleCount : UInt32) (p : Poll) (s : IdleState) :
    Except Cause IdleState :=
  let i := if p.stations then 0 else s.i + 1
  let t := s.t + 1
  if idleCount ≤ UInt32.ofInt i then .error .idle
  else if sleepCount ≤ t then .error .age
  else if (p.dateSrc.getD "" ≠ "") ∧ c.hour = p.hour ∧ c.minute = p.minute then .error .point
  else .ok ⟨i, t⟩

/-- The loop from poll `n` on: the cause of the restart and the number of polls made, `none`
when it has not ended after `fuel` more polls. -/
def idleLoop (c : IdleConfig) (sleepCount idleCount : UInt32) (polls : ℕ → Poll) :
    ℕ → ℕ → IdleState → Option (Cause × ℕ)
  | 0, _, _ => none
  | fuel + 1, n, s =>
    match idleTurn c sleepCount idleCount (polls n) s with
    | .error cause => some (cause, n + 1)
    | .ok s' => idleLoop c sleepCount idleCount polls fuel (n + 1) s'

/-- The request for a restart: its cause, the polls made, and the uptime when only the
explicit sleeps count as elapsed time. -/
structure Request where
  cause : Cause
  polls : ℕ
  uptime : ℕ

/-- The end of the idle mode: refused by its guard, or a restart. -/
inductive IdleEnd where
  | paused
  | restart (r : Request)

/-- The idle mode from the moment `pass` is known, `none` when the restart was not requested
within `fuel` polls. -/
def idleService (c : IdleConfig) (pass : UInt32) (polls : ℕ → Poll) (fuel : ℕ) :
    Option IdleEnd :=
  if c.Guard then
    (idleLoop c (c.pollAge pass / 50) (c.idle / 50) polls fuel 0 ⟨0, 0⟩).map fun r =>
      .restart ⟨r.1, r.2, pass.toNat + (c.pollDelay pass).toNat + 50 * (r.2 - 1)⟩
  else some .paused

end Tiger.Model.Restart
