import Mathlib.Algebra.Order.Floor.Ring
import Mathlib.Data.Rat.Floor
import Tiger.Model.Restart

/-!
# The restart at a point in time (`clock/restart`)

The point mode sleeps for its start delay and then looks at the clock every 50
seconds, and at what its own work adds to that. It asks for a restart in the minute of
its setting when the clock has a source, and whenever the uptime has reached the age;
only the first of the two leaves the loop.

The times of a run are seconds on one axis: the local clock and the uptime are ahead
of it by a constant each.
-/

set_option autoImplicit false

namespace Tiger.Model.PointRestart

open Tiger.Model.Restart

/-- The settings of the point mode. -/
structure PointConfig where
  start : UInt32
  age : UInt32
  hour : ℤ
  minute : ℤ

/-- The settings as the service reads them, with its defaults: start after a day, an age of 208800
seconds, at 03:30. -/
def pointConfig (cfg : Option Talk) : PointConfig where
  start := unsignedSetting cfg "point_start" 86400
  age := unsignedSetting cfg "point_age" 208800
  hour := intSetting cfg "point_hour" 3
  minute := intSetting cfg "point_minute" 30

/-- What one turn of the loop reads: the mark of the clock source, the local time, and
`uptime_int`. -/
structure Reading where
  dateSrc : Option String
  hour : ℤ
  minute : ℤ
  uptime : Int32

/-- What a turn asks for. The age is unsigned, so the uptime is compared as an unsigned number. -/
def pointRequest (c : PointConfig) (dateSrc : Option String) (r : Reading) : Option Cause :=
  if dateSrc.getD "" ≠ "" ∧ c.hour = r.hour ∧ c.minute = r.minute then some .point
  else if c.age ≤ r.uptime.toUInt32 then some .age
  else none

/-- The loop from turn `n` on, for `fuel` turns: the requests with their turns. `date_src` is read
again as long as it is `NULL`. A request for the point leaves the loop, one for the age does
not. -/
def pointLoop (c : PointConfig) (reads : ℕ → Reading) : ℕ → ℕ → Option String → List (ℕ × Cause)
  | 0, _, _ => []
  | fuel + 1, n, dateSrc =>
    let dateSrc := dateSrc.or (reads n).dateSrc
    match pointRequest c dateSrc (reads n) with
    | some .point => [(n, .point)]
    | some cause => (n, cause) :: pointLoop c reads fuel (n + 1) dateSrc
    | none => pointLoop c reads fuel (n + 1) dateSrc

/-- A run of the point mode in time. -/
structure PointRun where
  /-- The instant the mode begins. -/
  begins : ℚ
  /-- What a turn takes besides its sleep. -/
  work : ℕ → ℚ
  work_nonneg : ∀ k, 0 ≤ work k
  /-- The local time at instant 0, in seconds since a midnight. -/
  clock : ℚ
  /-- The uptime at instant 0. -/
  boot : ℚ
  mark : ℕ → Option String

/-- The instant of turn `k`: after the start delay, and then 50 seconds and the work of the turn
before. -/
def PointRun.time (c : PointConfig) (r : PointRun) : ℕ → ℚ
  | 0 => r.begins + c.start.toNat
  | k + 1 => PointRun.time c r k + 50 + r.work k

/-- The local time at turn `k`, in whole seconds. -/
def PointRun.localTime (c : PointConfig) (r : PointRun) (k : ℕ) : ℤ := ⌊r.clock + r.time c k⌋

/-- The uptime at turn `k`, in whole seconds. -/
def PointRun.uptime (c : PointConfig) (r : PointRun) (k : ℕ) : ℤ := ⌊r.boot + r.time c k⌋

/-- What turn `k` reads. -/
def PointRun.reading (c : PointConfig) (r : PointRun) (k : ℕ) : Reading where
  dateSrc := r.mark k
  hour := r.localTime c k / 3600 % 24
  minute := r.localTime c k / 60 % 60
  uptime := Int32.ofInt (r.uptime c k)

/-- The first request within `fuel` turns. -/
def firstRequest (c : PointConfig) (r : PointRun) (fuel : ℕ) : Option (ℕ × Cause) :=
  (pointLoop c (r.reading c) fuel 0 none).head?

end Tiger.Model.PointRestart
