import Mathlib.Order.Defs.LinearOrder
import Tiger.Analysis.NtpFreshness

/-!
# The NTP client against its abstractions

`ClockSource.primaryLoop` tells the datagrams apart only as the loop does. For the arguments
`-s` alone the loop over bytes and ports comes to the same as that loop over what the datagrams
are to it (`primaryLoop_abstractRun`).

The clock itself: `NTPFRAC` and `USEC` turn microseconds into fractions of a second and back
with products and shifts. What `set_time` sets is a valid time for every packet, and it is off by
less than 381 microseconds, which is also what is lost on the way of a time into a packet and
back (`setTime_ntpcGettime`).
-/

set_option autoImplicit false

namespace Tiger.Analysis.NtpClock

open Tiger.Library Tiger.Model Tiger.Model.Ntpclient Tiger.Analysis.NtpFreshness

/-! ## The loop and its abstraction -/

section Loop

/-- What an event is to the loop. -/
def abstractEvent (c : Client) : Event → ClockSource.NtpEvent
  | .interrupted => .interrupted
  | .timeout _ => .timeout
  | .recvError => .recvError
  | .packet data port _ settable =>
    if 0 < data.length ∧ data.length < sizeofIncoming then
      if port ≠ 123 ∨ (c.ntpc.crossCheck &&
          ! crossCheck (fields (received c.incoming data)) c.ntpc.timeOfSend) = true then .rejected
      else .accepted settable
    else .odd

/-- Whether a turn sets the clock. -/
def isSet : Option Output → Bool
  | some (.set _) => true
  | _ => false

/-- No action sets no clock. -/
@[simp] theorem isSet_none : isSet none = false := rfl

/-- A packet sets no clock. -/
@[simp] theorem isSet_send (data : List UInt8) : isSet (some (.send data)) = false := rfl

/-- A setting sets the clock. -/
@[simp] theorem isSet_set (new : NtpTime) : isSet (some (.set new)) = true := rfl

variable (errorOf : Fields → NtpTime → ℤ)

/-- The loop over a list of events, with whether the clock was set. It stops when there is an
exit status. -/
def runLoop : Client → Bool → List Event → Client × Bool
  | c, set, [] => (c, set)
  | c, set, e :: es =>
    if c.status.isSome then (c, set)
    else runLoop (turn errorOf c e).1 (set || isSet (turn errorOf c e).2) es

/-- What the events are to the loop, as it goes. -/
def abstractRun : Client → List Event → List ClockSource.NtpEvent
  | _, [] => []
  | c, e :: es =>
    if c.status.isSome then [] else abstractEvent c e :: abstractRun (turn errorOf c e).1 es

end Loop

/-- The client in the loop of `-s` alone. -/
structure Syncing (c : Client) : Prop where
  live : c.ntpc.live = false
  setClock : c.ntpc.setClock = true
  probeCount : c.ntpc.probeCount = 1
  goodness : c.ntpc.goodness = 0
  running : c.status = none

/-- The client starts with its arguments. -/
theorem syncing_start (timeOfSend : NtpTime) : Syncing (start syncArguments timeOfSend) :=
  ⟨rfl, rfl, rfl, rfl, rfl⟩

variable {errorOf : Fields → NtpTime → ℤ} {c : Client}

/-- There are answers enough as soon as the request is sent. -/
theorem finish_eq (h : Syncing c) (error : ℤ) :
    finish c error =
      if 1 ≤ c.probesSent then
        { c with ntpc := { c.ntpc with setClock := false }, status := some 0 }
      else c := by
  have hiff : ((error < c.ntpc.goodness ∧ c.ntpc.goodness ≠ 0) ∨
      ((c.probesSent : ℤ) ≥ c.ntpc.probeCount ∧ c.ntpc.probeCount ≠ 0)) ↔ 1 ≤ c.probesSent := by
    rw [h.goodness, h.probeCount]
    omega
  unfold finish
  by_cases hsent : 1 ≤ c.probesSent
  · rw [if_pos (hiff.mpr hsent), if_pos hsent, h.live]
    rfl
  · rw [if_neg (fun hc => hsent (hiff.mp hc)), if_neg hsent]

/-- A client that has ended does nothing. -/
theorem runLoop_of_status {status : ℕ} (h : c.status = some status) (set : Bool)
    (es : List Event) : runLoop errorOf c set es = (c, set) := by
  cases es with
  | nil => rfl
  | cons e es => rw [runLoop, h, Option.isSome_some, if_pos rfl]

/-- What comes of a run. -/
def exitOf (r : Client × Bool) : ClockSource.NtpExit := ⟨decide (r.1.status = some 0), r.2⟩

/-- A turn that ends in `finish`, whatever came before it. -/
theorem primaryLoop_finish (h : Syncing c) (error : ℤ) (set : Bool) (es : List Event)
    (ih : ∀ c, Syncing c → ∀ set, ClockSource.primaryLoop c.probesSent set
      (abstractRun errorOf c es) = exitOf (runLoop errorOf c set es)) :
    (if 1 ≤ c.probesSent then ⟨true, set⟩
      else ClockSource.primaryLoop c.probesSent set (abstractRun errorOf (finish c error) es)) =
        exitOf (runLoop errorOf (finish c error) set es) := by
  rw [finish_eq h]
  by_cases hsent : 1 ≤ c.probesSent
  · rw [if_pos hsent, if_pos hsent, runLoop_of_status rfl]
    rfl
  · rw [if_neg hsent, if_neg hsent, ih c h set]

/-- A turn that sends a request. -/
theorem primaryLoop_sent (h : Syncing c) (stamp : NtpTime) (set : Bool) (es : List Event)
    (ih : ∀ c, Syncing c → ∀ set, ClockSource.primaryLoop c.probesSent set
      (abstractRun errorOf c es) = exitOf (runLoop errorOf c set es)) :
    ClockSource.primaryLoop (c.probesSent + 1) set
      (abstractRun errorOf { c with
        ntpc := { c.ntpc with timeOfSend := stamp }
        probesSent := c.probesSent + 1 } es) =
      exitOf (runLoop errorOf { c with
        ntpc := { c.ntpc with timeOfSend := stamp }
        probesSent := c.probesSent + 1 } set es) :=
  ih
    { c with
      ntpc := { c.ntpc with timeOfSend := stamp }
      probesSent := c.probesSent + 1 }
    ⟨h.live, h.setClock, h.probeCount, h.goodness, h.running⟩ set

/-- The abstract loop ends as the client does, from every state. -/
theorem primaryLoop_run (es : List Event) : ∀ c, Syncing c → ∀ set,
    ClockSource.primaryLoop c.probesSent set (abstractRun errorOf c es) =
      exitOf (runLoop errorOf c set es) := by
  induction es with
  | nil =>
    intro c h set
    simp [abstractRun, runLoop, exitOf, ClockSource.primaryLoop, h.running]
  | cons e es ih =>
    intro c h set
    have hrunning : ¬ c.status.isSome = true := by simp [h.running]
    rw [runLoop, abstractRun, if_neg hrunning, if_neg hrunning]
    cases e with
    | interrupted =>
      rw [turn, isSet_none, Bool.or_false]
      exact ih c h set
    | timeout now =>
      have hiff : ((c.probesSent : ℤ) ≥ c.ntpc.probeCount ∧ c.ntpc.probeCount ≠ 0) ↔
          1 ≤ c.probesSent := by
        rw [h.probeCount]
        omega
      rw [abstractEvent, ClockSource.primaryLoop, turn, timeoutTurn]
      by_cases hsent : 1 ≤ c.probesSent
      · rw [if_pos hsent, if_pos (hiff.mpr hsent), isSet_none, Bool.or_false,
          runLoop_of_status rfl]
        rfl
      · rw [if_neg hsent, if_neg (fun hc => hsent (hiff.mp hc)), isSet_send, Bool.or_false]
        exact primaryLoop_sent h (ntpcGettime now) set es ih
    | recvError =>
      rw [abstractEvent, ClockSource.primaryLoop, turn, isSet_none, Bool.or_false]
      exact primaryLoop_finish h _ set es ih
    | packet data port arrival settable =>
      have hrecv : Syncing { c with incoming := received c.incoming data } :=
        ⟨h.live, h.setClock, h.probeCount, h.goodness, h.running⟩
      rw [abstractEvent, turn, packetTurn]
      dsimp only
      generalize ntpcGettime arrival = stamp
      by_cases hlen : 0 < data.length ∧ data.length < sizeofIncoming
      · rw [if_pos hlen, if_pos hlen]
        by_cases hport : port ≠ 123
        · rw [if_pos (Or.inl hport), if_pos hport, ClockSource.primaryLoop, isSet_none,
            Bool.or_false]
          exact ih _ hrecv set
        rw [if_neg hport]
        by_cases hcheck : (c.ntpc.crossCheck &&
            ! crossCheck (fields (received c.incoming data)) c.ntpc.timeOfSend) = true
        · rw [if_pos (Or.inr hcheck), if_pos hcheck, ClockSource.primaryLoop, isSet_none,
            Bool.or_false]
          exact ih _ hrecv set
        rw [if_neg (not_or.mpr ⟨hport, hcheck⟩), if_neg hcheck, if_pos h.setClock]
        cases settable with
        | false =>
          rw [ClockSource.primaryLoop, if_neg Bool.false_ne_true, isSet_none, Bool.or_false,
            runLoop_of_status rfl]
          rfl
        | true =>
          rw [ClockSource.primaryLoop, if_pos rfl, isSet_set, Bool.or_true]
          exact primaryLoop_finish hrecv _ true es ih
      · rw [if_neg hlen, if_neg hlen, ClockSource.primaryLoop, isSet_none, Bool.or_false]
        exact primaryLoop_finish hrecv _ set es ih

/-- The loop of `ntpclient -h server -s` over datagrams comes to what `ClockSource.ntpclient` says
of them: the same exit status, and the clock set by the one as by the other. -/
theorem ntpclient_abstractRun (timeOfSend : NtpTime) (es : List Event) :
    ClockSource.ntpclient (abstractRun errorOf (start syncArguments timeOfSend) es) =
      exitOf (runLoop errorOf (start syncArguments timeOfSend) false es) :=
  primaryLoop_run es (start syncArguments timeOfSend) (syncing_start timeOfSend) false

/-! ## Fractions of a second -/

/-- `USEC` without wrapping around. -/
theorem usec_eq {x : ℕ} (hx : x < 2 ^ 32) :
    usec x + 759 * ((x / 1024 + 32768) / 65536) = x / 4096 := by
  have h12 : x >>> 12 = x / 4096 := Nat.shiftRight_eq_div_pow x 12
  have h10 : x >>> 10 = x / 1024 := Nat.shiftRight_eq_div_pow x 10
  have h16 : (x / 1024 + 32768) >>> 16 = (x / 1024 + 32768) / 65536 :=
    Nat.shiftRight_eq_div_pow _ 16
  unfold usec
  rw [h12, h10, h16]
  omega

/-- `USEC` is a number of microseconds, and off by less than 381 of them. -/
theorem usec_bounds {x : ℕ} (hx : x < 2 ^ 32) :
    usec x < 10 ^ 6 ∧ x * 10 ^ 6 < (usec x + 381) * 2 ^ 32 ∧
      usec x * 2 ^ 32 < x * 10 ^ 6 + 380 * 2 ^ 32 := by
  have h := usec_eq hx
  omega

/-- `NTPFRAC` without wrapping around. -/
theorem ntpfrac_eq {u : ℕ} (hu : u < 10 ^ 6) : ntpfrac u = 4294 * u + 1981 * u / 2048 := by
  have h11 : (1981 * u) >>> 11 = 1981 * u / 2048 := Nat.shiftRight_eq_div_pow _ 11
  unfold ntpfrac
  rw [h11]
  omega

/-- Later microseconds have larger fractions. -/
theorem ntpfrac_lt_ntpfrac {u v : ℕ} (huv : u < v) (hv : v < 10 ^ 6) : ntpfrac u < ntpfrac v := by
  rw [ntpfrac_eq (by omega), ntpfrac_eq hv]
  omega

/-- Microseconds that go into a packet and come back. -/
theorem usec_ntpfrac {u : ℕ} (hu : u < 10 ^ 6) :
    usec (ntpfrac u) ≤ u + 379 ∧ u ≤ usec (ntpfrac u) + 380 := by
  have hfrac := ntpfrac_eq hu
  have h := usec_eq (x := ntpfrac u) (by omega)
  omega

/-! ## Times -/

/-- Readings of the clock in different microseconds give different times. -/
theorem ntpcGettime_inj {a b : Timespec} (ha : a.nsec < 10 ^ 9) (hb : b.nsec < 10 ^ 9)
    (h : ntpcGettime a = ntpcGettime b) :
    a.sec % 2 ^ 32 = b.sec % 2 ^ 32 ∧ a.nsec / 1000 = b.nsec / 1000 := by
  have hsec : (a.sec + jan1970) % 2 ^ 32 = (b.sec + jan1970) % 2 ^ 32 := congrArg (·.coarse) h
  have hfrac : ntpfrac (a.nsec / 1000) = ntpfrac (b.nsec / 1000) := congrArg (·.fine) h
  refine ⟨by unfold jan1970 at hsec; omega, ?_⟩
  rcases lt_trichotomy (a.nsec / 1000) (b.nsec / 1000) with hlt | heq | hlt
  · exact absurd hfrac (Nat.ne_of_lt (ntpfrac_lt_ntpfrac hlt (by omega)))
  · exact heq
  · exact absurd hfrac.symm (Nat.ne_of_lt (ntpfrac_lt_ntpfrac hlt (by omega)))

/-- What `set_time` sets is a time that `clock_settime` takes, for every packet, and less than 381
microseconds off the fraction in it. -/
theorem setTime_valid (new : NtpTime) (hfine : new.fine < 2 ^ 32) :
    (setTime new).nsec < 10 ^ 9 ∧
      new.fine * 10 ^ 9 < ((setTime new).nsec + 381000) * 2 ^ 32 ∧
      (setTime new).nsec * 2 ^ 32 < new.fine * 10 ^ 9 + 380000 * 2 ^ 32 := by
  have h := usec_bounds hfine
  simp only [setTime]
  omega

/-- The last fraction of a second stays below the next second. -/
theorem setTime_valid_last :
    (⟨0, 2 ^ 32 - 1⟩ : NtpTime).fine = 4294967295 ∧ (setTime ⟨0, 2 ^ 32 - 1⟩).nsec < 10 ^ 9 :=
  ⟨rfl, (setTime_valid ⟨0, 2 ^ 32 - 1⟩ (by decide)).1⟩

/-- A clock that is set to a time of its own: the seconds are the same until 2106, beyond the turn
of the NTP era in 2036, and the rest is off by less than 381 microseconds. Readings that give the
same time are of the same microsecond. -/
theorem setTime_ntpcGettime (now later : Timespec) (hsec : now.sec < 2 ^ 32)
    (hlater : later.sec < 2 ^ 32) (hnsec : now.nsec < 10 ^ 9) (hrest : later.nsec < 10 ^ 9) :
    (setTime (ntpcGettime now)).sec = now.sec ∧ (setTime (ntpcGettime now)).nsec < 10 ^ 9 ∧
      (setTime (ntpcGettime now)).nsec ≤ now.nsec + 379000 ∧
      now.nsec < (setTime (ntpcGettime now)).nsec + 381000 ∧
      (ntpcGettime now = ntpcGettime later →
        now.sec = later.sec ∧ now.nsec / 1000 = later.nsec / 1000) := by
  have hback := usec_ntpfrac (u := now.nsec / 1000) (by omega)
  have hvalid := usec_bounds (x := ntpfrac (now.nsec / 1000)) (ntpcGettime_lt now).2
  refine ⟨?_, ?_, ?_, ?_, ?_⟩
  · simp only [setTime, ntpcGettime, jan1970]
    omega
  · simp only [setTime, ntpcGettime]
    omega
  · simp only [setTime, ntpcGettime]
    omega
  · simp only [setTime, ntpcGettime]
    omega
  · intro h
    obtain ⟨hs, hn⟩ := ntpcGettime_inj hnsec hrest h
    rw [Nat.mod_eq_of_lt hsec, Nat.mod_eq_of_lt hlater] at hs
    exact ⟨hs, hn⟩

/-- The last nanosecond of the first second of 2040, and the second behind it. -/
theorem setTime_ntpcGettime_2040 :
    (setTime (ntpcGettime ⟨2208988800, 999999999⟩)).sec = 2208988800 ∧
      ntpcGettime ⟨2208988800, 999999999⟩ ≠ ntpcGettime ⟨2208988801, 0⟩ := by
  obtain ⟨hsec, -, -, -, hsame⟩ := setTime_ntpcGettime ⟨2208988800, 999999999⟩
    ⟨2208988801, 0⟩ (by decide) (by decide) (by decide) (by decide)
  exact ⟨hsec, fun h => absurd (hsame h).1 (by decide)⟩

end Tiger.Analysis.NtpClock
