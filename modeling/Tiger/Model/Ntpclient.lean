import Mathlib.Data.Int.Notation
import Tiger.Library.Words
import Tiger.Model.ClockSource

/-!
# The NTP client (`clock/ntpclient/ntpclient.c`)

`primary_loop` sends a request whenever `select` runs into its timeout, and sets the clock from
each answer that passes the checks of `rfc1305print`, until it has answers enough. A datagram
is received into a buffer that keeps its bytes from one turn to the next: of a short one the
rest is read from what came before.

Numbers of 32 bits are naturals below `2 ^ 32`. The times between packets are doubles and only
decide when `goodness` is reached, so `errorOf` is a parameter.
-/

set_option autoImplicit false

namespace Tiger.Model.Ntpclient

open Tiger.Library

/-! ## Times -/

/-- `struct ntptime`. -/
structure NtpTime where
  coarse : ℕ
  fine : ℕ
  deriving DecidableEq

/-- What `clock_gettime` gives. -/
structure Timespec where
  sec : ℕ
  nsec : ℕ
  deriving DecidableEq

/-- `JAN_1970`. -/
def jan1970 : ℕ := 0x83aa7e80

/-- `NTPFRAC`. -/
def ntpfrac (x : ℕ) : ℕ := (4294 * x + (1981 * x) >>> 11) % 2 ^ 32

/-- `USEC`. -/
def usec (x : ℕ) : ℕ := (x >>> 12 + 2 ^ 32 - 759 * ((x >>> 10 + 32768) >>> 16)) % 2 ^ 32

/-- `ntpc_gettime`. -/
def ntpcGettime (now : Timespec) : NtpTime :=
  ⟨(now.sec + jan1970) % 2 ^ 32, ntpfrac (now.nsec / 1000)⟩

/-- The time that `set_time` sets. -/
def setTime (new : NtpTime) : Timespec :=
  ⟨(new.coarse + 2 ^ 32 - jan1970) % 2 ^ 32, usec new.fine * 1000⟩

/-! ## Packets -/

/-- The first word of a request: `LI`, `VN`, `MODE`, `STRATUM`, `POLL` and `PREC`. -/
def requestHead : ℕ := 0 <<< 30 ||| 3 <<< 27 ||| 3 <<< 24 ||| 0 <<< 16 ||| 4 <<< 8 ||| 0xfa

/-- The packet of `send_packet`. -/
def sendPacket (timeSent : NtpTime) : List UInt8 :=
  [requestHead, 1 <<< 16, 1 <<< 16, 0, 0, 0, 0, 0, 0, 0, timeSent.coarse, timeSent.fine].flatMap
    wordBytes

/-- An `int` from its bits. -/
def toInt (n : ℕ) : ℤ := if n < 2 ^ 31 then n else n - 2 ^ 32

/-- What `rfc1305print` reads. -/
structure Fields where
  li : ℕ
  vn : ℕ
  mode : ℕ
  stratum : ℕ
  poll : ℕ
  prec : ℤ
  delay : ℤ
  disp : ℤ
  refid : ℤ
  reftime : NtpTime
  orgtime : NtpTime
  rectime : NtpTime
  xmttime : NtpTime

/-- A time in a packet, at two words. -/
def timeAt (data : List UInt8) (i : ℕ) : NtpTime := ⟨wordAt data i, wordAt data (i + 1)⟩

/-- The fields of a packet. -/
def fields (data : List UInt8) : Fields where
  li := (wordAt data 0 >>> 30) &&& 0x03
  vn := (wordAt data 0 >>> 27) &&& 0x07
  mode := (wordAt data 0 >>> 24) &&& 0x07
  stratum := (wordAt data 0 >>> 16) &&& 0xff
  poll := (wordAt data 0 >>> 8) &&& 0xff
  prec :=
    let prec := wordAt data 0 &&& 0xff
    if prec &&& 0x80 ≠ 0 then toInt (prec ||| 0xffffff00) else toInt prec
  delay := toInt (wordAt data 1)
  disp := toInt (wordAt data 2)
  refid := toInt (wordAt data 3)
  reftime := timeAt data 4
  orgtime := timeAt data 6
  rectime := timeAt data 8
  xmttime := timeAt data 10

/-- The checks of `rfc1305print`, against the time of the last request. -/
def crossCheck (f : Fields) (timeOfSend : NtpTime) : Bool :=
  f.li ≠ 3 && ! decide (f.vn < 3) && f.mode = 4 && f.orgtime = timeOfSend && f.xmttime ≠ ⟨0, 0⟩ &&
    ! (decide (f.delay > 65536) || decide (f.delay < -65536)) &&
    ! (decide (f.disp > 65536) || decide (f.disp < -65536)) && f.stratum ≠ 0

/-! ## The loop -/

/-- `struct ntp_control`. -/
structure Control where
  timeOfSend : NtpTime
  live : Bool
  setClock : Bool
  probeCount : ℤ
  goodness : ℤ
  crossCheck : Bool

/-- The program in its loop. -/
structure Client where
  ntpc : Control
  probesSent : ℕ
  /-- `incoming_word`. -/
  incoming : List UInt8
  /-- The exit status, once there is one. -/
  status : Option ℕ

/-- What a turn of the loop gets. -/
inductive Event where
  /-- `select` fails. -/
  | interrupted
  /-- `select` runs into its timeout, at a time of the clock. -/
  | timeout (now : Timespec)
  /-- `recvfrom` fails. -/
  | recvError
  /-- A datagram, the port it comes from, when it arrives, and whether the clock can be set. -/
  | packet (data : List UInt8) (port : ℕ) (arrival : Timespec) (settable : Bool)

/-- What a turn does to the world. -/
inductive Output where
  | send (data : List UInt8)
  | set (new : NtpTime)

/-- `sizeof incoming_word`. -/
def sizeofIncoming : ℕ := 1300

/-- The buffer after `recvfrom`. -/
def received (incoming data : List UInt8) : List UInt8 :=
  data.take sizeofIncoming ++ incoming.drop (data.take sizeofIncoming).length

/-- The end of a turn: whether there are answers enough. -/
def finish (c : Client) (error : ℤ) : Client :=
  if (error < c.ntpc.goodness ∧ c.ntpc.goodness ≠ 0) ∨
      ((c.probesSent : ℤ) ≥ c.ntpc.probeCount ∧ c.ntpc.probeCount ≠ 0) then
    { c with
      ntpc := { c.ntpc with setClock := false }
      status := if c.ntpc.live then c.status else some 0 }
  else c

/-- A turn at which the timeout is over. -/
def timeoutTurn (c : Client) (now : Timespec) : Client × Option Output :=
  if (c.probesSent : ℤ) ≥ c.ntpc.probeCount ∧ c.ntpc.probeCount ≠ 0 then
    ({ c with status := some 0 }, none)
  else
    ({ c with
        ntpc := { c.ntpc with timeOfSend := ntpcGettime now }
        probesSent := c.probesSent + 1 },
      some (.send (sendPacket (ntpcGettime now))))

section Turns

variable (errorOf : Fields → NtpTime → ℤ)

/-- A turn with a datagram. -/
def packetTurn (c : Client) (data : List UInt8) (port : ℕ) (arrival : Timespec) (settable : Bool) :
    Client × Option Output :=
  let c := { c with incoming := received c.incoming data }
  if 0 < data.length ∧ data.length < sizeofIncoming then
    if port ≠ 123 then (c, none)
    else
      let f := fields c.incoming
      if c.ntpc.crossCheck && ! crossCheck f c.ntpc.timeOfSend then (c, none)
      else if c.ntpc.setClock then
        if settable then (finish c (errorOf f (ntpcGettime arrival)), some (.set f.xmttime))
        else ({ c with status := some 1 }, none)
      else (finish c (errorOf f (ntpcGettime arrival)), none)
  else (finish c c.ntpc.goodness, none)

/-- A turn of `primary_loop`. -/
def turn (c : Client) : Event → Client × Option Output
  | .interrupted => (c, none)
  | .timeout now => timeoutTurn c now
  | .recvError => (finish c c.ntpc.goodness, none)
  | .packet data port arrival settable => packetTurn errorOf c data port arrival settable

end Turns

/-- The arguments of the program that the loop depends on. -/
structure Arguments where
  live : Bool
  setClock : Bool
  probeCount : ℤ
  goodness : ℤ
  crossCheck : Bool

/-- `probe_count` at the head of the loop. -/
def Arguments.count (args : Arguments) : ℤ :=
  if args.setClock ∧ args.live = false ∧ args.goodness = 0 ∧ args.probeCount = 0 then 1
  else args.probeCount

/-- The program at the head of its loop. The time of the last request is not written before. -/
def start (args : Arguments) (timeOfSend : NtpTime) : Client where
  ntpc :=
    { timeOfSend := timeOfSend
      live := args.live
      setClock := args.setClock
      probeCount := args.count
      goodness := args.goodness
      crossCheck := args.crossCheck }
  probesSent := 0
  incoming := List.replicate sizeofIncoming 0
  status := none

end Tiger.Model.Ntpclient
