import Tiger.Model.Talk
import Tiger.Model.Text

/-!
# The source of the clock (`clock/date`, `clock/ntpclient`)

The clock is set by hand (`time_setting`) or from an NTP server (`ntpclient_sync`).
Either records its name in the register `date_src`, which the timed restart and the
NTP service wait for. `ntpclient_sync` goes by the exit status of `ntpclient`, so the
loop of that program is here too, for its arguments `-h server -s`: one request, and
the clock is set from the first answer that passes the checks.

`Done` has what a call leaves: the mark, its result, and whether it set the clock.
-/

set_option autoImplicit false

namespace Tiger.Model.ClockSource

/-- What a call leaves. -/
structure Done where
  /-- The register `date_src`. -/
  dateSrc : Option String
  ret : Bool
  clockSet : Bool

/-! ## By hand -/

/-- A broken-down time, as `mktime` takes it. -/
structure Tm where
  hour : ℤ
  minute : ℤ
  sec : ℤ
  mon : ℤ
  mday : ℤ
  year : ℤ

/-- `%d` of `sscanf`: the number and what follows it. -/
def scanInt (cs : List Char) : Option (ℤ × List Char) :=
  let body := cs.dropWhile isSpace
  let digits := if body.head? = some '-' ∨ body.head? = some '+' then body.drop 1 else body
  if digits.head?.any Char.isDigit then some (strtol 32 cs, digits.dropWhile Char.isDigit)
  else none

/-- `sscanf` with `n` times `%d`, separated by colons: the numbers it converts. -/
def scanTime : ℕ → List Char → List ℤ
  | 0, _ => []
  | n + 1, cs =>
    match scanInt cs with
    | none => []
    | some (v, rest) => v :: if rest.head? = some ':' then scanTime n (rest.drop 1) else []

/-- The time a text denotes, when all six numbers are there. -/
def timeOf (tt : String) : Option Tm :=
  match scanTime 6 tt.toList with
  | [hour, minute, sec, mon, mday, year] => some ⟨hour, minute, sec, mon - 1, mday, year - 1900⟩
  | _ => none

example : (timeOf "11:12:23:07:08:2019").map (·.mon) = some 6 := by decide

/-- `time_setting`, where `dateSet` is what `date_set` answers to a time. The result of `date_set`
is overwritten. -/
def timeSetting (tt zone : Option String) (dateSet : Tm → Bool) (dateSrc : Option String) : Done :=
  let ret := given zone
  match tt with
  | none => ⟨dateSrc, ret, false⟩
  | some text =>
    if text = "" then ⟨dateSrc, ret, false⟩
    else
      match timeOf text with
      | none => ⟨dateSrc, ret, false⟩
      | some tm => ⟨some "set", true, dateSet tm⟩

/-! ## From a server -/

/-- What a turn of the loop of `ntpclient` gets. -/
inductive NtpEvent where
  /-- `select` was interrupted. -/
  | interrupted
  /-- `select` ran into its timeout. -/
  | timeout
  /-- `recvfrom` failed. -/
  | recvError
  /-- A packet that is empty or too long. -/
  | odd
  /-- A packet from another port, or one that fails the checks. -/
  | rejected
  /-- A packet that passes, and whether the system clock could be set. -/
  | accepted (set : Bool)
  deriving DecidableEq

/-- What a run of `ntpclient` comes to: its exit status is 0, and it set the clock. -/
structure NtpExit where
  status0 : Bool
  clockSet : Bool
  deriving DecidableEq

/-- `primary_loop` for one probe, with the probes sent so far and whether the clock was set. A run
that does not end is killed when `execute` has waited 60 seconds. A failed `recvfrom` is reported
and then counts as an answer. -/
def primaryLoop : ℕ → Bool → List NtpEvent → NtpExit
  | _, set, [] => ⟨false, set⟩
  | sent, set, .interrupted :: es => primaryLoop sent set es
  | sent, set, .timeout :: es => if 1 ≤ sent then ⟨true, set⟩ else primaryLoop (sent + 1) set es
  | sent, set, .recvError :: es => if 1 ≤ sent then ⟨true, set⟩ else primaryLoop sent set es
  | sent, set, .odd :: es => if 1 ≤ sent then ⟨true, set⟩ else primaryLoop sent set es
  | sent, set, .rejected :: es => primaryLoop sent set es
  | _, set, .accepted false :: _ => ⟨false, set⟩
  | sent, _, .accepted true :: es => if 1 ≤ sent then ⟨true, true⟩ else primaryLoop sent true es

/-- `ntpclient -h server -s`. -/
def ntpclient (es : List NtpEvent) : NtpExit := primaryLoop 0 false es

/-- `ntpclient_sync`. -/
def ntpclientSync (server : Option String) (es : List NtpEvent) (dateSrc : Option String) : Done :=
  if !given server then ⟨dateSrc, false, false⟩
  else if (ntpclient es).status0 then ⟨some "ntp", true, (ntpclient es).clockSet⟩
  else ⟨dateSrc, false, (ntpclient es).clockSet⟩

/-! ## Runs -/

/-- A call that sets the clock, with what it meets. -/
inductive Op where
  | setting (tt zone : Option String) (dateSet : Tm → Bool)
  | sync (server : Option String) (es : List NtpEvent)

/-- The name the call records. -/
def Op.source : Op → String
  | .setting .. => "set"
  | .sync .. => "ntp"

def Op.done : Op → Option String → Done
  | .setting tt zone dateSet => timeSetting tt zone dateSet
  | .sync server es => ntpclientSync server es

/-- The mark after a sequence of calls, from a machine that has just started. -/
def markAfter (ops : List Op) : Option String :=
  ops.foldl (fun dateSrc op => (op.done dateSrc).dateSrc) none

end Tiger.Model.ClockSource
