import Tiger.Model.Buffers
import Tiger.Model.Station

/-!
# The access points of a radio (`wifi/ap`)

`_up` restarts the `hostapd` of the radio, with the device up when the access point is
enabled and down otherwise. A file marks an access point that is up, and a marked one
is left alone. `_down` takes the mark away and the device down; the `hostapd` stays.

`_status` reports three fields of the output of `iw`, which it finds and cuts in one buffer.
What else it reports is not modelled.
-/

set_option autoImplicit false

namespace Tiger.Model.AccessPoint

open Tiger.Library
open Tiger.Model.Buffers
open Tiger.Model.Station (Object)

/-- The state of an access point: the mark, the `hostapd` of its radio, and whether the device
is up. -/
structure State where
  mark : Bool
  hostapd : Bool
  devUp : Bool

/-- The access point is enabled. -/
def enabled (cfg : Option Talk) : Bool := jsonString cfg "status" = some "enable"

/-- `_up`: the state, and whether it returned `ttrue`. The branch of an enabled access point
leaves the result as it was set at the start. -/
def up (o : Object) (cfg : Option Talk) (s : State) : State × Bool :=
  if o.generic then (s, false)
  else if !given o.radio then (s, false)
  else if !given o.netdev then (s, false)
  else if cfg.isNone then (s, false)
  -- the mark is created exclusively: the access point is up already
  else if s.mark then (s, true)
  else
    let s := { s with mark := true, hostapd := false }
    if enabled cfg then ({ s with devUp := true, hostapd := true }, false)
    else ({ s with devUp := false, mark := false, hostapd := true }, true)

/-- `_down`. -/
def down (o : Object) (s : State) : State × Bool :=
  if o.generic then (s, false)
  else if !given o.netdev then (s, false)
  else
    let s := { s with mark := false }
    if o.broadcast then ({ s with devUp := false }, true) else (s, true)

/-! ## The output of `iw` -/

/-- `sizeof(readbuf)`. -/
def readSize : ℕ := 1024

/-- The cleared buffer after the `fread`. -/
def readbuf (output : List Char) : List Char :=
  output.take readSize ++ List.replicate (readSize - output.length) nul

/-- `strstr( readbuf, needle )`: where the needle first stands in the text, if it does; `none`
when the buffer has no terminating zero. -/
def search (needle : String) (cells : List Char) : Option (Option ℕ) :=
  (textAt nul cells).map fun text =>
    (strstr needle.toList text).map fun found => text.length - found.length

/-- The buffer, and the value that was cut in it with the cell it begins at. -/
structure Cut where
  cells : List Char
  value : Option (ℕ × List Char)
  deriving DecidableEq

/-- `end = strchr( value, c ); *end = '\0'`. -/
def cutAt (c : Char) (cells : List Char) (value : ℕ) : Option Cut :=
  match seek nul c (cells.drop value) with
  | none => none
  | some none => some ⟨cells, none⟩
  | some (some n) =>
    let cells := cells.set (value + n) nul
    (textAt nul (cells.drop value)).map fun text => ⟨cells, some (value, text)⟩

/-- The value behind a needle, where the needle was found. -/
def valueOf (needle : String) (c : Char) (cells : List Char) : Option ℕ → Option Cut
  | none => some ⟨cells, none⟩
  | some p => cutAt c cells (p + needle.length)

/-- `lowtoupp( value )`, in the buffer. -/
def lowtoupp (s : Cut) : Cut :=
  match s.value with
  | none => s
  | some (p, text) =>
    ⟨s.cells.take p ++ text.map Char.toUpper ++ s.cells.drop (p + text.length),
      some (p, text.map Char.toUpper)⟩

/-- The fields that `_status` reports from the output. -/
structure Info where
  ssid : Option (List Char)
  bssid : Option (List Char)
  channel : Option (List Char)
  deriving DecidableEq

/-- The part of `_status` that reads the output of `iw dev .. info`. -/
def statusInfo (output : List Char) : Option Info := do
  let cells := readbuf output
  let ssid ← search "ssid " cells
  let bssid ← search "addr " cells
  let channel ← search "channel " cells
  let s ← valueOf "ssid " '\n' cells ssid
  let b ← valueOf "addr " '\n' s.cells bssid
  let b := lowtoupp b
  let c ← valueOf "channel " ' ' b.cells channel
  pure ⟨s.value.map Prod.snd, b.value.map Prod.snd, c.value.map Prod.snd⟩

end Tiger.Model.AccessPoint
