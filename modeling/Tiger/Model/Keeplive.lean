import Tiger.Library.PollLoop

/-!
# Keeplive services (`netcard/device`, `wifi/sta`)

Both services poll the connection for ever and leave their loop when they declare
it lost: the netcard device then resets the interface, the station resets its
connection. A turn is given with its counters; the end of a turn is a pause of 5
seconds after a good poll and of 200 milliseconds after a failed one.
-/

set_option autoImplicit false

namespace Tiger.Model.Keeplive

open Tiger.Library

/-- What one poll answers: `connected` gave `ttrue`, or `station_dev_connected` gave 0. -/
inductive Poll where
  | connected
  | broke
  deriving DecidableEq

/-! ## The netcard device -/

/-- One turn of the loop of the netcard device with its counter `i`, `none` when the
connection is declared lost. -/
def netcardTurn : Poll → ℕ → Option ℕ
  | .connected, i => some i
  | .broke, i => if 10 ≤ i then none else some (i + 1)

/-- Broken polls are counted up to ten, and the next one ends the loop. -/
theorem netcardTurn_broke (i : ℕ) :
    netcardTurn .broke i = if 10 ≤ i then none else some (i + 1) := rfl

/-- The poll at which `_keeplive` of the netcard device declares the connection lost. -/
def netcardLostAt (polls : List Poll) : Option ℕ := endsAt netcardTurn 0 polls

/-! ## The wifi station -/

/-- The toolkit's names of the stations and of the SSIDs beside them. -/
structure WifiComs where
  nsta : String
  nssid : String
  nssid2 : String
  asta : String
  assid : String
  assid2 : String

/-- The local SSIDs a connected station shuts. -/
def WifiComs.localSsids (c : WifiComs) (object : String) : List String :=
  if object = c.nsta then [c.nssid, c.nssid2]
  else if object = c.asta then [c.assid, c.assid2]
  else []

/-- The counters of the station's loop, and the components whose `shut` was called. -/
structure StaState where
  i : ℕ
  s : ℕ
  shut : List String

/-- One turn of the loop of the station, `none` when the connection is declared lost. -/
def staTurn (c : WifiComs) (object : String) (ssidDisable : Option String) :
    Poll → StaState → Option StaState
  | .connected, st =>
    let s := st.s + 1
    let off := if s = 36 ∧ ssidDisable = some "enable" then c.localSsids object else []
    some ⟨0, s, st.shut ++ off⟩
  | .broke, st => if 10 ≤ st.i then none else some { st with i := st.i + 1 }

/-- Broken polls of a station are counted up to ten, and the next one ends its loop. -/
theorem staTurn_broke (c : WifiComs) (object : String) (ssidDisable : Option String)
    (st : StaState) : staTurn c object ssidDisable .broke st =
      if 10 ≤ st.i then none else some { st with i := st.i + 1 } := rfl

/-- The poll at which `_keeplive` of the station declares the connection lost. -/
def staLostAt (c : WifiComs) (object : String) (ssidDisable : Option String)
    (polls : List Poll) : Option ℕ :=
  endsAt (staTurn c object ssidDisable) ⟨0, 0, []⟩ polls

end Tiger.Model.Keeplive
