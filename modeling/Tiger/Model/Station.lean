import Tiger.Library.BlockText
import Tiger.Model.Talk

/-!
# The station of a radio (`wifi/sta`)

`_up` brings the station up: it takes the settings from its parameter when that names
a peer, else from the configuration, stops the services of the device, and unless the
station is disabled or has no peer it saves the settings in the register of the object
and starts `wpa` and `keeplive`. A file marks a station that is up, and a marked
station is left alone. `_down` takes the mark away and stops the services.

`_wpa` writes the configuration of `wpa_supplicant` from the saved settings. The file
is modelled by its characters; `networkBlocks` reads it line by line.
-/

set_option autoImplicit false

namespace Tiger.Model.Station

open Tiger.Library

/-- The settings `_up` saves. -/
structure Settings where
  peer : Option String
  peer2 : Option String
  peer3 : Option String
  peermac : Option String
  ifname : Option String
  peermode : Option String
  strong : Option String
  channel : Option String
  chext : Option String
  secure : Option String
  wpaEncrypt : Option String
  wpaKey : Option String
  ssidDisable : Option String

/-- The settings of an object. -/
def settings (value : Option Talk) : Settings where
  peer := jsonString value "peer"
  peer2 := jsonString value "peer2"
  peer3 := jsonString value "peer3"
  peermac := jsonString value "peermac"
  ifname := jsonString value "ifname"
  peermode := jsonString value "peermode"
  strong := jsonString value "strong"
  channel := jsonString value "channel"
  chext := jsonString value "chext"
  secure := jsonString value "secure"
  wpaEncrypt := jsonString value "wpa_encrypt"
  wpaKey := jsonString value "wpa_key"
  ssidDisable := jsonString value "ssid_disable"

/-! ## Up and down -/

/-- The station object, as the radio registered it. -/
structure Object where
  /-- The object is the component itself and no interface of it. -/
  generic : Bool
  radio : Option String
  netdev : Option String
  /-- The device has the flag `IFF_BROADCAST`. -/
  broadcast : Bool

/-- The state of a station: the mark, the services of its device, whether the device is up,
and the saved settings. -/
structure State where
  mark : Bool
  keeplive : Bool
  relayd : Bool
  wpa : Bool
  devUp : Bool
  saved : Settings

/-- The object the settings are taken from. `peer2` is asked twice and `peer3` never. -/
def source (cfg opt : Option Talk) : Option Talk :=
  if (jsonString opt "peer").isSome || (jsonString opt "peer2").isSome ||
      (jsonString opt "peer2").isSome || (jsonString opt "peermac").isSome then opt
  else cfg

/-- The test that there is no peer, `none` when it reads through a null pointer: for `peer3` it
asks whether `peer` is `NULL`, and reads `peer3` if not. -/
def noPeer (v : Settings) : Option Bool :=
  if given v.peer then some false
  else if given v.peer2 then some false
  else if v.peer = none then some !given v.peermac
  else v.peer3.map fun peer3 => peer3 = "" && !given v.peermac

/-- The station is disabled. -/
def disabled (value : Option Talk) : Bool := jsonString value "status" = some "disable"

/-- `_up`: the state and whether it returned `ttrue`, `none` when it does not return. -/
def up (o : Object) (cfg opt : Option Talk) (s : State) : Option (State × Bool) :=
  if o.generic then some (s, false)
  else if !given o.radio then some (s, false)
  else if !given o.netdev then some (s, false)
  -- the mark is created exclusively: the station is up already
  else if s.mark then some (s, true)
  else
    let value := source cfg opt
    let v := settings value
    let s := { s with mark := true, keeplive := false, relayd := false, wpa := false }
    if disabled value then some ({ s with mark := false }, true)
    else (noPeer v).map fun none =>
      if none then ({ s with mark := false }, true)
      else ({ s with saved := v, wpa := true, keeplive := true }, true)

/-- `_down`. -/
def down (o : Object) (s : State) : State × Bool :=
  if o.generic then (s, false)
  else if !given o.netdev then (s, false)
  else
    let s := { s with mark := false }
    if o.broadcast then
      ({ s with keeplive := false, relayd := false, wpa := false, devUp := false }, true)
    else (s, true)

/-! ## The configuration of `wpa_supplicant` -/

/-- The entry of the access point. -/
def bssidEntries (v : Settings) : List String :=
  if given v.peermac then ["bssid=" ++ printed v.peermac] else []

/-- The entries of the security mode. -/
def secureEntries (v : Settings) : List String :=
  let psk := "psk=\"" ++ printed v.wpaKey ++ "\""
  if v.secure = some "wpapsk" then ["key_mgmt=WPA-PSK", "proto=WPA", psk]
  else if v.secure = some "wpa2psk" then ["key_mgmt=WPA-PSK", "proto=RSN", psk]
  else if v.secure = some "wpapskwpa2psk" then ["key_mgmt=WPA-PSK", psk]
  else ["key_mgmt=NONE"]

/-- The entries of a network block. -/
def blockEntries (v : Settings) (ssid priority : String) : List String :=
  ["scan_ssid=1", "ssid=\"" ++ ssid ++ "\""] ++ bssidEntries v ++ secureEntries v ++
    ["priority=" ++ priority]

/-- The line that opens a network block, and the one that closes it. -/
def opening : String := "network=\x7b"

def closing : String := "\x7d"

/-- The lines of a network block. -/
def networkLines (v : Settings) (ssid priority : String) : List String :=
  opening :: (blockEntries v ssid priority).map ("\t\t" ++ ·) ++ [closing]

def peerLines (v : Settings) : List String :=
  if given v.peer then networkLines v (printed v.peer) "3" else []

/-- The block of the second peer prints the third. -/
def peer2Lines (v : Settings) : List String :=
  if given v.peer2 then networkLines v (printed v.peer3) "2" else []

def peer3Lines (v : Settings) : List String :=
  if given v.peer3 then networkLines v (printed v.peer3) "1" else []

/-- The lines of the file. -/
def wpaLines (v : Settings) : List String :=
  "ap_scan=1" :: peerLines v ++ peer2Lines v ++ peer3Lines v

/-- The file `_wpa` writes, by its characters. -/
def wpaFile (v : Settings) : List Char := unlines '\n' ((wpaLines v).map String.toList)

/-- The network blocks of a file, each with its lines. -/
def networkBlocks (file : List Char) : List (List String) :=
  blocks opening closing none ((linesOf '\n' file).map String.ofList)

end Tiger.Model.Station
