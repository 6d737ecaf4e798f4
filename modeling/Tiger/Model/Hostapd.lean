import Tiger.Model.AtProfile
import Tiger.Model.Radio

/-!
# The SSIDs in the configuration of `hostapd` (`wifi/radio`)

The loop of `_hostapd` writes a section of the configuration for every enabled SSID of the
radio. An SSID with access control names a file in its section, and the loop puts the keys
of its table into that file, one after the other. What `_hostapd` writes in front of the
sections is not modelled.
-/

set_option autoImplicit false

namespace Tiger.Model.Hostapd

open Tiger.Library

/-- What the loop reads: the register `netdev` of a component, whether a device has a readable
address, the configurations, the device of the bridge a component is in, and the path of a
file of the project. -/
structure System where
  netdev : String → Option String
  readable : String → Bool
  config : String → Option Talk
  bridge : String → Option String
  varPath : String → String

/-- The names of the radio and its transmit power. -/
structure Radio where
  obj : String
  object : String
  txpower : Option String

/-- The contents of the files, by path. -/
abbrev Files := String → Option String

/-- `unlink( path )`. -/
def unlink (files : Files) (path : String) : Files := Function.update files path none

/-- `string3file( path, .. )`: the text is appended to the file. -/
def string3file (files : Files) (path text : String) : Files :=
  Function.update files path (some ((files path).getD "" ++ text))

/-! ## Access control -/

/-- The access controls that have a file. -/
inductive Acl where
  | accept
  | drop
  deriving DecidableEq

/-- The access control of an SSID. -/
def aclOf (cfg : Talk) : Option Acl :=
  match jsonString (some cfg) "acl" with
  | none => none
  | some ptr =>
    if strcasecmp ptr "accept" then some .accept
    else if strcasecmp ptr "drop" then some .drop
    else none

/-- The file of an access control. -/
def aclPath (sys : System) (netdev : String) : Acl → String
  | .accept => sys.varPath ("hostapd." ++ netdev ++ "_accept")
  | .drop => sys.varPath ("hostapd." ++ netdev ++ "_deny")

/-- The keys of the table of an SSID that are not empty. -/
def macKeys (cfg : Talk) : List String :=
  ((entriesOf (jsonValue (some cfg) "acl_table")).map Prod.fst).filter (· ≠ "")

/-- The file is deleted and the keys are appended one by one. -/
def writeKeys (files : Files) (path : String) (keys : List String) : Files :=
  keys.foldl (fun files key => string3file files path (key ++ "\n")) (unlink files path)

/-! ## The section of an SSID -/

/-- A line of the configuration. -/
inductive Line where
  | set (key value : String)
  | acceptMacFile (path : String)
  | denyMacFile (path : String)
  | blank
  deriving DecidableEq

/-- A line as it is printed. -/
def Line.text : Line → String
  | .set key value => key ++ "=" ++ value ++ "\n"
  | .acceptMacFile path => "accept_mac_file=" ++ path ++ "\n"
  | .denyMacFile path => "deny_mac_file=" ++ path ++ "\n"
  | .blank => "\n"

/-- `ptr != NULL && 0 == strcmp( ptr, "enable" )`. -/
def enabled (cfg : Talk) (key : String) : Bool := jsonString (some cfg) key = some "enable"

/-- The lines of a security, none for an open network. -/
def secureLines (cfg : Talk) : List Line :=
  let mode : Option (List Line) :=
    match jsonString (some cfg) "secure" with
    | some "wpapsk" => some [.set "eapol_version" "1", .set "auth_algs" "1", .set "wpa" "1"]
    | some "wpa2psk" =>
      some [.set "wpa" "2", .set "auth_algs" "1", .set "okc" "0",
        .set "disable_pmksa_caching" "1"]
    | some "wpapskwpa2psk" =>
      some [.set "eapol_version" "1", .set "wpa" "3", .set "auth_algs" "1", .set "okc" "0",
        .set "disable_pmksa_caching" "1"]
    | _ => none
  let pairwise :=
    match jsonString (some cfg) "wpa_encrypt" with
    | some "aes" => "CCMP"
    | some "tkip" => "TKIP"
    | _ => "CCMP TKIP"
  let rekey :=
    match jsonString (some cfg) "wpa_rekey" with
    | none => []
    | some ptr =>
      if atoi ptr > 0 then [Line.set "wpa_group_rekey" ptr, .set "wpa_gmk_rekey" ptr] else []
  match mode with
  | none => []
  | some lines =>
    lines ++ [.set "wpa_key_mgmt" "WPA-PSK", .set "wpa_pairwise" pairwise,
      .set "wpa_passphrase" (printed (jsonString (some cfg) "wpa_key"))] ++ rekey

/-- The lines of the access control. -/
def aclLines (sys : System) (netdev : String) (cfg : Talk) : List Line :=
  match aclOf cfg with
  | none => []
  | some .accept => [.set "macaddr_acl" "1", .acceptMacFile (aclPath sys netdev .accept)]
  | some .drop => [.set "macaddr_acl" "0", .denyMacFile (aclPath sys netdev .drop)]

def ctrlDir : String := "/var/run/hostapd"

/-- The lines in front of the access control. -/
def networkLines (sys : System) (compath netdev : String) (cfg : Talk) : List Line :=
  [.set "interface" netdev, .set "ctrl_interface" ctrlDir] ++
    (if enabled cfg "isolated" then [.set "ap_isolate" "1"] else []) ++
    [.set "ignore_broadcast_ssid" (if enabled cfg "broadcast" then "0" else "1"),
      .set "preamble" "1"] ++
    (if enabled cfg "wmm" then
      [.set "wmm_enabled" "1", .set "uapsd_advertisement_enabled" "1"] else []) ++
    secureLines cfg ++
    [.set "ssid" (printed (jsonString (some cfg) "ssid")), .set "utf8_ssid" "1"] ++
    (entriesOf (jsonValue (some cfg) "hostapd_options")).map
      (fun axp => .set axp.1 (printed (xText (some axp.2)))) ++
    ((sys.bridge compath).map (Line.set "bridge")).toList ++
    (if enabled cfg "wds" then [.set "wds_sta" "1"] else [])

/-- The lines behind it. -/
def lastLines (cfg : Talk) : List Line :=
  (match jsonString (some cfg) "maxsta" with
    | none => []
    | some ptr => if ptr = "" then [] else [.set "max_num_sta" ptr]) ++ [.blank, .blank]

/-- The section of a component. -/
structure Section where
  com : String
  lines : List Line

/-! ## The loop -/

/-- What the loop has written: the sections, the files, the register `ssidctl`, whether an SSID
is enabled, and the powers it has set. -/
structure State where
  sections : List Section
  files : Files
  ssidctl : Option String
  run : Bool
  power : List (String × ℤ)

/-- `iwconfig .. txpower ..`. -/
def setPower (radio : Radio) (netdev : String) : List (String × ℤ) :=
  match radio.txpower with
  | none => []
  | some txpower =>
    if (strstr "dBm".toList txpower.toList).isSome ∧ 0 ≤ atoi txpower ∧ atoi txpower ≤ 100 then
      [(netdev, atoi txpower)]
    else []

/-- The component of slot `i`. -/
def compath (radio : Radio) (i : ℕ) : String := Radio.slotName radio.object "ssid" i

/-- The device of slot `i`, when it has one with an address. -/
def deviceOf (sys : System) (radio : Radio) (i : ℕ) : Option String :=
  match sys.netdev (compath radio i) with
  | none => none
  | some netdev => if netdev = "" then none else if sys.readable netdev then some netdev else none

/-- The configuration of slot `i`, when the SSID is enabled. -/
def configOf (sys : System) (radio : Radio) (i : ℕ) : Option Talk :=
  match sys.config (compath radio i) with
  | none => none
  | some cfg => if enabled cfg "status" then some cfg else none

/-- The files after the access control of an SSID is written. -/
def aclFiles (sys : System) (netdev : String) (cfg : Talk) (files : Files) : Files :=
  match aclOf cfg with
  | none => files
  | some acl => writeKeys files (aclPath sys netdev acl) (macKeys cfg)

/-- The control socket of slot `i`. -/
def ctlOf (radio : Radio) (i : ℕ) : String :=
  ctrlDir ++ "/" ++ radio.obj ++ "ssid" ++ (if i = 0 then "" else toString (i + 1))

/-- Turn `i` of the loop. -/
def ssidTurn (sys : System) (radio : Radio) (s : State) (i : ℕ) : State :=
  match deviceOf sys radio i with
  | none => s
  | some netdev =>
    let s := { s with power := s.power ++ setPower radio netdev }
    match configOf sys radio i with
    | none => s
    | some cfg =>
      { s with
        sections := s.sections ++ [⟨compath radio i,
          networkLines sys (compath radio i) netdev cfg ++ aclLines sys netdev cfg ++
            lastLines cfg⟩]
        files := aclFiles sys netdev cfg s.files
        ssidctl := some (ctlOf radio i)
        run := true }

/-- The loop over the SSIDs; `files` is what earlier runs have left. -/
def hostapd (sys : System) (radio : Radio) (files : Files) : State :=
  (List.range 4).foldl (ssidTurn sys radio) ⟨[], files, none, false, []⟩

end Tiger.Model.Hostapd
