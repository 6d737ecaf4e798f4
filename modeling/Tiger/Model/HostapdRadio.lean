import Tiger.Library.BlockText
import Tiger.Model.Hostapd

/-!
# The radio in the configuration of `hostapd` (`wifi/radio`, `landwifi`)

What `_hostapd` writes in front of the sections of the SSIDs: the log, the country, the
hardware mode with the capabilities of 11n, 11a and 11ac, the limits and the channel.
`country2chlist` and `_chlist` give the channels a country has, and the three
`wireless_*_adjustment` functions say for a channel which neighbours it is bonded with.

A line is written without its line break. `wireless_11ac_adjustment` writes some lines and
begins another, which `_hostapd` ends.
-/

set_option autoImplicit false

namespace Tiger.Model.Hostapd

open Tiger.Library

/-! ## The channels of a country -/

/-- The rows of the tables a country stands for. -/
structure CountrySet where
  country : String
  n : ℕ
  a : ℕ

def countryList : List CountrySet :=
  [⟨"DB", 5, 7⟩, ⟨"AL", 1, 0⟩, ⟨"DZ", 1, 0⟩, ⟨"AR", 1, 3⟩, ⟨"AM", 1, 2⟩, ⟨"AU", 1, 0⟩,
   ⟨"AT", 1, 1⟩, ⟨"AZ", 1, 2⟩, ⟨"BH", 1, 0⟩, ⟨"BY", 1, 0⟩, ⟨"BE", 1, 1⟩, ⟨"BZ", 1, 4⟩,
   ⟨"BO", 1, 4⟩, ⟨"BR", 1, 1⟩, ⟨"BN", 1, 4⟩, ⟨"BG", 1, 1⟩, ⟨"CA", 0, 0⟩, ⟨"CL", 1, 0⟩,
   ⟨"CN", 1, 0⟩, ⟨"CO", 0, 0⟩, ⟨"CR", 1, 0⟩, ⟨"HR", 1, 2⟩, ⟨"CY", 1, 1⟩, ⟨"CZ", 1, 2⟩,
   ⟨"DK", 1, 1⟩, ⟨"DO", 0, 0⟩, ⟨"EC", 1, 0⟩, ⟨"EG", 1, 2⟩, ⟨"SV", 1, 0⟩, ⟨"EE", 1, 1⟩,
   ⟨"FI", 1, 1⟩, ⟨"FR", 1, 2⟩, ⟨"GE", 1, 2⟩, ⟨"DE", 1, 1⟩, ⟨"GR", 1, 1⟩, ⟨"GT", 0, 0⟩,
   ⟨"HN", 1, 0⟩, ⟨"HK", 1, 0⟩, ⟨"HU", 1, 1⟩, ⟨"IS", 1, 1⟩, ⟨"IN", 1, 0⟩, ⟨"ID", 1, 4⟩,
   ⟨"IR", 1, 4⟩, ⟨"IE", 1, 1⟩, ⟨"IL", 1, 0⟩, ⟨"IT", 1, 1⟩, ⟨"JP", 5, 9⟩, ⟨"JO", 1, 0⟩,
   ⟨"KZ", 1, 0⟩, ⟨"KP", 1, 5⟩, ⟨"KR", 1, 5⟩, ⟨"KW", 1, 0⟩, ⟨"LV", 1, 1⟩, ⟨"LB", 1, 1⟩,
   ⟨"LI", 1, 1⟩, ⟨"LT", 1, 1⟩, ⟨"LU", 1, 1⟩, ⟨"MO", 1, 0⟩, ⟨"MK", 1, 0⟩, ⟨"MY", 1, 0⟩,
   ⟨"MX", 0, 0⟩, ⟨"MC", 1, 2⟩, ⟨"MA", 1, 0⟩, ⟨"NL", 1, 1⟩, ⟨"NZ", 1, 0⟩, ⟨"NO", 0, 0⟩,
   ⟨"OM", 1, 0⟩, ⟨"PK", 1, 0⟩, ⟨"PA", 0, 0⟩, ⟨"PE", 1, 4⟩, ⟨"PH", 1, 4⟩, ⟨"PL", 1, 1⟩,
   ⟨"PT", 1, 1⟩, ⟨"PR", 0, 0⟩, ⟨"QA", 1, 0⟩, ⟨"RO", 1, 0⟩, ⟨"RU", 1, 0⟩, ⟨"SA", 1, 0⟩,
   ⟨"SG", 1, 0⟩, ⟨"SK", 1, 1⟩, ⟨"SI", 1, 1⟩, ⟨"ZA", 1, 1⟩, ⟨"ES", 1, 1⟩, ⟨"SE", 1, 1⟩,
   ⟨"CH", 1, 1⟩, ⟨"SY", 1, 0⟩, ⟨"TW", 1, 3⟩, ⟨"TH", 1, 0⟩, ⟨"TT", 1, 2⟩, ⟨"TN", 1, 1⟩,
   ⟨"TR", 1, 2⟩, ⟨"UA", 1, 0⟩, ⟨"AE", 1, 0⟩, ⟨"GB", 1, 1⟩, ⟨"US", 0, 7⟩, ⟨"UY", 1, 5⟩,
   ⟨"UZ", 0, 1⟩, ⟨"VE", 1, 5⟩, ⟨"VN", 1, 0⟩, ⟨"YE", 1, 0⟩, ⟨"ZW", 1, 0⟩]

def aBand : List (List ℕ) :=
  [[36, 40, 44, 48, 52, 56, 60, 64, 149, 153, 157, 161, 165],
   [36, 40, 44, 48, 52, 56, 60, 64, 100, 104, 108, 112, 116, 120, 124, 128, 132, 136, 140],
   [36, 40, 44, 48, 52, 56, 60, 64],
   [52, 56, 60, 64, 149, 153, 157, 161],
   [149, 153, 157, 161, 165],
   [149, 153, 157, 161],
   [36, 40, 44, 48],
   [36, 40, 44, 48, 52, 56, 60, 64, 100, 104, 108, 112, 116, 120, 124, 128, 132, 136, 140, 149,
    153, 157, 161, 165],
   [52, 56, 60, 64],
   [36, 40, 44, 48, 52, 56, 60, 64, 100, 104, 108, 112, 116, 132, 136, 140, 149, 153, 157, 161,
    165],
   [36, 40, 44, 48, 149, 153, 157, 161, 165],
   [36, 40, 44, 48, 52, 56, 60, 64, 100, 104, 108, 112, 116, 132, 136, 140, 149, 153, 157, 161,
    165]]

def nBand : List (List ℕ) :=
  [[1, 2, 3, 4, 5, 6, 7, 8, 9, 10, 11],
   [1, 2, 3, 4, 5, 6, 7, 8, 9, 10, 11, 12, 13],
   [10, 11],
   [10, 11, 12, 13],
   [14],
   [1, 2, 3, 4, 5, 6, 7, 8, 9, 10, 11, 12, 13, 14],
   [3, 4, 5, 6, 7, 8, 9],
   [5, 6, 7, 8, 9, 10, 11, 12, 13]]

/-- The channels of a country, those of 5 GHz when `a` is set. -/
def countryChannels (country : String) (a : Bool) : Option (List ℕ) :=
  match countryList.find? fun p => strcasecmp p.country country with
  | none => none
  | some p => if a then aBand[p.a]? else nBand[p.n]?

/-- `country2chlist`: an object with a key for each channel. -/
def country2chlist (country : String) (a : Bool) : Option Talk :=
  (countryChannels country a).map fun chs =>
    .json (chs.map fun ch => (toString ch, .json []))

/-- The mode is one of 5 GHz. -/
def hasA (mode : String) : Bool := (strstr "a".toList mode.toList).isSome

/-- The mode is one with 11ac. -/
def hasAc (mode : String) : Bool := (strstr "ac".toList mode.toList).isSome

/-- `_chlist`: the mode and the country are parameters, else those of the configuration. -/
def chlist (cfg : Option Talk) (mode country : Option String) : Option Talk :=
  match mode.or (jsonString cfg "mode"), country.or (jsonString cfg "country") with
  | some mode, some country => country2chlist country (hasA mode)
  | _, _ => none

/-! ## The bonds of a channel -/

/-- The channel in front of a bond or behind it. -/
inductive Sideband where
  | above
  | below
  deriving DecidableEq

/-- The capability that stands for a sideband. -/
def Sideband.text : Sideband → String
  | .above => "[HT40+]"
  | .below => "[HT40-]"

/-- `ch`: the number of a channel, 0 when there is none. -/
def channelNumber (channel : Option String) : ℤ := channel.elim 0 atoi

/-- The sideband of a channel of 2.4 GHz. -/
def sideband11n (ch : ℤ) (ext : Option String) : Option Sideband :=
  if 5 ≤ ch ∧ ch ≤ 9 then if ext = some "below" then some .below else some .above
  else if ch < 5 then some .above
  else if ch > 9 ∧ ch < 14 then some .below
  else none

/-- The sideband of a channel of 5 GHz. -/
def sideband11a (ch : ℤ) : Option Sideband :=
  if ch ∈ [40, 48, 56, 64, 104, 112, 120, 128, 136, 153, 161] then some .below
  else if ch ∈ [0, 36, 44, 52, 60, 100, 108, 116, 124, 132, 149, 157] then some .above
  else none

/-- The short guard interval: the text of the driver for a bandwidth, `text` when the driver
has no texts. -/
def shortGi (shortgi : Option String) (shortgiopt : Option Talk) (key text : String) : String :=
  if shortgi = some "enable" then
    match shortgiopt with
    | none => text
    | some opt => (jsonString (some opt) key).getD ""
  else ""

def sidebandText (s : Option Sideband) : String := (s.map Sideband.text).getD ""

/-- `wireless_11n_adjustment`. -/
def wireless11nAdjustment (channel ext bandwidth shortgi : Option String)
    (shortgiopt : Option Talk) : String :=
  if bandwidth = none ∨ bandwidth = some "20" then
    shortGi shortgi shortgiopt "20" "[SHORT-GI-20]"
  else
    sidebandText (sideband11n (channelNumber channel) ext) ++
      shortGi shortgi shortgiopt "40" "[SHORT-GI-20][SHORT-GI-40]"

/-- `wireless_11a_adjustment`. -/
def wireless11aAdjustment (channel bandwidth shortgi : Option String)
    (shortgiopt : Option Talk) : String :=
  if bandwidth = some "40" ∨ bandwidth = some "80" ∨ bandwidth = some "160" then
    sidebandText (sideband11a (channelNumber channel)) ++
      shortGi shortgi shortgiopt "40" "[SHORT-GI-20][SHORT-GI-40]"
  else if bandwidth = some "20" then shortGi shortgi shortgiopt "20" "[SHORT-GI-20]"
  else ""

/-- `idx` for 40 MHz. -/
def idx40 (ch : ℤ) : String :=
  if ch = 0 then "-2"
  else if ch = 36 ∨ ch = 40 then "38"
  else if ch = 44 ∨ ch = 48 then "46"
  else if ch = 52 ∨ ch = 56 then "54"
  else if ch = 60 ∨ ch = 64 then "62"
  else if ch = 100 ∨ ch = 104 then "102"
  else if ch = 108 ∨ ch = 112 then "110"
  else if ch = 116 ∨ ch = 120 then "118"
  else if ch = 124 ∨ ch = 128 then "126"
  else if ch = 132 ∨ ch = 136 then "134"
  else if ch = 140 ∨ ch = 144 then "142"
  else ""

/-- `idx` for 80 MHz. -/
def idx80 (ch : ℤ) : String :=
  if ch = 0 then "-6"
  else if ch = 36 ∨ ch = 40 ∨ ch = 44 ∨ ch = 48 then "42"
  else if ch = 52 ∨ ch = 56 ∨ ch = 60 ∨ ch = 64 then "58"
  else if ch = 100 ∨ ch = 104 ∨ ch = 108 ∨ ch = 112 then "106"
  else if ch = 116 ∨ ch = 120 ∨ ch = 124 ∨ ch = 128 then "122"
  else if ch = 132 ∨ ch = 136 ∨ ch = 140 ∨ ch = 144 then "138"
  else ""

/-- `idx` for 160 MHz; the channel itself where there is no block. -/
def idx160 (ch : ℤ) (channel : Option String) : String :=
  if ch = 0 then "acs_survey"
  else if ch = 36 ∨ ch = 40 ∨ ch = 44 ∨ ch = 48 ∨ ch = 52 ∨ ch = 56 ∨ ch = 60 ∨ ch = 64 then "50"
  else if ch = 100 ∨ ch = 104 ∨ ch = 108 ∨ ch = 112 ∨ ch = 116 ∨ ch = 120 ∨ ch = 124 ∨
      ch = 128 then "114"
  else printed channel

/-- What a function has written: lines, and the begin of the next one. -/
structure Written where
  lines : List String
  rest : String

/-- The lines of a bandwidth of 11ac. -/
def chwidthLines (chwidth idx : String) : List String :=
  ["vht_oper_chwidth=" ++ chwidth, "vht_oper_centr_freq_seg0_idx=" ++ idx]

/-- `wireless_11ac_adjustment`. -/
def wireless11acAdjustment (channel bandwidth shortgi : Option String)
    (shortgiopt : Option Talk) : Written :=
  let ch := channelNumber channel
  match bandwidth with
  | none => ⟨[], ""⟩
  | some bandwidth =>
    if strcasecmp bandwidth "20" then ⟨chwidthLines "0" "", "vht_capab="⟩
    else if strcasecmp bandwidth "40" then ⟨chwidthLines "0" (idx40 ch), "vht_capab="⟩
    else if strcasecmp bandwidth "80" then
      ⟨chwidthLines "1" (idx80 ch),
        "vht_capab=" ++ shortGi shortgi shortgiopt "80" "[SHORT-GI-80]"⟩
    else if strcasecmp bandwidth "160" then
      ⟨chwidthLines "2" (idx160 ch channel),
        "vht_capab=" ++
          if shortgi = some "enable" then
            shortGi shortgi shortgiopt "160" "[SHORT-GI-80][SHORT-GI-160]"
          else "[VHT160]"⟩
    else ⟨[], ""⟩

/-! ## The settings of the radio -/

/-- What `_hostapd` reads of a radio: its configuration, the register `channel`, and the
answer of the driver to `hostapd_config`. -/
structure RadioSource where
  cfg : Option Talk
  channel : Option String
  hstinfo : Option Talk

/-- A text, or a default where it is absent or empty. -/
def orDefault (s : Option String) (default : String) : String :=
  if given s then s.getD default else default

namespace RadioSource

/-- The options of the driver. -/
def hstopt (r : RadioSource) : Option Talk := jsonValue r.hstinfo "options"

/-- The capabilities of the driver, under `ht_capab` and `vht_capab`. -/
def hstval (r : RadioSource) (key : String) : Option Talk :=
  jsonValue (jsonValue r.hstinfo "value") key

/-- A setting of the radio. -/
def string (r : RadioSource) (key : String) : Option String := jsonString r.cfg key

/-- The mode, by default the first one the driver has options for. -/
def mode (r : RadioSource) : String :=
  orDefault (r.string "mode") <|
    if (jsonValue r.hstopt "n").isSome then "n"
    else if (jsonValue r.hstopt "a").isSome then "a"
    else if (jsonValue r.hstopt "ac").isSome then "ac"
    else "n"

def country (r : RadioSource) : String := orDefault (r.string "country") "cn"

/-- The channel the register says, else the one of the configuration. -/
def channelText (r : RadioSource) : String :=
  orDefault r.channel (orDefault (r.string "channel") "1")

def bandwidth (r : RadioSource) : String := orDefault (r.string "bandwidth") "20"

/-- The texts of the driver for the short guard interval. -/
def shortgiopt (r : RadioSource) : Option Talk := jsonValue r.hstopt "shortgi"

/-- `stbc`, `ldpc` and the capabilities to add, under `ht_capab` or `vht_capab`. -/
def capab (r : RadioSource) (key : String) : String :=
  (if r.string "stbc" = some "enable" then (jsonString (r.hstval key) "stbc").getD "" else "") ++
    (if r.string "ldpc" = some "enable" then (jsonString (r.hstval key) "ldpc").getD ""
      else "") ++
    (jsonString r.hstopt key).getD ""

/-- The options of a mode. -/
def optionLines (r : RadioSource) (key : String) : List String :=
  (entriesOf (jsonValue r.hstopt key)).map fun axp => axp.1 ++ "=" ++ printed (xText (some axp.2))

/-! ## The lines -/

def logLines : List String :=
  ["driver=nl80211", "logger_syslog=127", "logger_syslog_level=2", "logger_stdout=127",
    "logger_stdout_level=2", ""]

/-- `lowtoupp`. -/
def lowtoupp (s : String) : String := String.ofList (s.toList.map Char.toUpper)

/-- The country is never empty. -/
def countryLines (r : RadioSource) : List String :=
  ["country_code=" ++ lowtoupp r.country, "ieee80211d=1"] ++
    if hasA r.mode then ["ieee80211h=1"] else []

/-- The lines of 11ac. -/
def acLines (r : RadioSource) : List String :=
  let w := wireless11acAdjustment (some r.channelText) (some r.bandwidth) (r.string "shortgi")
    r.shortgiopt
  ["ieee80211ac=1"] ++ w.lines ++ [w.rest ++ r.capab "vht_capab"] ++ r.optionLines "ac"

/-- The lines of 5 GHz. -/
def aLines (r : RadioSource) : List String :=
  ["hw_mode=a", "ieee80211n=1",
    "ht_capab=" ++ wireless11aAdjustment (some r.channelText) (some r.bandwidth)
      (r.string "shortgi") r.shortgiopt ++ r.capab "ht_capab"] ++
    if hasAc r.mode then r.acLines else r.optionLines "a"

/-- The lines of 2.4 GHz. -/
def nLines (r : RadioSource) : List String :=
  ["hw_mode=g", "ieee80211n=1",
    "ht_capab=" ++ wireless11nAdjustment (some r.channelText) (r.string "extcha")
      (some r.bandwidth) (r.string "shortgi") r.shortgiopt ++ r.capab "ht_capab"] ++
    r.optionLines "n"

/-- A limit that is set, under the key `hostapd` has for it. -/
def limitLine (r : RadioSource) (key name : String) : List String :=
  match r.string key with
  | none => []
  | some ptr => if ptr = "" then [] else [name ++ "=" ++ ptr]

/-- The limits and the channel. -/
def commonLines (r : RadioSource) : List String :=
  r.limitLine "rts_threshold" "rts_threshold" ++ r.limitLine "frag_threshold" "fragm_threshold" ++
    r.limitLine "beacon" "beacon_int" ++ r.limitLine "dtim" "dtim_period" ++
    ["channel=" ++ if atoi r.channelText ≠ 0 then r.channelText else "acs_survey", "", ""]

/-- The lines in front of the sections. -/
def lines (r : RadioSource) : List String :=
  logLines ++ r.countryLines ++ (if hasA r.mode then r.aLines else r.nLines) ++ [""] ++
    r.commonLines

end RadioSource

/-! ## The file -/

/-- A line of a section without its line break. -/
def Line.body : Line → String
  | .set key value => key ++ "=" ++ value
  | .acceptMacFile path => "accept_mac_file=" ++ path
  | .denyMacFile path => "deny_mac_file=" ++ path
  | .blank => ""

/-- A line is its body and a line break. -/
theorem Line.text_eq (l : Line) : l.text = l.body ++ "\n" := by
  cases l with
  | blank => decide
  | _ => rfl

/-- The radio `_hostapd` works on. -/
def RadioSource.radio (r : RadioSource) (obj object : String) : Radio :=
  ⟨obj, object, r.string "txpower"⟩

/-- The sections, one for each enabled SSID. -/
def sectionsOf (sys : System) (r : RadioSource) (obj object : String) (files : Files) :
    List Section :=
  (hostapd sys (r.radio obj object) files).sections

/-- All lines of the file. -/
def fileLines (sys : System) (r : RadioSource) (obj object : String) (files : Files) :
    List String :=
  r.lines ++ (sectionsOf sys r obj object files).flatMap fun s => s.lines.map Line.body

/-- The characters of `hostapd_<obj>.conf`. -/
def confFile (sys : System) (r : RadioSource) (obj object : String) (files : Files) :
    List Char :=
  unlines '\n' ((fileLines sys r obj object files).map String.toList)

end Tiger.Model.Hostapd
