import Tiger.Model.Scan
import Tiger.Model.Talk

/-!
# The access points a station sees (`station_dev_aplist`)

`wifi/sta` writes the output of `iwinfo .. scan` into a file and reads it line by line. The
line of a cell begins an entry of the tree under the address in it, the lines behind it give
the attributes of that entry, and the first text that is found decides what a line is.
With an address the entry of it is returned, with a name one entry that has it, and else
the whole tree.

A line that is longer than the buffer is read in parts. The address is cut out of fixed
columns; where a part is shorter than these, what stands behind its end is left out.
-/

set_option autoImplicit false

namespace Tiger.Model.Aplist

open Tiger.Library

/-! ## Reading the file -/

/-- What `fgets( .., size, fp )` gives one after the other: a newline ends a text, and so does
the end of the buffer. `seg` is the text so far, last character first. -/
def fgets (size : ℕ) (seg : List Char) : List Char → List (List Char)
  | [] => if seg = [] then [] else [seg.reverse]
  | c :: cs =>
    if c = '\n' ∨ seg.length + 2 = size then (c :: seg).reverse :: fgets size [] cs
    else fgets size (c :: seg) cs

/-- `sizeof(readbuf)-1`. -/
def readbufSize : ℕ := 1023

/-- `dbm2signal`. -/
def dbm2signal (rssi : ℤ) : ℤ :=
  if rssi ≥ -55 then 4
  else if rssi ≥ -66 then 3
  else if rssi ≥ -88 then 2
  else if rssi > -99 then 1
  else 0

/-- The texts that are looked for in the line of the encryption, in the order of the tests, and
the values of `secure` and `wpa_encrypt` each stands for. -/
def encryptions : List (String × String × Option String) :=
  [("none", "disable", none),
    ("WPA PSK (CCMP)", "wpapsk", some "aes"),
    ("WPA PSK (TKIP)", "wpapsk", some "tkip"),
    ("WPA PSK (TKIP, CCMP)", "wpapsk", some "tkipaes"),
    ("WPA2 PSK (CCMP)", "wpa2psk", some "aes"),
    ("WPA2 PSK (TKIP)", "wpa2psk", some "tkip"),
    ("WPA2 PSK (TKIP, CCMP)", "wpa2psk", some "tkipaes"),
    ("mixed WPA/WPA2 PSK (TKIP)", "wpapskwpa2psk", some "aes"),
    ("mixed WPA/WPA2 PSK (CCMP)", "wpapskwpa2psk", some "tkip"),
    ("mixed WPA/WPA2 PSK (TKIP, CCMP)", "wpapskwpa2psk", some "tkipaes")]

/-- The attributes of an access point. -/
abbrev Attributes := List (String × String)

/-- The text without its last two characters; a text that has only one keeps it, since the zero
is written in front of it. -/
def chop (ptr : List Char) : List Char := if ptr.length < 2 then ptr else ptr.take (ptr.length - 2)

/-- What a line behind the line of a cell says. -/
def attributesOf (readbuf : List Char) : Attributes :=
  match strstr "ESSID: \"".toList readbuf with
  | some ptr =>
    let ssid := chop (ptr.drop 8)
    if ssid = [] then [] else [("ssid", String.ofList ssid)]
  | none =>
    if contains "Mode:" readbuf && contains "Channel:" readbuf then
      match scanIntAfter "Channel:" ':' readbuf with
      | some i => [("channel", toString i)]
      | none => []
    else if contains "Signal:" readbuf then
      match scanInt ':' readbuf with
      | some i => [("rssi", toString i), ("signal", toString (dbm2signal i))]
      | none => []
    else if contains "Encryption:" readbuf then
      match encryptions.find? fun e => contains e.1 readbuf with
      | some (_, secure, encrypt) =>
        ("secure", secure) :: (encrypt.map fun e => ("wpa_encrypt", e)).toList
      | none => []
    else []

/-- The tree, and the address whose entry is `x`. -/
structure Parse where
  tree : List (String × Attributes)
  x : Option String
deriving DecidableEq

/-- One line. -/
def readLine (p : Parse) (readbuf : List Char) : Parse :=
  if "Cell".toList.isPrefixOf readbuf then
    let ptr := String.ofList (((readbuf.drop 19).take 17).map Char.toUpper)
    ⟨setEntry ptr [] p.tree, some ptr⟩
  else
    match p.x with
    | none => p
    | some bssid =>
      let x := setEntries ((p.tree.lookup bssid).getD []) (attributesOf readbuf)
      { p with tree := setEntry bssid x p.tree }

/-- The tree the file is read into. -/
def treeOf (file : List Char) : List (String × Attributes) :=
  ((fgets readbufSize [] file).foldl readLine ⟨[], none⟩).tree

/-! ## Choosing one -/

/-- `0 == strcmp( name, s )`. The name must not be `NULL`. -/
def strcmp (name : Option String) (s : String) : Option Bool := name.map fun n => decide (n = s)

/-- `||` of comparisons, from the left. -/
def orElse (a : Option Bool) (b : Option Bool) : Option Bool :=
  match a with
  | some true => some true
  | some false => b
  | none => none

/-- The best signal so far, the address, and the tree. -/
structure Choice where
  signal : ℤ
  peermac : Option String
  tree : List (String × Attributes)

/-- One turn of the loop over the tree. `none` stands for a comparison with `NULL`. -/
def choose (ssid : String) (ssid2 ssid3 : Option String) (good : Bool) (c : Choice)
    (child : String × Attributes) : Option Choice :=
  match child.2.lookup "ssid" with
  | none => some c
  | some s =>
    (orElse (strcmp ssid s) (orElse (strcmp ssid2 s) (strcmp ssid3 s))).map fun found =>
      if found then
        if good then
          match child.2.lookup "sig" with
          | none => c
          | some sig =>
            if atoi sig > c.signal then
              ⟨atoi sig, child.1, setEntry child.1 (setEntry "peermac" child.1 child.2) c.tree⟩
            else c
        else { c with peermac := child.1 }
      else c

/-- What is returned: the whole tree, or the attributes of one access point. -/
inductive Found where
  | tree (t : List (String × Attributes))
  | value (v : Option Attributes)

/-- `station_dev_aplist` on the file of a scan. `none` stands for a comparison with `NULL`. -/
def stationDevAplist (file : List Char) (ssid bssid ssid2 ssid3 : Option String) (good : Bool) :
    Option Found :=
  let tree := treeOf file
  if given bssid then some (.value (tree.lookup (bssid.getD "")))
  else
    match ssid with
    | none => some (.tree tree)
    | some ssid =>
      (tree.foldlM (choose ssid ssid2 ssid3 good) ⟨0, none, tree⟩).map fun c : Choice =>
        .value (c.peermac.bind fun peermac => c.tree.lookup peermac)

end Tiger.Model.Aplist
