import Tiger.Analysis.ScanFile

/-!
# The listing of a scan

A listing gives a line with the address, five more lines and what they say for each access
point. Each line is told by its own text, whatever the ESSID is, and where all of them fit
into the buffer and the number of the cell has two digits, they leave one entry under the
address (`foldl_cell`), with the listed values but for the mixed mode (`reportOf_attributes`).
-/

set_option autoImplicit false

namespace Tiger.Analysis.ScanListing

open Tiger.Library Tiger.Model Tiger.Model.Aplist
open Tiger.Analysis.ScanRules Tiger.Analysis.ScanFile

/-! ## The listing -/

/-- The modes a network is secured with, and the ciphers. -/
inductive Mode where
  | wpa
  | wpa2
  | mixed
  deriving DecidableEq

inductive Cipher where
  | ccmp
  | tkip
  | both
  deriving DecidableEq

/-- The security of a network. -/
inductive Security where
  | none
  | psk (mode : Mode) (cipher : Cipher)
  deriving DecidableEq

/-- The encryption as it is listed. -/
def Security.text : Security → String
  | none => "none"
  | psk mode cipher =>
    (match mode with
      | .wpa => "WPA"
      | .wpa2 => "WPA2"
      | .mixed => "mixed WPA/WPA2") ++ " PSK (" ++
    (match cipher with
      | .ccmp => "CCMP"
      | .tkip => "TKIP"
      | .both => "TKIP, CCMP") ++ ")"

/-- The value of `secure` for a mode, as the documentation gives it. -/
def Security.secure : Security → String
  | none => "disable"
  | psk .wpa _ => "wpapsk"
  | psk .wpa2 _ => "wpa2psk"
  | psk .mixed _ => "wpapskwpa2psk"

/-- The value of `wpa_encrypt` for a cipher. -/
def Security.cipher : Security → Option String
  | none => Option.none
  | psk _ .ccmp => some "aes"
  | psk _ .tkip => some "tkip"
  | psk _ .both => some "tkipaes"

/-- The line of the mode and the channel. -/
def channelLine (kind : List Char) (channel : ℕ) : List Char :=
  delimited ':' "          Mode".toList
    [' ' :: (kind ++ "  Channel".toList), ' ' :: (toString (channel : ℤ)).toList]

/-- The line of the signal. -/
def signalLine (rssi : ℤ) (quality : List Char) : List Char :=
  delimited ':' "          Signal".toList
    [' ' :: ((toString rssi).toList ++ " dBm  Quality".toList), ' ' :: quality]

/-- The digits of an address. -/
def bssidDigits : List Char := "0123456789ABCDEFabcdef:".toList

/-- An access point as it is listed. -/
structure AccessPoint where
  bssid : List Char
  ssid : List Char
  kind : List Char
  channel : ℕ
  rssi : ℤ
  quality : List Char
  security : Security
  address : bssid.length = 17 ∧ bssid ⊆ bssidDigits
  oneLine : '\n' ∉ ssid
  plain : ∀ f ∈ [kind, quality], ':' ∉ f ∧ '\n' ∉ f
  fits : (channelLine kind channel).length + 1 < readbufSize ∧
    (signalLine rssi quality).length + 1 < readbufSize
  numbers : channel < 2 ^ 31 ∧ -2 ^ 31 ≤ rssi ∧ rssi < 2 ^ 31

/-- The number of a cell. -/
def cellNumber (n : ℕ) : List Char := if n < 10 then '0' :: Nat.toDigits 10 n else Nat.toDigits 10 n

namespace AccessPoint

variable (a : AccessPoint)

/-- The line that begins the `n`th cell. -/
def cellLine (n : ℕ) : List Char :=
  "Cell ".toList ++ (cellNumber n ++ (" - Address: ".toList ++ a.bssid))

def essidLine : List Char := "          ESSID: \"".toList ++ (a.ssid ++ ['"'])

def encryptionLine : List Char := "          Encryption: ".toList ++ a.security.text.toList

/-- The lines behind the first one of a cell. -/
def lines : List (List Char) :=
  [a.essidLine, channelLine a.kind a.channel, signalLine a.rssi a.quality, a.encryptionLine, []]

/-- The key of the access point in the tree. -/
def key : String := String.ofList (a.bssid.map Char.toUpper)

end AccessPoint

/-- The lines of access points, from the `n`th cell on. -/
def listing (n : ℕ) : List AccessPoint → List (List Char)
  | [] => []
  | a :: aps => a.cellLine n :: (a.lines ++ listing (n + 1) aps)

/-- The file of a scan. -/
def fileOf (aps : List AccessPoint) : List Char := unlines '\n' (listing 1 aps)

/-! ## What is recorded -/

/-- What an entry says of its access point. A network without a name has no `ssid`. -/
structure Report where
  ssid : String
  channel : Option String
  rssi : Option String
  secure : Option String
  cipher : Option String
  deriving DecidableEq

def reportOf (x : Attributes) : Report where
  ssid := (x.lookup "ssid").getD ""
  channel := x.lookup "channel"
  rssi := x.lookup "rssi"
  secure := x.lookup "secure"
  cipher := x.lookup "wpa_encrypt"

/-- What is listed for an access point. -/
def AccessPoint.report (a : AccessPoint) : Report where
  ssid := String.ofList a.ssid
  channel := toString (a.channel : ℤ)
  rssi := toString a.rssi
  secure := a.security.secure
  cipher := a.security.cipher

/-- The tree has one entry for each listed address and no other, with what is listed for it. -/
structure Records (tree : List (String × Attributes)) (aps : List AccessPoint) : Prop where
  once : (tree.map Prod.fst).Nodup
  listed : ∀ k ∈ tree.map Prod.fst, ∃ a ∈ aps, a.key = k
  own : ∀ a ∈ aps, ∃ x, tree.lookup a.key = some x ∧ reportOf x = a.report

/-- No more cells than have two digits, no mixed mode, ESSIDs that fit into the buffer with
their line, and no address that is listed with two different things. -/
structure Clear (aps : List AccessPoint) : Prop where
  few : aps.length < 100
  pure : ∀ a ∈ aps, ∀ cipher, a.security ≠ .psk .mixed cipher
  short : ∀ a ∈ aps, a.essidLine.length + 1 < readbufSize
  once : ∀ a ∈ aps, ∀ b ∈ aps, a.key = b.key → a.report = b.report

/-! ## What one line says -/

/-- A name with a colon behind it does not stand in a text whose fields end otherwise. -/
theorem not_infix_of_ends (name : List Char) (c : Char) {p f : List Char} {fs : List (List Char)}
    (hname : ':' ∉ name ++ [c]) (hplain : ∀ x ∈ f :: fs, ':' ∉ x)
    (hends : ∀ x ∈ f :: fs, x.getLast? ≠ some c) :
    ¬ (name ++ [c]) ++ ':' :: p <:+: delimited ':' f fs := by
  intro h
  obtain ⟨x, hx, s, hs⟩ := suffix_of_cons_infix_delimited hname hplain h
  apply hends x hx
  rw [← hs, ← List.append_assoc, List.getLast?_concat]

/-- The last quote and the newline are chopped off. -/
theorem chop_line {s : List Char} : chop (s ++ ['"', '\n']) = s := by
  unfold chop
  rw [List.length_append, if_neg (by simp)]
  exact List.take_left' (by simp)

/-- The line of the name gives the name, unless it is empty. -/
theorem attributesOf_essid (ssid : List Char) :
    attributesOf ("          ESSID: \"".toList ++ (ssid ++ ['"']) ++ ['\n']) =
      if ssid = [] then [] else [("ssid", String.ofList ssid)] := by
  have hstr : strstr "ESSID: \"".toList
      ("          ESSID: \"".toList ++ (ssid ++ ['"']) ++ ['\n']) =
      some ("ESSID: \"".toList ++ (ssid ++ ['"', '\n'])) := by
    rw [List.append_assoc, List.append_assoc]
    rfl
  unfold attributesOf
  rw [hstr]
  change (if chop (ssid ++ ['"', '\n']) = [] then [] else
    [("ssid", String.ofList (chop (ssid ++ ['"', '\n'])))]) = _
  rw [chop_line]

/-- A number is read behind a space as without it. -/
theorem scan_int_space (ds : List Directive) (s : List Char) :
    scan (.int :: ds) (' ' :: s) = scan (.int :: ds) s := by
  rw [scan, scan, List.dropWhile_cons_of_pos (by decide)]

/-- A number behind a name and a colon. -/
theorem scanInt_printed (name rest : List Char) (hname : ':' ∉ name) (hne : name ≠ []) {n : ℤ}
    (hn : -2 ^ 31 ≤ n ∧ n < 2 ^ 31) (hrest : rest.head?.any Char.isDigit = false) :
    scanInt ':' (name ++ ':' :: ' ' :: ((toString n).toList ++ rest)) = some n := by
  unfold scanInt
  rw [scan_skip hne hname, scan_lit, scan_int_space, scan_int [] n rest hrest,
    clampSigned_of_mem hn.1 hn.2]
  rfl

/-- The end of a text is that of its last part. -/
theorem ends_of_append {c : Char} {s t : List Char} (ht : t ≠ []) (hc : t.getLast? ≠ some c) :
    (s ++ t).getLast? ≠ some c := by
  rwa [List.getLast?_append_of_ne_nil s ht]

/-- The name of the first field stands in the text with its colon. -/
theorem infix_first (pre name g : List Char) (fs : List (List Char)) :
    name ++ [':'] <:+: delimited ':' (pre ++ name) (g :: fs) :=
  ⟨pre, delimited ':' g fs, by simp⟩

/-- A newline behind fields is behind the last one. -/
theorem delimited_newline (f g h : List Char) :
    delimited ':' f [g, h] ++ ['\n'] = delimited ':' f [g, h ++ ['\n']] := by
  simp [delimited]

/-- No line with other fields is taken for that of an ESSID. -/
theorem strstr_essid {f : List Char} {fs : List (List Char)} (hplain : ∀ x ∈ f :: fs, ':' ∉ x)
    (hends : ∀ x ∈ f :: fs, x.getLast? ≠ some 'D') :
    strstr "ESSID: \"".toList (delimited ':' f fs) = none := by
  rw [strstr_eq_none_iff]
  exact not_infix_of_ends "ESSI".toList 'D' (by decide) hplain hends

/-- The line of the channel gives the channel. -/
theorem attributesOf_channel {kind : List Char} (hkind : ':' ∉ kind) {channel : ℕ}
    (hchannel : channel < 2 ^ 31) :
    attributesOf (channelLine kind channel ++ ['\n']) =
      [("channel", toString (channel : ℤ))] := by
  have hscan := scanInt_printed "Channel".toList ['\n'] (n := channel) (by decide) (by decide)
    ⟨by omega, by omega⟩ rfl
  have hdigits : ':' ∉ (toString (channel : ℤ)).toList :=
    notMem_toString (by decide) (by decide) _
  unfold channelLine
  generalize (toString (channel : ℤ)).toList = digits at hscan hdigits ⊢
  rw [delimited_newline]
  have hplain : ∀ x ∈ ["          Mode".toList, ' ' :: (kind ++ "  Channel".toList),
      ' ' :: digits ++ ['\n']], ':' ∉ x := by
    simp [hkind, hdigits]
  have hessid := strstr_essid hplain (by
    simp only [List.forall_mem_cons]
    exact ⟨by decide, ends_of_append (s := ' ' :: kind) (by decide) (by decide),
      ends_of_append (by decide) (by decide), by simp⟩)
  have hmode : "Mode:".toList <:+: delimited ':' "          Mode".toList
      [' ' :: (kind ++ "  Channel".toList), ' ' :: digits ++ ['\n']] :=
    infix_first "          ".toList "Mode".toList _ _
  have hbefore : ¬ "Channel:".toList <:+: delimited ':' "          Mode".toList
      [' ' :: (kind ++ [' '])] := by
    refine not_infix_of_ends "Channe".toList 'l' (p := []) (by decide) (by simp [hkind]) ?_
    simp only [List.forall_mem_cons]
    exact ⟨by decide, ends_of_append (s := ' ' :: kind) (by decide) (by decide), by simp⟩
  have hafter : strstr "Channel:".toList (delimited ':' "          Mode".toList
      [' ' :: (kind ++ "  Channel".toList), ' ' :: digits ++ ['\n']]) =
      some ("Channel:".toList ++ ' ' :: (digits ++ ['\n'])) := by
    rw [← strstr_behind (by decide : ' ' ∉ "Channel:".toList) hbefore]
    simp only [delimited_cons, delimited_nil, List.append_assoc, List.cons_append]
    rfl
  generalize delimited ':' "          Mode".toList
    [' ' :: (kind ++ "  Channel".toList), ' ' :: digits ++ ['\n']] = line at hessid hmode hafter ⊢
  have hchannel : "Channel:".toList <:+: line := by
    by_contra hnot
    rw [(strstr_eq_none_iff "Channel:" line).mpr hnot] at hafter
    cases hafter
  have hnumber : scanIntAfter "Channel:" ':' line = some (channel : ℤ) := by
    rw [scanIntAfter, hafter]
    exact hscan
  unfold attributesOf
  rw [hessid, (contains_iff "Mode:" line).mpr hmode, (contains_iff "Channel:" line).mpr hchannel,
    hnumber]
  rfl

/-- The line of the signal gives the strength and its level. -/
theorem attributesOf_signal {rssi : ℤ} (hrssi : -2 ^ 31 ≤ rssi ∧ rssi < 2 ^ 31)
    {quality : List Char} (hquality : ':' ∉ quality) :
    attributesOf (signalLine rssi quality ++ ['\n']) =
      [("rssi", toString rssi), ("signal", toString (dbm2signal rssi))] := by
  have hscan := scanInt_printed "          Signal".toList
    (" dBm  Quality".toList ++ ':' :: (' ' :: quality ++ ['\n'])) (by decide) (by decide)
    hrssi rfl
  have hdigits : ':' ∉ (toString rssi).toList := notMem_toString (by decide) (by decide) _
  unfold signalLine
  generalize (toString rssi).toList = digits at hscan hdigits ⊢
  rw [delimited_newline]
  have hplain : ∀ x ∈ ["          Signal".toList, ' ' :: (digits ++ " dBm  Quality".toList),
      ' ' :: quality ++ ['\n']], ':' ∉ x := by
    simp [hquality, hdigits]
  have hends : ∀ c ∈ ['D', 'e'], ∀ x ∈ ["          Signal".toList,
      ' ' :: (digits ++ " dBm  Quality".toList), ' ' :: quality ++ ['\n']],
      x.getLast? ≠ some c := by
    intro c hc
    have hnot : '\n' ≠ c ∧ 'l' ≠ c ∧ 'y' ≠ c := by
      simp only [List.mem_cons, List.not_mem_nil, or_false] at hc
      rcases hc with rfl | rfl <;> decide
    simp only [List.forall_mem_cons]
    refine ⟨by simpa using hnot.2.1, ends_of_append (s := ' ' :: digits) (by decide)
      (by simpa using hnot.2.2), ends_of_append (by decide) (by simpa using hnot.1), by simp⟩
  have hessid := strstr_essid hplain (hends 'D' (by decide))
  have hmode := not_infix_of_ends "Mod".toList 'e' (p := []) (by decide) hplain
    (hends 'e' (by decide))
  have hsignal : "Signal:".toList <:+: delimited ':' "          Signal".toList
      [' ' :: (digits ++ " dBm  Quality".toList), ' ' :: quality ++ ['\n']] :=
    infix_first "          ".toList "Signal".toList _ _
  have hnumber : scanInt ':' (delimited ':' "          Signal".toList
      [' ' :: (digits ++ " dBm  Quality".toList), ' ' :: quality ++ ['\n']]) = some rssi := by
    simp only [delimited_cons, delimited_nil, List.append_assoc, List.cons_append] at hscan ⊢
    exact hscan
  generalize delimited ':' "          Signal".toList
    [' ' :: (digits ++ " dBm  Quality".toList), ' ' :: quality ++ ['\n']] = line
    at hessid hmode hsignal hnumber ⊢
  unfold attributesOf
  rw [hessid, (contains_eq_false_iff "Mode:" line).mpr hmode,
    (contains_iff "Signal:" line).mpr hsignal, hnumber]
  rfl

/-- The values recorded for an encryption: the mixed mode is taken for WPA2. -/
def recordedSecure : Security → String
  | .psk .mixed _ => "wpa2psk"
  | security => security.secure

/-- The line of the encryption gives the recorded kind and the cipher. -/
theorem attributesOf_encryption (security : Security) :
    attributesOf ("          Encryption: ".toList ++ security.text.toList ++ ['\n']) =
      ("secure", recordedSecure security) ::
        (security.cipher.map fun e => ("wpa_encrypt", e)).toList := by
  cases security with
  | none => decide
  | psk mode cipher => cases mode <;> cases cipher <;> decide

/-- An empty line gives nothing. -/
theorem attributesOf_blank : attributesOf ['\n'] = [] := by decide

/-! ## The lines of one access point -/

/-- What is recorded for an access point whose lines fit. -/
def AccessPoint.attributes (a : AccessPoint) : Attributes :=
  (if a.ssid = [] then [] else [("ssid", String.ofList a.ssid)]) ++
    [("channel", toString (a.channel : ℤ)), ("rssi", toString a.rssi),
      ("signal", toString (dbm2signal a.rssi)), ("secure", recordedSecure a.security)] ++
    (a.security.cipher.map fun e => ("wpa_encrypt", e)).toList

/-- Numbers of cells up to 99 have two digits. -/
theorem cellNumber_short : ∀ n < 100, (cellNumber n).length = 2 ∧ '\n' ∉ cellNumber n := by decide

/-- An address holds no newline. -/
theorem newline_notMem_bssid (a : AccessPoint) : '\n' ∉ a.bssid := by
  intro h
  exact absurd (a.address.2 h) (by decide)

/-- The line of a cell holds no newline. -/
theorem newline_notMem_cellLine (a : AccessPoint) {n : ℕ} (hn : n < 100) :
    '\n' ∉ a.cellLine n := by
  simp [AccessPoint.cellLine, newline_notMem_bssid, (cellNumber_short n hn).2]

/-- The line of a cell has 36 characters. -/
theorem length_cellLine (a : AccessPoint) {n : ℕ} (hn : n < 100) : (a.cellLine n).length = 36 := by
  have hcell : "Cell ".toList.length = 5 := rfl
  have haddress : " - Address: ".toList.length = 12 := rfl
  unfold AccessPoint.cellLine
  rw [List.length_append, List.length_append, List.length_append, hcell, haddress,
    (cellNumber_short n hn).1, a.address.1]

/-- A line of a cell begins the entry of its address. -/
theorem readLine_cellLine (a : AccessPoint) {n : ℕ} (hn : n < 100) (p : Parse) :
    readLine p (a.cellLine n ++ ['\n']) = ⟨setEntry a.key [] p.tree, some a.key⟩ := by
  have hcut : ((a.cellLine n ++ ['\n']).drop 19).take 17 = a.bssid := by
    have htext : a.cellLine n ++ ['\n'] =
        ("Cell ".toList ++ (cellNumber n ++ " - Address: ".toList)) ++ (a.bssid ++ ['\n']) := by
      simp only [AccessPoint.cellLine, List.append_assoc]
    rw [htext, List.drop_left' (by simp [(cellNumber_short n hn).1]),
      List.take_left' a.address.1]
  unfold readLine
  rw [hcut]
  rfl

/-- The lines behind that of the cell are no such lines, and their newlines are at their end. -/
theorem lines_plain (a : AccessPoint) :
    ∀ l ∈ a.lines, '\n' ∉ l ∧ "Cell".toList.isPrefixOf (l ++ ['\n']) = false := by
  have hkind := (a.plain a.kind (by simp)).2
  have hquality := (a.plain a.quality (by simp)).2
  have hchannel : '\n' ∉ (toString (a.channel : ℤ)).toList :=
    notMem_toString (by decide) (by decide) _
  have hrssi : '\n' ∉ (toString a.rssi).toList := notMem_toString (by decide) (by decide) _
  have hencryption : ∀ security : Security, '\n' ∉ security.text.toList := by
    intro security
    cases security with
    | none => decide
    | psk mode cipher => cases mode <;> cases cipher <;> decide
  unfold AccessPoint.lines
  simp only [List.forall_mem_cons]
  refine ⟨⟨?_, rfl⟩, ⟨?_, rfl⟩, ⟨?_, rfl⟩, ⟨?_, rfl⟩, ⟨List.not_mem_nil, rfl⟩, by simp⟩
  · unfold AccessPoint.essidLine
    rw [List.mem_append, List.mem_append]
    rintro (h | h | h)
    · exact absurd h (by decide)
    · exact a.oneLine h
    · exact absurd h (by decide)
  · unfold channelLine
    generalize (toString (a.channel : ℤ)).toList = digits at hchannel ⊢
    simp [hkind, hchannel]
  · unfold signalLine
    generalize (toString a.rssi).toList = digits at hrssi ⊢
    simp [hquality, hrssi]
  · unfold AccessPoint.encryptionLine
    rw [List.mem_append]
    rintro (h | h)
    · exact absurd h (by decide)
    · exact hencryption _ h

/-- The lines but that of the ESSID fit into the buffer. -/
theorem length_of_mem_lines (a : AccessPoint) {l : List Char} (hl : l ∈ a.lines)
    (hne : l ≠ a.essidLine) : l.length + 1 < readbufSize := by
  have hencryption : ∀ security : Security,
      ("          Encryption: ".toList ++ security.text.toList).length + 1 < readbufSize := by
    intro security
    cases security with
    | none => decide
    | psk mode cipher => cases mode <;> cases cipher <;> decide
  simp only [AccessPoint.lines, List.mem_cons, List.not_mem_nil, or_false] at hl
  rcases hl with rfl | rfl | rfl | rfl | rfl
  · exact absurd rfl hne
  · exact a.fits.1
  · exact a.fits.2
  · exact hencryption a.security
  · decide

/-- The lines behind that of the cell give what is recorded. -/
theorem flatMap_attributesOf (a : AccessPoint) :
    (a.lines.map (· ++ ['\n'])).flatMap attributesOf = a.attributes := by
  have hkind := (a.plain a.kind (by simp)).1
  have hquality := (a.plain a.quality (by simp)).1
  change attributesOf (a.essidLine ++ ['\n']) ++
    (attributesOf (channelLine a.kind a.channel ++ ['\n']) ++
      (attributesOf (signalLine a.rssi a.quality ++ ['\n']) ++
        (attributesOf (a.encryptionLine ++ ['\n']) ++ (attributesOf ['\n'] ++ [])))) = _
  rw [attributesOf_channel hkind a.numbers.1, attributesOf_signal a.numbers.2 hquality,
    attributesOf_blank]
  unfold AccessPoint.essidLine AccessPoint.encryptionLine AccessPoint.attributes
  rw [attributesOf_essid, attributesOf_encryption]
  simp only [List.append_nil, List.append_assoc, List.cons_append, List.nil_append]

/-- Lines that fit are read one by one. -/
theorem fgets_lines {ls : List (List Char)}
    (h : ∀ l ∈ ls, '\n' ∉ l ∧ l.length + 1 < readbufSize) :
    (ls.flatMap fun l => fgets readbufSize [] (l ++ ['\n'])) = ls.map (· ++ ['\n']) := by
  rw [List.map_eq_flatMap]
  exact List.flatMap_congr fun l hl => fgets_fits (h l hl).1 (h l hl).2

/-- What the lines of a cell leave. -/
theorem foldl_cell (a : AccessPoint) {n : ℕ} (hn : n < 100)
    (hshort : a.essidLine.length + 1 < readbufSize) (p : Parse) :
    ((a.cellLine n :: a.lines).flatMap fun l => fgets readbufSize [] (l ++ ['\n'])).foldl
        readLine p = ⟨setEntry a.key (setEntries [] a.attributes) p.tree, some a.key⟩ := by
  have hfits : ∀ l ∈ a.cellLine n :: a.lines, '\n' ∉ l ∧ l.length + 1 < readbufSize := by
    intro l hl
    rcases List.mem_cons.mp hl with rfl | hl
    · refine ⟨newline_notMem_cellLine a hn, ?_⟩
      rw [length_cellLine a hn]
      decide
    · refine ⟨(lines_plain a l hl).1, ?_⟩
      by_cases hne : l = a.essidLine
      · exact hne ▸ hshort
      · exact length_of_mem_lines a hl hne
  rw [fgets_lines hfits, List.map_cons, List.foldl_cons, readLine_cellLine a hn,
    foldl_readLine_fill, flatMap_attributesOf]
  intro l hl
  obtain ⟨l', hl', rfl⟩ := List.mem_map.mp hl
  exact (lines_plain a l' hl').2

/-- The lines of all cells. -/
theorem foldl_listing {aps : List AccessPoint} {n : ℕ} (hn : n + aps.length ≤ 100)
    (hshort : ∀ a ∈ aps, a.essidLine.length + 1 < readbufSize) (p : Parse) :
    (((listing n aps).flatMap fun l => fgets readbufSize [] (l ++ ['\n'])).foldl readLine p).tree =
      setEntries p.tree (aps.map fun a => (a.key, setEntries [] a.attributes)) := by
  induction aps generalizing n p with
  | nil => rfl
  | cons a aps ih =>
    rw [List.length_cons] at hn
    rw [listing, ← List.cons_append, List.flatMap_append, List.foldl_append,
      foldl_cell a (by omega) (hshort a List.mem_cons_self),
      ih (by omega) fun b hb => hshort b (List.mem_cons_of_mem _ hb)]
    rfl

/-- The tree of a scan, where all lines fit and the cells have two digits. -/
theorem treeOf_fileOf {aps : List AccessPoint} (hfew : aps.length < 100)
    (hshort : ∀ a ∈ aps, a.essidLine.length + 1 < readbufSize) :
    treeOf (fileOf aps) = setEntries [] (aps.map fun a => (a.key, setEntries [] a.attributes)) := by
  unfold treeOf fileOf
  rw [fgets_unlines]
  exact foldl_listing (by omega) hshort ⟨[], none⟩

/-- What the entry of an access point says: its own values, but for the mixed mode. -/
theorem reportOf_attributes (a : AccessPoint) :
    reportOf (setEntries [] a.attributes) =
      { a.report with secure := recordedSecure a.security } := by
  have hkeys : (a.attributes.map Prod.fst).Nodup := by
    unfold AccessPoint.attributes
    split <;> cases a.security.cipher <;> simp
  have hlookup : ∀ k, (setEntries [] a.attributes).lookup k = a.attributes.lookup k := by
    intro k
    rw [lookup_setEntries hkeys, List.lookup_nil, Option.or_none]
  unfold reportOf
  simp only [hlookup]
  unfold AccessPoint.attributes AccessPoint.report
  cases a.security.cipher with
  | none => by_cases hname : a.ssid = [] <;> simp [hname, lookup_cons_ite]
  | some cipher => by_cases hname : a.ssid = [] <;> simp [hname, lookup_cons_ite]

/-- A network that is listed with some security. -/
def ashyelf (security : Security) : AccessPoint where
  bssid := "00:03:7F:12:5B:2A".toList
  ssid := "ashyelf".toList
  kind := "Master".toList
  channel := 11
  rssi := -41
  quality := "69/70".toList
  security := security
  address := by decide
  oneLine := by decide
  plain := by decide
  fits := by decide
  numbers := by decide

end Tiger.Analysis.ScanListing
