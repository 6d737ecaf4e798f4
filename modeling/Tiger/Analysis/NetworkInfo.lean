import Tiger.Analysis.ScanRules
import Tiger.Library.Script.Writes
import Tiger.Model.Modemdrv.Ec200x
import Tiger.Model.Modemdrv.Ne16u

/-!
# The answer to `AT+QNWINFO`

An answer is a list of lines, each with a mode, the number of the network, the band and
the channel. Both drivers cut the mode and the band out of a line whose mode they know, and
the last such line stands (`qnwinfo_records`). They know the same modes up to 4G and do
the same on lines of these; the NE16U knows the modes of 5G too.
-/

set_option autoImplicit false

namespace Tiger.Analysis.NetworkInfo

open Tiger.Library Tiger.Model
open Tiger.Analysis.ScanRules

/-! ## The answer -/

/-- A text in quotes. -/
def quote (s : List Char) : List Char := '"' :: s ++ ['"']

/-- A line of the answer. The fields fit into the buffers of the drivers, and a comma or a
newline stands in none of them. -/
structure Line where
  mode : List Char
  plmn : List Char
  band : List Char
  channel : List Char
  plain : ∀ f ∈ [mode, plmn, band, channel], ',' ∉ f ∧ '\n' ∉ f
  word : ∃ c ∈ channel, isSpace c = false
  short : ∀ f ∈ [' ' :: quote mode, quote plmn, quote band, channel], f.length < nameMax

/-- A line as the modem prints it. -/
def Line.text (l : Line) : List Char :=
  delimited ',' ("+QNWINFO: ".toList ++ quote l.mode) [quote l.plmn, quote l.band, l.channel]

/-- The networks the drivers tell apart. -/
inductive Era where
  | upTo4g
  | sa
  | nsa
  | unlisted
  deriving DecidableEq

/-- The network a mode names. -/
def eraOf (mode : List Char) : Era :=
  if namesNetwork mode then .upTo4g
  else if contains "NR5G-SA" mode then .sa
  else if contains "NR5G-NSA" mode then .nsa
  else .unlisted

/-- The modes of the manual of the modem. -/
def manualModes : Era → List String
  | .upTo4g => ["GSM", "GPRS", "EDGE", "WCDMA", "HSDPA", "HSUPA", "HSPA+", "TDSCDMA", "TDD LTE",
      "FDD LTE"]
  | .sa => ["NR5G-SA"]
  | .nsa => ["NR5G-NSA"]
  | .unlisted => ["NONE", "CDMA1X", "CDMA1X AND HDR", "CDMA1X AND EHRPD", "HDR", "HDR-EHRPD"]

/-- The tests of the drivers tell the modes of the manual apart. -/
theorem eraOf_manual (era : Era) : ∀ mode ∈ manualModes era, eraOf mode.toList = era := by
  cases era <;> decide

/-- The drivers that ask. -/
inductive Driver where
  | ne16u
  | ec200x

def Driver.qnwinfo : Driver → Op Ret
  | .ne16u => Ne16u.qnwinfo
  | .ec200x => Ec200x.qnwinfo

def Driver.line : Driver → Ret → List Char → Op Ret
  | .ne16u => Ne16u.qnwinfoLine
  | .ec200x => Ec200x.qnwinfoLine

/-- The networks a driver lists. -/
def Driver.lists : Driver → Era → Bool
  | .ne16u, era => era ≠ .unlisted
  | .ec200x, era => era = .upTo4g

/-! ## What is recorded -/

/-- What a line records as `band`. -/
def bandText (d : Driver) (l : Line) : Option String :=
  if d.lists (eraOf l.mode) ∧ eraOf l.mode ≠ .nsa then some (String.ofList l.band) else none

/-- What a line records as `nettype`. -/
def nettypeText (d : Driver) (l : Line) : Option String :=
  if d.lists (eraOf l.mode) then
    if eraOf l.mode = .nsa then some "LTE" else some (String.ofList l.mode)
  else none

/-- What a line records as `band2`. -/
def band2Text (d : Driver) (l : Line) : Option String :=
  if d.lists (eraOf l.mode) ∧ eraOf l.mode = .nsa then some (String.ofList l.band) else none

/-- What a line records as `nettype2`. -/
def nettype2Text (d : Driver) (l : Line) : Option String :=
  if d.lists (eraOf l.mode) ∧ eraOf l.mode = .nsa then some (String.ofList l.mode) else none

/-- The edits of a line. -/
def lineEdits (d : Driver) (l : Line) : List (String × Option String) :=
  if d.lists (eraOf l.mode) then
    if eraOf l.mode = .nsa then
      [("band2", some (String.ofList l.band)), ("nettype2", some (String.ofList l.mode)),
        ("nettype", some "LTE")]
    else
      [("band", some (String.ofList l.band)), ("nettype", some (String.ofList l.mode))]
  else []

/-- The value after a line. -/
def lineValue (d : Driver) (ret : Ret) (l : Line) : Ret :=
  if d.lists (eraOf l.mode) then .succeed else ret

/-! ## A line is read -/

/-- A text in quotes is not empty. -/
theorem quote_ne_nil (s : List Char) : quote s ≠ [] := List.cons_ne_nil _ _

/-- Quotes add no character but themselves. -/
theorem notMem_quote {c : Char} {s : List Char} (hc : c ≠ '"') (hs : c ∉ s) : c ∉ quote s := by
  simp [quote, hc, hs]

/-- The quotes come off. -/
@[simp] theorem unquote_quote (s : List Char) : unquote (quote s) = s := by
  simp [unquote, quote]

/-- No comma stands in the field of the mode. -/
theorem Line.notMem_mode (l : Line) : ',' ∉ ' ' :: quote l.mode := by
  have hmode := (l.plain l.mode (by simp)).1
  simpa using notMem_quote (by decide) hmode

/-- The text of a line up to the colon, and what comes behind it. -/
theorem Line.text_eq (l : Line) : l.text = "+QNWINFO".toList ++ ':' ::
    delimited ',' (' ' :: quote l.mode) [quote l.plmn, quote l.band, l.channel] := by
  simp [Line.text, delimited]

/-- What the scan finds behind the colon. -/
theorem scan_behind (l : Line) (ds : List Directive) :
    (scan (.skip ':' :: .lit ':' :: .field ',' :: ds) l.text).fields =
      .str (' ' :: quote l.mode) ::
        (scan ds ([quote l.plmn, quote l.band, l.channel].flatMap (',' :: ·))).fields := by
  rw [l.text_eq, scan_skip (by decide) (by decide), scan_lit,
    scan_field_delimited (List.cons_ne_nil _ _) l.notMem_mode]

/-- The first field of a line is its mode in quotes. -/
theorem sysmodeOf_text (l : Line) : sysmodeOf l.text = some (' ' :: quote l.mode) := by
  unfold sysmodeOf
  rw [scan_behind]
  rfl

/-- The third field of a line is its band in quotes. -/
theorem bandOf_text (l : Line) : bandOf l.text = some (quote l.band) := by
  have hplmn : ',' ∉ quote l.plmn := notMem_quote (by decide) (l.plain l.plmn (by simp)).1
  have hband : ',' ∉ quote l.band := notMem_quote (by decide) (l.plain l.band (by simp)).1
  have hword : l.channel.dropWhile isSpace ≠ [] := by
    obtain ⟨c, hc, hspace⟩ := l.word
    intro hnil
    have := List.dropWhile_eq_nil_iff.mp hnil c hc
    rw [hspace] at this
    cases this
  have hscan : (scan [.lit ',', .field ',', .lit ',', .field ',', .lit ',', .word]
      ([quote l.plmn, quote l.band, l.channel].flatMap (',' :: ·))).fields =
      [.str (quote l.plmn), .str (quote l.band),
        .str ((l.channel.dropWhile isSpace).takeWhile (! isSpace ·))] := by
    simp only [List.flatMap_cons, List.flatMap_nil, List.append_nil, List.cons_append]
    rw [scan_lit, scan_field (quote_ne_nil _) hplmn, scan_lit,
      scan_field (quote_ne_nil _) hband, scan_lit, scan, if_neg hword]
    rfl
  unfold bandOf
  rw [scan_behind, hscan]

/-- A name without spaces and quotes stands in a mode as it stands in the field. -/
theorem contains_sysmode (name : String) (hquote : '"' ∉ name.toList)
    (hspace : ¬ name.toList <:+: [' ']) (mode : List Char) :
    contains name (' ' :: quote mode) = contains name mode := by
  have hempty : ¬ name.toList <:+: [] := fun h => hspace (h.trans List.nil_infix)
  have hsplit : ' ' :: quote mode = delimited '"' [' '] [mode, []] := by
    simp [quote, delimited]
  rw [Bool.eq_iff_iff, contains_iff, contains_iff, hsplit, infix_delimited_iff hquote]
  simp [hspace, hempty]

/-- The quotes name no network. -/
theorem namesNetwork_sysmode (mode : List Char) :
    namesNetwork (' ' :: quote mode) = namesNetwork mode := by
  have hplain : ∀ name ∈ ["LTE", "FDD", "TDD", "GSM", "GPRS", "EDGE", "WCDMA", "HSDPA", "HSUPA",
      "HSPA", "TDSCDMA"], '"' ∉ name.toList ∧ ¬ name.toList <:+: [' '] := by decide
  unfold namesNetwork
  rw [Bool.eq_iff_iff, List.any_eq_true, List.any_eq_true]
  refine exists_congr fun name => and_congr_right fun hname => ?_
  rw [contains_sysmode name (hplain name hname).1 (hplain name hname).2]

/-- What a line with a network is recorded as. -/
theorem setNetwork_text (bandKey nettypeKey : String) (l : Line) :
    setNetwork bandKey nettypeKey (' ' :: quote l.mode) l.text =
      Script.writes [(bandKey, some (String.ofList l.band)),
        (nettypeKey, some (String.ofList l.mode))] () := by
  have hmode : ((' ' :: quote l.mode).drop 2).dropLast = l.mode := by simp [quote]
  unfold setNetwork
  rw [bandOf_text, hmode, Option.map_some, unquote_quote]
  rfl

/-- A line makes its edits, whatever the value so far. -/
theorem line_writes (d : Driver) (ret : Ret) (l : Line) :
    d.line ret l.text = Script.writes (lineEdits d l) (lineValue d ret l) := by
  have hsa := contains_sysmode "NR5G-SA" (by decide) (by decide) l.mode
  have hnsa := contains_sysmode "NR5G-NSA" (by decide) (by decide) l.mode
  unfold lineEdits lineValue eraOf
  cases d with
  | ne16u =>
    change Ne16u.qnwinfoLine ret l.text = _
    unfold Ne16u.qnwinfoLine
    simp only [sysmodeOf_text, namesNetwork_sysmode, hsa, hnsa, setNetwork_text]
    cases namesNetwork l.mode with
    | true => rfl
    | false =>
      cases contains "NR5G-SA" l.mode with
      | true => rfl
      | false => cases contains "NR5G-NSA" l.mode <;> rfl
  | ec200x =>
    change Ec200x.qnwinfoLine ret l.text = _
    unfold Ec200x.qnwinfoLine
    simp only [sysmodeOf_text, namesNetwork_sysmode, setNetwork_text]
    cases namesNetwork l.mode with
    | true => rfl
    | false =>
      cases contains "NR5G-SA" l.mode with
      | true => rfl
      | false => cases contains "NR5G-NSA" l.mode <;> rfl

/-! ## The answer is read -/

/-- A line is not empty. -/
theorem Line.text_ne_nil (l : Line) : l.text ≠ [] := by simp [Line.text, delimited]

/-- A line holds no newline. -/
theorem Line.newline_notMem (l : Line) : '\n' ∉ l.text := by
  have hmode := notMem_quote (c := '\n') (by decide) (l.plain l.mode (by simp)).2
  have hplmn := notMem_quote (c := '\n') (by decide) (l.plain l.plmn (by simp)).2
  have hband := notMem_quote (c := '\n') (by decide) (l.plain l.band (by simp)).2
  have hchannel := (l.plain l.channel (by simp)).2
  simp [Line.text, delimited, hmode, hplmn, hband, hchannel]

/-- The value after the lines of an answer. -/
theorem foldl_lineValue (d : Driver) (ls : List Line) (ret : Ret) :
    ls.foldl (lineValue d) ret =
      if ∃ l ∈ ls, d.lists (eraOf l.mode) = true then .succeed else ret := by
  induction ls generalizing ret with
  | nil => simp
  | cons l ls ih =>
    rw [List.foldl_cons, ih, lineValue]
    by_cases hl : d.lists (eraOf l.mode) = true
    · simp [hl]
    · simp [hl]

variable {M : Type} (answer : M → Command → Reply × M)

/-- A run of either driver on an answer. -/
theorem run_qnwinfo (d : Driver) {m : M} (s : Device) {ls : List Line}
    (hret : (answer m (.exec .qnwinfo)).1.ret = .succeed)
    (hack : Printed (ls.map Line.text) (answer m (.exec .qnwinfo)).1.ack) :
    Script.run answer d.qnwinfo m s =
      ⟨[(.exec .qnwinfo, (answer m (.exec .qnwinfo)).1)], ls.flatMap (lineEdits d),
        if ∃ l ∈ ls, d.lists (eraOf l.mode) = true then .succeed else .failed,
        (answer m (.exec .qnwinfo)).2, overwrite (ls.flatMap (lineEdits d)) s⟩ := by
  have hlines : lines (answer m (.exec .qnwinfo)).1.ack = ls.map Line.text := by
    apply lines_of_printed hack
    intro l hl
    obtain ⟨l, -, rfl⟩ := List.mem_map.mp hl
    exact ⟨l.newline_notMem, l.text_ne_nil⟩
  have hloop : (lines (answer m (.exec .qnwinfo)).1.ack).foldlM d.line .failed =
      Script.writes (ls.flatMap (lineEdits d))
        (if ∃ l ∈ ls, d.lists (eraOf l.mode) = true then .succeed else .failed) := by
    rw [hlines, List.foldlM_map, ← foldl_lineValue]
    exact Script.foldlM_writes (fun ret l => line_writes d ret l) ls .failed
  cases d with
  | ne16u =>
    change Script.run answer Ne16u.qnwinfo m s = _
    unfold Ne16u.qnwinfo
    rw [tx_bind]
    apply Script.run_call_writes
    rw [if_neg (by simp [hret])]
    exact hloop
  | ec200x =>
    change Script.run answer Ec200x.qnwinfo m s = _
    unfold Ec200x.qnwinfo
    rw [tx_bind]
    apply Script.run_call_writes
    rw [if_neg (by simp [hret])]
    exact hloop

/-- What one line says of each of the four keys. -/
theorem latest_lineEdits (d : Driver) (l : Line) :
    latest (editOf "band") (lineEdits d l) = (bandText d l).map some ∧
      latest (editOf "nettype") (lineEdits d l) = (nettypeText d l).map some ∧
      latest (editOf "band2") (lineEdits d l) = (band2Text d l).map some ∧
      latest (editOf "nettype2") (lineEdits d l) = (nettype2Text d l).map some := by
  unfold bandText nettypeText band2Text nettype2Text lineEdits
  by_cases hl : d.lists (eraOf l.mode) = true
  · by_cases hnsa : eraOf l.mode = .nsa
    · rw [hnsa] at hl
      simp [hl, hnsa, editOf]
    · simp [hl, hnsa, editOf]
  · simp [hl]

/-- A line edits no other key. -/
theorem key_of_mem_lineEdits {d : Driver} {l : Line} {e : String × Option String}
    (he : e ∈ lineEdits d l) : e.1 ∈ ["band", "nettype", "band2", "nettype2"] := by
  unfold lineEdits at he
  split at he
  · split at he
    · simp only [List.mem_cons, List.not_mem_nil, or_false] at he
      rcases he with rfl | rfl | rfl <;> simp
    · simp only [List.mem_cons, List.not_mem_nil, or_false] at he
      rcases he with rfl | rfl <;> simp
  · exact absurd he List.not_mem_nil

/-- What the lines leave under a key, when each of them says `w` of it. -/
theorem overwrite_lines {d : Driver} {key : String} {w : Line → Option String}
    (hw : ∀ l, latest (editOf key) (lineEdits d l) = (w l).map some) (ls : List Line)
    (s : Device) : overwrite (ls.flatMap (lineEdits d)) s key = (latest w ls).or (s key) := by
  rw [overwrite_apply, latest_flatMap, funext hw, latest_map]
  cases latest w ls with
  | none => rfl
  | some v => rfl

/-- What is recorded of an answer: the last line that says something of a key stands, and no
other key is touched. The run succeeds when the driver lists the mode of some line. -/
structure Recorded (d : Driver) (ls : List Line) (s : Device)
    (o : Script.Outcome Command Reply String String Ret M) : Prop where
  succeeds : o.value = .succeed ↔ ∃ l ∈ ls, d.lists (eraOf l.mode) = true
  band : o.store "band" = (latest (bandText d) ls).or (s "band")
  nettype : o.store "nettype" = (latest (nettypeText d) ls).or (s "nettype")
  band2 : o.store "band2" = (latest (band2Text d) ls).or (s "band2")
  nettype2 : o.store "nettype2" = (latest (nettype2Text d) ls).or (s "nettype2")
  frame : ∀ key ∉ ["band", "nettype", "band2", "nettype2"], o.store key = s key

/-- A run records the last line that is listed. -/
theorem recorded_of_run (d : Driver) {m : M} (s : Device) {ls : List Line}
    (hret : (answer m (.exec .qnwinfo)).1.ret = .succeed)
    (hack : Printed (ls.map Line.text) (answer m (.exec .qnwinfo)).1.ack) :
    Recorded d ls s (Script.run answer d.qnwinfo m s) := by
  rw [run_qnwinfo answer d s hret hack]
  refine ⟨?_, ?_, ?_, ?_, ?_, ?_⟩
  · by_cases h : ∃ l ∈ ls, d.lists (eraOf l.mode) = true
    · simp [h]
    · simp [h]
  · exact overwrite_lines (fun l => (latest_lineEdits d l).1) ls s
  · exact overwrite_lines (fun l => (latest_lineEdits d l).2.1) ls s
  · exact overwrite_lines (fun l => (latest_lineEdits d l).2.2.1) ls s
  · exact overwrite_lines (fun l => (latest_lineEdits d l).2.2.2) ls s
  · intro key hkey
    apply overwrite_of_notMem
    intro e he hek
    obtain ⟨l, -, hel⟩ := List.mem_flatMap.mp he
    exact hkey (hek ▸ key_of_mem_lineEdits hel)

/-- On modes up to 4G and on modes that neither lists, the drivers do the same. -/
theorem lineEdits_agree {l : Line} (h : eraOf l.mode = .upTo4g ∨ eraOf l.mode = .unlisted) :
    lineEdits .ne16u l = lineEdits .ec200x l ∧
      Driver.ne16u.lists (eraOf l.mode) = Driver.ec200x.lists (eraOf l.mode) := by
  unfold lineEdits
  rcases h with h | h <;> rw [h] <;> exact ⟨rfl, rfl⟩

/-- **Network information.** On every answer made of lines, each driver records the mode and the
band of the last line whose mode it lists, without their quotes, and succeeds exactly when
there is one; a 5G line beside LTE fills `band2` and `nettype2` and makes `nettype` LTE. Where
no line names a 5G network, the two drivers record and return the same. -/
theorem qnwinfo_records {m : M} (s : Device) (ls : List Line)
    (hret : (answer m (.exec .qnwinfo)).1.ret = .succeed)
    (hack : Printed (ls.map Line.text) (answer m (.exec .qnwinfo)).1.ack) :
    (∀ d, Recorded d ls s (Script.run answer d.qnwinfo m s)) ∧
      ((∀ l ∈ ls, eraOf l.mode = .upTo4g ∨ eraOf l.mode = .unlisted) →
        Script.run answer Ne16u.qnwinfo m s = Script.run answer Ec200x.qnwinfo m s) := by
  refine ⟨fun d => recorded_of_run answer d s hret hack, fun h => ?_⟩
  have hedits : ls.flatMap (lineEdits .ne16u) = ls.flatMap (lineEdits .ec200x) :=
    List.flatMap_congr fun l hl => (lineEdits_agree (h l hl)).1
  have hlists : (∃ l ∈ ls, Driver.ne16u.lists (eraOf l.mode) = true) ↔
      ∃ l ∈ ls, Driver.ec200x.lists (eraOf l.mode) = true := by
    refine exists_congr fun l => and_congr_right fun hl => ?_
    rw [(lineEdits_agree (h l hl)).2]
  have hne16u := run_qnwinfo answer .ne16u s hret hack
  have hec200x := run_qnwinfo answer .ec200x s hret hack
  rw [hedits] at hne16u
  simp only [hlists] at hne16u
  exact hne16u.trans hec200x.symm

/-- A line for a network of 4G. -/
def fddLte : Line where
  mode := "FDD LTE".toList
  plmn := "46001".toList
  band := "LTE BAND 3".toList
  channel := "1650".toList
  plain := by decide
  word := ⟨'1', by decide, rfl⟩
  short := by decide

/-- A line for a cell of 5G beside it. -/
def nsa : Line where
  mode := "NR5G-NSA".toList
  plmn := "46001".toList
  band := "NR5G BAND 78".toList
  channel := "627264".toList
  plain := by decide
  word := ⟨'6', by decide, rfl⟩
  short := by decide

/-- A line without a network. -/
def noNetwork : Line where
  mode := "NONE".toList
  plmn := "0".toList
  band := "0".toList
  channel := "0".toList
  plain := by decide
  word := ⟨'0', by decide, rfl⟩
  short := by decide

/-- A modem that answers every command with these lines. -/
def threeLines (_ : Unit) (_ : Command) : Reply × Unit :=
  (⟨.succeed, unlines '\n' ([fddLte, nsa, noNetwork].map Line.text), [], 0⟩, ())

/-- The lines of a network of 4G with a cell of 5G and of none. -/
theorem qnwinfo_records_three :
    (∀ d, Recorded d [fddLte, nsa, noNetwork] (fun _ => none)
      (Script.run threeLines d.qnwinfo () (fun _ => none))) ∧
      ((∀ l ∈ [fddLte, nsa, noNetwork], eraOf l.mode = .upTo4g ∨ eraOf l.mode = .unlisted) →
        Script.run threeLines Ne16u.qnwinfo () (fun _ => none) =
          Script.run threeLines Ec200x.qnwinfo () (fun _ => none)) :=
  qnwinfo_records threeLines (fun _ => none) [fddLte, nsa, noNetwork] rfl (Or.inl rfl)

end Tiger.Analysis.NetworkInfo
