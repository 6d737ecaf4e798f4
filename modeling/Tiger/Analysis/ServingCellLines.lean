import Tiger.Analysis.ScanRules
import Tiger.Library.Script.Writes
import Tiger.Model.Modemdrv.Ne16u

/-!
# The lines of the answer to `AT+QENG="servingcell"`

An answer has a line for each network the modem is in. The formats are told apart by the
name of the network, and their fields by position. `line_writes` says what the code records
of a line: where it reads the field of the received power, and for WCDMA that it reads the
one in front of it.
-/

set_option autoImplicit false

namespace Tiger.Analysis.ServingCell

open Tiger.Library Tiger.Model
open Tiger.Analysis.ScanRules

/-! ## The answer -/

/-- The names the formats are told apart by. -/
def modeNames : List String := ["WCDMA", "LTE", "NR5G-SA", "NR5G-NSA"]

/-- The value of a field: not empty, without a comma or a newline, and no name of a network. -/
structure Value where
  text : List Char
  ne : text ≠ []
  plain : ',' ∉ text ∧ '\n' ∉ text
  unnamed : ∀ name ∈ modeNames, ¬ name.toList <:+: text

def Value.string (v : Value) : String := String.ofList v.text

/-- A line of a WCDMA network. -/
structure Wcdma where
  mcc : Value
  mnc : Value
  lac : Value
  cellid : Value
  uarfcn : Value
  psc : Value
  rac : Value
  rscp : Value
  ecno : Value
  more : List Value

/-- A line of an LTE network. -/
structure Lte where
  tdd : Value
  mcc : Value
  mnc : Value
  cellid : Value
  pcid : Value
  earfcn : Value
  freqBandInd : Value
  ulBandwidth : Value
  dlBandwidth : Value
  tac : Value
  rsrp : Value
  rsrq : Value
  rssi : Value
  sinr : Value
  other : Value
  more : List Value

/-- A line of a 5G network that stands alone. -/
structure Sa where
  tdd : Value
  mcc : Value
  mnc : Value
  cellid : Value
  pcid : Value
  tac : Value
  arfcn : Value
  freqBandInd : Value
  dlBandwidth : Value
  rsrp : Value
  rsrq : Value
  sinr : Value
  other : Value
  more : List Value

/-- A line of a 5G network beside an LTE one. Its last field is read as a word. -/
structure Nsa where
  mcc : Value
  mnc : Value
  pcid : Value
  rsrp : Value
  sinr : Value
  rsrq : Value
  notBlank : ∃ c ∈ rsrq.text, isSpace c = false

/-- The network a line is about. -/
inductive Net where
  | wcdma (w : Wcdma)
  | lte (l : Lte)
  | sa (n : Sa)
  | nsa (n : Nsa)

/-- A line: the state alone, or a network with the state in front of it or without. -/
inductive Line where
  | idle (state : Value)
  | cell (state : Option Value) (net : Net)

def Net.name : Net → String
  | .wcdma _ => "WCDMA"
  | .lte _ => "LTE"
  | .sa _ => "NR5G-SA"
  | .nsa _ => "NR5G-NSA"

/-- The fields behind the name, in their order. -/
def Net.values : Net → List Value
  | .wcdma w => w.mcc :: w.mnc :: w.lac :: w.cellid :: w.uarfcn :: w.psc :: w.rac :: w.rscp ::
      w.ecno :: w.more
  | .lte l => l.tdd :: l.mcc :: l.mnc :: l.cellid :: l.pcid :: l.earfcn :: l.freqBandInd ::
      l.ulBandwidth :: l.dlBandwidth :: l.tac :: l.rsrp :: l.rsrq :: l.rssi :: l.sinr :: l.other ::
      l.more
  | .sa n => n.tdd :: n.mcc :: n.mnc :: n.cellid :: n.pcid :: n.tac :: n.arfcn ::
      n.freqBandInd :: n.dlBandwidth :: n.rsrp :: n.rsrq :: n.sinr :: n.other :: n.more
  | .nsa n => [n.mcc, n.mnc, n.pcid, n.rsrp, n.sinr, n.rsrq]

/-- What the quotes of a line cut its text into, up to the state. -/
def statePieces (state : Value) : List (List Char) :=
  ["servingcell".toList, [','], state.text]

/-- What the quotes cut a line of a network into, up to its name. -/
def headPieces (state : Option Value) : List (List Char) :=
  state.elim [] fun state => statePieces state ++ [[',']]

/-- The fields as they stand behind the name. -/
def valuesText (values : List Value) : List Char := delimited ',' [] (values.map Value.text)

/-- A line as the modem prints it. -/
def Line.text : Line → List Char
  | .idle state => delimited '"' "+QENG: ".toList (statePieces state ++ [[]])
  | .cell state net => delimited '"' "+QENG: ".toList
      (headPieces state ++ [net.name.toList, valuesText net.values])

/-- A value without the spaces around it. -/
def Value.word (v : Value) : List Char := (v.text.dropWhile isSpace).takeWhile (! isSpace ·)

/-! ## Names -/

/-- No name of a network holds a quote. -/
theorem quote_notMem_name : ∀ name ∈ modeNames, '"' ∉ name.toList := by decide

/-- No name of a network holds a comma. -/
theorem comma_notMem_name : ∀ name ∈ modeNames, ',' ∉ name.toList := by decide

/-- No name stands in the fixed parts of a line. -/
theorem name_fixed : ∀ name ∈ modeNames, ¬ name.toList <:+: "+QENG: ".toList ∧
    ¬ name.toList <:+: "servingcell".toList ∧ ¬ name.toList <:+: [','] ∧ ¬ name.toList <:+: [] := by
  decide

/-- Every network has one of the names. -/
theorem name_mem (net : Net) : net.name ∈ modeNames := by
  cases net <;> simp [Net.name, modeNames]

/-- No name stands in front of that of the network. -/
theorem name_headPieces {name : String} (hname : name ∈ modeNames) (state : Option Value) :
    ∀ g ∈ headPieces state, ¬ name.toList <:+: g := by
  obtain ⟨-, hcommand, hcomma, -⟩ := name_fixed name hname
  intro g hg
  cases state with
  | none => exact absurd hg List.not_mem_nil
  | some state =>
    simp only [headPieces, statePieces, Option.elim_some, List.cons_append, List.nil_append,
      List.mem_cons, List.not_mem_nil, or_false] at hg
    rcases hg with rfl | rfl | rfl | rfl
    · exact hcommand
    · exact hcomma
    · exact state.unnamed name hname
    · exact hcomma

/-- No name stands in the fields. -/
theorem name_valuesText {name : String} (hname : name ∈ modeNames) (values : List Value) :
    ¬ name.toList <:+: valuesText values := by
  unfold valuesText
  rw [infix_delimited_iff (comma_notMem_name name hname)]
  rintro (h | ⟨g, hg, h⟩)
  · exact (name_fixed name hname).2.2.2 h
  · obtain ⟨v, -, rfl⟩ := List.mem_map.mp hg
    exact v.unnamed name hname h

/-- The names that stand in a line are those that stand in its own. -/
theorem name_line {name : String} (hname : name ∈ modeNames) (state : Option Value) (net : Net) :
    name.toList <:+: (Line.cell state net).text ↔ name.toList <:+: net.name.toList := by
  unfold Line.text
  rw [infix_delimited_iff (quote_notMem_name name hname)]
  constructor
  · rintro (h | ⟨g, hg, h⟩)
    · exact absurd h (name_fixed name hname).1
    · rcases List.mem_append.mp hg with hg | hg
      · exact absurd h (name_headPieces hname state g hg)
      · rcases List.mem_pair.mp hg with rfl | rfl
        · exact h
        · exact absurd h (name_valuesText hname _)
  · intro h
    exact Or.inr ⟨_, by simp, h⟩

/-- No name stands in a line that has the state alone. -/
theorem name_idle {name : String} (hname : name ∈ modeNames) (state : Value) :
    ¬ name.toList <:+: (Line.idle state).text := by
  obtain ⟨hstart, hcommand, hcomma, hempty⟩ := name_fixed name hname
  unfold Line.text
  rw [infix_delimited_iff (quote_notMem_name name hname)]
  rintro (h | ⟨g, hg, h⟩)
  · exact hstart h
  · simp only [statePieces, List.cons_append, List.nil_append, List.mem_cons, List.not_mem_nil,
      or_false] at hg
    rcases hg with rfl | rfl | rfl | rfl
    · exact hcommand h
    · exact hcomma h
    · exact state.unnamed name hname h
    · exact hempty h

/-- A line from its name on. -/
def startOf (net : Net) : List Char :=
  delimited ',' (net.name.toList ++ ['"']) (net.values.map Value.text)

/-- The name of the network is found where the fields begin. -/
theorem strstr_own (state : Option Value) (net : Net) :
    strstr net.name.toList (Line.cell state net).text = some (startOf net) := by
  have hname := name_mem net
  have htext : (Line.cell state net).text =
      delimited '"' "+QENG: ".toList (headPieces state) ++
        '"' :: (net.name.toList ++ '"' :: valuesText net.values) := by
    rw [Line.text, delimited_append]
    simp
  have hhead : ¬ net.name.toList <:+: delimited '"' "+QENG: ".toList (headPieces state) := by
    rw [infix_delimited_iff (quote_notMem_name _ hname)]
    rintro (h | ⟨g, hg, h⟩)
    · exact (name_fixed _ hname).1 h
    · exact name_headPieces hname state g hg h
  rw [htext, strstr_behind (quote_notMem_name _ hname) hhead]
  simp [startOf, valuesText, delimited]

/-- A name that is no part of the network's is not found. -/
theorem strstr_other {name : String} (hname : name ∈ modeNames) (state : Option Value) {net : Net}
    (hother : ¬ name.toList <:+: net.name.toList) :
    strstr name.toList (Line.cell state net).text = none := by
  rw [strstr_eq_none_iff, name_line hname]
  exact hother

/-! ## Fields -/

/-- Fields that are read up to their commas, and what comes behind them. -/
theorem scan_csv (n : ℕ) (ds : List Directive) {f : List Char} {fs : List (List Char)}
    (hf : f ≠ [] ∧ ',' ∉ f) (hfs : ∀ g ∈ fs, g ≠ [] ∧ ',' ∉ g) (hn : n ≤ fs.length) :
    (scan (Ne16u.csv (n + 1) ++ ds) (delimited ',' f fs)).fields =
      .str f :: (fs.take n).map .str ++ (scan ds ((fs.drop n).flatMap (',' :: ·))).fields := by
  induction n generalizing f fs with
  | zero => exact scan_field_delimited hf.1 hf.2 fs
  | succ n ih =>
    cases fs with
    | nil => cases hn
    | cons g gs =>
      have hgs := ih (hfs g List.mem_cons_self) (fun g' hg' => hfs g' (List.mem_cons_of_mem _ hg'))
        (Nat.le_of_succ_le_succ hn)
      have hcsv : Ne16u.csv (n + 1 + 1) ++ ds =
          .field ',' :: .lit ',' :: (Ne16u.csv (n + 1) ++ ds) := rfl
      rw [hcsv, delimited_cons, scan_field hf.1 hf.2, scan_lit, hgs]
      rfl

/-- The fields of a line from its name on. -/
theorem scan_start (net : Net) (n : ℕ) (ds : List Directive) (hn : n ≤ net.values.length) :
    (scan (Ne16u.csv (n + 1) ++ ds) (startOf net)).fields =
      .str (net.name.toList ++ ['"']) :: ((net.values.map Value.text).take n).map .str ++
        (scan ds (((net.values.map Value.text).drop n).flatMap (',' :: ·))).fields := by
  refine scan_csv n ds ?_ ?_ (by simpa using hn)
  · have hcomma := comma_notMem_name _ (name_mem net)
    exact ⟨by simp, by simp [hcomma]⟩
  · intro g hg
    obtain ⟨v, -, rfl⟩ := List.mem_map.mp hg
    exact ⟨v.ne, v.plain.1⟩

/-- The cell a line of LTE gives. -/
def lteCell (l : Lte) : Ne16u.Cell :=
  ⟨"4G", l.pcid.text, l.rsrp.text, ["rsrp"], "nettype", "LTE", some l.rssi.text, l.rsrq.text,
    "rsrq", l.sinr.text, "sinr"⟩

/-- The cell a line of 5G gives that stands alone. -/
def saCell (n : Sa) : Ne16u.Cell :=
  ⟨"5G", n.pcid.text, n.rsrp.text, ["rsrp", "rssi"], "nettype", "NR5G-SA", none, n.rsrq.text,
    "rsrq", n.sinr.text, "sinr"⟩

/-- The cell a line of 5G gives beside LTE. -/
def nsaCell (n : Nsa) : Ne16u.Cell :=
  ⟨"5G", n.pcid.text, n.rsrp.text, ["rsrp2"], "nettype2", "NR5G-NSA", none, n.rsrq.word, "rsrq2",
    n.sinr.text, "sinr2"⟩

/-- The last field is read as a word. -/
theorem scan_word (v : Value) (h : ∃ c ∈ v.text, isSpace c = false) :
    (scan [.lit ',', .word] ([v.text].flatMap (',' :: ·))).fields = [.str v.word] := by
  have hne : v.text.dropWhile isSpace ≠ [] := by
    obtain ⟨c, hc, hspace⟩ := h
    intro hnil
    have hall := List.dropWhile_eq_nil_iff.mp hnil c hc
    rw [hspace] at hall
    cases hall
  simp only [List.flatMap_cons, List.flatMap_nil, List.append_nil]
  rw [scan_lit, scan, if_neg hne]
  rfl

/-- The code takes the field in front of the received power. -/
theorem rscpOf_start (w : Wcdma) : Ne16u.rscpOf (startOf (.wcdma w)) = some w.rac.text := by
  have hscan := scan_start (.wcdma w) 9 [] (by simp [Net.values])
  rw [List.append_nil] at hscan
  unfold Ne16u.rscpOf
  rw [hscan]
  rfl

/-- A line of LTE is read into its fields. -/
theorem lteCell_start (l : Lte) : Ne16u.lteCell (startOf (.lte l)) = some (lteCell l) := by
  have hscan := scan_start (.lte l) 15 [] (by simp [Net.values])
  rw [List.append_nil] at hscan
  unfold Ne16u.lteCell
  rw [hscan]
  rfl

/-- A line of NR5G-SA is read into its fields. -/
theorem saCell_start (n : Sa) : Ne16u.saCell (startOf (.sa n)) = some (saCell n) := by
  have hscan := scan_start (.sa n) 13 [] (by simp [Net.values])
  rw [List.append_nil] at hscan
  unfold Ne16u.saCell
  rw [hscan]
  rfl

/-- A line of NR5G-NSA is read into its fields. -/
theorem nsaCell_start (n : Nsa) : Ne16u.nsaCell (startOf (.nsa n)) = some (nsaCell n) := by
  have hscan := scan_start (.nsa n) 5 [.lit ',', .word] (by simp [Net.values])
  have hlast : ((Net.nsa n).values.map Value.text).drop 5 = [n.rsrq.text] := rfl
  rw [hlast, scan_word n.rsrq n.notBlank] at hscan
  unfold Ne16u.nsaCell
  rw [hscan]
  rfl

/-! ## A line is recorded -/

/-- The strength of an LTE cell beside the first one. -/
def rssiEdits (rssi : Option (List Char)) : List (String × Option String) :=
  match rssi with
  | some rssi =>
    if Ne16u.within (-140) (-44) rssi then [("rssi", some (String.ofList rssi))] else []
  | none => []

/-- The edits a cell makes. -/
def cellEdits (cell : Ne16u.Cell) : List (String × Option String) :=
  if cell.known then
    [("pcid", some (String.ofList cell.pcid)), ("netera", some cell.era)] ++
      (if Ne16u.within (-140) (-44) cell.rsrp then
        cell.rsrpKeys.map (·, some (String.ofList cell.rsrp)) ++
          [(cell.nettypeKey, some cell.nettype)] else []) ++
      rssiEdits cell.rssi ++
      (if Ne16u.within (-20) (-3) cell.rsrq then
        [(cell.rsrqKey, some (String.ofList cell.rsrq))] else []) ++
      (if Ne16u.within 0 250 cell.sinr then
        [(cell.sinrKey, some (toString (-20 + strtol 32 cell.sinr / 5)))] else [])
  else []

/-- A cell has its received power in range. -/
def cellGood (cell : Ne16u.Cell) : Bool :=
  cell.known && (Ne16u.within (-140) (-44) cell.rsrp ||
    cell.rssi.any (Ne16u.within (-140) (-44)))

/-- A strength is recorded under its keys when it is in range. -/
theorem setStrength_writes (keys : List String) (text : List Char) {network : Op Unit}
    (es : List (String × Option String)) (hnetwork : network = Script.writes es ()) (ret : Ret) :
    Ne16u.setStrength keys text network ret = Script.writes
      (if Ne16u.within (-140) (-44) text then
        keys.map (·, some (String.ofList text)) ++ es else [])
      (if Ne16u.within (-140) (-44) text then .succeed else ret) := by
  unfold Ne16u.setStrength
  split
  · rw [Script.puts_eq_writes, hnetwork]
    exact Script.writes_bind _ (Script.writes_bind_done es () fun _ => Ret.succeed)
  · rfl

/-- A text is recorded under its key. -/
theorem setString_writes (key text : String) :
    setString key text.toList = Script.writes [(key, some text)] () := by
  rw [setString, String.ofList_toList]
  rfl

/-- A text is recorded on a condition. -/
theorem onlyIf_writes (b : Bool) (key text : String) :
    onlyIf b (Script.put key (some text)) =
      Script.writes (if b then [(key, some text)] else []) () := by
  cases b <;> rfl

/-- The signal is recorded when it is there and in range. -/
theorem setRssi_writes (rssi : Option (List Char)) (ret : Ret) :
    Ne16u.setRssi rssi ret = Script.writes (rssiEdits rssi)
      (if rssi.any (Ne16u.within (-140) (-44)) then .succeed else ret) := by
  cases rssi with
  | none => rfl
  | some rssi => exact setStrength_writes ["rssi"] rssi [] rfl ret

/-- A cell makes its edits, whatever the value so far. -/
theorem setCell_writes (cell : Ne16u.Cell) (ret : Ret) :
    Ne16u.setCell cell ret =
      Script.writes (cellEdits cell) (if cellGood cell then .succeed else ret) := by
  unfold Ne16u.setCell cellEdits cellGood
  cases cell.known with
  | false => rfl
  | true =>
    have hvalue : (if cell.rssi.any (Ne16u.within (-140) (-44)) then Ret.succeed
        else if Ne16u.within (-140) (-44) cell.rsrp then Ret.succeed else ret) =
        if Ne16u.within (-140) (-44) cell.rsrp ||
          cell.rssi.any (Ne16u.within (-140) (-44)) then Ret.succeed else ret := by
      cases Ne16u.within (-140) (-44) cell.rsrp <;> simp
    simp only [if_true, Bool.true_and, List.append_assoc]
    refine Script.writes_bind [("pcid", _)] ?_
    rw [setString_writes]
    refine Script.writes_bind _ ?_
    rw [setStrength_writes _ _ _ (setString_writes _ _)]
    refine Script.writes_bind _ ?_
    rw [setRssi_writes]
    refine Script.writes_bind _ ?_
    rw [setString, onlyIf_writes]
    refine Script.writes_bind _ ?_
    rw [setNumber, onlyIf_writes, hvalue]
    exact Script.writes_bind_done _ () fun _ => _

/-- The edits of a network. -/
def netEdits : Net → List (String × Option String)
  | .wcdma w =>
    if Ne16u.within 1 96 w.rac.text then [("netera", some "3G"), ("nettype", some "WCDMA")] else []
  | .lte l => cellEdits (lteCell l)
  | .sa n => cellEdits (saCell n)
  | .nsa n => cellEdits (nsaCell n)

/-- A network makes the run succeed. -/
def netTaken : Net → Bool
  | .wcdma w => Ne16u.within 1 96 w.rac.text
  | .lte l => cellGood (lteCell l)
  | .sa n => cellGood (saCell n)
  | .nsa n => cellGood (nsaCell n)

/-- The network of a line, where it has one. -/
def Line.net : Line → Option Net
  | .idle _ => none
  | .cell _ net => some net

/-- The networks of an answer. -/
def nets (ls : List Line) : List Net := ls.filterMap Line.net

/-- The edits of a line. -/
def lineEdits (l : Line) : List (String × Option String) := l.net.elim [] netEdits

/-- The value after a line. -/
def lineValue (ret : Ret) (l : Line) : Ret := if l.net.any netTaken then .succeed else ret

/-- A line with the state alone records nothing. -/
theorem servingcellLine_idle (ret : Ret) (state : Value) :
    Ne16u.servingcellLine ret (Line.idle state).text = pure ret := by
  have hnone : ∀ name ∈ modeNames, strstr name.toList (Line.idle state).text = none :=
    fun name hname => (strstr_eq_none_iff _ _).mpr (name_idle hname state)
  unfold Ne16u.servingcellLine Ne16u.cellOf
  rw [hnone "WCDMA" (by decide), hnone "LTE" (by decide), hnone "NR5G-SA" (by decide),
    hnone "NR5G-NSA" (by decide)]
  rfl

/-- A line makes its edits, whatever the value so far. -/
theorem line_writes (ret : Ret) (l : Line) :
    Ne16u.servingcellLine ret l.text = Script.writes (lineEdits l) (lineValue ret l) := by
  cases l with
  | idle state => exact servingcellLine_idle ret state
  | cell state net =>
    have hown := strstr_own state net
    have hother : ∀ name ∈ modeNames, ∀ own, net.name = own → ¬ name.toList <:+: own.toList →
        strstr name.toList (Line.cell state net).text = none := by
      rintro name hname own rfl hnot
      exact strstr_other hname state hnot
    unfold Ne16u.servingcellLine Ne16u.cellOf lineEdits lineValue
    cases net with
    | wcdma w =>
      change strstr "WCDMA".toList _ = _ at hown
      rw [hown]
      have hnet : (Line.cell state (.wcdma w)).net = some (.wcdma w) := rfl
      simp only [rscpOf_start, Option.any_some, hnet, Option.elim_some, netEdits, netTaken]
      split
      · rfl
      · rfl
    | lte l =>
      change strstr "LTE".toList _ = _ at hown
      rw [hother "WCDMA" (by decide) "LTE" rfl (by decide), hown]
      simp only [lteCell_start]
      exact setCell_writes (lteCell l) ret
    | sa n =>
      change strstr "NR5G-SA".toList _ = _ at hown
      rw [hother "WCDMA" (by decide) "NR5G-SA" rfl (by decide),
        hother "LTE" (by decide) "NR5G-SA" rfl (by decide), hown]
      simp only [saCell_start]
      exact setCell_writes (saCell n) ret
    | nsa n =>
      change strstr "NR5G-NSA".toList _ = _ at hown
      rw [hother "WCDMA" (by decide) "NR5G-NSA" rfl (by decide),
        hother "LTE" (by decide) "NR5G-NSA" rfl (by decide),
        hother "NR5G-SA" (by decide) "NR5G-NSA" rfl (by decide), hown]
      simp only [Option.bind_some, nsaCell_start]
      exact setCell_writes (nsaCell n) ret

end Tiger.Analysis.ServingCell
