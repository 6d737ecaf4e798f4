import Tiger.Analysis.ServingCellLines

/-!
# The serving cell

For LTE and for both kinds of 5G every recorded strength comes from the field of its meaning
in the last line that has it in range. For WCDMA the field in front of the received power is
read in place of it, so the success of an answer with such lines hangs on the wrong field
(`servingcell_iff`).
-/

set_option autoImplicit false

namespace Tiger.Analysis.ServingCell

open Tiger.Library Tiger.Model
open Tiger.Analysis.ScanRules

/-! ## What the fields mean -/

/-- The cell has a number. -/
def known (pcid : Value) : Prop := strtol 32 pcid.text ≠ 65535 ∧ strtol 32 pcid.text ≠ -32768

/-- The number a text begins with lies between two bounds. -/
def IsIn (lo hi : ℤ) (s : List Char) : Prop := lo ≤ strtol 32 s ∧ strtol 32 s ≤ hi

instance (pcid : Value) : Decidable (known pcid) := inferInstanceAs (Decidable (_ ∧ _))

instance (lo hi : ℤ) (s : List Char) : Decidable (IsIn lo hi s) :=
  inferInstanceAs (Decidable (_ ∧ _))

/-- The noise in its scaled form. -/
def scaled (sinr : Value) : String := toString (-20 + strtol 32 sinr.text / 5)

def rsrpOf : Net → Option String
  | .lte l => if known l.pcid ∧ IsIn (-140) (-44) l.rsrp.text then some l.rsrp.string else none
  | .sa n => if known n.pcid ∧ IsIn (-140) (-44) n.rsrp.text then some n.rsrp.string else none
  | _ => none

def rssiOf : Net → Option String
  | .lte l => if known l.pcid ∧ IsIn (-140) (-44) l.rssi.text then some l.rssi.string else none
  | .sa n => if known n.pcid ∧ IsIn (-140) (-44) n.rsrp.text then some n.rsrp.string else none
  | _ => none

def rsrqOf : Net → Option String
  | .lte l => if known l.pcid ∧ IsIn (-20) (-3) l.rsrq.text then some l.rsrq.string else none
  | .sa n => if known n.pcid ∧ IsIn (-20) (-3) n.rsrq.text then some n.rsrq.string else none
  | _ => none

def sinrOf : Net → Option String
  | .lte l => if known l.pcid ∧ IsIn 0 250 l.sinr.text then some (scaled l.sinr) else none
  | .sa n => if known n.pcid ∧ IsIn 0 250 n.sinr.text then some (scaled n.sinr) else none
  | _ => none

def rsrp2Of : Net → Option String
  | .nsa n => if known n.pcid ∧ IsIn (-140) (-44) n.rsrp.text then some n.rsrp.string else none
  | _ => none

def rsrq2Of : Net → Option String
  | .nsa n =>
    if known n.pcid ∧ IsIn (-20) (-3) n.rsrq.word then some (String.ofList n.rsrq.word) else none
  | _ => none

def sinr2Of : Net → Option String
  | .nsa n => if known n.pcid ∧ IsIn 0 250 n.sinr.text then some (scaled n.sinr) else none
  | _ => none

/-- The received power of a line is in range, and its cell has a number. -/
def Good : Net → Prop
  | .wcdma w => IsIn (-121) (-25) w.rscp.text
  | .lte l => known l.pcid ∧ (IsIn (-140) (-44) l.rsrp.text ∨ IsIn (-140) (-44) l.rssi.text)
  | .sa n => known n.pcid ∧ IsIn (-140) (-44) n.rsrp.text
  | .nsa n => known n.pcid ∧ IsIn (-140) (-44) n.rsrp.text

/-- The received power of a line as the code looks for it. -/
def Taken : Net → Prop
  | .wcdma w => IsIn 1 96 w.rac.text
  | net => Good net

/-! ## What a network says of a key -/

/-- The test for a range is the range. -/
theorem within_iff (lo hi : ℤ) (s : List Char) : Ne16u.within lo hi s = true ↔ IsIn lo hi s := by
  simp [Ne16u.within, IsIn]

/-- A cell is known when its number is none of the two for no cell. -/
theorem cell_known_iff (cell : Ne16u.Cell) : cell.known = true ↔
    strtol 32 cell.pcid ≠ 65535 ∧ strtol 32 cell.pcid ≠ -32768 := by
  unfold Ne16u.Cell.known
  rw [Bool.and_eq_true, decide_eq_true_iff, decide_eq_true_iff]

/-- The test of the driver is the condition. -/
theorem netTaken_iff (net : Net) : netTaken net = true ↔ Taken net := by
  cases net <;> simp [netTaken, Taken, Good, cellGood, cell_known_iff, lteCell, saCell, nsaCell,
    known, within_iff]

/-- What is written on a condition is the latest on it. -/
theorem latest_ite {α β : Type} (w : α → Option β) (c : Prop) [Decidable c] (l : List α) :
    latest w (if c then l else []) = if c then latest w l else none := by
  split <;> rfl

/-- The keys of the strengths, each with what a network says of it. -/
def strengths : List (String × (Net → Option String)) :=
  [("rsrp", rsrpOf), ("rssi", rssiOf), ("rsrq", rsrqOf), ("sinr", sinrOf), ("rsrp2", rsrp2Of),
    ("rsrq2", rsrq2Of), ("sinr2", sinr2Of)]

/-- A line of WCDMA writes no strength. -/
theorem latest_wcdmaEdits (w : Wcdma) {e : String × (Net → Option String)} (he : e ∈ strengths) :
    latest (editOf e.1) (netEdits (.wcdma w)) = (e.2 (.wcdma w)).map some := by
  simp only [strengths, List.mem_cons, List.not_mem_nil, or_false] at he
  rcases he with rfl | rfl | rfl | rfl | rfl | rfl | rfl <;>
    simp [netEdits, latest_ite, editOf, rsrpOf, rssiOf, rsrqOf, sinrOf, rsrp2Of, rsrq2Of, sinr2Of]

/-- The cell of a network has a number. -/
def Numbered : Net → Prop
  | .wcdma _ => False
  | .lte l => known l.pcid
  | .sa n => known n.pcid
  | .nsa n => known n.pcid

/-- The edits of a cell that has a number. -/
def knownEdits (cell : Ne16u.Cell) : List (String × Option String) :=
  [("pcid", some (String.ofList cell.pcid)), ("netera", some cell.era)] ++
    (if Ne16u.within (-140) (-44) cell.rsrp then
      cell.rsrpKeys.map (·, some (String.ofList cell.rsrp)) ++
        [(cell.nettypeKey, some cell.nettype)] else []) ++
    rssiEdits cell.rssi ++
    (if Ne16u.within (-20) (-3) cell.rsrq then
      [(cell.rsrqKey, some (String.ofList cell.rsrq))] else []) ++
    (if Ne16u.within 0 250 cell.sinr then
      [(cell.sinrKey, some (toString (-20 + strtol 32 cell.sinr / 5)))] else [])

/-- A cell without a number says nothing of the strengths. -/
theorem strength_eq_none {net : Net} (h : ¬ Numbered net) {e : String × (Net → Option String)}
    (he : e ∈ strengths) : e.2 net = none := by
  simp only [strengths, List.mem_cons, List.not_mem_nil, or_false] at he
  cases net with
  | wcdma w => rcases he with rfl | rfl | rfl | rfl | rfl | rfl | rfl <;> rfl
  | lte l =>
    have hknown : ¬ known l.pcid := h
    rcases he with rfl | rfl | rfl | rfl | rfl | rfl | rfl <;>
      simp [rsrpOf, rssiOf, rsrqOf, sinrOf, rsrp2Of, rsrq2Of, sinr2Of, hknown]
  | sa n =>
    have hknown : ¬ known n.pcid := h
    rcases he with rfl | rfl | rfl | rfl | rfl | rfl | rfl <;>
      simp [rsrpOf, rssiOf, rsrqOf, sinrOf, rsrp2Of, rsrq2Of, sinr2Of, hknown]
  | nsa n =>
    have hknown : ¬ known n.pcid := h
    rcases he with rfl | rfl | rfl | rfl | rfl | rfl | rfl <;>
      simp [rsrpOf, rssiOf, rsrqOf, sinrOf, rsrp2Of, rsrq2Of, sinr2Of, hknown]

/-- What a network with a cell says, from what the cell says when it has a number. -/
theorem latest_cell {net : Net} (cell : Ne16u.Cell) (hedits : netEdits net = cellEdits cell)
    (hcell : cell.known = true ↔ Numbered net) {e : String × (Net → Option String)}
    (he : e ∈ strengths)
    (hknown : Numbered net → latest (editOf e.1) (knownEdits cell) = (e.2 net).map some) :
    latest (editOf e.1) (netEdits net) = (e.2 net).map some := by
  rw [hedits]
  change latest (editOf e.1) (if cell.known then knownEdits cell else []) = _
  by_cases h : Numbered net
  · rw [if_pos (hcell.mpr h), hknown h]
  · rw [if_neg (mt hcell.mp h), strength_eq_none h he]
    rfl

/-- A line writes the strengths of its network. -/
theorem latest_netEdits (net : Net) {e : String × (Net → Option String)} (he : e ∈ strengths) :
    latest (editOf e.1) (netEdits net) = (e.2 net).map some := by
  have hcases := he
  simp only [strengths, List.mem_cons, List.not_mem_nil, or_false] at hcases
  cases net with
  | wcdma w => exact latest_wcdmaEdits w he
  | lte l =>
    refine latest_cell (lteCell l) rfl (cell_known_iff _) he fun hnumber => ?_
    have hknown : known l.pcid := hnumber
    rcases hcases with rfl | rfl | rfl | rfl | rfl | rfl | rfl <;>
      simp [knownEdits, lteCell, rssiEdits, latest_ite, editOf, rsrpOf, rssiOf, rsrqOf, sinrOf,
        rsrp2Of, rsrq2Of, sinr2Of, within_iff, hknown, apply_ite (Option.map some), Value.string,
        scaled]
  | sa n =>
    refine latest_cell (saCell n) rfl (cell_known_iff _) he fun hnumber => ?_
    have hknown : known n.pcid := hnumber
    rcases hcases with rfl | rfl | rfl | rfl | rfl | rfl | rfl <;>
      simp [knownEdits, saCell, rssiEdits, latest_ite, editOf, rsrpOf, rssiOf, rsrqOf, sinrOf,
        rsrp2Of, rsrq2Of, sinr2Of, within_iff, hknown, apply_ite (Option.map some), Value.string,
        scaled]
  | nsa n =>
    refine latest_cell (nsaCell n) rfl (cell_known_iff _) he fun hnumber => ?_
    have hknown : known n.pcid := hnumber
    rcases hcases with rfl | rfl | rfl | rfl | rfl | rfl | rfl <;>
      simp [knownEdits, nsaCell, rssiEdits, latest_ite, editOf, rsrpOf, rssiOf, rsrqOf, sinrOf,
        rsrp2Of, rsrq2Of, sinr2Of, within_iff, hknown, apply_ite (Option.map some), Value.string,
        scaled]

/-! ## The answer is read -/

/-- A line is not empty. -/
theorem Line.text_ne_nil (l : Line) : l.text ≠ [] := by
  cases l <;> simp [Line.text, delimited]

/-- A line holds no newline. -/
theorem Line.newline_notMem (l : Line) : '\n' ∉ l.text := by
  have hvalue : ∀ v : Value, '\n' ∉ v.text := fun v => v.plain.2
  have hnames : ∀ name ∈ modeNames, '\n' ∉ name.toList := by decide
  have hname : ∀ net : Net, '\n' ∉ net.name.toList := fun net => hnames _ (name_mem net)
  cases l with
  | idle state => simp [Line.text, delimited, statePieces, hvalue]
  | cell state net =>
    cases state with
    | none => simp [Line.text, delimited, headPieces, valuesText, hvalue, hname]
    | some state =>
      simp [Line.text, delimited, headPieces, statePieces, valuesText, hvalue, hname]

/-- The value after the lines of an answer. -/
theorem foldl_lineValue (ls : List Line) (ret : Ret) :
    ls.foldl lineValue ret = if (nets ls).any netTaken then .succeed else ret := by
  unfold nets
  induction ls generalizing ret with
  | nil => rfl
  | cons l ls ih =>
    rw [List.foldl_cons, ih, lineValue]
    cases hl : l.net with
    | none => simp [hl]
    | some net =>
      rw [List.filterMap_cons_some hl, List.any_cons, Option.any_some]
      cases netTaken net with
      | false => simp
      | true => simp

/-- The edits of an answer are those of its networks. -/
theorem flatMap_lineEdits (ls : List Line) :
    ls.flatMap lineEdits = (nets ls).flatMap netEdits := by
  unfold nets
  induction ls with
  | nil => rfl
  | cons l ls ih =>
    rw [List.flatMap_cons, ih, lineEdits]
    cases hl : l.net with
    | none => simp [hl]
    | some net => rw [List.filterMap_cons_some hl, List.flatMap_cons, Option.elim_some]

variable {M : Type} (answer : M → Command → Reply × M)

/-- The command that asks for the serving cell. -/
def ask : Command := .set .qeng [.quoted "servingcell"]

/-- A run on an answer. -/
theorem run_servingcell {m : M} (s : Device) (ls : List Line)
    (hret : (answer m ask).1.ret = .succeed)
    (hack : Printed (ls.map Line.text) (answer m ask).1.ack) :
    Script.run answer Ne16u.servingcell m s =
      ⟨[(ask, (answer m ask).1)], (nets ls).flatMap netEdits,
        if (nets ls).any netTaken then .succeed else .failed, (answer m ask).2,
        overwrite ((nets ls).flatMap netEdits) s⟩ := by
  have hlines : lines (answer m ask).1.ack = ls.map Line.text := by
    apply lines_of_printed hack
    intro l hl
    obtain ⟨l, -, rfl⟩ := List.mem_map.mp hl
    exact ⟨l.newline_notMem, l.text_ne_nil⟩
  have hloop : (lines (answer m ask).1.ack).foldlM Ne16u.servingcellLine .failed =
      Script.writes ((nets ls).flatMap netEdits)
        (if (nets ls).any netTaken then .succeed else .failed) := by
    rw [hlines, List.foldlM_map, ← foldl_lineValue, ← flatMap_lineEdits]
    exact Script.foldlM_writes line_writes ls .failed
  unfold Ne16u.servingcell
  rw [tx_bind]
  apply Script.run_call_writes
  change (if (answer m ask).1.ret ≠ .succeed then _ else _) = _
  rw [if_neg (by simp [hret])]
  exact hloop

/-- What is recorded of an answer: of each strength, what the last line says of it, or what was
there before. The run succeeds when some line has its received power in range. -/
structure Parsed (ls : List Line) (s : Device)
    (o : Script.Outcome Command Reply String String Ret M) : Prop where
  recorded : ∀ e ∈ strengths, o.store e.1 = (latest e.2 (nets ls)).or (s e.1)
  succeeds : o.value = .succeed ↔ ∃ net ∈ nets ls, Good net

/-- The strengths are recorded from the right fields on every answer. -/
theorem strengths_of_run {m : M} (s : Device) {ls : List Line}
    (hret : (answer m ask).1.ret = .succeed)
    (hack : Printed (ls.map Line.text) (answer m ask).1.ack)
    {e : String × (Net → Option String)} (he : e ∈ strengths) :
    (Script.run answer Ne16u.servingcell m s).store e.1 =
      (latest e.2 (nets ls)).or (s e.1) := by
  rw [run_servingcell answer s ls hret hack]
  change overwrite ((nets ls).flatMap netEdits) s e.1 = _
  rw [overwrite_apply, latest_flatMap, funext fun net => latest_netEdits net he, latest_map]
  cases latest e.2 (nets ls) with
  | none => rfl
  | some v => rfl

/-- The network is a WCDMA one. -/
def Net.isWcdma : Net → Bool
  | .wcdma _ => true
  | _ => false

/-- Outside WCDMA a line is taken exactly when it is a good one. -/
theorem taken_iff_good {net : Net} (h : net.isWcdma = false) : Taken net ↔ Good net := by
  cases net with
  | wcdma w => cases h
  | lte l => exact Iff.rfl
  | sa n => exact Iff.rfl
  | nsa n => exact Iff.rfl

/-- **The serving cell.** The answer is parsed as its formats mean it if and only if some line
that is not WCDMA has its received power in range, or some WCDMA line has a number from 1 to
96 in front of its received power exactly when some WCDMA line has that in range. -/
theorem servingcell_iff {m : M} (s : Device) (ls : List Line)
    (hret : (answer m ask).1.ret = .succeed)
    (hack : Printed (ls.map Line.text) (answer m ask).1.ack) :
    Parsed ls s (Script.run answer Ne16u.servingcell m s) ↔
      (∃ net ∈ nets ls, net.isWcdma = false ∧ Good net) ∨
        ((∃ w, .wcdma w ∈ nets ls ∧ IsIn 1 96 w.rac.text) ↔
          ∃ w, .wcdma w ∈ nets ls ∧ IsIn (-121) (-25) w.rscp.text) := by
  have hvalue : (Script.run answer Ne16u.servingcell m s).value = .succeed ↔
      ∃ net ∈ nets ls, Taken net := by
    rw [run_servingcell answer s ls hret hack]
    simp only [← netTaken_iff]
    cases h : (nets ls).any netTaken with
    | false => simpa using h
    | true => simpa using h
  have hstrengths : ∀ e ∈ strengths, (Script.run answer Ne16u.servingcell m s).store e.1 =
      (latest e.2 (nets ls)).or (s e.1) := fun e he => strengths_of_run answer s hret hack he
  have hsplit : ∀ P : Net → Prop, (∃ net ∈ nets ls, P net) ↔
      (∃ net ∈ nets ls, net.isWcdma = false ∧ P net) ∨ ∃ w, .wcdma w ∈ nets ls ∧ P (.wcdma w) := by
    intro P
    constructor
    · rintro ⟨net, hnet, hP⟩
      cases hkind : net.isWcdma with
      | false => exact Or.inl ⟨net, hnet, hkind, hP⟩
      | true =>
        cases net with
        | wcdma w => exact Or.inr ⟨w, hnet, hP⟩
        | lte l => cases hkind
        | sa n => cases hkind
        | nsa n => cases hkind
    · rintro (⟨net, hnet, -, hP⟩ | ⟨w, hw, hP⟩)
      · exact ⟨net, hnet, hP⟩
      · exact ⟨_, hw, hP⟩
  have hothers : (∃ net ∈ nets ls, net.isWcdma = false ∧ Taken net) ↔
      ∃ net ∈ nets ls, net.isWcdma = false ∧ Good net :=
    exists_congr fun net => and_congr_right fun _ =>
      and_congr_right fun hkind => taken_iff_good hkind
  have hparsed : Parsed ls s (Script.run answer Ne16u.servingcell m s) ↔
      ((∃ net ∈ nets ls, Taken net) ↔ ∃ net ∈ nets ls, Good net) := by
    rw [← hvalue]
    exact ⟨fun h => h.succeeds, fun h => ⟨hstrengths, h⟩⟩
  rw [hparsed, hsplit Taken, hsplit Good, hothers]
  change ((_ ∨ ∃ w, .wcdma w ∈ nets ls ∧ IsIn 1 96 w.rac.text) ↔
    (_ ∨ ∃ w, .wcdma w ∈ nets ls ∧ IsIn (-121) (-25) w.rscp.text)) ↔ _
  by_cases hother : ∃ net ∈ nets ls, net.isWcdma = false ∧ Good net
  · simp only [hother, true_or]
  · simp only [hother, false_or]

/-- The value of a field whose text is made of harmless characters. -/
def value (text : String)
    (h : text.toList ≠ [] ∧ (',' ∉ text.toList ∧ '\n' ∉ text.toList) ∧
      ∀ name ∈ modeNames, ¬ name.toList <:+: text.toList) : Value :=
  ⟨text.toList, h.1, h.2.1, h.2.2⟩

/-- The line of WCDMA the manual of the modem gives, with these for its RSCP and its Ec/No. -/
def limited (rscp ecno : Value) : Line :=
  .cell (some (value "LIMSRV" (by decide))) (.wcdma
    { mcc := value "460" (by decide)
      mnc := value "01" (by decide)
      lac := value "A538" (by decide)
      cellid := value "1EB578B" (by decide)
      uarfcn := value "10763" (by decide)
      psc := value "60" (by decide)
      rac := value "2" (by decide)
      rscp := rscp
      ecno := ecno
      more := [] })

/-- A modem that answers every command with the same lines. -/
def always (ls : List Line) (_ : Unit) (_ : Command) : Reply × Unit :=
  (⟨.succeed, unlines '\n' (ls.map Line.text), [], 0⟩, ())

/-- The answer on a network of 4G with a cell of 5G beside it, in the words of the driver's
comment, and a line of WCDMA behind it. -/
def besideLte : List Line :=
  [.idle (value "NOCONN" (by decide)),
    .cell none (.lte
      { tdd := value "\"FDD\"" (by decide)
        mcc := value "460" (by decide)
        mnc := value "11" (by decide)
        cellid := value "D196A00" (by decide)
        pcid := value "462" (by decide)
        earfcn := value "100" (by decide)
        freqBandInd := value "1" (by decide)
        ulBandwidth := value "5" (by decide)
        dlBandwidth := value "5" (by decide)
        tac := value "7794" (by decide)
        rsrp := value "-107" (by decide)
        rsrq := value "-12" (by decide)
        rssi := value "-73" (by decide)
        sinr := value "10" (by decide)
        other := value "8" (by decide)
        more := [value "-32768" (by decide), value "-" (by decide)] }),
    .cell none (.nsa
      { mcc := value "460" (by decide)
        mnc := value "11" (by decide)
        pcid := value "562" (by decide)
        rsrp := value "-32768" (by decide)
        sinr := value "-32768" (by decide)
        rsrq := value "-32768" (by decide)
        notBlank := ⟨'3', by decide, rfl⟩ }),
    limited (value "-106" (by decide)) (value "-13" (by decide))]

/-- The driver on this answer. -/
theorem servingcell_besideLte :
    Parsed besideLte (fun _ => none)
        (Script.run (always besideLte) Ne16u.servingcell () fun _ => none) ↔
      (∃ net ∈ nets besideLte, net.isWcdma = false ∧ Good net) ∨
        ((∃ w, .wcdma w ∈ nets besideLte ∧ IsIn 1 96 w.rac.text) ↔
          ∃ w, .wcdma w ∈ nets besideLte ∧ IsIn (-121) (-25) w.rscp.text) :=
  servingcell_iff (always besideLte) (fun _ => none) besideLte rfl (Or.inl rfl)

/-- The line of WCDMA without reception. -/
def silent : Line := limited (value "-" (by decide)) (value "-" (by decide))

/-- A modem without reception is taken for one that has it. -/
theorem servingcell_silent :
    ¬ Parsed [silent] (fun _ => none)
      (Script.run (always [silent]) Ne16u.servingcell () fun _ => none) := by
  intro h
  have hrun := run_servingcell (always [silent]) (m := ()) (fun _ => none) [silent] rfl
    (Or.inl rfl)
  have hvalue := h.succeeds
  rw [hrun] at hvalue
  obtain ⟨net, hnet, hgood⟩ := hvalue.mp (by decide)
  cases List.mem_singleton.mp hnet
  change IsIn (-121) (-25) "-".toList at hgood
  exact absurd hgood (by decide)

end Tiger.Analysis.ServingCell
