import Tiger.Analysis.WatchSteps

/-!
# What a watch leaves of an earlier one

A watch that ends well has deleted or recorded the attributes of `cleared`, and it reads
none that it has not edited before (`finishes_atWatch`). So two watches against the same
modem exchange the same and differ at most in the other attributes; of those, a watch
records the ones its answers state, and no others. `fresh_iff` puts two runs together.
-/

set_option autoImplicit false

namespace Tiger.Analysis.WatchFreshness

open Tiger.Library Tiger.Model

/-! ## The watches -/

section Watches

variable {key : String} {E : List String} (cfg : Option Talk)

/-! ### Without attributes that stay -/

/-- Recording the network edits its two keys alone. -/
theorem edits_setNetwork {d : Driver} {bandKey nettypeKey : String} (hband : bandKey ≠ key)
    (hnettype : nettypeKey ≠ key) (sysmode line : List Char) :
    Edits d key E False (setNetwork bandKey nettypeKey sysmode line) :=
  (edits_setGiven hband _).before fun _ => edits_put_of_ne hnettype _

/-- A line for the network edits no uncleared attribute. -/
theorem edits_qnwinfoLine_ec200x (hkey : Uncleared .ec200x key) (ret : Ret)
    (line : List Char) : Edits .ec200x key E False (Ec200x.qnwinfoLine ret line) := by
  unfold Ec200x.qnwinfoLine
  split
  · exact edits_pure ret
  · split
    · exact (edits_setNetwork (hkey.ne (by decide)) (hkey.ne (by decide)) _ _).before
        fun _ => edits_pure _
    · exact edits_pure ret

/-- Asking for the network edits no more than its lines do. -/
theorem keeps_qnwinfo {d : Driver} {line : Ret → List Char → Op Ret}
    (hd : isStating d (.exec .qnwinfo) = false)
    (hline : ∀ ret text, Edits d key E False (line ret text)) :
    Keeps d key E (do
      let r ← tx (.exec .qnwinfo)
      if r.ret ≠ .succeed then pure r.ret
      else (lines r.ack).foldlM line .failed) := by
  refine (keeps_tx rfl hd).bind fun r => ?_
  split
  · exact keeps_pure _
  · exact ((edits_foldlM hline .failed _).congr (by simp)).keeps

/-- The watch of the EC200. -/
theorem finishes_ec200x (hkey : Uncleared .ec200x key) :
    Finishes .ec200x key [] (Ec200x.atWatch cfg) := by
  refine finishes_deleteAll hkey (by decide) ?_
  refine finishes_checkSim hkey _ (keeps_usbtty _) ?_
  refine finishes_deleteAll hkey (by decide) ?_
  refine finishes_check (keeps_qnwinfo rfl (edits_qnwinfoLine_ec200x hkey)) fun _ => ?_
  refine finishes_checkCops ?_
  refine finishes_checkReg hkey (by decide) ?_
  exact finishes_level hkey (by decide) (by decide)

/-- The watch of the EM350 and the MU609. -/
theorem finishes_sysinfoex {d : Driver} (hkey : Uncleared d key) (typeOf : List Char → ℤ)
    (pin : Option String) (hcleared : cleared d ⊆ ["csq", "nettype", "plmn", "rssi", "signal"]) :
    Finishes d key [] (do
      deleteAll ["plmn", "rssi", "signal"]
      checkSim (iccid 3 .failed) pin do
      deleteAll ["nettype"]
      check (sysinfoex typeOf) fun _ =>
      check (usbtty .cops) fun _ =>
      checkReg do
      deleteAll ["csq"]
      checkCsq fun csq => do
      setCsq csq
      rssiSignal
      pure .ttrue) := by
  have hcommon := common_subset d
  refine finishes_deleteAll hkey (List.Subset.trans (by decide) hcommon) ?_
  refine finishes_checkSim hkey _ (keeps_iccid hkey _ _) ?_
  refine finishes_deleteAll hkey (List.Subset.trans (by decide) hcommon) ?_
  refine finishes_check (keeps_sysinfoex hkey _) fun _ => ?_
  refine finishes_check (keeps_usbtty _) fun _ => ?_
  refine finishes_checkReg hkey (by decide) ?_
  exact finishes_level hkey (by decide) hcleared

/-! ### The serving cell of the NE16U -/

/-- A line for the network edits no uncleared attribute. -/
theorem edits_qnwinfoLine_ne16u (hkey : Uncleared .ne16u key) (ret : Ret)
    (line : List Char) : Edits .ne16u key E False (Ne16u.qnwinfoLine ret line) := by
  unfold Ne16u.qnwinfoLine
  split
  · exact edits_pure ret
  split
  · exact (edits_setNetwork (hkey.ne (by decide)) (hkey.ne (by decide)) _ _).before
      fun _ => edits_pure _
  split
  · refine (edits_setNetwork (hkey.ne (by decide)) (hkey.ne (by decide)) _ _).before
      fun _ => ?_
    exact (edits_put_of_ne (hkey.ne (by decide)) _).before fun _ => edits_pure _
  · exact edits_pure ret

/-- Where the strengths of a cell are recorded. -/
def cellKeys (cell : Ne16u.Cell) : List String :=
  cell.nettypeKey :: cell.rsrqKey :: cell.sinrKey :: cell.rsrpKeys

/-- A cell is recorded under attributes that are cleared. -/
theorem cellKeys_subset {line : List Char} {cell : Ne16u.Cell}
    (h : Ne16u.cellOf line = some cell) : cellKeys cell ⊆ cleared .ne16u := by
  unfold Ne16u.cellOf at h
  split at h
  · unfold Ne16u.lteCell at h
    split at h
    · obtain rfl := Option.some.inj h
      simp [cellKeys, cleared]
    · cases h
  split at h
  · unfold Ne16u.saCell at h
    split at h
    · obtain rfl := Option.some.inj h
      simp [cellKeys, cleared]
    · cases h
  · obtain ⟨start, -, hstart⟩ := Option.bind_eq_some_iff.mp h
    unfold Ne16u.nsaCell at hstart
    split at hstart
    · obtain rfl := Option.some.inj hstart
      simp [cellKeys, cleared]
    · cases hstart

/-- Recording a strength edits its keys alone. -/
theorem edits_setStrength {d : Driver} {keys : List String} (hkeys : key ∉ keys)
    (s : List Char) {network : Op Unit} (hnetwork : Edits d key E False network) (ret : Ret) :
    Edits d key E False (Ne16u.setStrength keys s network ret) := by
  unfold Ne16u.setStrength
  split
  · have hputs : key ∉ (keys.map fun key => (key, some (String.ofList s))).map Prod.fst := by
      rw [List.map_map]
      exact fun h => hkeys (List.map_id keys ▸ h)
    refine ((edits_puts _).congr (iff_false_intro hputs)).before fun _ => ?_
    exact hnetwork.before fun _ => edits_pure _
  · exact edits_pure ret

/-- Recording the signal edits no uncleared attribute. -/
theorem edits_setRssi (hkey : Uncleared .ne16u key) (rssi : Option (List Char)) (ret : Ret) :
    Edits .ne16u key E False (Ne16u.setRssi rssi ret) := by
  cases rssi with
  | none => exact edits_pure ret
  | some rssi =>
    refine edits_setStrength (fun h => ?_) rssi (edits_pure ()) ret
    exact hkey.ne_common (by decide) (List.mem_singleton.mp h).symm

/-- A cell with a number is recorded under `pcid`, whatever else is known of it. -/
theorem edits_setCell (hkey : Uncleared .ne16u key) {cell : Ne16u.Cell}
    (hcell : cellKeys cell ⊆ cleared .ne16u) (ret : Ret) :
    Edits .ne16u key E (key = "pcid" ∧ cell.known = true) (Ne16u.setCell cell ret) := by
  have hne : ∀ k ∈ cellKeys cell, k ≠ key := fun k hk => hkey.ne (hcell hk)
  have hstrength : key ∉ cell.rsrpKeys := by
    intro h
    refine hne key ?_ rfl
    simp only [cellKeys, List.mem_cons]
    exact Or.inr (Or.inr (Or.inr h))
  unfold Ne16u.setCell
  by_cases hknown : cell.known = true
  · rw [if_pos hknown]
    refine Edits.congr ?_ (eq_comm.trans (and_iff_left hknown).symm)
    refine (edits_put "pcid" _).followed fun _ => ?_
    refine (edits_put_of_ne (hkey.ne (by decide)) _).before fun _ => ?_
    refine (edits_setStrength hstrength _ (edits_put_of_ne (hne _ ?_) _) ret).before
      fun ret' => ?_
    · simp [cellKeys]
    refine (edits_setRssi hkey _ ret').before fun ret'' => ?_
    refine (edits_onlyIf_of_not (edits_put_of_ne (hne _ ?_) _)).before fun _ => ?_
    · simp [cellKeys]
    refine (edits_onlyIf_of_not (edits_put_of_ne (hne _ ?_) _)).before fun _ => ?_
    · simp [cellKeys]
    exact edits_pure _
  · rw [if_neg hknown]
    exact (edits_pure ret).congr (by simp [hknown])

/-- A line for the serving cell edits `pcid` when it names a cell. -/
theorem edits_servingcellLine (hkey : Uncleared .ne16u key) (ret : Ret) (line : List Char) :
    Edits .ne16u key E (key = "pcid" ∧ namesCell line = true)
      (Ne16u.servingcellLine ret line) := by
  unfold Ne16u.servingcellLine namesCell
  cases strstr "WCDMA".toList line with
  | some start =>
    refine Edits.congr ?_ (by simp : False ↔ _)
    dsimp only
    split
    · refine (edits_put_of_ne (hkey.ne (by decide)) _).before fun _ => ?_
      exact (edits_put_of_ne (hkey.ne (by decide)) _).before fun _ => edits_pure _
    · exact edits_pure ret
  | none =>
    cases hcell : Ne16u.cellOf line with
    | none => exact (edits_pure ret).congr (by simp)
    | some cell => exact (edits_setCell hkey (cellKeys_subset hcell) ret).congr (by simp)

/-- Asking for the serving cell edits what its answer states. -/
theorem keeps_servingcell (hkey : Uncleared .ne16u key) :
    Keeps .ne16u key E Ne16u.servingcell := by
  unfold Ne16u.servingcell
  rw [tx_bind]
  refine keeps_call fun last r => ?_
  have hevent : Event .ne16u key last (.set .qeng [.quoted "servingcell"]) r ↔
      r.ret = .succeed ∧ ∃ line ∈ lines r.ack, key = "pcid" ∧ namesCell line = true := by
    rw [event_iff_states rfl]
    unfold States
    simp only [true_and]
    constructor
    · rintro ⟨hpcid, hret, line, hline, hnames⟩
      exact ⟨hret, line, hline, hpcid, hnames⟩
    · rintro ⟨hret, line, hline, hpcid, hnames⟩
      exact ⟨hpcid, hret, line, hline, hnames⟩
  split
  · next hret => exact (edits_pure _).congr (by simp [hevent, hret])
  · next hret =>
    refine (edits_foldlM (edits_servingcellLine hkey) .failed _).congr ?_
    rw [hevent, and_iff_right (not_not.mp hret)]

/-- The watch of the NE16U. -/
theorem finishes_ne16u (hkey : Uncleared .ne16u key) :
    Finishes .ne16u key [] (Ne16u.atWatch cfg) := by
  refine finishes_deleteAll hkey (by decide) ?_
  refine finishes_checkSim hkey _ (keeps_usbtty _) ?_
  refine finishes_deleteAll hkey (by decide) ?_
  refine finishes_check (keeps_servingcell hkey) fun _ => ?_
  refine finishes_check (keeps_qnwinfo rfl (edits_qnwinfoLine_ne16u hkey)) fun _ => ?_
  refine finishes_checkReg5g hkey (by decide) ?_
  refine finishes_checkCops ?_
  refine finishes_checkMissingCsq hkey _ (by decide) (by decide) ?_
  refine (edits_rsrpSignal hkey (by decide) (by decide)).keeps.finishes fun _ => ?_
  exact finishes_ttrue (by decide)

/-! ### The cell of the ZTE 7520 and the INNE7B01 -/

/-- The drivers that ask for the cell with `at+ZEMSCIQ`. -/
def asksCell (d : Driver) : Bool := d = .inne7b01 ∨ d = .zte7520

/-- The answer for the cell states `band` and `arfcn` when it can be read. -/
theorem event_zemsciq_iff {d : Driver} (hd : asksCell d = true)
    (last : Option (Command × Reply)) (r : Reply) :
    Event d key last (.set .zemsciq [.raw "1"]) r ↔ (key = "band" ∨ key = "arfcn") ∧
      (if r.ret = .succeed then zemsciqOf r.ack else none).isSome = true := by
  have hif : (if r.ret = .succeed then zemsciqOf r.ack else none).isSome = true ↔
      r.ret = .succeed ∧ (zemsciqOf r.ack).isSome = true := by
    split <;> simp_all
  rw [event_iff_states rfl, hif]
  cases d with
  | inne7b01 => simp [States]
  | zte7520 => simp [States]
  | _ => cases hd

/-- Recording the cell edits `band` and `arfcn` alone of these. -/
theorem edits_setZemsciq {d : Driver} (hkey : Uncleared d key) (hE : "plmn" ∈ E)
    (cell : Zemsciq) :
    Edits d key E (key = "band" ∨ key = "arfcn") (setZemsciq cell) := by
  refine ((edits_put "band" _).bind fun _ => ?_).congr (or_congr eq_comm eq_comm)
  refine (edits_put "arfcn" _).followed fun _ => ?_
  rw [number_bind]
  refine edits_read hE fun v => edits_onlyIf_of_not ?_
  split
  · exact edits_put_of_ne (hkey.ne_common (by decide)) _
  · exact edits_pure ()

/-- Asking for the cell edits what its answer states. -/
theorem finishes_checkZemsciq {d : Driver} (hd : asksCell d = true)
    (hkey : Uncleared d key) {k : Op Boole} (hE : "plmn" ∈ E) (hk : Finishes d key E k) :
    Finishes d key E (checkZemsciq k) := by
  intro σ hσ
  rw [checkZemsciq, tx_bind]
  intro r
  have hevent : Event d key σ.last (.set .zemsciq [.raw "1"]) r ↔ _ :=
    event_zemsciq_iff hd σ.last r
  dsimp only [check, Script.pure_eq, Script.done_bind]
  split
  · next hret => exact ⟨(hσ.exchange (by rw [hevent]; simp [hret])).2, by simp⟩
  split
  · next hret => exact ⟨(hσ.exchange (by rw [hevent]; simp [hret])).2, by simp⟩
  split
  · next cell hcell =>
    have hedits := (edits_setZemsciq hkey hE cell).congr
      ((and_iff_left (by rw [hcell]; rfl)).symm.trans hevent.symm)
    rw [Script.after_bind]
    exact (hedits.after_exchange hσ).mono fun _ σ' hσ' => hk σ' hσ'
  · next hcell => exact hk _ (hσ.exchange (by rw [hevent, hcell]; simp))

/-- The watch of the INNE7B01. -/
theorem finishes_inne7b01 (hkey : Uncleared .inne7b01 key) :
    Finishes .inne7b01 key [] (Inne7b01.atWatch cfg) := by
  refine finishes_deleteAll hkey (by decide) ?_
  refine finishes_checkSim hkey _ (keeps_usbtty _) ?_
  refine finishes_deleteAll hkey (by decide) ?_
  refine finishes_check (keeps_sysinfo hkey) fun _ => ?_
  refine finishes_check (keeps_usbtty _) fun _ => ?_
  refine finishes_checkReg hkey (by decide) ?_
  refine finishes_checkZemsciq rfl hkey (by decide) ?_
  exact finishes_level hkey (by decide) (by decide)

/-- Asking for the signal edits no uncleared attribute. -/
theorem keeps_cesq_zte7520 (hkey : Uncleared .zte7520 key) :
    Keeps .zte7520 key E Zte7520.cesq := by
  refine (keeps_tx rfl rfl).bind fun r => ?_
  split
  · exact keeps_pure _
  split
  · exact keeps_pure _
  · refine Edits.keeps ?_
    refine (edits_onlyIf_of_not (edits_put_of_ne (hkey.ne (by decide)) _)).before fun _ => ?_
    exact (edits_onlyIf_of_not (edits_put_of_ne (hkey.ne (by decide)) _)).before fun _ =>
      edits_pure _

/-- The watch of the ZTE7520. -/
theorem finishes_zte7520 (hkey : Uncleared .zte7520 key) :
    Finishes .zte7520 key [] (Zte7520.atWatch cfg) := by
  refine finishes_deleteAll hkey (by decide) ?_
  refine finishes_checkSim hkey _ (keeps_ccid hkey) ?_
  refine finishes_deleteAll hkey (by decide) ?_
  refine finishes_check (keeps_sysinfo hkey) fun _ => ?_
  refine finishes_check (keeps_cesq_zte7520 hkey) fun _ => ?_
  refine finishes_check (keeps_usbtty _) fun _ => ?_
  refine finishes_checkReg hkey (by decide) ?_
  refine finishes_checkZemsciq rfl hkey (by decide) ?_
  exact finishes_level hkey (by decide) (by decide)

/-! ### The network of the FML610 -/

/-- The paths on which the reply to `AT+COPS?` is the last one and its network recorded. -/
def Named (key : String) (E : List String)
    (σ : Script.Path Command Reply String String) : Prop :=
  Known key E σ ∧
    ∃ cops, σ.last = some (.read .cops, cops) ∧ σ.store "nettype" = copsNettypeOf cops

/-- Behind the question for the operator its network is recorded. -/
theorem after_cops (hkey : Uncleared .fml610 key)
    {σ : Script.Path Command Reply String String} (hσ : Known key E σ)
    (hstore : σ.store "nettype" = none) :
    Fml610.cops.After (Event .fml610 key) (fun _ σ => Named key E σ) σ := by
  rw [Fml610.cops, tx_bind]
  intro r
  dsimp only
  have hσ' : Known key E (σ.exchange (Event .fml610 key) (.read .cops) r) :=
    hσ.exchange (not_event rfl rfl σ.last r)
  split
  · next hret => exact ⟨hσ', r, rfl, hstore.trans (by rw [copsNettypeOf, if_neg hret])⟩
  next hret =>
  split
  · next hnone =>
    refine ⟨hσ', r, rfl, hstore.trans ?_⟩
    rw [copsNettypeOf, if_pos (not_not.mp hret), hnone]
    rfl
  · next plmn type hplmn =>
    have hnettype : copsNettypeOf r = Fml610.copsNettype type := by
      rw [copsNettypeOf, if_pos (not_not.mp hret), hplmn]
      rfl
    have hname : (onlyIf (5 ≤ plmn.length) (setString "plmn" plmn)).After (Event .fml610 key)
        (fun _ σ' => Known key E σ' ∧ σ'.last = some (.read .cops, r) ∧
          σ'.store "nettype" = none) (σ.exchange (Event .fml610 key) (.read .cops) r) := by
      unfold onlyIf
      split
      · exact ⟨hσ'.edit (hkey.ne_common (by decide)) _, rfl, hstore⟩
      · exact ⟨hσ', rfl, hstore⟩
    rw [Script.after_bind]
    refine hname.mono fun _ σ₁ hσ₁ => ?_
    obtain ⟨hσ₁, hlast, hstore₁⟩ := hσ₁
    cases htype : Fml610.copsNettype type with
    | none => exact ⟨hσ₁, r, hlast, by rw [hnettype, htype]; exact hstore₁⟩
    | some nettype =>
      refine ⟨hσ₁.edit (hkey.ne_common (by decide)) _, r, hlast, ?_⟩
      change Function.update σ₁.store "nettype" (some (String.ofList nettype.toList)) "nettype" = _
      rw [Function.update_self, String.ofList_toList, hnettype, htype]

/-- Recording an old signal edits no uncleared attribute. -/
theorem edits_setOldCsq (hkey : Uncleared .fml610 key) (lim off v : ℤ) :
    Edits .fml610 key E False (Fml610.setOldCsq lim off v) := by
  unfold Fml610.setOldCsq
  split
  · refine (edits_put_of_ne (hkey.ne_common (by decide)) _).before fun _ => ?_
    exact (edits_onlyIf_of_not (edits_put_of_ne (hkey.ne_common (by decide)) _)).before
      fun _ => edits_pure _
  · exact edits_pure _

/-- Recording the signal of 4G edits `rsrq` when it is in range. -/
theorem edits_setLte (hkey : Uncleared .fml610 key) (c : Cesq) :
    Edits .fml610 key E (key = "rsrq" ∧ 0 < c.rsrq ∧ c.rsrq ≤ 34) (Fml610.setLte c) := by
  unfold Fml610.setLte
  refine (edits_onlyIf_of_not (edits_put_of_ne (hkey.ne (by decide)) _)).before fun _ => ?_
  refine Edits.followed ((edits_onlyIf (edits_put "rsrq" _)).congr ?_) fun _ => ?_
  · rw [decide_eq_true_iff, and_comm, eq_comm]
  · exact (edits_onlyIf_of_not (edits_put_of_ne (hkey.ne_common (by decide)) _)).before
      fun _ => edits_pure _

/-- The answer for the signal states `rsrq` on a network of 4G, in range. -/
theorem event_cesq_iff {last : Option (Command × Reply)} {cops : Reply}
    (hlast : last = some (.read .cops, cops)) (r : Reply) :
    Event .fml610 key last (.exec .cesq) r ↔ key = "rsrq" ∧ r.ret = .succeed ∧
      (∃ q, cesqOf r.ack = some q ∧ 0 < q.rsrq ∧ q.rsrq ≤ 34) ∧
        Fml610.isGsm (copsNettypeOf cops) = false ∧
          Fml610.isUmts (copsNettypeOf cops) = false := by
  rw [event_iff_states rfl, hlast]
  simp [States]

/-- Behind the question for the signal `rsrq` is edited when it was stated. -/
theorem after_cesq (hkey : Uncleared .fml610 key) (hE : "nettype" ∈ E)
    {σ : Script.Path Command Reply String String} (hσ : Named key E σ) :
    Fml610.cesq.After (Event .fml610 key) (fun _ σ => Known key E σ) σ := by
  obtain ⟨hknown, cops, hlast, hstore⟩ := hσ
  rw [Fml610.cesq, tx_bind]
  intro r
  have hevent : Event .fml610 key σ.last (.exec .cesq) r ↔ _ := event_cesq_iff hlast r
  dsimp only
  split
  · next hret => exact hknown.exchange (by rw [hevent]; simp [hret])
  next hret =>
  split
  · next hnone => exact hknown.exchange (by rw [hevent]; simp [hnone])
  next c hc =>
  refine ⟨hknown.1 _ hE, ?_⟩
  change Script.After _ (if Fml610.isGsm (σ.store "nettype") then Fml610.setOldCsq 63 111 c.rxlev
    else if Fml610.isUmts (σ.store "nettype") then Fml610.setOldCsq 96 121 c.rscp
    else Fml610.setLte c) _ _
  rw [hstore]
  split
  · next hgsm =>
    refine Edits.after_exchange ((edits_setOldCsq hkey _ _ _).congr ?_) hknown
    simp [hevent, hgsm]
  split
  · next humts =>
    refine Edits.after_exchange ((edits_setOldCsq hkey _ _ _).congr ?_) hknown
    simp [hevent, humts]
  · next hgsm humts =>
    refine Edits.after_exchange ((edits_setLte hkey c).congr ?_) hknown
    simp [hevent, hgsm, humts, not_not.mp hret, hc]

/-- The operator and the signal are asked for one behind the other. -/
theorem finishes_network (hkey : Uncleared .fml610 key) {k : Op Boole}
    (hk : Finishes .fml610 key ("nettype" :: "rsrp" :: "csq" :: E) k) :
    Finishes .fml610 key E (do
      deleteAll ["csq", "rsrp", "nettype"]
      check Fml610.cops fun _ =>
      check Fml610.cesq fun _ =>
      k) := by
  intro σ hσ
  have hdeleted := ((hσ.edit_cons (hkey.ne_common (by decide : "csq" ∈ _)) none).edit_cons
    (hkey.ne (by decide : "rsrp" ∈ _)) none).edit_cons
      (hkey.ne_common (by decide : "nettype" ∈ _)) none
  refine after_check (fun _ h => h.1) (after_cops hkey hdeleted rfl) fun _ σ₁ hσ₁ => ?_
  exact after_check (fun _ h => h) (after_cesq hkey (by simp) hσ₁) fun _ σ₂ hσ₂ => hk σ₂ hσ₂

/-- The watch of the FML610. -/
theorem finishes_fml610 (hkey : Uncleared .fml610 key) :
    Finishes .fml610 key [] (Fml610.atWatch cfg) := by
  refine finishes_deleteAll hkey (by decide) ?_
  refine finishes_checkSim hkey _ (keeps_usbtty _) ?_
  refine finishes_network hkey ?_
  refine finishes_checkReg hkey (by decide) ?_
  refine finishes_checkMissingCsq hkey _ (by decide) (by decide) ?_
  refine (edits_rsrpSignal hkey (by decide) (by decide)).keeps.finishes fun _ => ?_
  exact finishes_ttrue (by decide)

/-! ### The family -/

/-- The watch of every driver. -/
theorem finishes_atWatch (d : Driver) (hkey : Uncleared d key) :
    Finishes d key [] (d.atWatch cfg) := by
  cases d with
  | ec200x => exact finishes_ec200x cfg hkey
  | em350 => exact finishes_sysinfoex hkey _ _ (by decide)
  | fml610 => exact finishes_fml610 cfg hkey
  | inne7b01 => exact finishes_inne7b01 cfg hkey
  | mu609 => exact finishes_sysinfoex hkey _ _ (by decide)
  | ne16u => exact finishes_ne16u cfg hkey
  | zte7520 => exact finishes_zte7520 cfg hkey

end Watches

/-! ## Two runs -/

section Runs

variable {M : Type} (modem : M → Command → Reply × M) (m : M) (cfg : Option Talk) (d : Driver)
  (dev : Device)

/-- Nothing was edited and nothing exchanged. -/
def start (dev : Device) : Script.Path Command Reply String String :=
  ⟨fun _ => False, dev, False, none⟩

/-- Nothing is edited at the start. -/
theorem known_start (key : String) (dev : Device) : Known key [] (start dev) :=
  ⟨fun _ hk => absurd hk List.not_mem_nil, Iff.rfl⟩

/-- A watch edits an attribute that is not cleared exactly when an answer states it. -/
theorem edited_iff_stated {key : String} (hkey : Uncleared d key) :
    key ∈ (Script.run modem (d.atWatch cfg) m dev).edits.map Prod.fst ↔
      Stated d key (Script.run modem (d.atWatch cfg) m dev).trace := by
  obtain ⟨σ, hended, hedited, hmet⟩ :=
    (finishes_atWatch cfg d hkey (start dev) (known_start key dev)).run modem m
  exact ((hedited key).trans (or_iff_left id)).symm.trans
    (hended.1.trans (hmet.trans (or_iff_right id)))

/-- No driver clears `pcid`. -/
theorem uncleared_pcid : Uncleared d "pcid" := by
  cases d <;> exact ⟨by decide, by decide⟩

/-- A watch that ends well has edited the attributes of `cleared`. -/
theorem edited_of_cleared {key : String} (hkey : key ∈ cleared d)
    (hvalue : (Script.run modem (d.atWatch cfg) m dev).value = .ttrue) :
    key ∈ (Script.run modem (d.atWatch cfg) m dev).edits.map Prod.fst := by
  obtain ⟨σ, hended, hedited, -⟩ :=
    (finishes_atWatch cfg d (uncleared_pcid d) (start dev) (known_start _ dev)).run modem m
  exact ((hedited key).mp (hended.2 hvalue key hkey)).resolve_right id

/-- Two watches leave the same under a key when they edited it or found the same. -/
theorem store_eq_iff (dev' : Device) (key : String) :
    (Script.run modem (d.atWatch cfg) m dev).store key =
        (Script.run modem (d.atWatch cfg) m dev').store key ↔
      key ∈ (Script.run modem (d.atWatch cfg) m dev).edits.map Prod.fst ∨
        dev key = dev' key :=
  ((finishes_atWatch cfg d (uncleared_pcid d) (start dev) (known_start _ dev)).agree modem m
    fun _ h => h.elim).2.2 key

/-- Against the same modem, watches of two records that end well leave the same attributes
exactly when the records agree on the attributes that are neither cleared nor stated by the
answers. -/
theorem fresh_iff (dev' : Device)
    (hvalue : (Script.run modem (d.atWatch cfg) m dev).value = .ttrue) :
    (∀ key ∈ attributes, (Script.run modem (d.atWatch cfg) m dev).store key =
        (Script.run modem (d.atWatch cfg) m dev').store key) ↔
      ∀ key, Uncleared d key → dev key = dev' key ∨
        Stated d key (Script.run modem (d.atWatch cfg) m dev).trace := by
  constructor
  · intro h key hkey
    have heq := (store_eq_iff modem m cfg d dev dev' key).mp (h key hkey.1)
    rw [edited_iff_stated modem m cfg d dev hkey] at heq
    exact heq.symm
  · intro h key hkey
    rw [store_eq_iff]
    by_cases hcleared : key ∈ cleared d
    · exact Or.inl (edited_of_cleared modem m cfg d dev hcleared hvalue)
    · rw [edited_iff_stated modem m cfg d dev ⟨hkey, hcleared⟩]
      exact (h key ⟨hkey, hcleared⟩).symm

end Runs

/-! ### A cell of the third generation -/

/-- A modem in a WCDMA network with a signal of 20. -/
def wcdmaModem (_ : Unit) (c : Command) : Reply × Unit :=
  match c with
  | .set .qeng _ =>
    (⟨.succeed, ("+QENG: \"servingcell\",\"LIMSRV\",\"WCDMA\",460,01,A538,1EB578B,10763,60,2," ++
      "-106,-13,-,-,-,-,-").toList, [], 0⟩, ())
  | _ => (⟨.succeed, [], [], 20⟩, ())

/-- The number of a cell of 4G on a network of WCDMA. -/
theorem fresh_at_wcdma :
    (∀ key ∈ attributes, (Script.run wcdmaModem (Driver.ne16u.atWatch none) ()
        fun _ => none).store key = (Script.run wcdmaModem (Driver.ne16u.atWatch none) ()
          (Function.update (fun _ => none) "pcid" (some "462"))).store key) ↔
      ∀ key, Uncleared .ne16u key →
        (none : Option String) = Function.update (fun _ => none) "pcid" (some "462") key ∨
          Stated .ne16u key (Script.run wcdmaModem (Driver.ne16u.atWatch none) ()
            fun _ => none).trace :=
  fresh_iff wcdmaModem () none .ne16u (fun _ => none) _ (by decide)

/-- The number of an LTE cell outlives the change to a WCDMA network. -/
theorem stale_pcid :
    ∃ dev dev' : Device, (∀ key ∉ attributes, dev key = dev' key) ∧
      (Script.run wcdmaModem (Driver.ne16u.atWatch none) () dev).value = .ttrue ∧
      (Script.run wcdmaModem (Driver.ne16u.atWatch none) () dev').value = .ttrue ∧
      ¬ ∀ key ∈ attributes, (Script.run wcdmaModem (Driver.ne16u.atWatch none) () dev).store key =
        (Script.run wcdmaModem (Driver.ne16u.atWatch none) () dev').store key := by
  refine ⟨fun _ => none, Function.update (fun _ => none) "pcid" (some "462"), ?_, by decide,
    by decide, fun h => ?_⟩
  · intro key hkey
    rw [Function.update_of_ne]
    rintro rfl
    exact hkey (by decide)
  · have hpcid := h "pcid" (by decide)
    revert hpcid
    decide

end Tiger.Analysis.WatchFreshness
