import Tiger.Library.Script.Discipline
import Tiger.Model.Modemdrv

/-!
# Stopping at a termination and at a port error

A terminated command (`ATCMD_ret_term`) and a port error have to end an operation, with
`tfalse` and with `terror`. The steps `check`, `require` and `relay` see to that, so an
operation that is put together from them keeps the rule (`obeys_check`,
`obeys_require`, `obeys_relay`).

`Lax` lists the exchanges at which a driver has no such step. After each of them the
operation sends another command or ends with another value, so `discipline_iff` holds in
both directions: an operation keeps the rule exactly when it meets none of them.
-/

set_option autoImplicit false

namespace Tiger.Analysis.ScriptDiscipline

open Tiger.Library Tiger.Model

/-- The exchange has to end the operation. `atcmd_rx` returns a length, never a
termination. -/
def Stops (c : Command) (r : Reply) : Prop :=
  r.ret = .error ∨ r.ret = .term ∧ c ≠ .rx

/-- What the operation then has to return. -/
def verdict (r : Reply) : Boole := if r.ret = .error then .terror else .tfalse

/-- The exchanges a driver does not look at closely: terminations, and lengths below zero
of `atcmd_rx`. -/
def Lax (d : Driver) (c : Command) (r : Reply) : Prop :=
  match d with
  | .ec200x =>
    c = .set .qcfg [.quoted "nat"] ∧ r.ret = .term ∨ c = .rx ∧ r.ret = .error
  | .em350 =>
    (∃ args, c = .set .authdata args) ∧ r.ret = .term ∨
      c = .read .ndisstatqry ∧ r.ret = .term
  | .fml610 => c = .read .gtusbmode ∧ r.ret = .term
  | .inne7b01 => False
  | .mu609 => c = .read .ndisstatqry ∧ r.ret = .term
  | .ne16u =>
    (∃ item, c = .set .qcfg [.quoted item]) ∧ r.ret = .term ∨
      (∃ cid, c = .set .qnetdevctl [.raw cid, .raw "1", .raw "1"]) ∧ r.ret = .term
  | .zte7520 =>
    (c = .set .zncard [.raw "1"] ∨ c = .set .zlanenable [.raw "0"]) ∧ r.ret = .term ∨
      c = .rx ∧ r.ret = .error

/-- The rule for an operation. -/
def opRule (d : Driver) : Script.Discipline Command Reply Boole where
  stop := Stops
  exempt := Lax d
  good := fun r b => b = verdict r
  bad := fun r b => b ≠ verdict r

/-- The rule for a step, whose value is handed on; `bad` are the values it may have after a
lax exchange. -/
def retRule (d : Driver) (bad : Ret → Prop) : Script.Discipline Command Reply Ret where
  stop := Stops
  exempt := Lax d
  good := fun r i => i = r.ret
  bad := fun _ i => bad i

/-- The rule for a step without lax exchanges. -/
abbrev stepRule (d : Driver) : Script.Discipline Command Reply Ret := retRule d fun _ => False

/-- A lax exchange has to end the operation. -/
theorem stops_of_lax {d : Driver} {c : Command} {r : Reply} (h : Lax d c r) : Stops c r := by
  unfold Lax at h
  unfold Stops
  cases d with
  | ec200x =>
    rcases h with ⟨rfl, hr⟩ | ⟨rfl, hr⟩
    · exact Or.inr ⟨hr, by decide⟩
    · exact Or.inl hr
  | em350 =>
    rcases h with ⟨⟨args, rfl⟩, hr⟩ | ⟨rfl, hr⟩
    · exact Or.inr ⟨hr, by simp⟩
    · exact Or.inr ⟨hr, by decide⟩
  | fml610 => exact Or.inr ⟨h.2, by rw [h.1]; decide⟩
  | inne7b01 => exact h.elim
  | mu609 => exact Or.inr ⟨h.2, by rw [h.1]; decide⟩
  | ne16u =>
    rcases h with ⟨⟨item, rfl⟩, hr⟩ | ⟨⟨cid, rfl⟩, hr⟩
    · exact Or.inr ⟨hr, by simp⟩
    · exact Or.inr ⟨hr, by simp⟩
  | zte7520 =>
    rcases h with ⟨rfl | rfl, hr⟩ | ⟨rfl, hr⟩
    · exact Or.inr ⟨hr, by decide⟩
    · exact Or.inr ⟨hr, by decide⟩
    · exact Or.inl hr

/-- No driver is lax about the library's own commands. -/
theorem not_lax_usbtty (d : Driver) (op : Usbtty) (r : Reply) : ¬ Lax d (.usbtty op) r := by
  cases d <;> simp [Lax]

/-- No driver is lax about the PIN. -/
theorem not_lax_cpin (d : Driver) (pin : Option String) (r : Reply) : ¬ Lax d (.cpin pin) r := by
  cases d <;> simp [Lax]

/-- No driver is lax about the definition of a context. -/
theorem not_lax_cgdcont (d : Driver) (cid : String) (iptype apn : Option String) (r : Reply) :
    ¬ Lax d (.cgdcont cid iptype apn) r := by
  cases d <;> simp [Lax]

/-! ## Steps -/

section Steps

variable {d : Driver} {bad : Ret → Prop}

/-- A command that is not lax, and whose value is handed on where it stops. -/
theorem obeys_call {c : Command} {f : Reply → Op Ret} (hc : ∀ r, ¬ Lax d c r)
    (hstop : ∀ r, Stops c r → (f r).Quiet (· = r.ret))
    (hf : ∀ r, ¬ Stops c r → (f r).Obeys (retRule d bad)) :
    (Script.call c f : Op Ret).Obeys (retRule d bad) :=
  Script.Obeys.call (fun r h => (hc r h).elim) (fun r _ => hstop r) fun r _ => hf r

/-- A call of the library hands its value on. -/
theorem obeys_libraryCall {c : Command} (hc : ∀ r, ¬ Lax d c r) :
    (libraryCall c >>= fun r => pure r.ret).Obeys (retRule d bad) := by
  rw [libraryCall_bind]
  refine obeys_call hc (fun r _ => ?_) fun r _ => ?_
  · exact Script.quiet_puts r.edits rfl
  · exact Script.Quiet.obeys (Script.quiet_puts (Q := fun _ => True) r.edits trivial)

/-- An operation of the library keeps the rule. -/
theorem obeys_usbtty (op : Usbtty) : (usbtty op).Obeys (retRule d bad) :=
  obeys_libraryCall (not_lax_usbtty d op)

/-- Giving out the PIN keeps the rule. -/
theorem obeys_usbttyCpin (pin : Option String) : (usbttyCpin pin).Obeys (retRule d bad) :=
  obeys_libraryCall (not_lax_cpin d pin)

/-- Defining a context keeps the rule. -/
theorem obeys_usbttyCgdcont (cid : String) (iptype apn : Option String) :
    (usbttyCgdcont cid iptype apn).Obeys (retRule d bad) :=
  obeys_libraryCall (not_lax_cgdcont d cid iptype apn)

/-- A command hands its value on. -/
theorem obeys_txRet {c : Command} (hc : ∀ r, ¬ Lax d c r) :
    (txRet c).Obeys (retRule d bad) :=
  obeys_call hc (fun _ _ => rfl) fun _ _ => trivial

/-- A question whose value is handed on unless it is `succeed`. -/
theorem obeys_ask {c : Command} {f : Reply → Op Ret} (hc : ∀ r, ¬ Lax d c r)
    (hf : ∀ r, (f r).Obeys (retRule d bad)) :
    (tx c >>= fun r => if r.ret ≠ .succeed then pure r.ret else f r).Obeys
      (retRule d bad) := by
  rw [tx_bind]
  refine obeys_call hc (fun r h => ?_) fun r _ => ?_
  · have hr : r.ret ≠ .succeed := by
      rcases h with h | ⟨h, -⟩ <;> rw [h] <;> decide
    rw [if_pos hr]
    rfl
  · split
    · trivial
    · exact hf r

/-- Behind a reply that stops it, a checked step ends with the verdict. -/
theorem quiet_check {c : Command} {r : Reply} (h : Stops c r) (k : Ret → Op Boole) :
    (check (pure r.ret) k).Quiet (· = verdict r) := by
  unfold check verdict
  rcases h with h | ⟨h, -⟩ <;> simp [h]

/-- Behind a reply that stops it, a relayed step ends with its value. -/
theorem quiet_relay {c : Command} {r : Reply} (h : Stops c r) (k : Ret → Op Ret) :
    (relay (pure r.ret) k).Quiet (· = r.ret) := by
  have hstop : r.ret = .error ∨ r.ret = .term := h.imp_right And.left
  show Script.Quiet _ (if _ then _ else _)
  rw [if_pos hstop]
  rfl

/-- `check` keeps the rule. After a lax exchange inside the step, what follows has to stray. -/
theorem obeys_check' {p : Op Ret} {k : Ret → Op Boole} (hp : p.Obeys (retRule d bad))
    (hbad : ∀ i, bad i → i ≠ .error ∧ i ≠ .term)
    (hstray : ∀ i, bad i → ∀ Q, (k i).Strays Q) (hk : ∀ i, (k i).Obeys (opRule d)) :
    (check p k).Obeys (opRule d) := by
  refine Script.Obeys.bind (d := retRule d bad) hp rfl rfl (fun c r i h hi => ?_)
    (fun c r i _ hi => ?_) fun i => ?_
  · rw [show i = r.ret from hi]
    exact quiet_check h k
  · rw [if_neg (hbad i hi).1, if_neg (hbad i hi).2]
    exact hstray i hi _
  · split
    · trivial
    · split
      · trivial
      · exact hk i

/-- A checked step keeps the rule. -/
theorem obeys_check {p : Op Ret} {k : Ret → Op Boole} (hp : p.Obeys (stepRule d))
    (hk : ∀ i, (k i).Obeys (opRule d)) : (check p k).Obeys (opRule d) :=
  obeys_check' hp (fun _ h => h.elim) (fun _ h => h.elim) hk

/-- A required step keeps the rule. -/
theorem obeys_require {p : Op Ret} {k : Op Boole} (hp : p.Obeys (stepRule d))
    (hk : k.Obeys (opRule d)) : (require p k).Obeys (opRule d) := by
  refine Script.Obeys.bind (d := stepRule d) hp rfl rfl (fun c r i h hi => ?_)
    (fun c r i _ hi => hi.elim) fun i => ?_
  · rw [show i = r.ret from hi]
    show Script.Quiet (· = verdict r) _
    unfold verdict
    rcases h with h | ⟨h, -⟩ <;> simp [h]
  · split
    · trivial
    · split
      · trivial
      · exact hk

/-- A relayed step keeps the rule. -/
theorem obeys_relay {p : Op Ret} {k : Ret → Op Ret} (hp : p.Obeys (stepRule d))
    (hk : ∀ i, (k i).Obeys (retRule d bad)) : (relay p k).Obeys (retRule d bad) := by
  refine Script.Obeys.bind (d := stepRule d) hp rfl rfl (fun c r i h hi => ?_)
    (fun c r i _ hi => hi.elim) fun i => ?_
  · have hstop : i = .error ∨ i = .term := by
      rw [show i = r.ret from hi]
      exact h.imp_right And.left
    rw [if_pos hstop]
    exact hi
  · split
    · trivial
    · exact hk i

/-- A question whose value is checked before its answer is read. -/
theorem obeys_askCheck {c : Command} {k : Reply → Ret → Op Boole} (hc : ∀ r, ¬ Lax d c r)
    (hk : ∀ r i, (k r i).Obeys (opRule d)) :
    (tx c >>= fun r => check (pure r.ret) (k r)).Obeys (opRule d) := by
  rw [tx_bind]
  exact Script.Obeys.call (fun r h => (hc r h).elim) (fun r _ h => quiet_check h _)
    fun r _ _ => obeys_check (p := pure r.ret) trivial (hk r)

/-- A loop keeps the rule when its turns and what follows them do. -/
theorem obeys_rounds {body : ℕ → Op Boole → Op Boole → Op Boole} {after : Op Boole}
    {Q : Boole → Prop} (hafter : after.Obeys (opRule d)) (hstray : after.Strays Q)
    (hbody : ∀ t next, next.Obeys (opRule d) → next.Strays Q →
      (body t next after).Obeys (opRule d))
    (hcalls : ∀ t next, (body t next after).Strays Q) (left t : ℕ) :
    (rounds body after left t).Obeys (opRule d) := by
  induction left generalizing t with
  | zero => exact hafter
  | succ left ih =>
    refine hbody t _ (ih (t + 1)) ?_
    cases left with
    | zero => exact hstray
    | succ left => exact hcalls (t + 1) _

/-- A round that looks for a mode of the modem keeps the rule, also where the driver takes a
termination for a message of the modem. -/
theorem obeys_modeRound {query write : Command} {needle : String} {sep : Char} {wanted : ℤ}
    {written : Ret → Op Boole} {t : ℕ} {next leave : Op Boole}
    (hlax : ∀ r, Lax d query r ↔ r.ret = .term) (hwrite : ∀ r, ¬ Lax d write r)
    (hwritten : ∀ i, (written i).Obeys (opRule d)) (hnext : next.Obeys (opRule d))
    (hleave : leave.Obeys (opRule d))
    (hnext' : next.Strays (· ≠ .tfalse)) (hleave' : leave.Strays (· ≠ .tfalse)) :
    (modeRound query write needle sep wanted written t next leave).Obeys (opRule d) := by
  rw [modeRound, tx_bind]
  refine Script.Obeys.call (fun r h => ?_) (fun r h hs => ?_) fun r h hs => ?_
  · have hr := (hlax r).mp h
    rw [if_neg (by rw [hr]; decide), if_pos (by rw [hr]; decide)]
    show Script.Strays (· ≠ verdict r) _
    rw [verdict, if_neg (by rw [hr]; decide)]
    split
    · exact hleave'
    · exact hnext'
  · -- not a termination, so a port error
    have hr : r.ret = .error := hs.resolve_right fun hterm => h ((hlax r).mpr hterm.1)
    rw [if_pos hr]
    show Boole.terror = verdict r
    rw [verdict, if_pos hr]
  · split
    · trivial
    · split
      · split
        · exact hleave
        · exact hnext
      · split
        · exact hnext
        · split
          · exact obeys_check (obeys_txRet hwrite) hwritten
          · exact hleave

/-- A round of a mode begins with a command. -/
theorem strays_modeRound {query write : Command} {needle : String} {sep : Char} {wanted : ℤ}
    {written : Ret → Op Boole} {t : ℕ} {next leave : Op Boole} {Q : Boole → Prop} :
    (modeRound query write needle sep wanted written t next leave).Strays Q := trivial

/-- A round of `AT+QCFG` begins with a command. -/
theorem strays_qcfgRound {item wanted : String} {done next leave : Op Boole} {t : ℕ}
    {Q : Boole → Prop} : (qcfgRound item wanted done t next leave).Strays Q := trivial

end Steps

/-! ## Shared parts -/

section Shared

variable {d : Driver} {bad : Ret → Prop}

/-- Defining the additional contexts keeps the rule. -/
theorem obeys_setCids (profile : Option Talk) (cids : List (String × Talk)) (ret : Ret) :
    (setCids profile cids ret).Obeys (retRule d bad) := by
  induction cids generalizing ret with
  | nil => trivial
  | cons e cids ih => exact obeys_relay (obeys_usbttyCgdcont _ _ _) fun i => ih _

/-- Defining the contexts of a profile keeps the rule. -/
theorem obeys_setContexts (profile : Option Talk) (iptype : Option String) (ret : Ret) :
    (setContexts profile iptype ret).Obeys (retRule d bad) := by
  unfold setContexts
  dsimp only
  split
  · exact obeys_relay (obeys_usbttyCgdcont _ _ _) fun i => obeys_setCids _ _ _
  · exact obeys_setCids _ _ _

/-- Without a context to define the value stays what it was. -/
theorem strays_setCids (profile : Option Talk) (cids : List (String × Talk)) (ret : Ret) :
    (setCids profile cids ret).Strays (· = ret) := by
  cases cids with
  | nil => exact (rfl : ret = ret)
  | cons e cids => exact Script.strays_call _ _ _

/-- Where no context is defined, the value is the one before. -/
theorem strays_setContexts (profile : Option Talk) (iptype : Option String) (ret : Ret) :
    (setContexts profile iptype ret).Strays (· = ret) := by
  unfold setContexts
  dsimp only
  split
  · exact Script.strays_call _ _ _
  · exact strays_setCids _ _ _

/-- The older authentication keeps the rule. -/
theorem obeys_qicsgp (cid iptype : String) (apn : Option String) (login : Login) :
    (qicsgp cid iptype apn login).Obeys (stepRule d) := by
  refine obeys_ask (fun r => by cases d <;> simp [Lax]) fun r => ?_
  split
  · trivial
  · exact obeys_relay (obeys_txRet fun r => by cases d <;> simp [Lax]) fun _ =>
      obeys_txRet fun r => by cases d <;> simp [Lax]

/-- A lock that is set without a look keeps the rule. -/
theorem obeys_blindLock (unescape : Unescape) (value : Option String)
    {command : String → Command} (hc : ∀ text r, ¬ Lax d (command text) r) :
    (blindLock unescape value command).Obeys (stepRule d) := by
  unfold blindLock
  split
  · trivial
  · split
    · trivial
    · split
      · trivial
      · exact obeys_txRet (hc _)

/-- The step for a profile keeps the rule, also behind a lax exchange. -/
theorem obeys_checkProfile' {setProfileset : Option Talk → Op Ret} {profile : Option Talk}
    {ret : Boole} {k : Boole → Op Boole}
    (hset : ∀ profile, (setProfileset profile).Obeys (retRule d bad))
    (hbad : ∀ i, bad i → i ≠ .error ∧ i ≠ .term)
    (hstray : ∀ ret Q, (k ret).Strays Q) (hk : ∀ ret, (k ret).Obeys (opRule d)) :
    (checkProfile setProfileset profile ret k).Obeys (opRule d) := by
  unfold checkProfile
  split
  · exact hk _
  · exact obeys_check' (hset _) hbad (fun i _ Q => hstray _ Q) fun i => hk _

/-- The step for a profile keeps the rule. -/
theorem obeys_checkProfile {setProfileset : Option Talk → Op Ret} {profile : Option Talk}
    {ret : Boole} {k : Boole → Op Boole}
    (hset : ∀ profile, (setProfileset profile).Obeys (stepRule d))
    (hk : ∀ ret, (k ret).Obeys (opRule d)) :
    (checkProfile setProfileset profile ret k).Obeys (opRule d) := by
  unfold checkProfile
  split
  · exact hk _
  · exact obeys_check (hset _) fun i => hk _

/-- The mode commands keep the rule. -/
theorem obeys_checkModes (modes : List Usbtty) (ret : Boole) :
    (checkModes modes ret).Obeys (opRule d) := by
  induction modes with
  | nil => trivial
  | cons mode modes ih => exact obeys_check (obeys_usbtty mode) fun _ => ih

/-- The step for the card keeps the rule. -/
theorem obeys_checkSim {ccid : Op Ret} {lockPin : Option String} {k : Op Boole}
    (hccid : ccid.Obeys (stepRule d)) (hk : k.Obeys (opRule d)) :
    (checkSim ccid lockPin k).Obeys (opRule d) := by
  refine Script.Obeys.bind (d := stepRule d) (obeys_usbttyCpin lockPin) rfl rfl
    (fun c r i h hi => ?_) (fun c r i _ hi => hi.elim) fun i => ?_
  · rw [show i = r.ret from hi]
    show Script.Quiet (· = verdict r) _
    unfold verdict
    rcases h with h | ⟨h, -⟩ <;> simp [h]
  · split
    · trivial
    split
    · trivial
    split
    · exact hk
    split
    · exact hk
    split
    · exact obeys_check (obeys_usbtty .cimi) fun _ => obeys_check hccid fun _ => hk
    · exact hk

/-- The step for the operator keeps the rule. -/
theorem obeys_checkCops {k : Op Boole} (hk : k.Obeys (opRule d)) :
    (checkCops k).Obeys (opRule d) :=
  obeys_check (obeys_usbtty .copsformat) fun _ => obeys_check (obeys_usbtty .cops) fun _ => hk

/-- Recording a text sends nothing. -/
theorem quiet_setGiven (key : String) (o : Option (List Char)) :
    (setGiven key o).Quiet fun _ => True := by
  cases o <;> exact trivial

/-- What is done on a condition is as quiet as it is. -/
theorem quiet_onlyIf (b : Bool) {p : Op Unit} (hp : p.Quiet fun _ => True) :
    (onlyIf b p).Quiet fun _ => True := by
  cases b with
  | true => exact hp
  | false => exact trivial

/-- Recording the registration sends nothing. -/
theorem quiet_setPlmn (i : Ret) : (setPlmn i).Quiet fun _ => True :=
  Script.Quiet.read fun _ => quiet_onlyIf _ (quiet_setGiven _ _)

/-- The step for the registration keeps the rule. -/
theorem obeys_checkReg {k : Op Boole} (hk : k.Obeys (opRule d)) :
    (checkReg k).Obeys (opRule d) :=
  obeys_check (obeys_usbtty .creg) fun _ => obeys_check (obeys_usbtty .cereg) fun _ =>
    obeys_check (obeys_usbtty .cgreg) fun i => (quiet_setPlmn i).obeys_bind fun _ => hk

/-- The step for the signal keeps the rule. -/
theorem obeys_checkCsq {k : ℤ → Op Boole} (hk : ∀ csq, (k csq).Obeys (opRule d)) :
    (checkCsq k).Obeys (opRule d) := by
  rw [checkCsq, libraryCall_bind]
  refine Script.Obeys.call (fun r h => (not_lax_usbtty d .csq r h).elim) (fun r _ h => ?_)
    fun r _ _ => ?_
  · exact Script.quiet_puts r.edits (quiet_check h _)
  · exact (Script.quiet_puts' r.edits).obeys_bind fun _ =>
      obeys_check (p := pure r.ret) trivial fun _ => hk _

/-- Recording the signal sends nothing. -/
theorem quiet_setCsq (csq : ℤ) : (setCsq csq).Quiet fun _ => True := by
  unfold setCsq
  split <;> trivial

/-- Recording a missing signal sends nothing. -/
theorem quiet_setMissingCsq (csq : ℤ) (rssi : Option ℤ) :
    (setMissingCsq csq rssi).Quiet fun _ => True := by
  unfold setMissingCsq
  split
  · trivial
  · rw [number_bind]
    exact Script.Quiet.read fun x =>
      (quiet_onlyIf _ (Script.quiet_put _ _)).bind fun _ _ => Script.quiet_put _ _

/-- Recording the level sends nothing. -/
theorem quiet_setSignal (signal : ℤ) : (setSignal signal).Quiet fun _ => True :=
  quiet_onlyIf _ (Script.quiet_put _ _)

/-- The level by the strength sends nothing. -/
theorem quiet_rssiSignal : rssiSignal.Quiet fun _ => True := fun _ => quiet_setSignal _

/-- The level by the received power sends nothing. -/
theorem quiet_rsrpSignal : rsrpSignal.Quiet fun _ => True := by
  rw [rsrpSignal, number_bind]
  refine Script.Quiet.read fun x => ?_
  split
  · exact quiet_setSignal _
  · exact quiet_rssiSignal

/-- The end of `_at_watch` in most drivers. -/
theorem obeys_csqEnd : (checkCsq fun csq => setCsq csq >>= fun _ => rssiSignal >>= fun _ =>
    pure .ttrue).Obeys (opRule d) :=
  obeys_checkCsq fun csq => (quiet_setCsq csq).obeys_bind fun _ =>
    quiet_rssiSignal.obeys_bind fun _ => Script.obeys_done _ _

/-- The step for a missing signal keeps the rule. -/
theorem obeys_checkMissingCsq {rssiOf : ℤ → Option ℤ} {k : Op Boole}
    (hk : k.Obeys (opRule d)) : (checkMissingCsq rssiOf k).Obeys (opRule d) := by
  rw [checkMissingCsq, number_bind]
  refine Script.Obeys.read fun x => ?_
  split
  · exact obeys_checkCsq fun csq => (quiet_setMissingCsq csq _).obeys_bind fun _ => hk
  · exact hk

/-- Deleting attributes sends nothing. -/
theorem quiet_deleteAll (keys : List String) : (deleteAll keys).Quiet fun _ => True :=
  Script.quiet_puts' _

/-- Recording the cell of the ZTE modems sends nothing. -/
theorem quiet_setZemsciq (cell : Zemsciq) : (setZemsciq cell).Quiet fun _ => True := by
  refine (Script.quiet_put _ _).bind fun _ _ => (Script.quiet_put _ _).bind fun _ _ => ?_
  rw [number_bind]
  refine Script.Quiet.read fun x => quiet_onlyIf _ ?_
  split <;> trivial

/-- The step for the cell of the ZTE modems keeps the rule. -/
theorem obeys_checkZemsciq {k : Op Boole} (hk : k.Obeys (opRule d)) :
    (checkZemsciq k).Obeys (opRule d) := by
  refine obeys_askCheck (fun r => by cases d <;> simp [Lax]) fun r i => ?_
  split
  · exact (quiet_setZemsciq _).obeys_bind fun _ => hk
  · exact hk

/-- The question for the network keeps the rule. -/
theorem obeys_sysinfo : sysinfo.Obeys (stepRule d) :=
  obeys_ask (fun r => by cases d <;> simp [Lax]) fun _ =>
    (quiet_setGiven _ _).obeys_bind fun _ => Script.obeys_done _ _

/-- The newer question for the network keeps the rule. -/
theorem obeys_sysinfoex (typeOf : List Char → ℤ) : (sysinfoex typeOf).Obeys (stepRule d) :=
  obeys_ask (fun r => by cases d <;> simp [Lax]) fun _ =>
    (quiet_setGiven _ _).obeys_bind fun _ => Script.obeys_done _ _

/-- The question for the card keeps the rule. -/
theorem obeys_iccid (tries : ℕ) (ret : Ret) : (iccid tries ret).Obeys (stepRule d) := by
  induction tries generalizing ret with
  | zero => trivial
  | succ tries ih =>
    rw [iccid, tx_bind]
    refine obeys_call (fun r => by cases d <;> simp [Lax]) (fun r h => ?_) fun r _ => ?_
    · exact quiet_relay h _
    · refine obeys_relay (p := pure r.ret) trivial fun i => ?_
      split
      · split
        · trivial
        · exact ih _
      · exact ih _

/-- Recording the network sends nothing. -/
theorem quiet_setNetwork (bandKey nettypeKey : String) (sysmode line : List Char) :
    (setNetwork bandKey nettypeKey sysmode line).Quiet fun _ => True :=
  (quiet_setGiven _ _).bind fun _ _ => Script.quiet_put _ _

end Shared


end Tiger.Analysis.ScriptDiscipline
