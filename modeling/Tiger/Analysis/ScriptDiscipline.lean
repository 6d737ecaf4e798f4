import Tiger.Analysis.ScriptRules

/-!
# Stopping at a termination and at a port error

Every operation of every driver is put together from steps that keep the rule of
`ScriptRules`, so `discipline_iff` holds in both directions: an operation keeps the rule
exactly when it meets no lax exchange.
-/

set_option autoImplicit false

namespace Tiger.Analysis.ScriptDiscipline

open Tiger.Library Tiger.Model

/-! ## The drivers -/

/-- Switching off keeps the rule. -/
theorem obeys_atOff (d : Driver) : d.atOff.Obeys (opRule d) := by
  cases d <;> exact obeys_check (obeys_usbtty .cfun0) fun _ => trivial

/-- Shutting down keeps the rule. -/
theorem obeys_atShut (d : Driver) : d.atShut.Obeys (opRule d) := by
  cases d with
  | zte7520 => exact obeys_atOff .zte7520
  | _ => exact obeys_check (obeys_txRet fun r => by simp [Lax]) fun _ => trivial

/-! ### EC200X -/

section Ec200x

/-- A round of the NAT setting is lax about a termination and goes on. -/
theorem obeys_ec200x_natRound {t : ℕ} {next leave : Op Boole}
    (hnext : next.Obeys (opRule .ec200x)) (hleave : leave.Obeys (opRule .ec200x))
    (hnext' : next.Strays (· ≠ .tfalse)) (hleave' : leave.Strays (· ≠ .tfalse)) :
    (qcfgRound "nat" "1" leave t next leave).Obeys (opRule .ec200x) :=
  obeys_modeRound (fun r => by simp [Lax]) (fun r => by simp [Lax])
    (fun i => by split <;> exact hleave) hnext hleave hnext' hleave'

/-- The EC200 keeps the rule in its setup. -/
theorem obeys_ec200x_atSetup : Ec200x.atSetup.Obeys (opRule .ec200x) := by
  unfold Ec200x.atSetup
  refine obeys_require (obeys_usbtty .setup) (obeys_require (obeys_usbtty .cfun1) ?_)
  have hend : (check (usbtty .cgsn) fun _ => pure .ttrue).Obeys (opRule .ec200x) :=
    obeys_check (obeys_usbtty .cgsn) fun _ => trivial
  have hloop : ∀ left t, (rounds (fun t next leave => qcfgRound "nat" "1" leave t next leave)
      (check (usbtty .cgsn) fun _ => pure .ttrue) left t).Obeys (opRule .ec200x) :=
    obeys_rounds hend trivial
      (fun t next hnext hnext' => obeys_ec200x_natRound hnext hend hnext' trivial)
      fun t next => strays_modeRound
  exact hloop 10 0

/-- The EC200 keeps the rule in its network mode. -/
theorem obeys_ec200x_lockNettype (netmode : Option String) :
    (Ec200x.lockNettype netmode).Obeys (stepRule .ec200x) := by
  refine obeys_ask (fun r => by simp [Lax]) fun r => ?_
  split
  · trivial
  · split
    · exact obeys_txRet fun r => by simp [Lax]
    · trivial

/-- The EC200 keeps the rule in its profile. -/
theorem obeys_ec200x_setProfileset (profile : Option Talk) :
    (Ec200x.setProfileset profile).Obeys (stepRule .ec200x) :=
  obeys_relay (obeys_qicsgp _ _ _ _) fun _ => obeys_setContexts _ _ _

/-- The EC200 keeps the rule in its settings. -/
theorem obeys_ec200x_atSetting (unescape : Unescape) (cfg : Talk) :
    (Ec200x.atSetting unescape cfg).Obeys (opRule .ec200x) := by
  refine obeys_check (obeys_ec200x_lockNettype _) fun i => ?_
  refine obeys_check (obeys_blindLock _ _ fun text r => by simp [Lax]) fun _ => ?_
  refine obeys_check (obeys_blindLock _ _ fun text r => by simp [Lax]) fun _ => ?_
  exact obeys_checkProfile obeys_ec200x_setProfileset fun ret => obeys_checkModes _ _

/-- The EC200 keeps the rule when it asks for the network. -/
theorem obeys_ec200x_qnwinfo : Ec200x.qnwinfo.Obeys (stepRule .ec200x) := by
  refine obeys_ask (fun r => by simp [Lax]) fun r => ?_
  refine (Script.quiet_foldlM (fun ret line => ?_) Ret.failed (lines r.ack)).obeys
  unfold Ec200x.qnwinfoLine
  split
  · trivial
  · split
    · exact (quiet_setNetwork _ _ _ _).bind fun _ _ => trivial
    · trivial

/-- The EC200 keeps the rule when it watches. -/
theorem obeys_ec200x_atWatch (cfg : Option Talk) :
    (Ec200x.atWatch cfg).Obeys (opRule .ec200x) := by
  refine (quiet_deleteAll _).obeys_bind fun _ => obeys_checkSim (obeys_usbtty .ccid) ?_
  refine (quiet_deleteAll _).obeys_bind fun _ => obeys_check obeys_ec200x_qnwinfo fun _ => ?_
  refine obeys_checkCops (obeys_checkReg ?_)
  exact (quiet_deleteAll _).obeys_bind fun _ => obeys_csqEnd

/-- The EC200 is lax about what it receives and goes on. -/
theorem obeys_ec200x_rx {k : Reply → Op Boole}
    (hstray : ∀ r, r.ret = .error → (k r).Strays (· ≠ .terror))
    (hk : ∀ r, r.ret ≠ .error → (k r).Obeys (opRule .ec200x)) :
    (tx .rx >>= k).Obeys (opRule .ec200x) := by
  rw [tx_bind]
  refine Script.Obeys.call (fun r h => ?_) (fun r h hs => ?_) fun r h hs => ?_
  · have hr : r.ret = .error := by
      rcases h with ⟨h, -⟩ | ⟨-, h⟩
      · cases h
      · exact h
    show (k r).Strays (· ≠ verdict r)
    rw [verdict, if_pos hr]
    exact hstray r hr
  · refine absurd ?_ h
    rcases hs with hs | ⟨-, hs⟩
    · exact Or.inr ⟨rfl, hs⟩
    · exact absurd rfl hs
  · exact hk r fun hr => hs (Or.inl hr)

/-- The EC200 keeps the rule when it dials. -/
theorem obeys_ec200x_dial (cid : String) :
    (require (txRet (.set .qnetdevctl [.raw "1", .raw cid, .raw "1"]))
      (pure .ttrue)).Obeys (opRule .ec200x) :=
  obeys_require (obeys_txRet fun r => by simp [Lax]) trivial

/-- The EC200 keeps the rule while it waits to dial. -/
theorem obeys_ec200x_dialRounds {dial : Op Boole} (hdial : dial.Obeys (opRule .ec200x))
    (left t : ℕ) :
    (rounds (Ec200x.dialRound dial) (pure .tfalse) left t).Obeys (opRule .ec200x) := by
  have hfalse : (pure .tfalse : Op Boole).Strays (· ≠ .terror) := (nofun : ¬ Boole.tfalse = .terror)
  refine obeys_rounds (Script.obeys_done _ _) hfalse (fun t next hnext hnext' => ?_)
    (fun t next => Script.strays_call _ _ _) left t
  refine obeys_check (obeys_txRet fun r => by simp [Lax]) fun _ => ?_
  refine obeys_ec200x_rx (fun r hr => ?_) fun r _ => ?_
  · rw [hr]
    exact hnext'
  · split
    · exact hdial
    · exact hnext

/-- The EC200 keeps the rule when it connects. -/
theorem obeys_ec200x_atConnect (cfg : Talk) :
    (Ec200x.atConnect cfg).Obeys (opRule .ec200x) := by
  refine obeys_check (obeys_ec200x_setProfileset _) fun _ => ?_
  refine obeys_check (obeys_txRet fun r => by simp [Lax]) fun i => ?_
  have hdial := obeys_ec200x_dial (cidOf (jsonValue cfg "profile_cfg"))
  split
  · exact obeys_ec200x_dialRounds hdial 3 0
  · exact hdial

/-- The EC200 keeps the rule when it looks for the connection. -/
theorem obeys_ec200x_atConnected : Ec200x.atConnected.Obeys (opRule .ec200x) := by
  refine obeys_check (obeys_txRet fun r => by simp [Lax]) fun _ => ?_
  refine obeys_ec200x_rx (fun r hr => ?_) fun r _ => ?_
  · rw [hr]
    exact (by decide : Boole.tfalse ≠ .terror)
  · split <;> trivial

/-- The EC200 keeps the rule when it disconnects. -/
theorem obeys_ec200x_atDisconnect : Ec200x.atDisconnect.Obeys (opRule .ec200x) :=
  obeys_check (obeys_txRet fun r => by simp [Lax]) fun _ => trivial

end Ec200x

/-! ### NE16U -/

section Ne16u

/-- A loop of settings is lax about terminations and goes on. -/
theorem obeys_ne16u_loop {item wanted : String} {done after : Op Boole}
    (hdone : done.Obeys (opRule .ne16u)) (hafter : after.Obeys (opRule .ne16u))
    (hstray : after.Strays (· ≠ .tfalse)) (left t : ℕ) :
    (rounds (fun t next leave => qcfgRound item wanted done t next leave) after left t).Obeys
      (opRule .ne16u) := by
  refine obeys_rounds hafter hstray (fun t next hnext hnext' => ?_)
    (fun t next => strays_qcfgRound) left t
  refine obeys_modeRound (fun r => by simp [Lax]) (fun r => by simp [Lax]) (fun i => ?_)
    hnext hafter hnext' hstray
  split
  · exact hdone
  · exact hafter

/-- The NE16U keeps the rule at the end of its setup. -/
theorem obeys_ne16u_setupEnd (r : Bool) : (Ne16u.setupEnd r).Obeys (opRule .ne16u) := by
  unfold Ne16u.setupEnd
  split
  · trivial
  · exact obeys_check (obeys_txRet fun r => by simp [Lax]) fun _ =>
      obeys_check (obeys_usbtty .cgsn) fun _ => trivial

/-- Where a mode was written the driver asks for a reset, in place of what a termination
stands for. -/
theorem strays_ne16u_setupEnd (r : Bool) : (Ne16u.setupEnd r).Strays (· ≠ .tfalse) := by
  cases r with
  | true => exact (nofun : ¬ Boole.terror = .tfalse)
  | false => exact Script.strays_call _ _ _

/-- The NE16U keeps the rule from its IMS setting on. -/
theorem obeys_ne16u_setupIms (r : Bool) : (Ne16u.setupIms r).Obeys (opRule .ne16u) :=
  obeys_ne16u_loop (obeys_ne16u_setupEnd true) (obeys_ne16u_setupEnd r)
    (strays_ne16u_setupEnd r) 10 0

/-- The NE16U keeps the rule from its NAT setting on. -/
theorem obeys_ne16u_setupNat (r : Bool) : (Ne16u.setupNat r).Obeys (opRule .ne16u) :=
  obeys_ne16u_loop (obeys_ne16u_setupIms true) (obeys_ne16u_setupIms r)
    strays_modeRound 10 0

/-- The NE16U keeps the rule in its setup. -/
theorem obeys_ne16u_atSetup : Ne16u.atSetup.Obeys (opRule .ne16u) :=
  obeys_require (obeys_usbtty .setup) (obeys_require (obeys_usbtty .cfun1)
    (obeys_ne16u_loop (Script.obeys_done _ _) (obeys_ne16u_setupNat false)
      strays_modeRound 10 0))

/-- The NE16U keeps the rule in its network mode. -/
theorem obeys_ne16u_lockNettype (netmode : Option String) :
    (Ne16u.lockNettype netmode).Obeys (stepRule .ne16u) := by
  refine obeys_ask (fun r => by simp [Lax]) fun r => ?_
  split
  · exact obeys_txRet fun r => by simp [Lax]
  · trivial

/-- The NE16U keeps the rule in its profile. -/
theorem obeys_ne16u_setProfileset (profile : Option Talk) :
    (Ne16u.setProfileset profile).Obeys (stepRule .ne16u) :=
  obeys_relay (obeys_qicsgp _ _ _ _) fun _ => obeys_setContexts _ _ _

/-- The NE16U keeps the rule in its settings. -/
theorem obeys_ne16u_atSetting (unescape : Unescape) (cfg : Option Talk) :
    (Ne16u.atSetting unescape cfg).Obeys (opRule .ne16u) := by
  refine obeys_check (obeys_ne16u_lockNettype _) fun i => ?_
  refine obeys_check (obeys_blindLock _ _ fun text r => by simp [Lax]) fun _ => ?_
  refine obeys_check (obeys_blindLock _ _ fun text r => by simp [Lax]) fun _ => ?_
  exact obeys_checkProfile obeys_ne16u_setProfileset fun ret => obeys_checkModes _ _

/-- The NE16U keeps the rule when it asks for the network. -/
theorem obeys_ne16u_qnwinfo : Ne16u.qnwinfo.Obeys (stepRule .ne16u) := by
  refine obeys_ask (fun r => by simp [Lax]) fun r => ?_
  refine (Script.quiet_foldlM (fun ret line => ?_) Ret.failed (lines r.ack)).obeys
  unfold Ne16u.qnwinfoLine
  split
  · trivial
  split
  · exact (quiet_setNetwork _ _ _ _).bind fun _ _ => trivial
  split
  · exact (quiet_setNetwork _ _ _ _).bind fun _ _ => trivial
  · trivial

/-- Recording a strength sends nothing. -/
theorem quiet_ne16u_setStrength {keys : List String} {s : List Char} {network : Op Unit}
    (h : network.Quiet fun _ => True) (ret : Ret) :
    (Ne16u.setStrength keys s network ret).Quiet fun _ => True := by
  unfold Ne16u.setStrength
  split
  · exact Script.quiet_puts _ (h.bind fun _ _ => trivial)
  · trivial

/-- Recording the signal sends nothing. -/
theorem quiet_ne16u_setRssi (rssi : Option (List Char)) (ret : Ret) :
    (Ne16u.setRssi rssi ret).Quiet fun _ => True := by
  cases rssi with
  | none => exact Script.quiet_done' _
  | some rssi => exact quiet_ne16u_setStrength (Script.quiet_done' _) _

/-- Recording a cell sends nothing. -/
theorem quiet_ne16u_setCell (cell : Ne16u.Cell) (ret : Ret) :
    (Ne16u.setCell cell ret).Quiet fun _ => True := by
  unfold Ne16u.setCell
  split
  · refine (Script.quiet_put _ _).bind fun _ _ => (Script.quiet_put _ _).bind fun _ _ => ?_
    refine (quiet_ne16u_setStrength (Script.quiet_put _ _) _).bind fun _ _ => ?_
    refine (quiet_ne16u_setRssi _ _).bind fun _ _ => ?_
    refine (quiet_onlyIf _ (Script.quiet_put _ _)).bind fun _ _ => ?_
    exact (quiet_onlyIf _ (Script.quiet_put _ _)).bind fun _ _ => Script.quiet_done' _
  · exact Script.quiet_done' _

/-- The NE16U keeps the rule when it asks for the serving cell. -/
theorem obeys_ne16u_servingcell : Ne16u.servingcell.Obeys (stepRule .ne16u) := by
  refine obeys_ask (fun r => by simp [Lax]) fun r => ?_
  refine (Script.quiet_foldlM (fun ret line => ?_) Ret.failed (lines r.ack)).obeys
  unfold Ne16u.servingcellLine
  split
  · split <;> trivial
  · split
    · exact quiet_ne16u_setCell _ _
    · trivial

/-- The NE16U keeps the rule when it asks for the registration in 5G. -/
theorem obeys_ne16u_checkReg5g {k : Op Boole} (hk : k.Obeys (opRule .ne16u)) :
    (Ne16u.checkReg5g k).Obeys (opRule .ne16u) :=
  obeys_check (obeys_usbtty .creg) fun _ => obeys_check (obeys_usbtty .cereg) fun _ =>
    obeys_check (obeys_usbtty .cgreg) fun _ => obeys_check (obeys_usbtty .c5greg) fun i =>
      (quiet_setPlmn i).obeys_bind fun _ => hk

/-- The NE16U keeps the rule when it watches. -/
theorem obeys_ne16u_atWatch (cfg : Option Talk) :
    (Ne16u.atWatch cfg).Obeys (opRule .ne16u) := by
  refine (quiet_deleteAll _).obeys_bind fun _ => obeys_checkSim (obeys_usbtty .ccid) ?_
  refine (quiet_deleteAll _).obeys_bind fun _ => ?_
  refine obeys_check obeys_ne16u_servingcell fun _ => obeys_check obeys_ne16u_qnwinfo fun _ => ?_
  refine obeys_ne16u_checkReg5g (obeys_checkCops (obeys_checkMissingCsq ?_))
  exact quiet_rsrpSignal.obeys_bind fun _ => trivial

/-- The NE16U keeps the rule when it connects. -/
theorem obeys_ne16u_atConnect (cfg : Talk) : (Ne16u.atConnect cfg).Obeys (opRule .ne16u) := by
  refine obeys_check (obeys_ne16u_setProfileset _) fun _ => ?_
  rw [txRet_bind]
  refine Script.Obeys.call (fun r h => ?_) (fun r h hs => ?_) fun r _ _ => ?_
  · -- a termination of the dial command is taken for a success
    have hr : r.ret = .term := by
      rcases h with ⟨⟨item, h⟩, -⟩ | ⟨-, h⟩
      · cases h
      · exact h
    show Script.Strays (· ≠ verdict r) _
    rw [verdict, hr]
    exact (by decide : ¬ Boole.ttrue = .tfalse)
  · have hr : r.ret = .error := hs.resolve_right fun hterm =>
      h (Or.inr ⟨⟨_, rfl⟩, hterm.1⟩)
    show Script.Quiet (· = verdict r) _
    rw [verdict, if_pos hr, if_pos hr]
    rfl
  · split
    · trivial
    · split <;> trivial

/-- The NE16U keeps the rule when it looks for the connection. -/
theorem obeys_ne16u_atConnected (cfg : Talk) :
    (Ne16u.atConnected cfg).Obeys (opRule .ne16u) := by
  refine obeys_require (obeys_ask (fun r => by simp [Lax]) fun r => ?_) trivial
  split <;> trivial

/-- The NE16U keeps the rule when it disconnects. -/
theorem obeys_ne16u_atDisconnect (cfg : Talk) :
    (Ne16u.atDisconnect cfg).Obeys (opRule .ne16u) :=
  obeys_require (obeys_txRet fun r => by simp [Lax]) trivial

end Ne16u

/-! ### FML610 -/

section Fml610

/-- The FML610 keeps the rule in its network mode. -/
theorem obeys_fml610_lockNettype (netmode : Option String) :
    (Fml610.lockNettype netmode).Obeys (stepRule .fml610) := by
  refine obeys_ask (fun r => by simp [Lax]) fun r => ?_
  split
  · exact obeys_txRet fun r => by simp [Lax]
  · trivial

/-- The FML610 keeps the rule in its profile. -/
theorem obeys_fml610_setProfileset (profile : Option Talk) :
    (Fml610.setProfileset profile).Obeys (stepRule .fml610) := by
  refine obeys_relay (obeys_txRet fun r => ?_) fun _ => obeys_setContexts _ _ _
  unfold Fml610.mgauth
  split <;> simp [Lax]

/-- The FML610 keeps the rule in its settings. -/
theorem obeys_fml610_atSetting (cfg : Talk) :
    (Fml610.atSetting cfg).Obeys (opRule .fml610) :=
  obeys_check (obeys_fml610_lockNettype _) fun _ =>
    obeys_checkProfile obeys_fml610_setProfileset fun _ => obeys_checkModes _ _

/-- The FML610 keeps the rule at the end of its setup. -/
theorem obeys_fml610_setupEnd : Fml610.setupEnd.Obeys (opRule .fml610) :=
  obeys_check (obeys_txRet fun r => by simp [Lax]) fun _ =>
    obeys_check (obeys_usbtty .cgsn) fun _ => obeys_check (obeys_usbtty .cgmr) fun _ => trivial

/-- The end of its setup begins with a command. -/
theorem strays_fml610_setupEnd {Q : Boole → Prop} : Fml610.setupEnd.Strays Q := trivial

/-- The FML610 keeps the rule in its setup. -/
theorem obeys_fml610_atSetup : Fml610.atSetup.Obeys (opRule .fml610) := by
  refine obeys_require (obeys_usbtty .setup) (obeys_require (obeys_usbtty .cfun1) ?_)
  have hloop : ∀ left t, (rounds (modeRound (.read .gtusbmode) (.set .gtusbmode [.raw "32"])
      "GTUSBMODE:" ':' 32 fun _ => pure .terror) Fml610.setupEnd left t).Obeys
      (opRule .fml610) :=
    obeys_rounds obeys_fml610_setupEnd strays_fml610_setupEnd
      (fun t next hnext hnext' => obeys_modeRound (fun r => by simp [Lax])
        (fun r => by simp [Lax]) (fun _ => Script.obeys_done _ _) hnext obeys_fml610_setupEnd
        hnext' strays_fml610_setupEnd)
      fun t next => strays_modeRound
  exact hloop 10 0

/-- Recording an old signal sends nothing. -/
theorem quiet_fml610_setOldCsq (lim off v : ℤ) :
    (Fml610.setOldCsq lim off v).Quiet fun _ => True := by
  unfold Fml610.setOldCsq
  split
  · exact (Script.quiet_put _ _).bind fun _ _ =>
      (quiet_onlyIf _ (Script.quiet_put _ _)).bind fun _ _ => Script.quiet_done' _
  · exact Script.quiet_done' _

/-- Recording the signal of 4G sends nothing. -/
theorem quiet_fml610_setLte (c : Cesq) : (Fml610.setLte c).Quiet fun _ => True :=
  (quiet_onlyIf _ (Script.quiet_put _ _)).bind fun _ _ =>
    (quiet_onlyIf _ (Script.quiet_put _ _)).bind fun _ _ =>
      (quiet_onlyIf _ (Script.quiet_put _ _)).bind fun _ _ => Script.quiet_done' _

/-- The FML610 keeps the rule when it asks for the operator. -/
theorem obeys_fml610_cops : Fml610.cops.Obeys (stepRule .fml610) := by
  refine obeys_ask (fun r => by simp [Lax]) fun r => ?_
  split
  · trivial
  · exact (quiet_onlyIf _ (Script.quiet_put _ _)).obeys_bind fun _ =>
      (quiet_setGiven _ _).obeys_bind fun _ => Script.obeys_done _ _

/-- The FML610 keeps the rule when it asks for the signal. -/
theorem obeys_fml610_cesq : Fml610.cesq.Obeys (stepRule .fml610) := by
  refine obeys_ask (fun r => by simp [Lax]) fun r => ?_
  split
  · trivial
  · rw [Script.get_bind]
    refine Script.Obeys.read fun nettype => ?_
    split
    · exact (quiet_fml610_setOldCsq _ _ _).obeys
    split
    · exact (quiet_fml610_setOldCsq _ _ _).obeys
    · exact (quiet_fml610_setLte _).obeys

/-- The FML610 keeps the rule when it watches. -/
theorem obeys_fml610_atWatch (cfg : Option Talk) :
    (Fml610.atWatch cfg).Obeys (opRule .fml610) := by
  refine (quiet_deleteAll _).obeys_bind fun _ => obeys_checkSim (obeys_usbtty .ccid) ?_
  refine (quiet_deleteAll _).obeys_bind fun _ => ?_
  refine obeys_check obeys_fml610_cops fun _ => obeys_check obeys_fml610_cesq fun _ => ?_
  refine obeys_checkReg (obeys_checkMissingCsq ?_)
  exact quiet_rsrpSignal.obeys_bind fun _ => Script.obeys_done _ _

/-- The FML610 keeps the rule when it connects. -/
theorem obeys_fml610_atConnect (cfg : Talk) : (Fml610.atConnect cfg).Obeys (opRule .fml610) :=
  obeys_check (obeys_fml610_setProfileset _) fun _ =>
    obeys_check (obeys_txRet fun r => by simp [Lax]) fun _ => trivial

/-- The FML610 keeps the rule when it looks for the connection. -/
theorem obeys_fml610_atConnected : Fml610.atConnected.Obeys (opRule .fml610) := by
  refine obeys_require (obeys_ask (fun r => by simp [Lax]) fun r => ?_) trivial
  split <;> trivial

/-- The FML610 keeps the rule when it disconnects. -/
theorem obeys_fml610_atDisconnect : Fml610.atDisconnect.Obeys (opRule .fml610) :=
  obeys_check (obeys_txRet fun r => by simp [Lax]) fun _ => trivial

end Fml610

/-! ### ZTE 7520 -/

section Zte7520

/-- The ZTE7520 takes an error of the port for a failure in its network mode. -/
theorem obeys_zte7520_sysconfig (netmode : Option String) :
    (Zte7520.sysconfig netmode).Obeys (retRule .zte7520 (· = .failed)) := by
  refine obeys_ask (fun r => by simp [Lax]) fun r => ?_
  rw [tx_bind]
  refine Script.Obeys.call (fun recv _ => ?_) (fun recv h hs => ?_) fun recv _ _ => ?_
  · -- the length of what was read is not looked at
    split
    · exact (rfl : Ret.failed = .failed)
    · split
      · exact Script.strays_call _ _ _
      · exact (rfl : Ret.failed = .failed)
  · refine absurd ?_ h
    rcases hs with hs | ⟨-, hs⟩
    · exact Or.inr ⟨rfl, hs⟩
    · exact absurd rfl hs
  · split
    · trivial
    · split
      · exact obeys_txRet fun r => by simp [Lax]
      · trivial

/-- The ZTE7520 keeps the rule in its bands. -/
theorem obeys_zte7520_band (bandsets : Option String) :
    (Zte7520.band bandsets).Obeys (stepRule .zte7520) := by
  unfold Zte7520.band
  split
  · trivial
  · dsimp only
    split
    · rw [tx_bind]
      refine obeys_call (fun r => by simp [Lax]) (fun r h => ?_) fun r _ => ?_
      · have hr : (decide (r.ret = .succeed)) = false := by
          rcases h with h | ⟨h, -⟩ <;> rw [h] <;> rfl
        rw [hr]
        rfl
      · split
        · exact obeys_txRet fun r => by simp [Lax]
        · trivial
    · trivial

/-- The bands begin with a command or fail. -/
theorem strays_zte7520_band (bandsets : Option String) :
    (Zte7520.band bandsets).Strays (· = .failed) := by
  unfold Zte7520.band
  split
  · exact (rfl : Ret.failed = .failed)
  · dsimp only
    split
    · exact Script.strays_call _ _ _
    · exact (rfl : Ret.failed = .failed)

/-- Something is always sent after the network mode. -/
theorem strays_zte7520_settingEnd (cfg : Talk) (i : Ret) (Q : Boole → Prop) :
    (check (Zte7520.band (jsonString cfg "lock_band")) fun _ =>
      checkProfile Zte7520.setProfileset (jsonValue cfg "profile_cfg") (restart .ttrue i)
        fun ret => checkModes [.copsformat, .cregmode, .ceregmode, .cgregmode] ret).Strays Q := by
  refine (strays_zte7520_band _).bind fun j hj => ?_
  rw [hj, if_neg (by decide), if_neg (by decide)]
  unfold checkProfile
  split
  · exact Script.strays_call _ _ _
  · exact Script.strays_call _ _ _

/-- The ZTE7520 keeps the rule in its profile. -/
theorem obeys_zte7520_setProfileset (profile : Option Talk) :
    (Zte7520.setProfileset profile).Obeys (stepRule .zte7520) :=
  obeys_relay (obeys_txRet fun r => by simp [Lax]) fun _ => obeys_setContexts _ _ _

/-- The ZTE7520 keeps the rule in its settings. -/
theorem obeys_zte7520_atSetting (cfg : Talk) :
    (Zte7520.atSetting cfg).Obeys (opRule .zte7520) := by
  refine obeys_check (obeys_txRet fun r => by simp [Lax]) fun _ => ?_
  refine obeys_check (obeys_txRet fun r => by simp [Lax]) fun _ => ?_
  have hrest : ∀ i, (check (Zte7520.band (jsonString cfg "lock_band")) fun _ =>
      checkProfile Zte7520.setProfileset (jsonValue cfg "profile_cfg") (restart .ttrue i)
        fun ret => checkModes [.copsformat, .cregmode, .ceregmode, .cgregmode] ret).Obeys
          (opRule .zte7520) :=
    fun i => obeys_check (obeys_zte7520_band _) fun _ =>
      obeys_checkProfile obeys_zte7520_setProfileset fun _ => obeys_checkModes _ _
  refine obeys_check' (obeys_zte7520_sysconfig _) ?_ (fun i hi Q => ?_) hrest
  · rintro i rfl
    exact ⟨by decide, by decide⟩
  · exact strays_zte7520_settingEnd cfg i Q

/-- A step for the card is lax about a termination and goes on. -/
theorem obeys_zte7520_checkCard {name : AtName} {wanted : String} {k : Op Boole}
    (hread : ∀ r, ¬ Lax .zte7520 (.read name) r)
    (hset : ∀ r, Lax .zte7520 (.set name [.raw wanted]) r ↔ r.ret = .term)
    (hk : k.Obeys (opRule .zte7520)) :
    (Zte7520.checkCard name wanted k).Obeys (opRule .zte7520) := by
  refine obeys_askCheck hread fun r i => ?_
  split
  · exact hk
  · split
    · rw [tx_bind]
      refine Script.Obeys.call (fun r h => ?_) (fun r h hs => ?_) fun r _ _ => trivial
      · show Boole.terror ≠ verdict r
        rw [verdict, (hset r).mp h]
        decide
      · have hr : r.ret = .error := hs.resolve_right fun hterm => h ((hset r).mpr hterm.1)
        show Boole.terror = verdict r
        rw [verdict, if_pos hr]
    · exact hk

/-- The ZTE7520 keeps the rule in its setup. -/
theorem obeys_zte7520_atSetup : Zte7520.atSetup.Obeys (opRule .zte7520) := by
  have himei : (check (usbtty .cgsn) fun _ => pure .ttrue).Obeys (opRule .zte7520) :=
    obeys_check (obeys_usbtty .cgsn) fun _ => trivial
  refine obeys_require (obeys_usbtty .setup) ?_
  refine obeys_check (obeys_txRet fun r => by simp [Lax]) fun _ => ?_
  refine obeys_require (obeys_usbtty .cfun1) ?_
  refine obeys_askCheck (fun r => by simp [Lax]) fun r _ => ?_
  split
  · exact (Script.quiet_put _ _).obeys_bind fun _ =>
      obeys_zte7520_checkCard (fun r => by simp [Lax]) (fun r => by simp [Lax]) himei
  · exact obeys_zte7520_checkCard (fun r => by simp [Lax]) (fun r => by simp [Lax]) himei

/-- Recording the number of the card sends nothing. -/
theorem quiet_zte7520_setIccid (ack : List Char) :
    (Zte7520.setIccid ack).Quiet fun _ => True := by
  unfold Zte7520.setIccid
  split <;> trivial

/-- The ZTE7520 keeps the rule when it asks for the card. -/
theorem obeys_zte7520_ccid : Zte7520.ccid.Obeys (stepRule .zte7520) := by
  rw [Zte7520.ccid, tx_bind]
  refine obeys_call (fun r => by simp [Lax]) (fun r h => ?_) fun r _ => ?_
  · exact quiet_relay h _
  · refine obeys_relay (p := pure r.ret) trivial fun i => ?_
    split
    · exact obeys_ask (fun r => by simp [Lax]) fun r => (quiet_zte7520_setIccid _).obeys
    · exact (quiet_zte7520_setIccid _).obeys

/-- The ZTE7520 keeps the rule when it asks for the signal. -/
theorem obeys_zte7520_cesq : Zte7520.cesq.Obeys (stepRule .zte7520) := by
  refine obeys_ask (fun r => by simp [Lax]) fun r => ?_
  split
  · trivial
  · exact (quiet_onlyIf _ (Script.quiet_put _ _)).obeys_bind fun _ =>
      (quiet_onlyIf _ (Script.quiet_put _ _)).obeys_bind fun _ => Script.obeys_done _ _

/-- The ZTE7520 keeps the rule when it watches. -/
theorem obeys_zte7520_atWatch (cfg : Option Talk) :
    (Zte7520.atWatch cfg).Obeys (opRule .zte7520) := by
  refine (quiet_deleteAll _).obeys_bind fun _ => obeys_checkSim obeys_zte7520_ccid ?_
  refine (quiet_deleteAll _).obeys_bind fun _ => obeys_check obeys_sysinfo fun _ => ?_
  refine obeys_check obeys_zte7520_cesq fun _ => obeys_check (obeys_usbtty .cops) fun _ => ?_
  refine obeys_checkReg (obeys_checkZemsciq ?_)
  exact (quiet_deleteAll _).obeys_bind fun _ => obeys_csqEnd

/-- The ZTE7520 keeps the rule when it connects. -/
theorem obeys_zte7520_atConnect (cfg : Talk) :
    (Zte7520.atConnect cfg).Obeys (opRule .zte7520) :=
  obeys_check (obeys_zte7520_setProfileset _) fun _ =>
    obeys_require (obeys_txRet fun r => by simp [Lax])
      (obeys_require (obeys_txRet fun r => by simp [Lax]) trivial)

/-- The ZTE7520 keeps the rule when it looks for the connection. -/
theorem obeys_zte7520_atConnected : Zte7520.atConnected.Obeys (opRule .zte7520) := by
  refine obeys_require (obeys_ask (fun r => by simp [Lax]) fun r => ?_) trivial
  split <;> trivial

/-- The ZTE7520 keeps the rule when it disconnects. -/
theorem obeys_zte7520_atDisconnect : Zte7520.atDisconnect.Obeys (opRule .zte7520) :=
  obeys_check (obeys_txRet fun r => by simp [Lax]) fun _ =>
    obeys_check (obeys_txRet fun r => by simp [Lax]) fun _ => trivial

end Zte7520

/-! ### INNE7B01 -/

section Inne7b01

/-- The INNE7B01 keeps the rule in its profile. -/
theorem obeys_inne7b01_setProfileset (profile : Option Talk) :
    (Inne7b01.setProfileset profile).Obeys (stepRule .inne7b01) :=
  obeys_relay (obeys_txRet fun r => by simp [Lax]) fun _ => obeys_setContexts _ _ _

/-- The INNE7B01 keeps the rule in its settings. -/
theorem obeys_inne7b01_atSetting (cfg : Talk) :
    (Inne7b01.atSetting cfg).Obeys (opRule .inne7b01) :=
  obeys_check (obeys_txRet fun r => by simp [Lax]) fun _ =>
    obeys_check (obeys_txRet fun r => by simp [Lax]) fun _ =>
      obeys_checkProfile obeys_inne7b01_setProfileset fun _ => obeys_checkModes _ _

/-- The INNE7B01 keeps the rule in its setup. -/
theorem obeys_inne7b01_atSetup : Inne7b01.atSetup.Obeys (opRule .inne7b01) :=
  obeys_require (obeys_usbtty .setup) (obeys_require (obeys_usbtty .cfun1)
    (obeys_check (obeys_usbtty .cgsn) fun _ => trivial))

/-- The INNE7B01 keeps the rule when it watches. -/
theorem obeys_inne7b01_atWatch (cfg : Option Talk) :
    (Inne7b01.atWatch cfg).Obeys (opRule .inne7b01) := by
  refine (quiet_deleteAll _).obeys_bind fun _ => obeys_checkSim (obeys_usbtty .ccid) ?_
  refine (quiet_deleteAll _).obeys_bind fun _ => obeys_check obeys_sysinfo fun _ => ?_
  refine obeys_check (obeys_usbtty .cops) fun _ => obeys_checkReg (obeys_checkZemsciq ?_)
  exact (quiet_deleteAll _).obeys_bind fun _ => obeys_csqEnd

/-- The INNE7B01 keeps the rule when it connects. -/
theorem obeys_inne7b01_atConnect (cfg : Talk) :
    (Inne7b01.atConnect cfg).Obeys (opRule .inne7b01) :=
  obeys_check (obeys_inne7b01_setProfileset _) fun _ =>
    obeys_require (obeys_txRet fun r => by simp [Lax])
      (obeys_require (obeys_txRet fun r => by simp [Lax]) trivial)

/-- The INNE7B01 keeps the rule when it looks for the connection. -/
theorem obeys_inne7b01_atConnected : Inne7b01.atConnected.Obeys (opRule .inne7b01) := by
  refine obeys_require (obeys_ask (fun r => by simp [Lax]) fun r => ?_) trivial
  split <;> trivial

/-- The INNE7B01 keeps the rule when it disconnects. -/
theorem obeys_inne7b01_atDisconnect : Inne7b01.atDisconnect.Obeys (opRule .inne7b01) :=
  obeys_check (obeys_txRet fun r => by simp [Lax]) fun _ => trivial

end Inne7b01

/-! ### EM350 and MU609 -/

section Huawei

variable {d : Driver}

/-- The disconnect of the Huawei modems keeps the rule. -/
theorem obeys_huawei_disconnect (hc : ∀ r, ¬ Lax d (.set .ndisdup [.raw "1", .raw "0"]) r)
    {k : Op Boole} (hk : k.Obeys (opRule d)) :
    (check (txRet (.set .ndisdup [.raw "1", .raw "0"])) fun _ => k).Obeys (opRule d) :=
  obeys_check (obeys_txRet hc) fun _ => hk

/-- The end of a watch of the Huawei modems keeps the rule. -/
theorem obeys_huawei_watchEnd {typeOf : List Char → ℤ} (lockPin : Option String) :
    (deleteAll ["plmn", "rssi", "signal"] >>= fun _ =>
      checkSim (iccid 3 .failed) lockPin (deleteAll ["nettype"] >>= fun _ =>
        check (sysinfoex typeOf) fun _ => check (usbtty .cops) fun _ =>
          checkReg (deleteAll ["csq"] >>= fun _ => checkCsq fun csq =>
            setCsq csq >>= fun _ => rssiSignal >>= fun _ => pure .ttrue))).Obeys
      (opRule d) := by
  refine (quiet_deleteAll _).obeys_bind fun _ => obeys_checkSim (obeys_iccid 3 .failed) ?_
  refine (quiet_deleteAll _).obeys_bind fun _ => obeys_check (obeys_sysinfoex _) fun _ => ?_
  refine obeys_check (obeys_usbtty .cops) fun _ => obeys_checkReg ?_
  exact (quiet_deleteAll _).obeys_bind fun _ => obeys_csqEnd

/-- The first question of `_at_connected`. Only a port error ends it, so another question
follows a termination. -/
theorem obeys_huawei_ndisstatqry {k : Ret → Op Boole}
    (hlax : ∀ r, Lax d (.read .ndisstatqry) r ↔ r.ret = .term)
    (hstray : ∀ i Q, (k i).Strays Q) (hk : ∀ i, (k i).Obeys (opRule d)) :
    (ndisstatqry >>= fun i => if i = .error then pure .terror else k i).Obeys (opRule d) := by
  rw [ndisstatqry, Script.bind_assoc, tx_bind]
  refine Script.Obeys.call (fun r h => ?_) (fun r h hs => ?_) fun r _ _ => ?_
  · have hr := (hlax r).mp h
    rw [hr]
    exact hstray _ _
  · have hr : r.ret = .error := hs.resolve_right fun hterm => h ((hlax r).mpr hterm.1)
    show Script.Quiet (· = verdict r) _
    rw [verdict, if_pos hr, hr]
    rfl
  · have hall : ∀ i : Ret, (if i = .error then pure .terror else k i : Op Boole).Obeys
        (opRule d) := by
      intro i
      split
      · trivial
      · exact hk i
    split
    · exact hall r.ret
    · split
      · exact hall .succeed
      · exact hall .failed

/-- The question for the address keeps the rule. -/
theorem obeys_huawei_cgpaddr (hc : ∀ cid r, ¬ Lax d (.set .cgpaddr [.raw cid]) r)
    (cid : String) : (cgpaddr cid).Obeys (stepRule d) := by
  refine obeys_ask (hc cid) fun r => ?_
  split <;> trivial

/-- A termination of `AT^AUTHDATA` does not end the setting of the profile. -/
theorem obeys_em350_setProfileset (profile : Option Talk) :
    (Em350.setProfileset profile).Obeys (retRule .em350 (· = .failed)) := by
  unfold Em350.setProfileset
  rw [txRet_bind]
  refine Script.Obeys.call (fun r h => ?_) (fun r h hs => ?_) fun r _ _ => ?_
  · have hr : r.ret = .term := by
      rcases h with ⟨-, h⟩ | ⟨h, -⟩
      · exact h
      · cases h
    rw [if_neg (by rw [hr]; decide)]
    exact strays_setContexts _ _ _
  · have hr : r.ret = .error := hs.resolve_right fun hterm =>
      h (Or.inl ⟨⟨_, rfl⟩, hterm.1⟩)
    rw [if_pos hr]
    exact hr.symm
  · split
    · trivial
    · exact obeys_setContexts _ _ _

/-- A failure stops nothing. -/
theorem not_stop_failed {i : Ret} (h : i = .failed) : i ≠ .error ∧ i ≠ .term := by
  rw [h]
  exact ⟨by decide, by decide⟩

/-- The EM350 keeps the rule in its settings. -/
theorem obeys_em350_atSetting (cfg : Talk) : (Em350.atSetting cfg).Obeys (opRule .em350) :=
  obeys_checkProfile' obeys_em350_setProfileset (fun _ => not_stop_failed)
    (fun _ _ => Script.strays_call _ _ _) fun _ => obeys_checkModes _ _

/-- The EM350 keeps the rule in its setup. -/
theorem obeys_em350_atSetup : Em350.atSetup.Obeys (opRule .em350) :=
  obeys_require (obeys_usbtty .setup) (obeys_require (obeys_usbtty .cfun1)
    (obeys_huawei_disconnect (fun r => by simp [Lax])
      (obeys_check (obeys_usbtty .cgsn) fun _ => trivial)))

/-- The EM350 keeps the rule when it connects. -/
theorem obeys_em350_atConnect (cfg : Talk) : (Em350.atConnect cfg).Obeys (opRule .em350) := by
  refine obeys_check' (obeys_em350_setProfileset _) (fun _ => not_stop_failed)
    (fun _ _ _ => Script.strays_call _ _ _) fun _ => obeys_require (obeys_txRet fun r => ?_) trivial
  unfold Em350.dial
  dsimp only
  split <;> simp [Lax]

/-- The EM350 keeps the rule when it asks for the contract. -/
theorem obeys_em350_cgcontrdp (cid : String) :
    (Em350.cgcontrdp cid).Obeys (stepRule .em350) := by
  refine obeys_ask (fun r => by simp [Lax]) fun r => ?_
  split <;> trivial

/-- The EM350 keeps the rule when it looks for the connection. -/
theorem obeys_em350_atConnected (cfg : Talk) :
    (Em350.atConnected cfg).Obeys (opRule .em350) :=
  obeys_huawei_ndisstatqry (fun r => by simp [Lax]) (fun _ _ => Script.strays_call _ _ _)
    fun _ => obeys_check (obeys_huawei_cgpaddr (fun _ r => by simp [Lax]) _) fun _ =>
      obeys_check (obeys_em350_cgcontrdp _) fun _ => Script.obeys_done _ _

/-- The EM350 keeps the rule when it disconnects. -/
theorem obeys_em350_atDisconnect : Em350.atDisconnect.Obeys (opRule .em350) :=
  obeys_huawei_disconnect (fun r => by simp [Lax]) trivial

/-- The MU609 keeps the rule in its settings. -/
theorem obeys_mu609_atSetting (cfg : Talk) : (Mu609.atSetting cfg).Obeys (opRule .mu609) :=
  obeys_checkProfile (fun _ => obeys_setContexts _ _ _) fun _ => obeys_checkModes _ _

/-- The MU609 keeps the rule in its setup. -/
theorem obeys_mu609_atSetup : Mu609.atSetup.Obeys (opRule .mu609) :=
  obeys_require (obeys_usbtty .setup) (obeys_require (obeys_usbtty .cfun1)
    (obeys_huawei_disconnect (fun r => by simp [Lax])
      (obeys_check (obeys_usbtty .cgsn) fun _ => trivial)))

/-- The MU609 keeps the rule when it connects. -/
theorem obeys_mu609_atConnect (cfg : Talk) : (Mu609.atConnect cfg).Obeys (opRule .mu609) :=
  obeys_check (obeys_setContexts _ _ _) fun _ =>
    obeys_require (obeys_txRet fun r => by simp [Lax, Mu609.dial]) trivial

/-- The MU609 keeps the rule when it looks for the connection. -/
theorem obeys_mu609_atConnected (cfg : Talk) :
    (Mu609.atConnected cfg).Obeys (opRule .mu609) :=
  obeys_huawei_ndisstatqry (fun r => by simp [Lax]) (fun _ _ => Script.strays_call _ _ _)
    fun _ => obeys_check (obeys_huawei_cgpaddr (fun _ r => by simp [Lax]) _) fun _ =>
      Script.obeys_done _ _

/-- The MU609 keeps the rule when it disconnects. -/
theorem obeys_mu609_atDisconnect : Mu609.atDisconnect.Obeys (opRule .mu609) :=
  obeys_huawei_disconnect (fun r => by simp [Lax]) trivial

end Huawei

/-! ## All operations -/

/-- An operation without its configuration keeps the rule. -/
theorem obeys_withCfg {d : Driver} {cfg : Option Talk} {op : Talk → Op Boole}
    (h : ∀ cfg, (op cfg).Obeys (opRule d)) : (withCfg cfg op).Obeys (opRule d) := by
  cases cfg with
  | none => exact Script.obeys_done _ _
  | some cfg => exact h cfg

/-- Every driver keeps the rule in its setup. -/
theorem obeys_atSetup (d : Driver) : d.atSetup.Obeys (opRule d) := by
  cases d with
  | ec200x => exact obeys_ec200x_atSetup
  | em350 => exact obeys_em350_atSetup
  | fml610 => exact obeys_fml610_atSetup
  | inne7b01 => exact obeys_inne7b01_atSetup
  | mu609 => exact obeys_mu609_atSetup
  | ne16u => exact obeys_ne16u_atSetup
  | zte7520 => exact obeys_zte7520_atSetup

/-- Every driver keeps the rule in its settings. -/
theorem obeys_atSetting (unescape : Unescape) (cfg : Option Talk) (d : Driver) :
    (d.atSetting unescape cfg).Obeys (opRule d) := by
  cases d with
  | ec200x => exact obeys_withCfg (obeys_ec200x_atSetting unescape)
  | em350 => exact obeys_withCfg obeys_em350_atSetting
  | fml610 => exact obeys_withCfg obeys_fml610_atSetting
  | inne7b01 => exact obeys_withCfg obeys_inne7b01_atSetting
  | mu609 => exact obeys_withCfg obeys_mu609_atSetting
  | ne16u => exact obeys_ne16u_atSetting unescape cfg
  | zte7520 => exact obeys_withCfg obeys_zte7520_atSetting

/-- Every driver keeps the rule when it watches. -/
theorem obeys_atWatch (cfg : Option Talk) (d : Driver) :
    (d.atWatch cfg).Obeys (opRule d) := by
  cases d with
  | ec200x => exact obeys_ec200x_atWatch cfg
  | em350 => exact obeys_huawei_watchEnd _
  | fml610 => exact obeys_fml610_atWatch cfg
  | inne7b01 => exact obeys_inne7b01_atWatch cfg
  | mu609 => exact obeys_huawei_watchEnd _
  | ne16u => exact obeys_ne16u_atWatch cfg
  | zte7520 => exact obeys_zte7520_atWatch cfg

/-- Every driver keeps the rule when it connects. -/
theorem obeys_atConnect (cfg : Talk) (d : Driver) : (d.atConnect cfg).Obeys (opRule d) := by
  cases d with
  | ec200x => exact obeys_ec200x_atConnect cfg
  | em350 => exact obeys_em350_atConnect cfg
  | fml610 => exact obeys_fml610_atConnect cfg
  | inne7b01 => exact obeys_inne7b01_atConnect cfg
  | mu609 => exact obeys_mu609_atConnect cfg
  | ne16u => exact obeys_ne16u_atConnect cfg
  | zte7520 => exact obeys_zte7520_atConnect cfg

/-- Every driver keeps the rule when it looks for the connection. -/
theorem obeys_atConnected (cfg : Option Talk) (d : Driver) :
    (d.atConnected cfg).Obeys (opRule d) := by
  cases d with
  | ec200x => exact obeys_ec200x_atConnected
  | em350 => exact obeys_withCfg obeys_em350_atConnected
  | fml610 => exact obeys_fml610_atConnected
  | inne7b01 => exact obeys_inne7b01_atConnected
  | mu609 => exact obeys_withCfg obeys_mu609_atConnected
  | ne16u => exact obeys_withCfg obeys_ne16u_atConnected
  | zte7520 => exact obeys_zte7520_atConnected

/-- Every driver keeps the rule when it disconnects. -/
theorem obeys_atDisconnect (cfg : Option Talk) (d : Driver) :
    (d.atDisconnect cfg).Obeys (opRule d) := by
  cases d with
  | ec200x => exact obeys_ec200x_atDisconnect
  | em350 => exact obeys_em350_atDisconnect
  | fml610 => exact obeys_fml610_atDisconnect
  | inne7b01 => exact obeys_inne7b01_atDisconnect
  | mu609 => exact obeys_mu609_atDisconnect
  | ne16u => exact obeys_withCfg obeys_ne16u_atDisconnect
  | zte7520 => exact obeys_zte7520_atDisconnect

/-- Every operation of every driver keeps the rule, up to lax exchanges. -/
theorem obeys_script (unescape : Unescape) (cfg : Option Talk) (d : Driver)
    (op : AtOperation) : (d.script unescape cfg op).Obeys (opRule d) := by
  cases op with
  | setup => exact obeys_withCfg fun _ => obeys_atSetup d
  | off => exact obeys_atOff d
  | shut => exact obeys_atShut d
  | setting => exact obeys_atSetting unescape cfg d
  | watch => exact obeys_atWatch cfg d
  | connect => exact obeys_withCfg fun cfg => obeys_atConnect cfg d
  | connected => exact obeys_atConnected cfg d
  | disconnect => exact obeys_atDisconnect cfg d

/-- A run stops as it has to: a command that was terminated is the last one and the value
is `tfalse`, and so is one with a port error and `terror`. -/
def StopsInTime {M : Type} (o : Script.Outcome Command Reply String String Boole M) : Prop :=
  ∀ before c r after, o.trace = before ++ (c, r) :: after →
    (r.ret = .term → c ≠ .rx → after = [] ∧ o.value = .tfalse) ∧
    (r.ret = .error → after = [] ∧ o.value = .terror)

/-- The property is the rule. -/
theorem stopsInTime_iff {M : Type} (d : Driver)
    (o : Script.Outcome Command Reply String String Boole M) :
    StopsInTime o ↔ Script.Disciplined (opRule d) o := by
  constructor
  · rintro h before c r after heq (hr | ⟨hr, hc⟩)
    · obtain ⟨hafter, hvalue⟩ := (h before c r after heq).2 hr
      refine ⟨hafter, ?_⟩
      show o.value = verdict r
      rw [hvalue, verdict, if_pos hr]
    · obtain ⟨hafter, hvalue⟩ := (h before c r after heq).1 hr hc
      refine ⟨hafter, ?_⟩
      show o.value = verdict r
      rw [hvalue, verdict, if_neg (by rw [hr]; decide)]
  · intro h before c r after heq
    refine ⟨fun hr hc => ?_, fun hr => ?_⟩
    · obtain ⟨hafter, hvalue⟩ := h before c r after heq (Or.inr ⟨hr, hc⟩)
      refine ⟨hafter, (show o.value = verdict r from hvalue).trans ?_⟩
      rw [verdict, if_neg (by rw [hr]; decide)]
    · obtain ⟨hafter, hvalue⟩ := h before c r after heq (Or.inl hr)
      refine ⟨hafter, (show o.value = verdict r from hvalue).trans ?_⟩
      rw [verdict, if_pos hr]

/-- An operation stops in time, against any modem and from any record, exactly when it meets
no lax exchange. -/
theorem discipline_iff (unescape : Unescape) (cfg : Option Talk) (d : Driver)
    (op : AtOperation) {M : Type} (modem : M → Command → Reply × M) (m : M) (dev : Device) :
    StopsInTime (Script.run modem (d.script unescape cfg op) m dev) ↔
      ∀ e ∈ (Script.run modem (d.script unescape cfg op) m dev).trace, ¬ Lax d e.1 e.2 :=
  (stopsInTime_iff d _).trans <|
    Script.obeys_disciplined_iff modem (d := opRule d) (fun _ _ => stops_of_lax)
      (fun _ _ h h' => h h') (obeys_script unescape cfg d op) m dev

/-- A modem whose first answer to the EM350 is a termination. -/
def stoppedModem (_ : Unit) (c : Command) : Reply × Unit :=
  (⟨if c = .read .ndisstatqry then .term else .succeed, "+CGPADDR: 1,\"10.0.0.2\"".toList, [],
    0⟩, ())

/-- The EM350 asks on after the user stopped its first question. -/
theorem discipline_fails_at_ndisstatqry :
    ¬ StopsInTime (Script.run stoppedModem
      (Driver.em350.script (fun _ => none) (some (.json [])) .connected) () fun _ => none) := by
  intro h
  have hfirst := (h [] (.read .ndisstatqry) (stoppedModem () (.read .ndisstatqry)).1 _ rfl).1
    rfl (by decide)
  exact absurd hfirst.1 (List.cons_ne_nil _ _)

end Tiger.Analysis.ScriptDiscipline
