import Tiger.Analysis.ScriptSteps
import Tiger.Model.Contexts

/-!
# What a disconnect takes back

Every operation here sends one and the same order about a context, once or more often,
and no other: `_at_connect` the one of `connectArgs`, a disconnect the one of
`disconnectArgs`. Against a modem that obeys, a run is then the effect of that order
(`run_orders`).

Most drivers disconnect context 1 whatever the profile says, and two of them exchange
context and state when they connect, so a disconnect takes the connection back exactly
when the context of the profile is 1. The NE16U names the context of the profile in
`_at_disconnect`, though not in `_at_setup`.
-/

set_option autoImplicit false

namespace Tiger.Analysis.ConnectUndone

open Tiger.Library Tiger.Model Tiger.Analysis.ConnectContract Tiger.Analysis.ScriptSteps

/-- A run of an operation against a modem that keeps the set of its active contexts. -/
abbrev Run := Script.Outcome Command Reply String String Boole (Set ℕ)

/-- The contexts that a run orders into a state. -/
def ordered (d : Driver) (state : Bool) (t : Trace) : Set ℕ :=
  {cid | ∃ e ∈ t, commandOrder d e.1 = some (cid, state)}

/-- The run of a disconnect takes back what a run of `_at_connect` did. -/
structure Undoes (d : Driver) (active : Set ℕ) (connect disconnect : Run) : Prop where
  same : ordered d false disconnect.trace = ordered d true connect.trace
  restored : disconnect.device = active

/-- The operations with a disconnect in them: `_at_disconnect` itself and, in most drivers,
one that sets the modem up. -/
def Disconnects : Driver → AtOperation → Prop
  | _, .disconnect => True
  | .em350, .setup | .fml610, .setup | .mu609, .setup | .ne16u, .setup => True
  | .inne7b01, .setting | .zte7520, .setting => True
  | _, _ => False

/-- A disconnect was sent. -/
def Sent (d : Driver) (t : Trace) : Prop := ∃ e ∈ t, contextArgs d e.1 ≠ none

/-- The profiles and contexts of the modem under which a disconnect takes a connection
back. -/
def Agrees (cfg : Talk) (d : Driver) (op : AtOperation) (active : Set ℕ) : Prop :=
  if d = .ne16u ∧ op = .disconnect then
    ∀ cid, numeral (cidOf (jsonValue cfg "profile_cfg")) = some cid → cid ∉ active
  else numeral (cidOf (jsonValue cfg "profile_cfg")) = some 1 ∧ 1 ∉ active

/-- The context and the state in the commands of `_at_connect`, as the modem reads them. -/
def connectArgs (cfg : Talk) (d : Driver) : String × String :=
  let cid := cidOf (jsonValue cfg "profile_cfg")
  if d = .zte7520 ∨ d = .inne7b01 then ("1", cid) else (cid, "1")

/-- The context and the state in the commands of a disconnect. -/
def disconnectArgs (cfg : Talk) (d : Driver) (op : AtOperation) : String × String :=
  if d = .ne16u ∧ op = .disconnect then (cidOf (jsonValue cfg "profile_cfg"), "0")
  else ("1", "0")

/-- No command about a context but the ones with these arguments. -/
def OnlyArgs (d : Driver) (args : String × String) (c : Command) : Prop :=
  contextArgs d c = none ∨ contextArgs d c = some args

/-- The modem answers the library's calls as the library does. -/
theorem obeying_contextModem (d : Driver) (answers : Set ℕ → Command → Reply)
    (active : Set ℕ) (c : Command) : Obeying c (contextModem d answers active c).1 := by
  unfold Obeying contextModem
  dsimp only
  split
  · exact Or.inr rfl
  · exact Or.inl rfl

/-! ## Orders -/

/-- What a command orders is read from its two arguments. -/
theorem orderOf_of_contextArgs {d : Driver} {c : Command} {args : String × String}
    (h : contextArgs d c = some args) : commandOrder d c = contextOrder args := by
  simp [commandOrder, h]

/-- A command without a context sends no order. -/
theorem sent_cons_of_none {d : Driver} {e : Command × Reply} (t : Trace)
    (h : contextArgs d e.1 = none) : Sent d (e :: t) ↔ Sent d t := by
  simp [Sent, h]

/-- The commands of a trace with one order in it take a modem where this order does. -/
theorem foldl_obey {d : Driver} {args : String × String} {t : Trace}
    (honly : ∀ e ∈ t, OnlyArgs d args e.1) (active : Set ℕ) :
    (Sent d t → t.foldl (fun active e => obey (commandOrder d e.1) active) active =
      obey (contextOrder args) active) ∧
    (¬ Sent d t → t.foldl (fun active e => obey (commandOrder d e.1) active) active = active) := by
  induction t generalizing active with
  | nil => simp [Sent]
  | cons e t ih =>
    have htail := ih fun e he => honly e (List.mem_cons_of_mem _ he)
    rw [List.foldl_cons]
    rcases honly e List.mem_cons_self with hnone | hargs
    · have horder : commandOrder d e.1 = none := by simp [commandOrder, hnone]
      rw [horder, sent_cons_of_none t hnone]
      exact htail active
    · rw [orderOf_of_contextArgs hargs]
      have hsent : Sent d (e :: t) := ⟨e, List.mem_cons_self, by simp [hargs]⟩
      obtain ⟨hyes, hno⟩ := htail (obey (contextOrder args) active)
      refine ⟨fun _ => ?_, fun h => absurd hsent h⟩
      by_cases h : Sent d t
      · rw [hyes h, obey_obey]
      · exact hno h

/-- A run that sends one order, and no other, has the effect of that order. -/
theorem run_orders {d : Driver} {args : String × String} {p : Op Boole}
    (answers : Set ℕ → Command → Reply) (active : Set ℕ) (dev : Device)
    (honly : p.Sends (OnlyArgs d args))
    (hsent : Sent d (Script.run (contextModem d answers) p active dev).trace) :
    (∀ state, ordered d state (Script.run (contextModem d answers) p active dev).trace =
      {cid | contextOrder args = some (cid, state)}) ∧
    (Script.run (contextModem d answers) p active dev).device =
      obey (contextOrder args) active := by
  have htrace := honly.run (contextModem d answers) active dev
  have hstep : ∀ active c, (contextModem d answers active c).2 = obey (commandOrder d c) active :=
    fun _ _ => rfl
  have hdevice := Script.run_device (contextModem d answers) hstep p active dev
  obtain ⟨e, he, hargs⟩ := hsent
  have heargs : contextArgs d e.1 = some args := (htrace e he).resolve_left hargs
  constructor
  · intro state
    ext cid
    constructor
    · rintro ⟨e', he', horder⟩
      rcases htrace e' he' with hnone | hsome
      · simp [commandOrder, hnone] at horder
      · simpa [commandOrder, hsome] using horder
    · intro horder
      exact ⟨e, he, by simpa [commandOrder, heargs] using horder⟩
  · rw [hdevice]
    apply (foldl_obey htrace active).1
    exact ⟨e, he, hargs⟩

/-! ## What the operations send -/

section Sends

variable {d : Driver} {args : String × String}

/-- A command of the profile orders no context. -/
theorem onlyArgs_of_profileCommand {c : Command} (h : ProfileCommand c) :
    OnlyArgs d args c := by
  unfold ProfileCommand at h
  split at h
  · exact Or.inl rfl
  · rcases h with rfl | rfl | rfl | rfl | rfl <;> exact Or.inl rfl
  · exact h.elim

/-- Setting the profile orders no context. -/
theorem sends_profile (profile : Option Talk) (d' : Driver) :
    (setProfileset profile d').Sends (OnlyArgs d args) :=
  (sends_setProfileset profile d').mono fun _ => onlyArgs_of_profileCommand

/-- The library's own commands order no context. -/
theorem sends_usbtty (op : Usbtty) : (usbtty op).Sends (OnlyArgs d args) :=
  sends_libraryCall (Or.inl rfl) fun _ => trivial

/-- The mode commands order no context. -/
theorem sends_checkModes (modes : List Usbtty) (ret : Boole) :
    (checkModes modes ret).Sends (OnlyArgs d args) := by
  induction modes with
  | nil => exact trivial
  | cons mode modes ih => exact sends_check (sends_usbtty mode) fun _ => ih

/-- A command that completes the dialing is about the context of `connectArgs`. -/
theorem onlyArgs_dialCommand (cfg : Talk) (d : Driver) :
    OnlyArgs d (connectArgs cfg d) (dialCommand cfg d) := by
  cases d with
  | em350 =>
    unfold dialCommand Em350.dial
    dsimp only
    split <;> exact Or.inr rfl
  | inne7b01 => exact Or.inl rfl
  | _ => exact Or.inr rfl

/-- Connecting orders the context of the profile alone. -/
theorem sends_atConnect (cfg : Talk) (d : Driver) :
    (d.atConnect cfg).Sends (OnlyArgs d (connectArgs cfg d)) := by
  have hdial := onlyArgs_dialCommand cfg d
  cases d with
  | ec200x =>
    have hlast := sends_require (k := pure .ttrue) (sends_txRet hdial) trivial
    apply sends_check (sends_profile _ .ec200x)
    intro _
    apply sends_check (sends_txRet (Or.inr rfl))
    intro i
    split
    · exact sends_ec200x_rounds (Or.inl rfl) (Or.inl rfl) hlast 3 0
    · exact hlast
  | em350 =>
    apply sends_check (sends_profile _ .em350)
    intro _
    exact sends_require (sends_txRet hdial) trivial
  | fml610 =>
    apply sends_check (sends_profile _ .fml610)
    intro _
    exact sends_check (sends_txRet hdial) fun _ => trivial
  | inne7b01 =>
    apply sends_check (sends_profile _ .inne7b01)
    intro _
    apply sends_require (sends_txRet (Or.inr rfl))
    exact sends_require (sends_txRet hdial) trivial
  | mu609 =>
    apply sends_check (sends_profile _ .mu609)
    intro _
    exact sends_require (sends_txRet hdial) trivial
  | ne16u =>
    apply sends_check (sends_profile _ .ne16u)
    intro _
    apply Script.Sends.bind (sends_txRet hdial)
    intro i
    split
    · exact trivial
    · split <;> exact trivial
  | zte7520 =>
    apply sends_check (sends_profile _ .zte7520)
    intro _
    apply sends_require (sends_txRet (Or.inr rfl))
    exact sends_require (sends_txRet hdial) trivial

/-- Behind the profile an order is sent, whatever the modem does with it. -/
theorem reaches_atConnect (cfg : Talk) (d : Driver) :
    (d.atConnect cfg).Reaches Obeying fun c => contextArgs d c ≠ none := by
  have hnone : ∀ {args : String × String}, some args ≠ none := nofun
  cases d with
  | em350 =>
    apply reaches_check (ends_setProfileset _ .em350)
    intro _
    left
    unfold Em350.dial
    dsimp only
    split <;> exact hnone
  | ec200x => exact reaches_check (ends_setProfileset _ .ec200x) fun _ => Or.inl hnone
  | fml610 => exact reaches_check (ends_setProfileset _ .fml610) fun _ => Or.inl hnone
  | inne7b01 => exact reaches_check (ends_setProfileset _ .inne7b01) fun _ => Or.inl hnone
  | mu609 => exact reaches_check (ends_setProfileset _ .mu609) fun _ => Or.inl hnone
  | ne16u => exact reaches_check (ends_setProfileset _ .ne16u) fun _ => Or.inl hnone
  | zte7520 => exact reaches_check (ends_setProfileset _ .zte7520) fun _ => Or.inl hnone

/-- Disconnecting orders one context off and no other. -/
theorem sends_atDisconnect (cfg : Talk) (d : Driver) :
    (d.atDisconnect (some cfg)).Sends (OnlyArgs d (disconnectArgs cfg d .disconnect)) := by
  cases d with
  | ne16u => exact sends_require (sends_txRet (Or.inr rfl)) trivial
  | zte7520 =>
    apply sends_check (sends_txRet (Or.inr rfl))
    intro _
    exact sends_check (sends_txRet (Or.inr rfl)) fun _ => trivial
  | _ => exact sends_check (sends_txRet (Or.inr rfl)) fun _ => trivial

/-- Disconnecting gets to its order under any answers. -/
theorem reaches_atDisconnect (cfg : Talk) (d : Driver) :
    (d.atDisconnect (some cfg)).Reaches Obeying fun c => contextArgs d c ≠ none := by
  have hnone : ∀ {args : String × String}, some args ≠ none := nofun
  cases d <;> exact Or.inl hnone

/-- A round of `AT+QCFG` orders no context. -/
theorem sends_qcfgRound {item wanted : String} {done next leave : Op Boole} {t : ℕ}
    (hdone : done.Sends (OnlyArgs d args)) (hnext : next.Sends (OnlyArgs d args))
    (hleave : leave.Sends (OnlyArgs d args)) :
    (qcfgRound item wanted done t next leave).Sends (OnlyArgs d args) := by
  apply sends_modeRound (Or.inl rfl) (Or.inl rfl) _ hnext hleave
  intro i
  split
  · exact hdone
  · exact hleave

/-- The end of the setup of the NE16U orders context 1 off alone. -/
theorem sends_ne16u_setupEnd (r : Bool) :
    (Ne16u.setupEnd r).Sends (OnlyArgs .ne16u ("1", "0")) := by
  unfold Ne16u.setupEnd
  split
  · exact trivial
  · apply sends_check (sends_txRet (Or.inr rfl))
    intro _
    exact sends_check (sends_usbtty _) fun _ => trivial

/-- The IMS step of the setup of the NE16U orders context 1 off alone. -/
theorem sends_ne16u_setupIms (r : Bool) :
    (Ne16u.setupIms r).Sends (OnlyArgs .ne16u ("1", "0")) := by
  apply sends_rounds (sends_ne16u_setupEnd r)
  intro t next hnext
  exact sends_qcfgRound (sends_ne16u_setupEnd true) hnext (sends_ne16u_setupEnd r)

/-- The NAT step of the setup of the NE16U orders context 1 off alone. -/
theorem sends_ne16u_setupNat (r : Bool) :
    (Ne16u.setupNat r).Sends (OnlyArgs .ne16u ("1", "0")) := by
  apply sends_rounds (sends_ne16u_setupIms r)
  intro t next hnext
  exact sends_qcfgRound (sends_ne16u_setupIms true) hnext (sends_ne16u_setupIms r)

/-- A setup that disconnects orders context 1 off alone. -/
theorem sends_atSetup {d : Driver} (hd : Disconnects d .setup) :
    d.atSetup.Sends (OnlyArgs d ("1", "0")) := by
  have hcgsn : (check (usbtty .cgsn) fun _ => pure Boole.ttrue).Sends
      (OnlyArgs d ("1", "0")) := sends_check (sends_usbtty _) fun _ => trivial
  cases d with
  | em350 =>
    apply sends_require (sends_usbtty _)
    apply sends_require (sends_usbtty _)
    exact sends_check (sends_txRet (Or.inr rfl)) fun _ => hcgsn
  | fml610 =>
    apply sends_require (sends_usbtty _)
    apply sends_require (sends_usbtty _)
    have hend : Fml610.setupEnd.Sends (OnlyArgs .fml610 ("1", "0")) := by
      apply sends_check (sends_txRet (Or.inr rfl))
      intro _
      apply sends_check (sends_usbtty _)
      intro _
      exact sends_check (sends_usbtty _) fun _ => trivial
    apply sends_rounds hend
    intro t next hnext
    exact sends_modeRound (Or.inl rfl) (Or.inl rfl) (fun _ => trivial) hnext hend
  | mu609 =>
    apply sends_require (sends_usbtty _)
    apply sends_require (sends_usbtty _)
    exact sends_check (sends_txRet (Or.inr rfl)) fun _ => hcgsn
  | ne16u =>
    apply sends_require (sends_usbtty _)
    apply sends_require (sends_usbtty _)
    apply sends_rounds (sends_ne16u_setupNat false)
    intro t next hnext
    exact sends_qcfgRound trivial hnext (sends_ne16u_setupNat false)
  | ec200x => exact hd.elim
  | inne7b01 => exact hd.elim
  | zte7520 => exact hd.elim

/-- The network mode of the ZTE7520 orders no context. -/
theorem sends_zte7520_sysconfig (netmode : Option String) :
    (Zte7520.sysconfig netmode).Sends (OnlyArgs d args) := by
  rw [Zte7520.sysconfig, tx_bind]
  refine Script.Sends.call (Or.inl rfl) fun r => ?_
  split
  · exact trivial
  · rw [tx_bind]
    refine Script.Sends.call (Or.inl rfl) fun recv => ?_
    split
    · exact trivial
    · split
      · exact sends_txRet (Or.inl rfl)
      · exact trivial

/-- The bands of the ZTE7520 order no context. -/
theorem sends_zte7520_band (bandsets : Option String) :
    (Zte7520.band bandsets).Sends (OnlyArgs d args) := by
  unfold Zte7520.band
  split
  · exact trivial
  · dsimp only
    split
    · rw [tx_bind]
      refine Script.Sends.call (Or.inl rfl) fun r => ?_
      split
      · exact sends_txRet (Or.inl rfl)
      · exact trivial
    · exact trivial

/-- The step for the profile orders no more than what follows it. -/
theorem sends_checkProfile (d' : Driver) (profile : Option Talk) (ret : Boole)
    {k : Boole → Op Boole} (hk : ∀ ret, (k ret).Sends (OnlyArgs d args)) :
    (checkProfile (setProfileset · d') profile ret k).Sends (OnlyArgs d args) := by
  unfold checkProfile
  split
  · exact hk ret
  · exact sends_check (sends_profile _ d') fun i => hk _

/-- A setting that disconnects orders context 1 off alone. -/
theorem sends_atSetting (unescape : Unescape) (cfg : Talk) {d : Driver}
    (hd : Disconnects d .setting) :
    (d.atSetting unescape (some cfg)).Sends (OnlyArgs d ("1", "0")) := by
  cases d with
  | inne7b01 =>
    apply sends_check (sends_txRet (Or.inr rfl))
    intro _
    apply sends_check (sends_txRet (Or.inr rfl))
    intro _
    exact sends_checkProfile .inne7b01 _ _ fun ret => sends_checkModes _ ret
  | zte7520 =>
    apply sends_check (sends_txRet (Or.inr rfl))
    intro _
    apply sends_check (sends_txRet (Or.inr rfl))
    intro _
    apply sends_check (sends_zte7520_sysconfig _)
    intro i
    apply sends_check (sends_zte7520_band _)
    intro _
    exact sends_checkProfile .zte7520 _ _ fun ret => sends_checkModes _ ret
  | ec200x => exact hd.elim
  | em350 => exact hd.elim
  | fml610 => exact hd.elim
  | mu609 => exact hd.elim
  | ne16u => exact hd.elim

end Sends

/-- An operation that disconnects orders one context off alone. -/
theorem sends_script (unescape : Unescape) (cfg : Talk) {d : Driver} {op : AtOperation}
    (hop : Disconnects d op) :
    (d.script unescape (some cfg) op).Sends (OnlyArgs d (disconnectArgs cfg d op)) := by
  cases op with
  | disconnect => exact sends_atDisconnect cfg d
  | setup =>
    rw [disconnectArgs, if_neg (by simp)]
    exact sends_atSetup hop
  | setting =>
    rw [disconnectArgs, if_neg (by simp)]
    exact sends_atSetting unescape cfg hop
  | _ => cases d <;> exact hop.elim

/-! ## Connect and disconnect -/

section Undone

variable (answers : Set ℕ → Command → Reply) (unescape : Unescape) (cfg : Talk)
  {d : Driver} {op : AtOperation} (active : Set ℕ) (dev : Device)

/-- The two runs against a modem that obeys. -/
def connectRun (d : Driver) : Run :=
  Script.run (contextModem d answers) (d.atConnect cfg) active dev

def disconnectRun (d : Driver) (op : AtOperation) : Run :=
  let o := connectRun answers cfg active dev d
  Script.run (contextModem d answers) (d.script unescape (some cfg) op) o.device o.store

/-- The two orders decide. -/
theorem undoes_iff_orders (hop : Disconnects d op)
    (hsent : Sent d (disconnectRun answers unescape cfg active dev d op).trace) :
    Undoes d active (connectRun answers cfg active dev d)
        (disconnectRun answers unescape cfg active dev d op) ↔
      ({cid | contextOrder (disconnectArgs cfg d op) = some (cid, false)} =
        {cid | contextOrder (connectArgs cfg d) = some (cid, true)}) ∧
      obey (contextOrder (disconnectArgs cfg d op))
        (obey (contextOrder (connectArgs cfg d)) active) = active := by
  have hreach := (reaches_atConnect cfg d).run (contextModem d answers)
    (obeying_contextModem d answers) active dev
  obtain ⟨hon, hdevice⟩ := run_orders answers active dev (sends_atConnect cfg d) hreach
  obtain ⟨hoff, hend⟩ := run_orders answers _ _ (sends_script unescape cfg hop) hsent
  have hend' : (disconnectRun answers unescape cfg active dev d op).device =
      obey (contextOrder (disconnectArgs cfg d op))
        (obey (contextOrder (connectArgs cfg d)) active) :=
    hend.trans (congrArg (obey _) hdevice)
  constructor
  · rintro ⟨hsame, hrestored⟩
    exact ⟨(hoff false).symm.trans (hsame.trans (hon true)), hend'.symm.trans hrestored⟩
  · rintro ⟨hsame, hrestored⟩
    exact ⟨(hoff false).trans (hsame.trans (hon true).symm), hend'.trans hrestored⟩

/-- The argument 1 orders a context on. -/
theorem contextOrder_one (cid : String) :
    contextOrder (cid, "1") = (numeral cid).map (·, true) := by
  have hstate : numeral "1" = some 1 := by decide
  cases h : numeral cid <;> simp [contextOrder, h, hstate]

/-- The argument 0 orders a context off. -/
theorem contextOrder_zero (cid : String) :
    contextOrder (cid, "0") = (numeral cid).map (·, false) := by
  have hstate : numeral "0" = some 0 := by decide
  cases h : numeral cid <;> simp [contextOrder, h, hstate]

/-- `_at_connect` orders context 1 on exactly when the profile has this context, also where
context and state are exchanged. -/
theorem connectOrder_one_iff (cfg : Talk) (d : Driver) :
    contextOrder (connectArgs cfg d) = some (1, true) ↔
      numeral (cidOf (jsonValue cfg "profile_cfg")) = some 1 := by
  unfold connectArgs
  dsimp only
  split
  · have hcid : numeral "1" = some 1 := by decide
    unfold contextOrder
    rw [hcid]
    dsimp only
    generalize numeral (cidOf (jsonValue cfg "profile_cfg")) = state
    constructor
    · intro h
      split at h
      · assumption
      · simp at h
      · simp at h
    · rintro rfl
      rfl
  · rw [contextOrder_one]
    simp

/-- A context that is switched on and off again is as before when it was off. -/
theorem insert_diff_iff (cid : ℕ) : insert cid active \ {cid} = active ↔ cid ∉ active := by
  constructor
  · intro h hmem
    rw [← h] at hmem
    exact hmem.2 rfl
  · intro h
    ext c
    constructor
    · rintro ⟨hmem, hne⟩
      exact hmem.resolve_left hne
    · intro hmem
      refine ⟨Or.inr hmem, ?_⟩
      rintro rfl
      exact h hmem

/-- An order for context 1 undoes exactly the one that turned it on. -/
theorem undoes_order_one_iff (order : Option (ℕ × Bool)) :
    ({cid | some (1, false) = some (cid, false)} = {cid | order = some (cid, true)}) ∧
        obey (some (1, false)) (obey order active) = active ↔
      order = some (1, true) ∧ 1 ∉ active := by
  constructor
  · rintro ⟨hsame, hrestored⟩
    have horder : order = some (1, true) := by
      have hmem : (1 : ℕ) ∈ {cid | some (1, false) = some (cid, false)} := rfl
      rw [hsame] at hmem
      exact hmem
    rw [horder] at hrestored
    exact ⟨horder, (insert_diff_iff active 1).mp hrestored⟩
  · rintro ⟨rfl, hactive⟩
    refine ⟨?_, (insert_diff_iff active 1).mpr hactive⟩
    ext cid
    simp

/-- An order for a context undoes the one for it where it was off before. -/
theorem undoes_own_order_iff (cid : Option ℕ) :
    ({c | cid.map (·, false) = some (c, false)} = {c | cid.map (·, true) = some (c, true)}) ∧
        obey (cid.map (·, false)) (obey (cid.map (·, true)) active) = active ↔
      ∀ c, cid = some c → c ∉ active := by
  cases cid with
  | none => simp [obey]
  | some c =>
    have hsame : {c' | (some c).map (·, false) = some (c', false)} =
        {c' | (some c).map (·, true) = some (c', true)} := by
      ext c'
      simp
    rw [and_iff_right hsame]
    refine (insert_diff_iff active c).trans ?_
    simp

/-- From any set of active contexts, with any profile and against any modem that obeys, a
disconnect takes the connection back exactly when it agrees with the profile. -/
theorem disconnect_undoes_iff (hop : Disconnects d op)
    (hsent : op ≠ .disconnect →
      Sent d (disconnectRun answers unescape cfg active dev d op).trace) :
    Undoes d active (connectRun answers cfg active dev d)
        (disconnectRun answers unescape cfg active dev d op) ↔
      Agrees cfg d op active := by
  have hsent' : Sent d (disconnectRun answers unescape cfg active dev d op).trace := by
    cases op with
    | disconnect =>
      exact (reaches_atDisconnect cfg d).run _ (obeying_contextModem d answers) _ _
    | _ => exact hsent nofun
  rw [undoes_iff_orders answers unescape cfg active dev hop hsent']
  by_cases hown : d = .ne16u ∧ op = .disconnect
  · -- the NE16U orders the context of the profile off
    obtain ⟨rfl, rfl⟩ := hown
    have hagrees : Agrees cfg .ne16u .disconnect active ↔ ∀ cid,
        numeral (cidOf (jsonValue cfg "profile_cfg")) = some cid → cid ∉ active := Iff.rfl
    rw [hagrees, ← undoes_own_order_iff, ← contextOrder_zero, ← contextOrder_one]
    exact Iff.rfl
  · unfold Agrees disconnectArgs
    rw [if_neg hown, if_neg hown, ← connectOrder_one_iff cfg d]
    exact undoes_order_one_iff active _

end Undone

/-- A modem that obeys and says nothing. -/
def silent (_ : Set ℕ) (_ : Command) : Reply := ⟨.succeed, [], [], 0⟩

/-- The EM350 with a profile for context 1 disconnects it when it is set up again. -/
theorem disconnect_undoes_context_one :
    Undoes .em350 ∅ (connectRun silent (.json []) ∅ (fun _ => none) .em350)
      (disconnectRun silent some (.json []) ∅ (fun _ => none) .em350 .setup) :=
  have hop : Disconnects .em350 .setup := trivial
  (disconnect_undoes_iff silent some (.json []) ∅ (fun _ => none) hop fun _ =>
    ⟨(.set .ndisdup [.raw "1", .raw "0"], ⟨.succeed, [], [], 0⟩), by decide, nofun⟩).mpr
    ⟨by decide, Set.notMem_empty 1⟩

/-- The EM350 with a profile for context 2 leaves it active and disconnects context 1. -/
theorem disconnect_leaves_context_two :
    ¬ Undoes .em350 ∅
      (connectRun silent (.json [("profile_cfg", .json [("cid", .text "2")])]) ∅
        (fun _ => none) .em350)
      (disconnectRun silent some (.json [("profile_cfg", .json [("cid", .text "2")])]) ∅
        (fun _ => none) .em350 .disconnect) := by
  intro h
  have hon : (2 : ℕ) ∈ ordered .em350 true (connectRun silent
      (.json [("profile_cfg", .json [("cid", .text "2")])]) ∅ (fun _ => none) .em350).trace :=
    ⟨(.set .ndisdup [.raw "2", .raw "1", .quoted ""], ⟨.succeed, [], [], 0⟩), by decide,
      by decide⟩
  rw [← h.same] at hon
  obtain ⟨e, he, horder⟩ := hon
  have htrace : (disconnectRun silent some
      (.json [("profile_cfg", .json [("cid", .text "2")])]) ∅ (fun _ => none) .em350
      .disconnect).trace =
      [(.set .ndisdup [.raw "1", .raw "0"], ⟨.succeed, [], [], 0⟩)] := rfl
  rw [htrace, List.mem_singleton] at he
  subst he
  revert horder
  decide

end Tiger.Analysis.ConnectUndone
