import Tiger.Analysis.ScriptRules

/-!
# What `_at_connect` returns

A run of `_at_connect` is `ttrue`, `terror` or `tfalse`, and which of the three the
exchanges of the run decide: every driver has exchanges on which it returns `terror` and
others on which it returns `ttrue` (`value_terror_iff`, `value_ttrue_iff`).

`contract_iff` compares these with a port error and with a dial command that succeeded.
They are the same in four drivers. The NE16U reads the dial command the wrong way round,
the FML610 does not look at a refusal, and the EC200X does not look at a failed reading.
-/

set_option autoImplicit false

namespace Tiger.Analysis.ConnectContract

open Tiger.Library Tiger.Model Tiger.Analysis.ScriptDiscipline

/-- The command that completes the dialing. The ones in front of it have succeeded when it
is sent; the EC200X also goes on to it when its first one was refused and there is an
address. -/
def dialCommand (cfg : Talk) (d : Driver) : Command :=
  let profile := jsonValue cfg "profile_cfg"
  match d with
  | .ec200x => .set .qnetdevctl [.raw "1", .raw (cidOf profile), .raw "1"]
  | .em350 => Em350.dial profile
  | .fml610 => .set .gtrndis [.raw "1", .raw (cidOf profile)]
  | .inne7b01 => .set .dhcpctrl [.raw "1"]
  | .mu609 => Mu609.dial profile
  | .ne16u => .set .qnetdevctl [.raw (cidOf profile), .raw "1", .raw "1"]
  | .zte7520 => .set .zgact [.raw (cidOf profile), .raw "1"]

/-- The exchanges of a run. -/
abbrev Trace := List (Command × Reply)

/-- The dial command succeeded. -/
def Dialed (cfg : Talk) (d : Driver) (t : Trace) : Prop :=
  ∃ e ∈ t, e.1 = dialCommand cfg d ∧ e.2.ret = .succeed

/-- A call reported a port error. -/
def PortError (t : Trace) : Prop := ∃ e ∈ t, e.2.ret = .error

/-- The contract: `ttrue` says that the dial command succeeded, `terror` that a call
reported a port error, and `tfalse` stands for everything else. -/
structure Contract {M : Type} (cfg : Talk) (d : Driver)
    (o : Script.Outcome Command Reply String String Boole M) : Prop where
  ttrue : o.value = .ttrue ↔ Dialed cfg d o.trace
  terror : o.value = .terror ↔ PortError o.trace
  tfalse : ¬ Dialed cfg d o.trace → ¬ PortError o.trace → o.value = .tfalse

/-- The replies under which a driver keeps the contract. -/
def Agreeing (cfg : Talk) (d : Driver) (t : Trace) : Prop :=
  match d with
  | .ec200x => (∃ e ∈ t, e.1 = .rx ∧ e.2.ret = .error) →
      ∃ e ∈ t, e.1 ≠ .rx ∧ e.2.ret = .error
  | .fml610 => ∀ e ∈ t, e.1 = dialCommand cfg d →
      e.2.ret = .succeed ∨ e.2.ret = .error ∨ e.2.ret = .term
  | .ne16u => ∀ e ∈ t, e.1 = dialCommand cfg d → e.2.ret = .error
  | .em350 | .inne7b01 | .mu609 | .zte7520 => True

/-! ## The steps -/

/-- The commands that write a profile. -/
def ProfileCommand : Command → Prop
  | .cgdcont _ _ _ => True
  | .set name _ =>
    name = .qicsgp ∨ name = .qctpwdcfg ∨ name = .mgauth ∨ name = .zgpcoauth ∨
      name = .authdata
  | _ => False

/-- A port error of a call, where the driver looks at it. -/
def IsError (d : Driver) (c : Command) (r : Reply) : Prop :=
  r.ret = .error ∧ (d = .ec200x → c ≠ .rx)

/-- The reply to the dial command under which a driver returns `ttrue`. -/
def IsDialed (cfg : Talk) (d : Driver) (c : Command) (r : Reply) : Prop :=
  c = dialCommand cfg d ∧
    match d with
    | .fml610 => r.ret ≠ .error ∧ r.ret ≠ .term
    | .ne16u => r.ret ≠ .error ∧ r.ret ≠ .succeed
    | _ => r.ret = .succeed

/-- Nothing at all. -/
abbrev Never (_ : Command) (_ : Reply) : Prop := False

section Steps

variable {d : Driver} {event : Command → Reply → Prop} {W : Boole → Prop}

/-- A command of a driver fails when its reply says so. -/
theorem isError_iff {c : Command} (hc : c ≠ .rx) (r : Reply) :
    IsError d c r ↔ r.ret = .error :=
  ⟨fun h => h.1, fun h => ⟨h, fun _ => hc⟩⟩

/-- A step that hands every value on. -/
theorem reports_txRet {c : Command} (hc : c ≠ .rx) :
    (txRet c).Reports (IsError d) (· = .error) :=
  Script.Reports.call (fun r h => (isError_iff hc r).mp h) fun r h h' =>
    h ((isError_iff hc r).mpr h')

/-- A definition of a context returns the error of the library. -/
theorem reports_usbttyCgdcont (cid : String) (iptype apn : Option String) :
    (usbttyCgdcont cid iptype apn).Reports (IsError d) (· = .error) := by
  rw [usbttyCgdcont, libraryCall_bind]
  refine Script.Reports.call (fun r h => ?_) fun r h => ?_
  · exact Script.quiet_puts r.edits h.1
  · refine (Script.quiet_puts' r.edits).reports_bind fun _ h' => h ?_
    exact ⟨h', fun _ => nofun⟩

/-- A step that is relayed reports an error. -/
theorem reports_relay {p : Op Ret} {k : Ret → Op Ret}
    (hp : p.Reports (IsError d) (· = .error))
    (hk : ∀ i, (k i).Reports (IsError d) (· = .error)) :
    (relay p k).Reports (IsError d) (· = .error) := by
  refine Script.Reports.bind hp (fun i hi => ?_) fun i hi => ?_
  · rw [if_pos (Or.inl hi)]
    exact hi
  · split
    · exact hi
    · exact hk i

/-- A step that is checked turns an error into `terror`. -/
theorem reports_check {p : Op Ret} {k : Ret → Op Boole}
    (hp : p.Reports (IsError d) (· = .error))
    (hk : ∀ i, (k i).Reports (IsError d) (· = .terror)) :
    (check p k).Reports (IsError d) (· = .terror) := by
  refine Script.Reports.bind hp (fun i hi => ?_) fun i hi => ?_
  · rw [if_pos hi]
    exact (rfl : Boole.terror = .terror)
  · rw [if_neg hi]
    split
    · exact (nofun : ¬ Boole.tfalse = .terror)
    · exact hk i

/-- A checked step without the event reports what follows it. -/
theorem reports_check_never {p : Op Ret} {k : Ret → Op Boole} (herror : ¬ W .terror)
    (hfalse : ¬ W .tfalse) (hp : p.Reports event fun _ => False)
    (hk : ∀ i, (k i).Reports event W) : (check p k).Reports event W := by
  refine Script.Reports.bind hp (fun i hi => hi.elim) fun i _ => ?_
  split
  · exact herror
  · split
    · exact hfalse
    · exact hk i

/-- A command that cannot be the event reports nothing. -/
theorem reports_txRet_never {c : Command} (hc : ∀ r, ¬ event c r) :
    (txRet c).Reports event fun _ => False :=
  Script.Reports.call (fun r h => hc r h) fun _ _ => id

/-- A required step turns an error into `terror`. -/
theorem reports_require {c : Command} (hc : c ≠ .rx) {k : Op Boole}
    (hk : k.Reports (IsError d) (· = .terror)) :
    (require (txRet c) k).Reports (IsError d) (· = .terror) := by
  refine Script.Reports.bind (reports_txRet hc) (fun i hi => ?_) fun i hi => ?_
  · rw [if_pos hi]
    exact (rfl : Boole.terror = .terror)
  · rw [if_neg hi]
    split
    · exact (nofun : ¬ Boole.tfalse = .terror)
    · exact hk

/-- A required step without the event reports what follows it. -/
theorem reports_require_never {c : Command} (hc : ∀ r, ¬ event c r) {k : Op Boole}
    (herror : ¬ W .terror) (hfalse : ¬ W .tfalse) (hk : k.Reports event W) :
    (require (txRet c) k).Reports event W := by
  refine Script.Reports.bind (reports_txRet_never hc) (fun i hi => hi.elim) fun i _ => ?_
  split
  · exact herror
  · split
    · exact hfalse
    · exact hk

/-- The last step of a dialing that has to succeed. -/
theorem reports_require_dialed {c : Command} (hc : ∀ r, event c r ↔ r.ret = .succeed) :
    (require (txRet c) (pure .ttrue)).Reports event (· = .ttrue) := by
  rw [require, txRet_bind]
  refine Script.Reports.call (fun r h => ?_) fun r h => ?_
  · have hr := (hc r).mp h
    rw [if_neg (by rw [hr]; decide), if_neg (by rw [hr]; decide)]
    exact (rfl : Boole.ttrue = .ttrue)
  · split
    · exact (nofun : ¬ Boole.terror = .ttrue)
    · rw [if_pos fun hr => h ((hc r).mpr hr)]
      exact (nofun : ¬ Boole.tfalse = .ttrue)

/-- A loop reports when each of its turns and what follows it do. -/
theorem reports_rounds {body : ℕ → Op Boole → Op Boole → Op Boole} {after : Op Boole}
    (hafter : after.Reports event W)
    (hbody : ∀ t next, next.Reports event W → (body t next after).Reports event W)
    (left t : ℕ) : (rounds body after left t).Reports event W := by
  induction left generalizing t with
  | zero => exact hafter
  | succ left ih => exact hbody t _ (ih (t + 1))

end Steps

/-! ## The profile -/

/-- Counting a success makes no error. -/
theorem counted_ne_error {ret : Ret} (hret : ret ≠ .error) (i : Ret) :
    counted ret i ≠ .error := by
  unfold counted
  split
  · decide
  · exact hret

section Profile

variable {d : Driver}

/-- The additional contexts report an error. -/
theorem reports_setCids (profile : Option Talk) (cids : List (String × Talk)) {ret : Ret}
    (hret : ret ≠ .error) : (setCids profile cids ret).Reports (IsError d) (· = .error) := by
  induction cids generalizing ret with
  | nil => exact hret
  | cons e cids ih =>
    refine reports_relay (reports_usbttyCgdcont _ _ _) fun i => ih ?_
    exact counted_ne_error hret i

/-- The contexts of a profile report an error. -/
theorem reports_setContexts (profile : Option Talk) (iptype : Option String) {ret : Ret}
    (hret : ret ≠ .error) :
    (setContexts profile iptype ret).Reports (IsError d) (· = .error) := by
  unfold setContexts
  dsimp only
  split
  · exact reports_relay (reports_usbttyCgdcont _ _ _) fun i =>
      reports_setCids _ _ (counted_ne_error hret i)
  · exact reports_setCids _ _ hret

/-- The older authentication reports an error. -/
theorem reports_qicsgp (cid iptype : String) (apn : Option String) (login : Login) :
    (qicsgp cid iptype apn login).Reports (IsError d) (· = .error) := by
  rw [qicsgp, tx_bind]
  refine Script.Reports.call (fun r h => ?_) fun r h => ?_
  · rw [if_pos (by rw [h.1]; decide)]
    exact h.1
  · have hr : r.ret ≠ .error := fun hr => h ⟨hr, fun _ => nofun⟩
    split
    · exact hr
    · split
      · exact (nofun : ¬ Ret.failed = .error)
      · exact reports_relay (reports_txRet nofun) fun _ => reports_txRet nofun

/-- `set_profileset` of a driver. -/
def setProfileset (profile : Option Talk) : Driver → Op Ret
  | .ec200x => Ec200x.setProfileset profile
  | .em350 => Em350.setProfileset profile
  | .fml610 => Fml610.setProfileset profile
  | .inne7b01 => Inne7b01.setProfileset profile
  | .mu609 => Mu609.setProfileset profile
  | .ne16u => Ne16u.setProfileset profile
  | .zte7520 => Zte7520.setProfileset profile

/-- Setting the profile reports an error in every driver. -/
theorem reports_setProfileset (profile : Option Talk) (d : Driver) :
    (setProfileset profile d).Reports (IsError d) (· = .error) := by
  have hne : Ret.failed ≠ .error := nofun
  have hcontexts : ∀ iptype i, (setContexts profile iptype (counted .failed i)).Reports
      (IsError d) (· = .error) :=
    fun iptype i => reports_setContexts profile iptype (counted_ne_error hne i)
  have hfailed : ∀ iptype, (setContexts profile iptype .failed).Reports (IsError d)
      (· = .error) := fun iptype => reports_setContexts profile iptype hne
  cases d with
  | ec200x => exact reports_relay (reports_qicsgp _ _ _ _) fun i => hcontexts _ i
  | em350 =>
    refine Script.Reports.bind (reports_txRet nofun) (fun i hi => ?_) fun i hi => ?_
    · rw [if_pos hi]
      exact (rfl : Ret.error = .error)
    · rw [if_neg hi]
      exact hfailed _
  | fml610 =>
    refine reports_relay (reports_txRet ?_) fun i => hcontexts _ i
    unfold Fml610.mgauth
    split <;> nofun
  | inne7b01 => exact reports_relay (reports_txRet nofun) fun _ => hfailed _
  | mu609 => exact hfailed _
  | ne16u => exact reports_relay (reports_qicsgp _ _ _ _) fun i => hcontexts _ i
  | zte7520 => exact reports_relay (reports_txRet nofun) fun _ => hfailed _

end Profile

/-- One command sends that command. -/
theorem sends_txRet {P : Command → Prop} {c : Command} (hc : P c) : (txRet c).Sends P :=
  ⟨hc, fun _ => trivial⟩

/-- A relayed step sends what it and what follows send. -/
theorem sends_relay {P : Command → Prop} {p : Op Ret} {k : Ret → Op Ret} (hp : p.Sends P)
    (hk : ∀ i, (k i).Sends P) : (relay p k).Sends P := by
  refine Script.Sends.bind hp fun i => ?_
  split
  · exact trivial
  · exact hk i

/-- A definition of a context is a command of the profile. -/
theorem sends_usbttyCgdcont (cid : String) (iptype apn : Option String) :
    (usbttyCgdcont cid iptype apn).Sends ProfileCommand := by
  rw [usbttyCgdcont, libraryCall_bind]
  exact ⟨trivial, fun r => (Script.quiet_puts' r.edits).sends.bind fun _ => trivial⟩

/-- The additional contexts are commands of the profile. -/
theorem sends_setCids (profile : Option Talk) (cids : List (String × Talk)) (ret : Ret) :
    (setCids profile cids ret).Sends ProfileCommand := by
  induction cids generalizing ret with
  | nil => exact trivial
  | cons e cids ih => exact sends_relay (sends_usbttyCgdcont _ _ _) fun i => ih _

/-- The contexts of a profile are commands of the profile. -/
theorem sends_setContexts (profile : Option Talk) (iptype : Option String) (ret : Ret) :
    (setContexts profile iptype ret).Sends ProfileCommand := by
  unfold setContexts
  dsimp only
  split
  · exact sends_relay (sends_usbttyCgdcont _ _ _) fun i => sends_setCids _ _ _
  · exact sends_setCids _ _ _

/-- The older authentication is a command of the profile. -/
theorem sends_qicsgp (cid iptype : String) (apn : Option String) (login : Login) :
    (qicsgp cid iptype apn login).Sends ProfileCommand := by
  rw [qicsgp, tx_bind]
  refine Script.Sends.call (by simp [ProfileCommand]) fun r => ?_
  split
  · exact trivial
  · split
    · exact trivial
    · exact sends_relay (sends_txRet (by simp [ProfileCommand])) fun _ =>
        sends_txRet (by simp [ProfileCommand])

/-- A profile is written with its own commands only. -/
theorem sends_setProfileset (profile : Option Talk) (d : Driver) :
    (setProfileset profile d).Sends ProfileCommand := by
  cases d with
  | ec200x => exact sends_relay (sends_qicsgp _ _ _ _) fun i => sends_setContexts _ _ _
  | em350 =>
    refine Script.Sends.bind (sends_txRet (by simp [ProfileCommand])) fun i => ?_
    split
    · exact trivial
    · exact sends_setContexts _ _ _
  | fml610 =>
    refine sends_relay (sends_txRet ?_) fun i => sends_setContexts _ _ _
    unfold Fml610.mgauth
    split <;> simp [ProfileCommand]
  | inne7b01 =>
    exact sends_relay (sends_txRet (by simp [ProfileCommand])) fun _ => sends_setContexts _ _ _
  | mu609 => exact sends_setContexts _ _ _
  | ne16u => exact sends_relay (sends_qicsgp _ _ _ _) fun i => sends_setContexts _ _ _
  | zte7520 =>
    exact sends_relay (sends_txRet (by simp [ProfileCommand])) fun _ => sends_setContexts _ _ _

/-- Dialling is no command of the profile. -/
theorem not_profileCommand_dialCommand (cfg : Talk) (d : Driver) :
    ¬ ProfileCommand (dialCommand cfg d) := by
  cases d with
  | em350 =>
    unfold dialCommand Em350.dial
    dsimp only
    split <;> simp [ProfileCommand]
  | mu609 => simp [ProfileCommand, dialCommand, Mu609.dial]
  | _ => simp [ProfileCommand, dialCommand]

/-- Dialling is a command with a text. -/
theorem dialCommand_ne_rx (cfg : Talk) (d : Driver) : dialCommand cfg d ≠ .rx := by
  cases d with
  | em350 =>
    unfold dialCommand Em350.dial
    dsimp only
    split <;> nofun
  | _ => nofun

/-! ## The values -/

/-- Setting the profile does not dial. -/
theorem reports_setProfileset_never (cfg : Talk) (d : Driver)
    (event : Command → Reply → Prop) (hevent : ∀ c r, event c r → c = dialCommand cfg d)
    (profile : Option Talk) :
    (setProfileset profile d).Reports event fun _ => False := by
  refine (sends_setProfileset profile d).reports fun c r hc h => ?_
  rw [hevent c r h] at hc
  exact not_profileCommand_dialCommand cfg d hc

/-- `terror` stands for a port error. -/
theorem reports_terror (cfg : Talk) (d : Driver) :
    (d.atConnect cfg).Reports (IsError d) (· = .terror) := by
  have htrue : ∀ d, (pure .ttrue : Op Boole).Reports (IsError d) (· = .terror) :=
    fun d => (Script.reports_done (IsError d) (· = .terror) Boole.ttrue).mpr nofun
  have hfalse : ∀ d, (pure .tfalse : Op Boole).Reports (IsError d) (· = .terror) :=
    fun d => (Script.reports_done (IsError d) (· = .terror) Boole.tfalse).mpr nofun
  cases d with
  | ec200x =>
    refine reports_check (reports_setProfileset _ .ec200x) fun _ => ?_
    refine reports_check (reports_txRet (by nofun)) fun i => ?_
    have hdial := reports_require (d := .ec200x) (c := dialCommand cfg .ec200x) (by nofun) (htrue _)
    split
    · refine reports_rounds (hfalse _) (fun t next hnext => ?_) 3 0
      refine reports_check (reports_txRet (by nofun)) fun _ => ?_
      rw [tx_bind]
      refine Script.Reports.call (fun r h => absurd rfl (h.2 rfl)) fun r _ => ?_
      split
      · exact hdial
      · exact hnext
    · exact hdial
  | em350 =>
    exact reports_check (reports_setProfileset _ .em350) fun _ =>
      reports_require (dialCommand_ne_rx cfg .em350) (htrue _)
  | fml610 =>
    exact reports_check (reports_setProfileset _ .fml610) fun _ =>
      reports_check (reports_txRet (by nofun)) fun _ => htrue _
  | inne7b01 =>
    exact reports_check (reports_setProfileset _ .inne7b01) fun _ =>
      reports_require (by nofun) (reports_require (by nofun) (htrue _))
  | mu609 =>
    exact reports_check (reports_setProfileset _ .mu609) fun _ =>
      reports_require (by nofun) (htrue _)
  | ne16u =>
    refine reports_check (reports_setProfileset _ .ne16u) fun _ => ?_
    refine Script.Reports.bind (reports_txRet (by nofun)) (fun i hi => ?_) fun i hi => ?_
    · rw [if_pos hi]
      exact (rfl : Boole.terror = .terror)
    · rw [if_neg hi]
      split
      · exact hfalse _
      · exact htrue _
  | zte7520 =>
    exact reports_check (reports_setProfileset _ .zte7520) fun _ =>
      reports_require (by nofun) (reports_require (by nofun) (htrue _))

/-- `ttrue` stands for a reply to the dial command. -/
theorem reports_ttrue (cfg : Talk) (d : Driver) :
    (d.atConnect cfg).Reports (IsDialed cfg d) (· = .ttrue) := by
  have herror : ¬ Boole.terror = .ttrue := nofun
  have hfalse : ¬ Boole.tfalse = .ttrue := nofun
  have hprofile := reports_setProfileset_never cfg d (IsDialed cfg d)
    (fun _ _ h => h.1) (jsonValue cfg "profile_cfg")
  cases d with
  | ec200x =>
    have hdial : (require (txRet (dialCommand cfg .ec200x)) (pure .ttrue)).Reports
        (IsDialed cfg .ec200x) (· = .ttrue) :=
      reports_require_dialed fun r => and_iff_right rfl
    refine reports_check_never herror hfalse hprofile fun _ => ?_
    refine reports_check_never herror hfalse (reports_txRet_never ?_) fun i => ?_
    · exact fun r h => nomatch h.1
    split
    · have hafter : (pure .tfalse : Op Boole).Reports (IsDialed cfg .ec200x) (· = .ttrue) :=
        (Script.reports_done _ (· = Boole.ttrue) _).mpr hfalse
      refine reports_rounds hafter (fun t next hnext => ?_) 3 0
      refine reports_check_never herror hfalse (reports_txRet_never ?_) fun _ => ?_
      · exact fun r h => nomatch h.1
      rw [tx_bind]
      refine Script.Reports.call (fun r h => nomatch h.1) fun r _ => ?_
      split
      · exact hdial
      · exact hnext
    · exact hdial
  | em350 =>
    exact reports_check_never herror hfalse hprofile fun _ =>
      reports_require_dialed fun r => and_iff_right rfl
  | fml610 =>
    refine reports_check_never herror hfalse hprofile fun _ => ?_
    rw [check, txRet_bind]
    refine Script.Reports.call (fun r h => ?_) fun r h => ?_
    · rw [if_neg h.2.1, if_neg h.2.2]
      exact (rfl : Boole.ttrue = .ttrue)
    · split
      · exact herror
      · next hne =>
        split
        · exact hfalse
        · next hne' => exact absurd ⟨rfl, hne, hne'⟩ h
  | inne7b01 =>
    exact reports_check_never herror hfalse hprofile fun _ =>
      reports_require_never (fun r h => nomatch h.1) herror hfalse
        (reports_require_dialed fun r => and_iff_right rfl)
  | mu609 =>
    exact reports_check_never herror hfalse hprofile fun _ =>
      reports_require_dialed fun r => and_iff_right rfl
  | ne16u =>
    refine reports_check_never herror hfalse hprofile fun _ => ?_
    rw [txRet_bind]
    refine Script.Reports.call (fun r h => ?_) fun r h => ?_
    · rw [if_neg h.2.1, if_neg h.2.2]
      exact (rfl : Boole.ttrue = .ttrue)
    · split
      · exact herror
      · next hne =>
        split
        · exact hfalse
        · next hne' => exact absurd ⟨rfl, hne, hne'⟩ h
  | zte7520 =>
    refine reports_check_never herror hfalse hprofile fun _ => ?_
    refine reports_require_never (fun r h => ?_) herror hfalse
      (reports_require_dialed fun r => and_iff_right rfl)
    exact absurd h.1 (by simp [dialCommand])

/-- There is no other value than the three. -/
theorem reports_null (cfg : Talk) (d : Driver) :
    (d.atConnect cfg).Reports Never (· = .null) := by
  have herror : ¬ Boole.terror = .null := nofun
  have hfalse : ¬ Boole.tfalse = .null := nofun
  have htrue : (pure .ttrue : Op Boole).Reports Never (· = .null) :=
    (Script.reports_done Never (· = .null) Boole.ttrue).mpr nofun
  have hprofile := reports_setProfileset_never cfg d Never (fun _ _ h => h.elim)
    (jsonValue cfg "profile_cfg")
  have htx : ∀ c, (txRet c).Reports Never fun _ => False :=
    fun c => reports_txRet_never fun _ => id
  have hlast : ∀ c, (require (txRet c) (pure .ttrue)).Reports Never (· = .null) :=
    fun c => reports_require_never (fun _ => id) herror hfalse htrue
  cases d with
  | ec200x =>
    refine reports_check_never herror hfalse hprofile fun _ => ?_
    refine reports_check_never herror hfalse (htx _) fun i => ?_
    split
    · have hafter : (pure .tfalse : Op Boole).Reports Never (· = .null) :=
        (Script.reports_done _ (· = Boole.null) _).mpr hfalse
      refine reports_rounds hafter (fun t next hnext => ?_) 3 0
      refine reports_check_never herror hfalse (htx _) fun _ => ?_
      rw [tx_bind]
      refine Script.Reports.call (fun r h => h.elim) fun r _ => ?_
      split
      · exact hlast _
      · exact hnext
    · exact hlast _
  | em350 => exact reports_check_never herror hfalse hprofile fun _ => hlast _
  | fml610 =>
    exact reports_check_never herror hfalse hprofile fun _ =>
      reports_check_never herror hfalse (htx _) fun _ => htrue
  | inne7b01 =>
    exact reports_check_never herror hfalse hprofile fun _ =>
      reports_require_never (fun _ => id) herror hfalse (hlast _)
  | mu609 => exact reports_check_never herror hfalse hprofile fun _ => hlast _
  | ne16u =>
    refine reports_check_never herror hfalse hprofile fun _ => ?_
    refine Script.Reports.bind (htx _) (fun _ h => h.elim) fun i _ => ?_
    split
    · exact herror
    · split
      · exact hfalse
      · exact htrue
  | zte7520 =>
    exact reports_check_never herror hfalse hprofile fun _ =>
      reports_require_never (fun _ => id) herror hfalse (hlast _)

/-! ## The contract -/

/-- Nothing is sent after the dial command. -/
def lastRule (cfg : Talk) (d : Driver) : Script.Discipline Command Reply Boole where
  stop := fun c _ => c = dialCommand cfg d
  exempt := Never
  good := fun _ _ => True
  bad := fun _ _ => False

/-- Where one command dials, nothing follows it. -/
theorem obeys_lastRule {cfg : Talk} {d : Driver} {k : Ret → Op Boole}
    (hk : ∀ i, (k i).Quiet fun _ => True) :
    (check (setProfileset (jsonValue cfg "profile_cfg") d) fun _ =>
      txRet (dialCommand cfg d) >>= k).Obeys (lastRule cfg d) := by
  have hprofile : ∀ c (r : Reply), ProfileCommand c →
      ¬ (lastRule cfg d).exempt c r ∧ ¬ (lastRule cfg d).stop c r := by
    refine fun c r hc => ⟨id, fun h => ?_⟩
    rw [show c = dialCommand cfg d from h] at hc
    exact not_profileCommand_dialCommand cfg d hc
  refine (sends_setProfileset _ d).obeys_bind hprofile fun i => ?_
  split
  · exact trivial
  · split
    · exact trivial
    · rw [txRet_bind]
      exact Script.Obeys.call (fun _ h => h.elim) (fun r _ _ => hk r.ret) fun r _ _ =>
        (hk r.ret).obeys

section Contract

variable {M : Type} (modem : M → Command → Reply × M) (m : M) (dev : Device)

/-- The values of a run in terms of its exchanges. -/
theorem contract_iff_events (cfg : Talk) (d : Driver) :
    Contract cfg d (Script.run modem (d.atConnect cfg) m dev) ↔
      ((∃ e ∈ (Script.run modem (d.atConnect cfg) m dev).trace, IsDialed cfg d e.1 e.2) ↔
        Dialed cfg d (Script.run modem (d.atConnect cfg) m dev).trace) ∧
      ((∃ e ∈ (Script.run modem (d.atConnect cfg) m dev).trace, IsError d e.1 e.2) ↔
        PortError (Script.run modem (d.atConnect cfg) m dev).trace) := by
  have htrue := Script.reports_iff modem (reports_ttrue cfg d) m dev
  have herror := Script.reports_iff modem (reports_terror cfg d) m dev
  have hnull := Script.reports_iff modem (reports_null cfg d) m dev
  constructor
  · intro h
    exact ⟨htrue.symm.trans h.ttrue, herror.symm.trans h.terror⟩
  · rintro ⟨hdial, hport⟩
    refine ⟨htrue.trans hdial, herror.trans hport, fun hnd hnp => ?_⟩
    cases hvalue : (Script.run modem (d.atConnect cfg) m dev).value with
    | ttrue => exact absurd (hdial.mp (htrue.mp hvalue)) hnd
    | tfalse => rfl
    | terror => exact absurd (hport.mp (herror.mp hvalue)) hnp
    | null =>
      obtain ⟨e, -, hnever⟩ := hnull.mp hvalue
      exact hnever.elim

/-- A run of `_at_connect` keeps the contract, against any modem and from any record, exactly
when the replies are the ones the driver agrees on. -/
theorem contract_iff (cfg : Talk) (d : Driver) :
    Contract cfg d (Script.run modem (d.atConnect cfg) m dev) ↔
      Agreeing cfg d (Script.run modem (d.atConnect cfg) m dev).trace := by
  rw [contract_iff_events]
  have hsame : d ≠ .ec200x → ((∃ e ∈ (Script.run modem (d.atConnect cfg) m dev).trace,
      IsError d e.1 e.2) ↔ PortError (Script.run modem (d.atConnect cfg) m dev).trace) :=
    fun hd => exists_congr fun e => and_congr_right fun _ =>
      ⟨fun h => h.1, fun h => ⟨h, fun heq => absurd heq hd⟩⟩
  cases d with
  | ec200x =>
    refine (and_iff_right Iff.rfl).trans ?_
    constructor
    · rintro h ⟨e, he, -, hr⟩
      obtain ⟨e', he', hr', hc'⟩ := h.mpr ⟨e, he, hr⟩
      exact ⟨e', he', hc' rfl, hr'⟩
    · refine fun h => ⟨fun ⟨e, he, hr⟩ => ⟨e, he, hr.1⟩, fun ⟨e, he, hr⟩ => ?_⟩
      by_cases hrx : e.1 = .rx
      · obtain ⟨e', he', hc', hr'⟩ := h ⟨e, he, hrx, hr⟩
        exact ⟨e', he', hr', fun _ => hc'⟩
      · exact ⟨e, he, hr, fun _ => hrx⟩
  | fml610 =>
    refine (and_iff_left (hsame nofun)).trans ?_
    have hlast := (Script.obeys_disciplined_iff modem (d := lastRule cfg .fml610)
      (fun _ _ h => h.elim) (fun _ _ h => h.elim)
      (obeys_lastRule (d := .fml610) (k := fun i => if i = .error then pure .terror
        else if i = .term then pure .tfalse else pure .ttrue) fun i => by
          split
          · exact trivial
          · split <;> exact trivial) m dev).mpr fun _ _ => id
    constructor
    · intro h e he hc
      by_contra hr
      rw [not_or, not_or] at hr
      obtain ⟨e', he', hc', hr'⟩ := h.mp ⟨e, he, hc, hr.2.1, hr.2.2⟩
      rw [hlast.unique he' hc' he hc] at hr'
      exact hr.1 hr'
    · intro h
      refine exists_congr fun e => and_congr_right fun he => and_congr_right fun hc => ?_
      rcases h e he hc with hr | hr | hr <;> simp [hr]
  | ne16u =>
    refine (and_iff_left (hsame nofun)).trans ?_
    have hlast := (Script.obeys_disciplined_iff modem (d := lastRule cfg .ne16u)
      (fun _ _ h => h.elim) (fun _ _ h => h.elim)
      (obeys_lastRule (d := .ne16u) (k := fun i => if i = .error then pure .terror
        else if i = .succeed then pure .tfalse else pure .ttrue) fun i => by
          split
          · exact trivial
          · split <;> exact trivial) m dev).mpr fun _ _ => id
    constructor
    · intro h e he hc
      by_contra hr
      by_cases hs : e.2.ret = .succeed
      · obtain ⟨e', he', hc', hr'⟩ := h.mpr ⟨e, he, hc, hs⟩
        rw [hlast.unique he' hc' he hc] at hr'
        exact hr'.2 hs
      · obtain ⟨e', he', hc', hr'⟩ := h.mp ⟨e, he, hc, hr, hs⟩
        rw [hlast.unique he' hc' he hc] at hr'
        exact hs hr'
    · intro h
      refine exists_congr fun e => and_congr_right fun he => and_congr_right fun hc => ?_
      simp [h e he hc]
  | em350 => exact (and_iff_right Iff.rfl).trans ((iff_true _).mpr (hsame nofun))
  | inne7b01 => exact (and_iff_right Iff.rfl).trans ((iff_true _).mpr (hsame nofun))
  | mu609 => exact (and_iff_right Iff.rfl).trans ((iff_true _).mpr (hsame nofun))
  | zte7520 => exact (and_iff_right Iff.rfl).trans ((iff_true _).mpr (hsame nofun))

end Contract

/-- A modem that does everything it is told. -/
def willingModem (_ : Unit) (_ : Command) : Reply × Unit := (⟨.succeed, [], [], 0⟩, ())

/-- The NE16U returns `tfalse` when its dial command succeeds. -/
theorem contract_fails_at_success :
    ¬ Contract (.json []) .ne16u
      (Script.run willingModem (Driver.ne16u.atConnect (.json [])) () fun _ => none) := by
  intro h
  have hvalue : (Script.run willingModem (Driver.ne16u.atConnect (.json [])) ()
      fun _ => none).value = .tfalse := by decide
  have htrue := h.ttrue.mpr ⟨(.set .qnetdevctl [.raw "1", .raw "1", .raw "1"],
    ⟨.succeed, [], [], 0⟩), by decide, rfl, rfl⟩
  rw [hvalue] at htrue
  cases htrue

end Tiger.Analysis.ConnectContract
