import Tiger.Analysis.ScriptSteps
import Tiger.Analysis.SettingPlans

/-!
# The steps of a setting against a modem that stores

`meets_setContexts` says what the definitions of a profile return and leave, and
`Look.Step` what a look does with its own place; the steps under "Looks" are the ones the
drivers have. A step that writes other places leaves a look as it is (`Look.Step.meets`),
so what each command stays away from is listed at the end.
-/

set_option autoImplicit false

namespace Tiger.Analysis.SettingConvergence

open Tiger.Library Tiger.Model Tiger.Analysis.ConnectContract Tiger.Analysis.ScriptSteps

variable (formats : Formats)

/-! ## The steps against the modem -/

/-- What the library does with a context is known from the definition before. -/
theorem cgdcont_eq [formats.Lawful] (iptype apn : Option String) (stored : String) :
    formats.cgdcont iptype apn stored =
      (if stored = formats.definition iptype apn then .failed else .succeed,
        formats.definition iptype apn) := by
  split
  · next h => rw [h, Formats.Lawful.settled]
  · next h => exact Formats.Lawful.written iptype apn stored h

/-- The modem does what it is told. -/
theorem obeying_storingModem [formats.Lawful] (m : Memory) (c : Command) :
    Obeying c (storingModem formats m c).1 := by
  unfold storingModem Obeying
  split
  · exact Or.inl rfl
  · exact Or.inl rfl
  · rw [cgdcont_eq]
    dsimp only [plainReply]
    split
    · exact Or.inr rfl
    · exact Or.inl rfl
  · exact Or.inl rfl
  · exact Or.inl rfl

/-- What is known of a memory: the texts of some places and the contexts. -/
def Facts (texts : List (Slot × String)) (contexts : String → String) (m : Memory) : Prop :=
  (∀ e ∈ texts, m.texts e.1 = e.2) ∧ m.contexts = contexts

/-- The command writes none of the places and defines no context. -/
def Avoids (texts : List (Slot × String)) (c : Command) : Prop :=
  match c.access with
  | .write slot _ => ∀ e ∈ texts, e.1 ≠ slot
  | .define .. => False
  | _ => True

section Steps

variable {formats} {texts : List (Slot × String)} {contexts : String → String}

/-- A command that writes other places leaves what is known. -/
theorem facts_storingModem {m : Memory} {c : Command} (hc : Avoids texts c)
    (hm : Facts texts contexts m) : Facts texts contexts (storingModem formats m c).2 := by
  unfold Avoids at hc
  unfold storingModem
  split
  · exact hm
  · next slot stored haccess =>
    rw [haccess] at hc
    refine ⟨fun e he => ?_, hm.2⟩
    exact (Function.update_of_ne (hc e he) stored m.texts).trans (hm.1 e he)
  · next haccess =>
    rw [haccess] at hc
    exact hc.elim
  · exact hm
  · exact hm

/-- A step whose value does not matter. -/
theorem meets_avoids [formats.Lawful] {p : Op Ret} (hends : p.Ends Obeying Plain)
    (hsends : p.Sends (Avoids texts)) :
    p.Meets (storingModem formats) (Facts texts contexts) fun i m =>
      Plain i ∧ Facts texts contexts m := by
  have hkeep : ∀ m c, Avoids texts c → Facts texts contexts m →
      Facts texts contexts (storingModem formats m c).2 := fun _ _ => facts_storingModem
  exact (hends.meets (obeying_storingModem formats)).and (hsends.meets hkeep)

/-- A checked step goes on where the step has ended. -/
theorem meets_check {P : Memory → Prop} {S : Ret → Memory → Prop} {Q : Boole → Memory → Prop}
    {p : Op Ret} {k : Ret → Op Boole}
    (hp : p.Meets (storingModem formats) P fun i m => Plain i ∧ S i m)
    (hk : ∀ i, (k i).Meets (storingModem formats) (S i) Q) :
    (check p k).Meets (storingModem formats) P Q := by
  refine hp.bind fun i m dev hm => ?_
  rw [if_neg hm.1.ne_error, if_neg hm.1.ne_term]
  exact hk i m dev hm.2

/-- A relayed step goes on where the step has ended. -/
theorem meets_relay {P : Memory → Prop} {S Q : Ret → Memory → Prop} {p : Op Ret}
    {k : Ret → Op Ret} (hp : p.Meets (storingModem formats) P fun i m => Plain i ∧ S i m)
    (hk : ∀ i, (k i).Meets (storingModem formats) (S i) Q) :
    (relay p k).Meets (storingModem formats) P Q := by
  refine hp.bind fun i m dev hm => ?_
  rw [if_neg (not_or.mpr ⟨hm.1.ne_error, hm.1.ne_term⟩)]
  exact hk i m dev hm.2

/-! ### Contexts -/

/-- The library writes a context that has another definition. -/
theorem meets_usbttyCgdcont [formats.Lawful] (cid : String) (iptype apn : Option String) :
    (usbttyCgdcont cid iptype apn).Meets (storingModem formats) (Facts texts contexts)
      fun i m => Plain i ∧ (i = .succeed ↔ contexts cid ≠ formats.definition iptype apn) ∧
        Facts texts (Function.update contexts cid (formats.definition iptype apn)) m := by
  intro m dev hm
  rw [usbttyCgdcont, libraryCall_bind]
  unfold Script.run storingModem
  simp only [Command.access, cgdcont_eq]
  rw [hm.2]
  by_cases h : contexts cid = formats.definition iptype apn
  · rw [if_pos h]
    exact ⟨Or.inr rfl, by simp [plainReply, Script.puts, h], hm.1, rfl⟩
  · rw [if_neg h]
    exact ⟨Or.inl rfl, by simp [plainReply, Script.puts, h], hm.1, rfl⟩

/-- A success is counted and kept. -/
theorem counted_eq_succeed_iff (ret i : Ret) :
    counted ret i = .succeed ↔ i = .succeed ∨ ret = .succeed := by
  unfold counted
  split
  · next h => simp [h]
  · next h => simp [h]

variable (formats) in
/-- The additional contexts are written where they differ. -/
theorem meets_setCids [formats.Lawful] (profile : Option Talk) (cids : List (String × Talk))
    {ret : Ret} (hret : Plain ret) :
    (setCids profile cids ret).Meets (storingModem formats) (Facts texts contexts) fun i m =>
      let l := cids.map fun e =>
        (e.1, formats.definition (jsonString profile "type") (jsonString profile "apn"))
      Plain i ∧ (i = .succeed ↔ ret = .succeed ∨ Changes l contexts) ∧
        Facts texts (overwrite l contexts) m := by
  induction cids generalizing contexts ret with
  | nil => exact Script.meets_done fun m hm => ⟨hret, by simp, hm⟩
  | cons e cids ih =>
    refine meets_relay (meets_usbttyCgdcont _ _ _) fun i m dev hm => ?_
    obtain ⟨hi, hm⟩ := hm
    have hrest := ih (plain_counted hret i) m dev hm
    obtain ⟨hplain, hvalue, hfacts⟩ := hrest
    refine ⟨hplain, hvalue.trans ?_, hfacts⟩
    rw [counted_eq_succeed_iff, hi, List.map_cons, changes_cons, or_assoc, or_left_comm]

variable (formats) in
/-- The contexts of a profile are written where they differ. -/
theorem meets_setContexts [formats.Lawful] (profile : Option Talk) (iptype : Option String)
    {ret : Ret} (hret : Plain ret) :
    (setContexts profile iptype ret).Meets (storingModem formats) (Facts texts contexts)
      fun i m =>
        Plain i ∧
        (i = .succeed ↔
          ret = .succeed ∨ Changes (definitions formats iptype profile) contexts) ∧
        Facts texts (overwrite (definitions formats iptype profile) contexts) m := by
  unfold setContexts definitions
  dsimp only
  split
  · refine meets_relay (meets_usbttyCgdcont _ _ _) fun i m dev hm => ?_
    obtain ⟨hi, hm⟩ := hm
    obtain ⟨hplain, hvalue, hfacts⟩ := meets_setCids formats profile
      (cidsOf profile) (plain_counted hret i) m dev hm
    refine ⟨hplain, hvalue.trans ?_, hfacts⟩
    rw [counted_eq_succeed_iff, hi, List.singleton_append, changes_cons, or_assoc, or_left_comm]
  · exact meets_setCids formats profile (cidsOf profile) hret

/-! ### Looks -/

variable (formats) in
/-- A script that carries out a look. -/
def Look.Step (look : Look) (p : Op Ret) : Prop :=
  ∀ text, p.Meets (storingModem formats) (fun m => m.texts look.slot = text) fun i m =>
    Plain i ∧ (i = .succeed ↔ look.keeps formats text = false) ∧
      m.texts look.slot = look.after formats text

/-- A look leaves the other places alone. -/
theorem Look.Step.meets {look : Look} {p : Op Ret} (hp : look.Step formats p)
    (hsends : p.Sends (Avoids texts)) (text : String) :
    p.Meets (storingModem formats) (Facts ((look.slot, text) :: texts) contexts) fun i m =>
      Plain i ∧ (i = .succeed ↔ look.keeps formats text = false) ∧
        Facts ((look.slot, look.after formats text) :: texts) contexts m := by
  have hkeep : ∀ m c, Avoids texts c → Facts texts contexts m →
      Facts texts contexts (storingModem formats m c).2 := fun _ _ => facts_storingModem
  intro m dev hm
  obtain ⟨htexts, hcontexts⟩ := hm
  rw [List.forall_mem_cons] at htexts
  obtain ⟨hplain, hvalue, hslot⟩ := hp text m dev htexts.1
  have hrest := hsends.meets hkeep m dev ⟨htexts.2, hcontexts⟩
  exact ⟨hplain, hvalue, List.forall_mem_cons.mpr ⟨hslot, hrest.1⟩, hrest.2⟩

/-- A question that decides about its place carries out the look. -/
theorem step_of_question {look : Look} {query : Command} {f : Reply → Op Ret}
    (hquery : query.access = .ask look.slot)
    (hf : ∀ text, (f (plainReply .succeed (formats.answer look.slot text))).Meets
      (storingModem formats)
      (fun m => m.last = formats.answer look.slot text ∧ m.texts look.slot = text) fun i m =>
        Plain i ∧ (i = .succeed ↔ look.keeps formats text = false) ∧
          m.texts look.slot = look.after formats text) :
    look.Step formats (Script.call query f) := by
  intro text
  refine Script.meets_call fun m hm => ?_
  have hreply : storingModem formats m query =
      (plainReply .succeed (formats.answer look.slot text),
        { m with last := formats.answer look.slot text }) := by
    unfold storingModem
    rw [hquery, ← hm]
  rw [hreply]
  refine (hf text).mono (fun m' hm' => ?_) fun _ _ h => h
  rw [hm']
  exact ⟨rfl, hm⟩

/-- A question and, where its answer is not left alone, a command that writes the place. -/
theorem step_of_ask {look : Look} {query : Command} {f : Reply → Op Ret}
    (hquery : query.access = .ask look.slot)
    (hleft : ∀ ack, look.leaves ack = true → f (plainReply .succeed ack) = pure .failed)
    (hwritten : ∀ ack, look.leaves ack = false →
      (f (plainReply .succeed ack)).Meets (storingModem formats) (fun _ => True) fun i m =>
        i = .succeed ∧ m.texts look.slot = look.stored) :
    look.Step formats (Script.call query f) := by
  refine step_of_question hquery fun text => ?_
  unfold Look.after
  cases hkeeps : look.keeps formats text with
  | true =>
    rw [hleft _ hkeeps]
    refine Script.meets_done fun m hm => ⟨Or.inr rfl, by simp, ?_⟩
    rw [if_pos rfl]
    exact hm.2
  | false =>
    refine (hwritten _ hkeeps).mono (fun _ _ => trivial) fun i m hm => ?_
    rw [if_neg Bool.false_ne_true]
    exact ⟨Or.inl hm.1, by simp [hm.1], hm.2⟩

/-- A command that writes a place leaves its arguments there. -/
theorem meets_write {write : Command} {slot : Slot} {stored : String}
    (hwrite : write.access = .write slot stored) :
    (txRet write).Meets (storingModem formats) (fun _ => True) fun i m =>
      i = .succeed ∧ m.texts slot = stored := by
  intro m dev _
  have hreply : storingModem formats m write =
      (plainReply .succeed [], { m with texts := Function.update m.texts slot stored }) := by
    unfold storingModem
    rw [hwrite]
  change (storingModem formats m write).1.ret = .succeed ∧
    (storingModem formats m write).2.texts slot = stored
  rw [hreply]
  exact ⟨rfl, Function.update_self slot stored m.texts⟩

/-- The EC200 looks at its network mode. -/
theorem step_ec200x_lockNettype (netmode : Option String) :
    (ec200xMode netmode).Step formats (Ec200x.lockNettype netmode) := by
  rw [Ec200x.lockNettype, tx_bind]
  refine step_of_ask rfl (fun ack h => ?_) fun ack h => ?_
  · change (scanInt ',' ack).all _ = true at h
    simp only [plainReply]
    cases htype : scanInt ',' ack with
    | none => rfl
    | some type =>
      have heq : type = atoi (Ec200x.nettype netmode) := by simpa [htype] using h
      simp [heq]
  · change (scanInt ',' ack).all _ = false at h
    simp only [plainReply]
    cases htype : scanInt ',' ack with
    | none => simp [htype] at h
    | some type =>
      have hne : type ≠ atoi (Ec200x.nettype netmode) := by simpa [htype] using h
      simp only [ne_eq, not_true_eq_false, if_false, hne, not_false_eq_true, if_true]
      exact meets_write rfl

/-- The NE16U looks at its network mode. -/
theorem step_ne16u_lockNettype (netmode : Option String) :
    (ne16uMode netmode).Step formats (Ne16u.lockNettype netmode) := by
  rw [Ne16u.lockNettype, tx_bind]
  refine step_of_ask rfl (fun ack h => ?_) fun ack h => ?_
  · have heq : (scanInt ':' ack).getD (-1) = atoi (Ne16u.nettype netmode) :=
      of_decide_eq_true h
    simp [plainReply, heq]
  · have hne : (scanInt ':' ack).getD (-1) ≠ atoi (Ne16u.nettype netmode) :=
      of_decide_eq_false h
    simp only [plainReply, ne_eq, not_true_eq_false, if_false, hne, not_false_eq_true, if_true]
    exact meets_write rfl

/-- The FML610 looks at its network mode. -/
theorem step_fml610_lockNettype (netmode : Option String) :
    (fml610Mode netmode).Step formats (Fml610.lockNettype netmode) := by
  rw [Fml610.lockNettype, tx_bind]
  refine step_of_ask rfl (fun ack h => ?_) fun ack h => ?_
  · have heq : (scanInt ':' ack).getD (-1) = atoi (Fml610.nettype netmode) :=
      of_decide_eq_true h
    simp [plainReply, heq]
  · have hne : (scanInt ':' ack).getD (-1) ≠ atoi (Fml610.nettype netmode) :=
      of_decide_eq_false h
    simp only [plainReply, ne_eq, not_true_eq_false, if_false, hne, not_false_eq_true, if_true]
    exact meets_write rfl

/-- The answer is read from what the modem sends behind it. -/
theorem step_zte7520_sysconfig (netmode : Option String) :
    (zte7520Mode netmode).Step formats (Zte7520.sysconfig netmode) := by
  rw [Zte7520.sysconfig, tx_bind]
  refine step_of_question rfl fun text => ?_
  simp only [plainReply, ne_eq, not_true_eq_false, if_false]
  rw [tx_bind]
  refine Script.meets_call fun m hm => ?_
  have hreply : storingModem formats m .rx = (plainReply .succeed m.last, m) := rfl
  have hkeeps : (zte7520Mode netmode).keeps formats text =
      (Zte7520.sysconfigOf m.last).all (· = atoi (Zte7520.nettype netmode)) := by
    rw [hm.1]
    rfl
  rw [hreply]
  simp only [plainReply]
  unfold Look.after
  rw [hkeeps]
  cases htype : Zte7520.sysconfigOf m.last with
  | none =>
    refine Script.meets_done fun m' hm' => ⟨Or.inr rfl, by simp, ?_⟩
    rw [hm']
    exact hm.2
  | some type =>
    by_cases heq : type = atoi (Zte7520.nettype netmode)
    · simp only [heq, not_true_eq_false, if_false]
      refine Script.meets_done fun m' hm' => ⟨Or.inr rfl, by simp, ?_⟩
      rw [hm']
      simpa using hm.2
    · simp only [heq, not_false_eq_true, if_true]
      refine (meets_write rfl).mono (fun _ _ => trivial) fun i m' hm' => ?_
      refine ⟨Or.inl hm'.1, by simp [hm'.1, heq], ?_⟩
      rw [if_neg (by simpa using heq)]
      exact hm'.2

/-- The older authentication is a look. -/
theorem step_qicsgp (iptype : String) (profile : Option Talk) :
    (qicsgpLook iptype profile).Step formats
      (qicsgp (cidOf profile) iptype (jsonString profile "apn") (loginOf profile)) := by
  rw [qicsgp, tx_bind]
  refine step_of_ask rfl (fun ack h => ?_) fun ack h => ?_
  · change contains _ ack = true at h
    simp [plainReply, h]
  · change contains _ ack = false at h
    simp only [plainReply, ne_eq, not_true_eq_false, if_false, h, Bool.false_eq_true]
    refine meets_relay (S := fun _ _ => True) ?_ fun _ => ?_
    · exact (meets_write rfl).mono (fun _ h => h) fun i m hm => ⟨Or.inl hm.1, trivial⟩
    · exact meets_write rfl

/-! ### What the steps leave alone -/

/-- The places of the network modes. -/
def IsMode (slot : Slot) : Prop :=
  slot = (.qcfg, "nwscanmode") ∨ slot = (.gtrat, "") ∨ slot = (.lnwscfg, "") ∨
    slot = (.sysconfig, "")

/-- A place that no step but the looks themselves writes. -/
def Looked (texts : List (Slot × String)) : Prop :=
  ∀ e ∈ texts, IsMode e.1 ∨ e.1.1 = .qicsgp

/-- A command that writes a place of its own leaves the looks alone. -/
theorem avoids_write {c : Command} {slot : Slot} {stored : String}
    (haccess : c.access = .write slot stored) (htexts : Looked texts)
    (hmode : ¬ IsMode slot) (hname : slot.1 ≠ .qicsgp) : Avoids texts c := by
  unfold Avoids
  rw [haccess]
  rintro e he rfl
  rcases htexts e he with h | h
  · exact hmode h
  · exact hname h

/-- A lock leaves alone what its command does. -/
theorem sends_blindLock {unescape : Unescape} {value : Option String}
    {command : String → Command} (hcommand : ∀ text, Avoids texts (command text)) :
    (blindLock unescape value command).Sends (Avoids texts) := by
  unfold blindLock
  split
  · exact trivial
  · split
    · exact trivial
    · split
      · exact trivial
      · exact sends_txRet (hcommand _)

/-- The library's own commands write no place. -/
theorem sends_checkedModes (op : Usbtty) : (usbtty op).Sends (Avoids texts) :=
  sends_libraryCall trivial fun _ => trivial

variable (formats) in
/-- The mode commands leave what is known. -/
theorem meets_checkModes [formats.Lawful] (modes : List Usbtty) (ret : Boole) :
    (checkModes modes ret).Meets (storingModem formats) (Facts texts contexts) fun b m =>
      b = ret ∧ Facts texts contexts m := by
  induction modes with
  | nil => exact Script.meets_done fun m hm => ⟨rfl, hm⟩
  | cons mode modes ih =>
    exact meets_check (meets_avoids (ends_usbtty mode) (sends_checkedModes mode)) fun _ => ih

variable (formats) in
/-- A command that writes other places leaves what is known. -/
theorem meets_ignored [formats.Lawful] {c : Command} (hc : Avoids texts c) :
    (txRet c).Meets (storingModem formats) (Facts texts contexts) fun i m =>
      Plain i ∧ Facts texts contexts m :=
  meets_avoids (ends_txRet c) (sends_txRet hc)

/-- The network mode of the EC200 leaves the authentication alone. -/
theorem sends_ec200x_lockNettype (netmode : Option String)
    (htexts : ∀ e ∈ texts, e.1.1 = .qicsgp) :
    (Ec200x.lockNettype netmode).Sends (Avoids texts) := by
  rw [Ec200x.lockNettype, tx_bind]
  refine Script.Sends.call trivial fun r => ?_
  split
  · exact trivial
  · split
    · exact trivial
    · split
      · exact sends_txRet fun e he heq => nomatch (htexts e he).symm.trans (congrArg _ heq)
      · exact trivial

/-- The network mode of the NE16U leaves the authentication alone. -/
theorem sends_ne16u_lockNettype (netmode : Option String)
    (htexts : ∀ e ∈ texts, e.1.1 = .qicsgp) :
    (Ne16u.lockNettype netmode).Sends (Avoids texts) := by
  rw [Ne16u.lockNettype, tx_bind]
  refine Script.Sends.call trivial fun r => ?_
  split
  · exact trivial
  · split
    · exact sends_txRet fun e he heq => nomatch (htexts e he).symm.trans (congrArg _ heq)
    · exact trivial

/-- The authentication leaves the network modes alone. -/
theorem sends_qicsgp_avoids (cid iptype : String) (apn : Option String) (login : Login)
    (htexts : ∀ e ∈ texts, IsMode e.1) :
    (qicsgp cid iptype apn login).Sends (Avoids texts) := by
  have hname : ∀ {slot : Slot}, slot.1 = .qctpwdcfg ∨ slot.1 = .qicsgp → ¬ IsMode slot := by
    rintro slot h (rfl | rfl | rfl | rfl) <;> simp at h
  rw [qicsgp, tx_bind]
  refine Script.Sends.call trivial fun r => ?_
  split
  · exact trivial
  · split
    · exact trivial
    · refine sends_relay (sends_txRet ?_) fun _ => sends_txRet ?_
      · exact fun e he heq => hname (Or.inl rfl) (heq ▸ htexts e he)
      · exact fun e he heq => hname (Or.inr rfl) (heq ▸ htexts e he)

/-- The network mode of the FML610 defines no context. -/
theorem sends_fml610_lockNettype (netmode : Option String) :
    (Fml610.lockNettype netmode).Sends (Avoids []) := by
  rw [Fml610.lockNettype, tx_bind]
  refine Script.Sends.call trivial fun r => ?_
  split
  · exact trivial
  · split
    · exact sends_txRet fun e he => absurd he List.not_mem_nil
    · exact trivial

/-- The network mode of the ZTE7520 defines no context. -/
theorem sends_zte7520_sysconfig_avoids (netmode : Option String) :
    (Zte7520.sysconfig netmode).Sends (Avoids []) := by
  rw [Zte7520.sysconfig, tx_bind]
  refine Script.Sends.call trivial fun r => ?_
  split
  · exact trivial
  · rw [tx_bind]
    refine Script.Sends.call trivial fun recv => ?_
    split
    · exact trivial
    · split
      · exact sends_txRet fun e he => absurd he List.not_mem_nil
      · exact trivial

/-- The bands of the ZTE7520 leave what is known. -/
theorem meets_zte7520_band [formats.Lawful] (bandsets : Option String) (htexts : Looked texts) :
    (Zte7520.band bandsets).Meets (storingModem formats) (Facts texts contexts) fun i m =>
      Plain i ∧ Facts texts contexts m := by
  apply meets_avoids
  · unfold Zte7520.band
    split
    · exact Or.inr rfl
    · dsimp only
      split
      · rw [tx_bind]
        refine Script.Ends.call fun r hr => ?_
        split
        · exact ends_txRet _
        · exact hr
      · exact Or.inr rfl
  · unfold Zte7520.band
    split
    · exact trivial
    · dsimp only
      split
      · rw [tx_bind]
        refine Script.Sends.call trivial fun r => ?_
        split
        · exact sends_txRet (avoids_write rfl htexts (by simp [IsMode]) (by decide))
        · exact trivial
      · exact trivial

/-- A lock is not cut short. -/
theorem ends_blindLock (unescape : Unescape) (value : Option String)
    (command : String → Command) : (blindLock unescape value command).Ends Obeying Plain := by
  unfold blindLock
  split
  · exact Or.inr rfl
  · split
    · exact Or.inr rfl
    · split
      · exact Or.inr rfl
      · exact ends_txRet _

end Steps

end Tiger.Analysis.SettingConvergence
