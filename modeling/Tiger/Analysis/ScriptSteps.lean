import Tiger.Analysis.ConnectContract
import Tiger.Library.Script.Reach

/-!
# The steps of an operation

Rules that follow the steps of the drivers (`check`, `require`, `relay`, `rounds`) for
two judgements: which commands an operation may send, and which values a step may end
with against a modem that at most refuses (`Obeying`). Such a modem never cuts an
operation short, so the profile is always written to its end (`ends_setProfileset`).
-/

set_option autoImplicit false

namespace Tiger.Analysis.ScriptSteps

open Tiger.Library Tiger.Model Tiger.Analysis.ConnectContract

/-! ## What is sent -/

/-- A checked step sends what it and what follows send. -/
theorem sends_check {P : Command → Prop} {p : Op Ret} {k : Ret → Op Boole} (hp : p.Sends P)
    (hk : ∀ i, (k i).Sends P) : (check p k).Sends P := by
  refine hp.bind fun i => ?_
  split
  · exact trivial
  · split
    · exact trivial
    · exact hk i

/-- A required step sends what it and what follows send. -/
theorem sends_require {P : Command → Prop} {p : Op Ret} {k : Op Boole} (hp : p.Sends P)
    (hk : k.Sends P) : (require p k).Sends P := by
  refine hp.bind fun i => ?_
  split
  · exact trivial
  · split
    · exact trivial
    · exact hk

/-- A loop sends what its turns and what follows them send. -/
theorem sends_rounds {P : Command → Prop} {body : ℕ → Op Boole → Op Boole → Op Boole}
    {after : Op Boole} (hafter : after.Sends P)
    (hbody : ∀ t next, next.Sends P → (body t next after).Sends P) (left t : ℕ) :
    (rounds body after left t).Sends P := by
  induction left generalizing t with
  | zero => exact hafter
  | succ left ih => exact hbody t _ (ih (t + 1))

/-- A call of the library sends that call and what follows. -/
theorem sends_libraryCall {P : Command → Prop} {c : Command} (hc : P c) {A : Type}
    {f : Reply → Op A} (hf : ∀ r, (f r).Sends P) : (libraryCall c >>= f).Sends P := by
  rw [libraryCall_bind]
  exact ⟨hc, fun r => (Script.quiet_puts' r.edits).sends.bind fun _ => hf r⟩

/-- The rounds before dialling look at the contexts and receive. -/
theorem sends_ec200x_rounds {P : Command → Prop} {dial : Op Boole} (hread : P (.read .qiact))
    (hrx : P .rx) (hdial : dial.Sends P) (left t : ℕ) :
    (rounds (Ec200x.dialRound dial) (pure .tfalse) left t).Sends P := by
  apply sends_rounds
  · exact trivial
  · intro t next hnext
    apply sends_check (sends_txRet hread)
    intro _
    rw [tx_bind]
    apply Script.Sends.call hrx
    intro r
    split
    · exact hdial
    · exact hnext

/-- A round of a mode asks, writes and goes on. -/
theorem sends_modeRound {P : Command → Prop} {query write : Command} {needle : String}
    {sep : Char} {wanted : ℤ} {written : Ret → Op Boole} {t : ℕ} {next leave : Op Boole}
    (hquery : P query) (hwrite : P write) (hwritten : ∀ i, (written i).Sends P)
    (hnext : next.Sends P) (hleave : leave.Sends P) :
    (modeRound query write needle sep wanted written t next leave).Sends P := by
  rw [modeRound, tx_bind]
  refine Script.Sends.call hquery fun r => ?_
  split
  · exact trivial
  · split
    · split
      · exact hleave
      · exact hnext
    · split
      · exact hnext
      · split
        · exact sends_check (sends_txRet hwrite) hwritten
        · exact hleave

/-! ## Against a modem that obeys -/

/-- The replies of a modem that obeys or refuses. -/
def Obeying (_ : Command) (r : Reply) : Prop := r.ret = .succeed ∨ r.ret = .failed

/-- The values of a step that is not cut short. -/
def Plain (i : Ret) : Prop := i = .succeed ∨ i = .failed

/-- A step that is not cut short has no error. -/
theorem Plain.ne_error {i : Ret} (h : Plain i) : i ≠ .error := by
  rcases h with rfl | rfl <;> decide

/-- A step that is not cut short is not terminated. -/
theorem Plain.ne_term {i : Ret} (h : Plain i) : i ≠ .term := by
  rcases h with rfl | rfl <;> decide

/-- Counting a success cuts nothing short. -/
theorem plain_counted {ret : Ret} (h : Plain ret) (i : Ret) : Plain (counted ret i) := by
  unfold counted
  split
  · exact Or.inl rfl
  · exact h

/-- A command that is obeyed is not cut short. -/
theorem ends_txRet (c : Command) : (txRet c).Ends Obeying Plain := fun _ h => h

/-- A call of the library ends as what follows it does. -/
theorem ends_libraryCall {A : Type} {Q : A → Prop} {c : Command} {f : Reply → Op A}
    (hf : ∀ r, Obeying c r → (f r).Ends Obeying Q) : (libraryCall c >>= f).Ends Obeying Q := by
  rw [libraryCall_bind]
  intro r hr
  apply (Script.quiet_puts' r.edits).ends.bind
  intro _ _
  exact hf r hr

/-- An operation of the library is not cut short. -/
theorem ends_usbtty (op : Usbtty) : (usbtty op).Ends Obeying Plain :=
  ends_libraryCall fun _ h => h

/-- The definition of a context is not cut short. -/
theorem ends_usbttyCgdcont (cid : String) (iptype apn : Option String) :
    (usbttyCgdcont cid iptype apn).Ends Obeying Plain :=
  ends_libraryCall fun _ h => h

/-- Relayed steps are not cut short when none of them is. -/
theorem ends_relay {p : Op Ret} {k : Ret → Op Ret} (hp : p.Ends Obeying Plain)
    (hk : ∀ i, (k i).Ends Obeying Plain) : (relay p k).Ends Obeying Plain := by
  apply hp.bind
  intro i hi
  rw [if_neg (not_or.mpr ⟨hi.ne_error, hi.ne_term⟩)]
  exact hk i

/-- A checked step that is not cut short is passed. -/
theorem reaches_check {P : Command → Prop} {p : Op Ret} {k : Ret → Op Boole}
    (hp : p.Ends Obeying Plain) (hk : ∀ i, (k i).Reaches Obeying P) :
    (check p k).Reaches Obeying P := by
  apply hp.reaches_bind
  intro i hi
  rw [if_neg hi.ne_error, if_neg hi.ne_term]
  exact hk i

/-! ### The profile -/

/-- The additional contexts are defined to the end. -/
theorem ends_setCids (profile : Option Talk) (cids : List (String × Talk)) {ret : Ret}
    (hret : Plain ret) : (setCids profile cids ret).Ends Obeying Plain := by
  induction cids generalizing ret with
  | nil => exact hret
  | cons e cids ih =>
    apply ends_relay (ends_usbttyCgdcont _ _ _)
    intro i
    exact ih (plain_counted hret i)

/-- The contexts of a profile are defined to the end. -/
theorem ends_setContexts (profile : Option Talk) (iptype : Option String) {ret : Ret}
    (hret : Plain ret) : (setContexts profile iptype ret).Ends Obeying Plain := by
  unfold setContexts
  dsimp only
  split
  · apply ends_relay (ends_usbttyCgdcont _ _ _)
    intro i
    exact ends_setCids profile _ (plain_counted hret i)
  · exact ends_setCids profile _ hret

/-- The older authentication is not cut short. -/
theorem ends_qicsgp (cid iptype : String) (apn : Option String) (login : Login) :
    (qicsgp cid iptype apn login).Ends Obeying Plain := by
  rw [qicsgp, tx_bind]
  refine Script.Ends.call fun r hr => ?_
  split
  · exact hr
  · split
    · exact Or.inr rfl
    · exact ends_relay (ends_txRet _) fun _ => ends_txRet _

/-- A modem that obeys lets a profile be written to its end. -/
theorem ends_setProfileset (profile : Option Talk) (d : Driver) :
    (setProfileset profile d).Ends Obeying Plain := by
  have hfailed : Plain .failed := Or.inr rfl
  have hcontexts : ∀ iptype i, (setContexts profile iptype (counted .failed i)).Ends Obeying
      Plain := fun iptype i => ends_setContexts profile iptype (plain_counted hfailed i)
  have hplain : ∀ iptype, (setContexts profile iptype .failed).Ends Obeying Plain :=
    fun iptype => ends_setContexts profile iptype hfailed
  cases d with
  | ec200x => exact ends_relay (ends_qicsgp _ _ _ _) fun i => hcontexts _ i
  | em350 =>
    apply (ends_txRet _).bind
    intro i hi
    rw [if_neg hi.ne_error]
    exact hplain _
  | fml610 => exact ends_relay (ends_txRet _) fun i => hcontexts _ i
  | inne7b01 => exact ends_relay (ends_txRet _) fun _ => hplain _
  | mu609 => exact hplain _
  | ne16u => exact ends_relay (ends_qicsgp _ _ _ _) fun i => hcontexts _ i
  | zte7520 => exact ends_relay (ends_txRet _) fun _ => hplain _

end Tiger.Analysis.ScriptSteps
