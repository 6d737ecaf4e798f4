import Tiger.Analysis.ScanRules
import Tiger.Model.Modemdrv.Common

/-!
# The comparison before a context is written

`AT+QICSGP` defines a context. The two drivers that use it ask for the definition first and
write nothing when a line they print from the wanted values stands in the answer. The
modem does not say the ip type, so it is not compared, and the line is cut off where the
buffer ends (`qicsgp_iff`). For values without quotes that fit, the line stands in the
answer exactly when everything but the ip type is the same (`looksStored_iff`).
-/

set_option autoImplicit false

namespace Tiger.Analysis.ContextComparison

open Tiger.Library Tiger.Model
open Tiger.Analysis.ScanRules

/-! ## The modem -/

/-- The definition of a context. -/
structure Context where
  iptype : String
  apn : String
  user : String
  pass : String
  auth : String
  deriving DecidableEq

/-- The values that are asked for. -/
def wanted (iptype : String) (apn : Option String) (login : Login) : Context :=
  ⟨iptype, orEmpty apn, orEmpty login.user, orEmpty login.pass, login.auth⟩

/-- A definition as the modem gives it: the ip type is not in it. -/
def Context.text (cid : String) (ctx : Context) : String :=
  cid ++ ",\"" ++ ctx.apn ++ "\",\"" ++ ctx.user ++ "\",\"" ++ ctx.pass ++ "\"," ++ ctx.auth

/-- The answer to a question for a definition. -/
def answerText (cid : String) (ctx : Context) : List Char :=
  ("+QICSGP: " ++ ctx.text cid ++ "\n\nOK").toList

/-- The command that writes a definition. -/
def writeOf (cid : String) (ctx : Context) : Command :=
  .set .qicsgp [.raw cid, .raw ctx.iptype, .quoted ctx.apn, .quoted ctx.user, .quoted ctx.pass,
    .raw ctx.auth]

/-- A modem that stores a definition for each context and gives it back. It takes the password
of a context with the value `password`. -/
def contextModem (password : Ret) (stored : String → Context) (c : Command) :
    Reply × (String → Context) :=
  match c with
  | .set .qicsgp [.raw cid] => (⟨.succeed, answerText cid (stored cid), [], 0⟩, stored)
  | .set .qicsgp [.raw cid, .raw iptype, .quoted apn, .quoted user, .quoted pass, .raw auth] =>
    (⟨.succeed, [], [], 0⟩, Function.update stored cid ⟨iptype, apn, user, pass, auth⟩)
  | .set .qctpwdcfg _ => (⟨password, [], [], 0⟩, stored)
  | _ => (⟨.succeed, [], [], 0⟩, stored)

/-! ## The run -/

/-- The part of the wanted definition that fits into the buffer stands in the answer. -/
def LooksStored (cid : String) (ctx stored : Context) : Prop :=
  (ctx.text cid).toList.take (nameMax - 1) <:+: answerText cid stored

/-- The definition is written, unless the modem has it already. -/
def UpToDate (cid : String) (ctx : Context) (stored : String → Context)
    (o : Script.Outcome Command Reply String String Ret (String → Context)) : Prop :=
  writeOf cid ctx ∈ o.trace.map Prod.fst ∨ stored cid = ctx

/-- The line the driver looks for stands in the answer as far as it fits into the buffer. -/
theorem contains_line (cid iptype : String) (apn : Option String) (login : Login)
    (stored : Context) :
    contains (qicsgpLine cid apn login) (answerText cid stored) = true ↔
      LooksStored cid (wanted iptype apn login) stored := by
  rw [contains_iff]
  unfold qicsgpLine snprintf LooksStored
  rw [String.toList_ofList]
  rfl

/-- What a run sends: the question alone, or behind it the password and the definition. -/
theorem sent_qicsgp {password : Ret} (hpassword : password ≠ .error ∧ password ≠ .term)
    (cid iptype : String) (apn : Option String) (login : Login) (stored : String → Context)
    (s : Device) :
    (LooksStored cid (wanted iptype apn login) (stored cid) ∧
        (Script.run (contextModem password) (qicsgp cid iptype apn login) stored s).trace.map
          Prod.fst = [.set .qicsgp [.raw cid]]) ∨
      (¬ LooksStored cid (wanted iptype apn login) (stored cid) ∧
        (Script.run (contextModem password) (qicsgp cid iptype apn login) stored s).trace.map
          Prod.fst = [.set .qicsgp [.raw cid],
            .set .qctpwdcfg [.quoted (orEmpty login.user), .quoted (orEmpty login.pass)],
            writeOf cid (wanted iptype apn login)]) := by
  rw [← contains_line]
  have hgo : ¬ (password = .error ∨ password = .term) := fun h => h.elim hpassword.1 hpassword.2
  unfold qicsgp
  rw [tx_bind, Script.run]
  change (_ ∧ (_ :: (Script.run _ (if Ret.succeed ≠ Ret.succeed then _ else
      if contains (qicsgpLine cid apn login) (answerText cid (stored cid)) = true then _ else _)
      _ s).trace).map _ = _) ∨
    (_ ∧ (_ :: (Script.run _ (if Ret.succeed ≠ Ret.succeed then _ else
      if contains (qicsgpLine cid apn login) (answerText cid (stored cid)) = true then _ else _)
      _ s).trace).map _ = _)
  rw [if_neg (by decide)]
  by_cases hline : contains (qicsgpLine cid apn login) (answerText cid (stored cid)) = true
  · left
    rw [if_pos hline]
    exact ⟨hline, rfl⟩
  · right
    rw [if_neg hline]
    refine ⟨hline, ?_⟩
    unfold relay
    rw [txRet_bind, Script.run]
    change (_ :: (_ :: (Script.run _ (if password = .error ∨ password = .term then _ else _)
      _ s).trace)).map _ = _
    rw [if_neg hgo]
    rfl

/-- **The comparison.** Against a modem that stores what it is given, the definition is written
or already stored if and only if the part of it that fits into the buffer does not stand in
the answer, or the modem has it with the ip type. -/
theorem qicsgp_iff {password : Ret} (hpassword : password ≠ .error ∧ password ≠ .term)
    (cid iptype : String) (apn : Option String) (login : Login) (stored : String → Context)
    (s : Device) :
    UpToDate cid (wanted iptype apn login) stored
        (Script.run (contextModem password) (qicsgp cid iptype apn login) stored s) ↔
      ¬ LooksStored cid (wanted iptype apn login) (stored cid) ∨
        stored cid = wanted iptype apn login := by
  unfold UpToDate
  rcases sent_qicsgp hpassword cid iptype apn login stored s with
    ⟨hlooks, hsent⟩ | ⟨hlooks, hsent⟩
  · rw [hsent]
    have hnot : writeOf cid (wanted iptype apn login) ∉ [Command.set .qicsgp [.raw cid]] := by
      simp [writeOf]
    simp [hlooks, hnot]
  · rw [hsent]
    simp [hlooks]

/-! ## Ordinary values -/

/-- Values without quotes; the authentication is a digit. -/
structure Ordinary (cid : String) (ctx : Context) : Prop where
  quotes : ∀ f ∈ [cid, ctx.apn, ctx.user, ctx.pass, ctx.auth], '"' ∉ f.toList
  auth : ctx.auth.length = 1

/-- What the quotes cut a definition into. -/
theorem text_delimited (cid : String) (ctx : Context) :
    (ctx.text cid).toList = delimited '"' (cid.toList ++ [','])
      ([ctx.apn.toList, [','], ctx.user.toList, [','], ctx.pass.toList] ++
        [',' :: ctx.auth.toList]) := by
  simp [Context.text, delimited]

/-- The quotes cut an answer into the texts of the context and what is between them. -/
theorem answer_delimited (cid : String) (ctx : Context) :
    answerText cid ctx = delimited '"' ("+QICSGP: ".toList ++ cid.toList ++ [','])
      ([ctx.apn.toList, [','], ctx.user.toList, [','], ctx.pass.toList] ++
        [',' :: (ctx.auth.toList ++ "\n\nOK".toList)]) := by
  simp [answerText, Context.text, delimited]

/-- None of these pieces holds a quote. -/
theorem quote_notMem_pieces {cid : String} {ctx : Context} (h : Ordinary cid ctx)
    {head last : List Char} (hhead : '"' ∉ head) (hlast : '"' ∉ last) :
    ∀ x ∈ head :: ([ctx.apn.toList, [','], ctx.user.toList, [','], ctx.pass.toList] ++
      [',' :: last]), '"' ∉ x := by
  have hapn := h.quotes ctx.apn (by simp)
  have huser := h.quotes ctx.user (by simp)
  have hpass := h.quotes ctx.pass (by simp)
  simp [hhead, hlast, hapn, huser, hpass]

/-- A number of one digit is compared as a whole. -/
theorem auth_prefix_iff {a b : String} (ha : a.length = 1) (hb : b.length = 1)
    (rest : List Char) :
    ',' :: a.toList <+: ',' :: (b.toList ++ rest) ↔ b = a := by
  obtain ⟨x, hx⟩ := List.length_eq_one_iff.mp ((String.length_toList (s := a)).trans ha)
  obtain ⟨y, hy⟩ := List.length_eq_one_iff.mp ((String.length_toList (s := b)).trans hb)
  rw [← String.toList_inj, hx, hy]
  simp [eq_comm]

/-- Ordinary values that fit into the buffer look stored exactly when everything but the ip type
is the same. -/
theorem looksStored_iff {cid : String} {ctx stored : Context} (hctx : Ordinary cid ctx)
    (hstored : Ordinary cid stored) (hfits : (ctx.text cid).length < nameMax) :
    LooksStored cid ctx stored ↔
      stored.apn = ctx.apn ∧ stored.user = ctx.user ∧ stored.pass = ctx.pass ∧
        stored.auth = ctx.auth := by
  have hwhole : (ctx.text cid).toList.take (nameMax - 1) = (ctx.text cid).toList := by
    apply List.take_of_length_le
    rw [String.length_toList]
    omega
  unfold LooksStored
  rw [hwhole, text_delimited, answer_delimited, infix_delimited_align]
  · have hsuffix : cid.toList ++ [','] <:+ "+QICSGP: ".toList ++ cid.toList ++ [','] :=
      ⟨"+QICSGP: ".toList, by simp⟩
    rw [auth_prefix_iff hctx.auth hstored.auth]
    simp only [hsuffix, true_and, List.cons.injEq, String.toList_inj, and_true, and_assoc]
    simp only [eq_comm]
  · have hcid := hctx.quotes cid (by simp)
    exact quote_notMem_pieces hctx (by simp [hcid]) (hctx.quotes _ (by simp))
  · have hcid := hctx.quotes cid (by simp)
    have hauth := hstored.quotes stored.auth (by simp)
    exact quote_notMem_pieces hstored (by simp [hcid]) (by simp [hauth])
  · rfl

/-- Without authentication, for IPv4 in the one and for IPv6 in the other. -/
def plain4 : Context := ⟨"1", "internet", "", "", "0"⟩

def plain6 : Context := { plain4 with iptype := "2" }

/-- No authentication. -/
def noLogin : Login := ⟨"0", none, none⟩

/-- A modem that has the wanted definition already. -/
theorem qicsgp_ordinary :
    UpToDate "1" (wanted "1" (some "internet") noLogin) (fun _ => plain4)
        (Script.run (contextModem .succeed) (qicsgp "1" "1" (some "internet") noLogin)
          (fun _ => plain4) fun _ => none) ↔
      ¬ LooksStored "1" (wanted "1" (some "internet") noLogin) plain4 ∨
        plain4 = wanted "1" (some "internet") noLogin :=
  qicsgp_iff (by decide) "1" "1" (some "internet") noLogin (fun _ => plain4) fun _ => none

/-- A context of IPv6 passes for one of IPv4. -/
theorem qicsgp_iptype_ignored :
    ¬ UpToDate "1" (wanted "1" (some "internet") noLogin) (fun _ => plain6)
      (Script.run (contextModem .succeed) (qicsgp "1" "1" (some "internet") noLogin)
        (fun _ => plain6) fun _ => none) := by
  unfold UpToDate
  decide

end Tiger.Analysis.ContextComparison
