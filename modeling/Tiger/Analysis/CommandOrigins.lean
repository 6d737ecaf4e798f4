import Tiger.Analysis.CommandLines
import Tiger.Analysis.ScriptDiscipline
import Tiger.Analysis.ScriptSteps

/-!
# Where the arguments of a command come from

What a driver writes into its lines is a constant of its own, a number it made, or a text of
the configuration: the context id, the access point, the user and the password of the
profile, and the texts of the band and cell locks. So a line that is not read as the
driver meant it has an argument of the configuration that ends its field, its command or
its line early (`sent_lines`).

The PIN of the card is in none of these lines. It is given out by `_at_watch` alone, as
the first thing each call does, so a session enters it once for every watch
(`session_pins`).
-/

set_option autoImplicit false

namespace Tiger.Analysis.CommandOrigins

open Tiger.Library Tiger.Model
open Tiger.Analysis.CommandLines Tiger.Analysis.ConnectContract Tiger.Analysis.ScriptSteps
open Tiger.Analysis.ScriptDiscipline

/-! ## Origins -/

/-- The texts of a configuration that a driver writes into its lines. -/
def configured (unescape : Unescape) (cfg : Option Talk) : List String :=
  let profile := jsonValue cfg "profile_cfg"
  [cidOf profile, orEmpty (jsonString profile "apn"), orEmpty (jsonString profile "user"),
    orEmpty (jsonString profile "passwd")] ++
  ["lock_band", "lock_cell"].filterMap fun key => (jsonString cfg key).bind unescape

/-- A letter that may end a field, a command or a line. -/
def special (c : Char) : Bool := c = '"' || c = ',' || c = ';' || isLineEnd c

/-- No such letter stands in an argument. -/
def plain (a : Arg) : Bool := (body a).toList.all (! special ·)

/-- An argument has no such letter, or is one of the texts or its beginning. -/
def Traced (texts : List String) (a : Arg) : Prop :=
  plain a = true ∨ ∃ text ∈ texts, (body a).toList <+: text.toList

/-- The bytes of a band mask. -/
def IsMask (name : AtName) (a : Arg) : Prop :=
  name = .zlteband ∧ ∀ c ∈ (body a).toList, c.isDigit = true ∨ c = ','

/-- A command with traced arguments, other than the one with the PIN. -/
def Safe (texts : List String) : Command → Prop
  | .set name args => args ≠ [] ∧ ∀ a ∈ args, Traced texts a ∨ IsMask name a
  | .cpin _ => False
  | _ => True

/-- Where nothing but commas can end a field, an argument is clean if it is one that is cut at
commas or has none. -/
theorem cleanArg_of_letters {name : AtName} {a : Arg}
    (h : ∀ c ∈ (body a).toList, special c = false ∨ c = ',')
    (hcomma : name = .zlteband ∨ ',' ∉ (body a).toList) : CleanArg name a := by
  have hne : ∀ d, special d = true → d ≠ ',' → d ∉ (body a).toList := by
    intro d hspecial hd hmem
    rcases h d hmem with hnot | heq
    · rw [hspecial] at hnot
      cases hnot
    · exact hd heq
  have hquote := hne '"' (by decide) (by decide)
  have hsemicolon := hne ';' (by decide) (by decide)
  have hpiece : ∀ piece ⊆ (body a).toList, piece.head? ≠ some '"' ∧ ';' ∉ piece := by
    intro piece hsub
    exact ⟨fun hhead => hquote (hsub (List.mem_of_mem_head? hhead)),
      fun hmem => hsemicolon (hsub hmem)⟩
  refine ⟨?_, ?_⟩
  · intro c hc
    rcases h c hc with hnot | rfl
    · unfold special at hnot
      exact (Bool.or_eq_false_iff.mp hnot).2
    · decide
  · cases a with
    | raw s =>
      rw [fieldsOf]
      split
      · rw [List.forall_mem_map]
        intro piece hmem
        obtain ⟨hcut, hsub⟩ := subset_of_mem_splitOn hmem
        exact ⟨hcut, hpiece piece hsub⟩
      · next hname =>
        rw [List.forall_mem_singleton]
        exact ⟨hcomma.resolve_left hname, hpiece _ (List.Subset.refl _)⟩
    | quoted s =>
      rw [fieldsOf, List.forall_mem_singleton]
      exact hquote

/-- A plain argument is clean. -/
theorem cleanArg_of_plain (name : AtName) {a : Arg} (h : plain a = true) : CleanArg name a := by
  have hnone : ∀ c ∈ (body a).toList, special c = false := by
    intro c hc
    simpa using List.all_eq_true.mp h c hc
  refine cleanArg_of_letters (fun c hc => Or.inl (hnone c hc)) (Or.inr fun hmem => ?_)
  exact absurd (hnone _ hmem) (by decide)

/-- A digit is not special. -/
theorem special_digit {c : Char} (h : c.isDigit = true) : special c = false := by
  have hne : ∀ d : Char, d.isDigit = false → c ≠ d := by
    rintro d hd rfl
    rw [h] at hd
    cases hd
  unfold special isLineEnd
  simp [hne '"' (by decide), hne ',' (by decide), hne ';' (by decide), hne '\r' (by decide),
    hne '\n' (by decide)]

/-- A mask is clean. -/
theorem cleanArg_of_isMask {name : AtName} {a : Arg} (h : IsMask name a) : CleanArg name a :=
  cleanArg_of_letters (fun c hc => (h.2 c hc).imp_left special_digit) (Or.inl h.1)

/-- A command with arguments that each have a known origin is safe. -/
theorem safe_set {texts : List String} {name : AtName} {a : Arg} {args : List Arg}
    (h : ∀ b ∈ a :: args, Traced texts b ∨ IsMask name b) : Safe texts (.set name (a :: args)) :=
  ⟨List.cons_ne_nil a args, h⟩

/-- A command with constant arguments is safe. -/
theorem safe_constants {texts : List String} {name : AtName} {a : Arg} {args : List Arg}
    (h : (a :: args).all plain = true) : Safe texts (.set name (a :: args)) :=
  safe_set fun b hb => Or.inl (Or.inl (List.all_eq_true.mp h b hb))

/-! ### The profile -/

section Profile

variable {unescape : Unescape} {cfg : Option Talk}

/-- The context id of a profile is a text of the configuration. -/
theorem traced_cid :
    Traced (configured unescape cfg) (.raw (cidOf (jsonValue cfg "profile_cfg"))) :=
  Or.inr ⟨_, by simp [configured, body], List.prefix_rfl⟩

/-- The access point of a profile is a text of the configuration, or empty. -/
theorem traced_apn : Traced (configured unescape cfg)
    (.quoted (orEmpty (jsonString (jsonValue cfg "profile_cfg") "apn"))) :=
  Or.inr ⟨_, by simp [configured, body], List.prefix_rfl⟩

/-- The login holds the user and the password of the profile, or nothing. -/
theorem login_texts (profile : Option Talk) :
    ((loginOf profile).user = jsonString profile "user" ∨ (loginOf profile).user = none) ∧
      ((loginOf profile).pass = jsonString profile "passwd" ∨ (loginOf profile).pass = none) ∧
        (loginOf profile).auth ∈ ["0", "1", "2", "3"] := by
  unfold loginOf
  dsimp only
  cases jsonString profile "auth" with
  | none =>
    refine ⟨Or.inl rfl, Or.inl rfl, ?_⟩
    dsimp only
    split <;> simp
  | some auth =>
    dsimp only
    split_ifs <;> simp

/-- The user of a profile is a text of the configuration, or empty. -/
theorem traced_user : Traced (configured unescape cfg)
    (.quoted (orEmpty (loginOf (jsonValue cfg "profile_cfg")).user)) := by
  rcases (login_texts (jsonValue cfg "profile_cfg")).1 with h | h
  · rw [h]
    exact Or.inr ⟨_, by simp [configured, body], List.prefix_rfl⟩
  · rw [h]
    exact Or.inl rfl

/-- The password of a profile is a text of the configuration, or empty. -/
theorem traced_pass : Traced (configured unescape cfg)
    (.quoted (orEmpty (loginOf (jsonValue cfg "profile_cfg")).pass)) := by
  rcases (login_texts (jsonValue cfg "profile_cfg")).2.1 with h | h
  · rw [h]
    exact Or.inr ⟨_, by simp [configured, body], List.prefix_rfl⟩
  · rw [h]
    exact Or.inl rfl

/-- The kind of authentication is a constant. -/
theorem traced_auth {texts : List String} (profile : Option Talk) :
    Traced texts (.raw (loginOf profile).auth) := by
  have hplain : ∀ auth ∈ ["0", "1", "2", "3"], plain (.raw auth) = true := by decide
  exact Or.inl (hplain _ (login_texts profile).2.2)

/-- The text of a lock, cut to what fits. -/
theorem traced_lock {key s text : String} (hkey : key ∈ ["lock_band", "lock_cell"])
    (hs : jsonString cfg key = some s) (htext : unescape s = some text) {a : Arg}
    (ha : (body a).toList <+: text.toList) : Traced (configured unescape cfg) a := by
  refine Or.inr ⟨text, ?_, ha⟩
  refine List.mem_append_right _ (List.mem_filterMap.mpr ⟨key, hkey, ?_⟩)
  rw [hs, Option.bind_some, htext]

end Profile

/-! ## The shared steps -/

section Shared

variable {texts : List String}

/-- The library prints its own commands. -/
theorem sends_usbtty (op : Usbtty) : (usbtty op).Sends (Safe texts) :=
  sends_libraryCall trivial fun _ => trivial

/-- The additional contexts are defined by the library. -/
theorem sends_setCids (profile : Option Talk) (cids : List (String × Talk)) (ret : Ret) :
    (setCids profile cids ret).Sends (Safe texts) := by
  induction cids generalizing ret with
  | nil => exact trivial
  | cons e cids ih =>
    exact sends_relay (sends_libraryCall trivial fun _ => trivial) fun i => ih _

/-- All contexts of a profile are defined by the library. -/
theorem sends_setContexts (profile : Option Talk) (iptype : Option String) (ret : Ret) :
    (setContexts profile iptype ret).Sends (Safe texts) := by
  unfold setContexts
  dsimp only
  split
  · exact sends_relay (sends_libraryCall trivial fun _ => trivial) fun i =>
      sends_setCids _ _ _
  · exact sends_setCids _ _ _

/-- A step for the profile is as safe as what sets it and what follows. -/
theorem sends_checkProfile {setProfileset : Option Talk → Op Ret} {profile : Option Talk}
    {ret : Boole} {k : Boole → Op Boole} (hset : (setProfileset profile).Sends (Safe texts))
    (hk : ∀ ret, (k ret).Sends (Safe texts)) :
    (checkProfile setProfileset profile ret k).Sends (Safe texts) := by
  unfold checkProfile
  split
  · exact hk _
  · exact sends_check hset fun i => hk _

/-- The mode commands are the library's. -/
theorem sends_checkModes (modes : List Usbtty) (ret : Boole) :
    (checkModes modes ret).Sends (Safe texts) := by
  induction modes with
  | nil => exact trivial
  | cons mode modes ih => exact sends_check (sends_usbtty mode) fun _ => ih

/-- A command and what follows its reply. -/
theorem sends_tx {A : Type} {c : Command} {f : Reply → Op A} (hc : Safe texts c)
    (hf : ∀ r, (f r).Sends (Safe texts)) : (tx c >>= f).Sends (Safe texts) := ⟨hc, hf⟩

/-- A question, and what follows its answer where it succeeds. -/
theorem sends_ask {c : Command} {f : Reply → Op Ret} (hc : Safe texts c)
    (hf : ∀ r, (f r).Sends (Safe texts)) :
    (tx c >>= fun r => if r.ret ≠ .succeed then pure r.ret else f r).Sends (Safe texts) := by
  refine sends_tx hc fun r => ?_
  split
  · exact trivial
  · exact hf r

/-- A round of `AT+QCFG` has constant arguments. -/
theorem sends_qcfgRound {item wanted : String} {done next leave : Op Boole} {t : ℕ}
    (hitem : plain (.quoted item) = true) (hwanted : plain (.raw wanted) = true)
    (hdone : done.Sends (Safe texts)) (hnext : next.Sends (Safe texts))
    (hleave : leave.Sends (Safe texts)) :
    (qcfgRound item wanted done t next leave).Sends (Safe texts) := by
  have hquery : Safe texts (.set .qcfg [.quoted item]) := safe_constants (by simp [hitem])
  have hwrite : Safe texts (.set .qcfg [.quoted item, .raw wanted]) :=
    safe_constants (by simp [hitem, hwanted])
  refine sends_modeRound hquery hwrite (fun i => ?_) hnext hleave
  split
  · exact hdone
  · exact hleave

/-- Asking for the operator is safe. -/
theorem sends_checkCops {k : Op Boole} (hk : k.Sends (Safe texts)) :
    (checkCops k).Sends (Safe texts) :=
  sends_check (sends_usbtty .copsformat) fun _ => sends_check (sends_usbtty .cops) fun _ => hk

/-- Asking for the registration is safe. -/
theorem sends_checkReg {k : Op Boole} (hk : k.Sends (Safe texts)) :
    (checkReg k).Sends (Safe texts) :=
  sends_check (sends_usbtty .creg) fun _ => sends_check (sends_usbtty .cereg) fun _ =>
    sends_check (sends_usbtty .cgreg) fun i => (quiet_setPlmn i).sends.bind fun _ => hk

/-- Asking for the signal is safe. -/
theorem sends_checkCsq {k : ℤ → Op Boole} (hk : ∀ csq, (k csq).Sends (Safe texts)) :
    (checkCsq k).Sends (Safe texts) :=
  sends_libraryCall trivial fun r => sends_check (p := pure r.ret) trivial fun _ => hk _

/-- The end of `_at_watch` in most drivers. -/
theorem sends_csqEnd : (deleteAll ["csq"] >>= fun _ => checkCsq fun csq => setCsq csq >>= fun _ =>
    rssiSignal >>= fun _ => pure Boole.ttrue).Sends (Safe texts) :=
  (quiet_deleteAll _).sends.bind fun _ => sends_checkCsq fun csq =>
    (quiet_setCsq csq).sends.bind fun _ => quiet_rssiSignal.sends.bind fun _ => trivial

/-- Asking for the signal where it is missing is safe. -/
theorem sends_checkMissingCsq {rssiOf : ℤ → Option ℤ} :
    (checkMissingCsq rssiOf (rsrpSignal >>= fun _ => pure .ttrue)).Sends (Safe texts) := by
  have hend : (rsrpSignal >>= fun _ => pure Boole.ttrue : Op Boole).Sends (Safe texts) :=
    quiet_rsrpSignal.sends.bind fun _ => trivial
  rw [checkMissingCsq, number_bind]
  intro x
  dsimp only
  split
  · exact sends_checkCsq fun csq => (quiet_setMissingCsq csq _).sends.bind fun _ => hend
  · exact hend

/-- `AT+ZEMSCIQ` has no argument. -/
theorem sends_checkZemsciq {k : Op Boole} (hk : k.Sends (Safe texts)) :
    (checkZemsciq k).Sends (Safe texts) := by
  refine sends_tx (safe_constants rfl) fun r => sends_check (p := pure r.ret) trivial
    fun i => ?_
  split
  · exact (quiet_setZemsciq _).sends.bind fun _ => hk
  · exact hk

/-- `AT^SYSINFO` has no argument. -/
theorem sends_sysinfo : sysinfo.Sends (Safe texts) :=
  sends_ask trivial fun _ => (quiet_setGiven _ _).sends.bind fun _ => trivial

/-- `AT^SYSINFOEX` has no argument. -/
theorem sends_sysinfoex (typeOf : List Char → ℤ) : (sysinfoex typeOf).Sends (Safe texts) :=
  sends_ask trivial fun _ => (quiet_setGiven _ _).sends.bind fun _ => trivial

/-- Every try at the number of the card is safe. -/
theorem sends_iccid (tries : ℕ) (ret : Ret) : (iccid tries ret).Sends (Safe texts) := by
  induction tries generalizing ret with
  | zero => trivial
  | succ tries ih =>
    refine sends_tx trivial fun r => sends_relay (p := pure r.ret) trivial fun i => ?_
    split
    · split
      · exact trivial
      · exact ih _
    · exact ih _

/-- The SIM part gives out the PIN at its start and never again. -/
theorem opens_checkSim {ccid : Op Ret} {pin : Option String} {k : Op Boole}
    (hccid : ccid.Sends (Safe texts)) (hk : k.Sends (Safe texts)) :
    (checkSim ccid pin k).Opens (.cpin pin) (Safe texts) := by
  unfold checkSim usbttyCpin
  rw [libraryCall_bind]
  refine Script.opens_call fun r => ?_
  refine Script.Sends.bind ((Script.quiet_puts' r.edits).sends.bind fun _ => trivial) fun i => ?_
  split_ifs
  · exact trivial
  · exact trivial
  · exact hk
  · exact hk
  · exact sends_check (sends_usbtty .cimi) fun _ => sends_check hccid fun _ => hk
  · exact hk

end Shared

/-! ## The drivers -/

section Drivers

variable {unescape : Unescape} {cfg : Option Talk}

/-- The older authentication command, of a profile. -/
theorem sends_qicsgp {iptype : String} (htype : plain (.raw iptype) = true) :
    (qicsgp (cidOf (jsonValue cfg "profile_cfg")) iptype
      (jsonString (jsonValue cfg "profile_cfg") "apn")
      (loginOf (jsonValue cfg "profile_cfg"))).Sends (Safe (configured unescape cfg)) := by
  refine sends_ask (safe_set (by simp [traced_cid])) fun r => ?_
  split
  · exact trivial
  · exact sends_relay (sends_txRet (safe_set (by simp [traced_user, traced_pass]))) fun _ =>
      sends_txRet (safe_set (by
        simp [traced_cid, traced_apn, traced_user, traced_pass, traced_auth,
          show Traced (configured unescape cfg) (.raw iptype) from Or.inl htype]))

/-- A lock is safe when the command made from the unescaped text is. -/
theorem sends_blindLock {key : String} {command : String → Command}
    (hc : ∀ s text, jsonString cfg key = some s → unescape s = some text →
      Safe (configured unescape cfg) (command text)) :
    (blindLock unescape (jsonString cfg key) command).Sends (Safe (configured unescape cfg)) := by
  unfold blindLock
  split
  · exact trivial
  · next s hs =>
    split
    · exact trivial
    · split
      · exact trivial
      · next text htext => exact sends_txRet (hc s text hs htext)

/-- What a driver sends for the profile. -/
theorem sends_setProfileset (d : Driver) :
    (setProfileset (jsonValue cfg "profile_cfg") d).Sends (Safe (configured unescape cfg)) := by
  have hone : Traced (configured unescape cfg) (.quoted "") := Or.inl rfl
  cases d with
  | ec200x =>
    refine sends_relay (sends_qicsgp ?_) fun i => sends_setContexts _ _ _
    unfold Ec200x.iptype
    split <;> [rfl; (split_ifs <;> rfl)]
  | em350 =>
    refine Script.Sends.bind (sends_txRet (safe_set ?_)) fun i => ?_
    · simp [traced_cid, traced_auth, traced_user, traced_pass, hone]
    · split
      · exact trivial
      · exact sends_setContexts _ _ _
  | fml610 =>
    refine sends_relay (sends_txRet ?_) fun i => sends_setContexts _ _ _
    unfold Fml610.mgauth
    split
    · exact safe_set (by simp [traced_cid, traced_auth])
    · exact safe_set (by simp [traced_cid, traced_auth, traced_user, traced_pass])
  | inne7b01 =>
    exact sends_relay (sends_txRet (safe_set (by
      simp [traced_cid, traced_auth, traced_user, traced_pass]))) fun _ =>
        sends_setContexts _ _ _
  | mu609 => exact sends_setContexts _ _ _
  | ne16u =>
    refine sends_relay (sends_qicsgp ?_) fun i => sends_setContexts _ _ _
    unfold Ne16u.iptype
    split <;> [rfl; (split_ifs <;> rfl)]
  | zte7520 =>
    exact sends_relay (sends_txRet (safe_set (by
      simp [traced_cid, traced_auth, traced_user, traced_pass]))) fun _ =>
        sends_setContexts _ _ _

/-- The step for the profile is safe in every driver. -/
theorem sends_profile (d : Driver) {ret : Boole} {k : Boole → Op Boole}
    (hk : ∀ ret, (k ret).Sends (Safe (configured unescape cfg))) :
    (checkProfile (setProfileset · d) (jsonValue cfg "profile_cfg") ret k).Sends
      (Safe (configured unescape cfg)) := by
  cases hprofile : jsonValue cfg "profile_cfg" with
  | none => exact hk ret
  | some profile =>
    have hset : (setProfileset (some profile) d).Sends (Safe (configured unescape cfg)) := by
      rw [← hprofile]
      exact sends_setProfileset d
    exact sends_check hset fun i => hk _

/-- The profile part of `_at_setting` and what follows it. -/
theorem sends_profileModes (d : Driver) (modes : List Usbtty) (ret : Boole) :
    (checkProfile (setProfileset · d) (jsonValue cfg "profile_cfg") ret fun ret =>
      checkModes modes ret).Sends (Safe (configured unescape cfg)) :=
  sends_profile d fun ret => sends_checkModes modes ret

/-! ### Switching on and off -/

/-- The serial number is asked for by the library. -/
theorem sends_cgsn {texts : List String} :
    (check (usbtty .cgsn) fun _ => pure Boole.ttrue).Sends (Safe texts) :=
  sends_check (sends_usbtty .cgsn) fun _ => trivial

/-- Switching off has no text of the configuration. -/
theorem sends_atOff {texts : List String} (d : Driver) : d.atOff.Sends (Safe texts) := by
  cases d <;> exact sends_check (sends_usbtty .cfun0) fun _ => trivial

/-- Shutting down has no text of the configuration. -/
theorem sends_atShut {texts : List String} (d : Driver) : d.atShut.Sends (Safe texts) := by
  cases d with
  | zte7520 => exact sends_atOff .zte7520
  | inne7b01 => exact sends_check (sends_txRet (safe_constants rfl)) fun _ => trivial
  | _ => exact sends_check (sends_txRet trivial) fun _ => trivial

/-- The end of the setup of the NE16U has constant arguments. -/
theorem sends_ne16u_setupEnd {texts : List String} (r : Bool) :
    (Ne16u.setupEnd r).Sends (Safe texts) := by
  unfold Ne16u.setupEnd
  split
  · exact trivial
  · exact sends_check (sends_txRet (safe_constants rfl)) fun _ => sends_cgsn

/-- The IMS step of the setup of the NE16U has constant arguments. -/
theorem sends_ne16u_setupIms {texts : List String} (r : Bool) :
    (Ne16u.setupIms r).Sends (Safe texts) := by
  apply sends_rounds (sends_ne16u_setupEnd r)
  intro t next hnext
  exact sends_qcfgRound rfl rfl (sends_ne16u_setupEnd true) hnext (sends_ne16u_setupEnd r)

/-- The NAT step of the setup of the NE16U has constant arguments. -/
theorem sends_ne16u_setupNat {texts : List String} (r : Bool) :
    (Ne16u.setupNat r).Sends (Safe texts) := by
  apply sends_rounds (sends_ne16u_setupIms r)
  intro t next hnext
  exact sends_qcfgRound rfl rfl (sends_ne16u_setupIms true) hnext (sends_ne16u_setupIms r)

/-- A step for the card of the ZTE7520 writes a constant. -/
theorem sends_zte7520_checkCard {texts : List String} {name : AtName} {wanted : String}
    {k : Op Boole} (hwanted : plain (.raw wanted) = true) (hk : k.Sends (Safe texts)) :
    (Zte7520.checkCard name wanted k).Sends (Safe texts) := by
  refine sends_tx trivial fun r => sends_check (p := pure r.ret) trivial fun i => ?_
  split
  · exact hk
  · split
    · exact sends_tx (safe_constants (by simp [hwanted])) fun _ => trivial
    · exact hk

/-- Setup has no text of the configuration. -/
theorem sends_atSetup {texts : List String} (d : Driver) : d.atSetup.Sends (Safe texts) := by
  cases d with
  | ec200x =>
    refine sends_require (sends_usbtty _) (sends_require (sends_usbtty _) ?_)
    apply sends_rounds sends_cgsn
    intro t next hnext
    exact sends_qcfgRound rfl rfl sends_cgsn hnext sends_cgsn
  | em350 =>
    refine sends_require (sends_usbtty _) (sends_require (sends_usbtty _) ?_)
    exact sends_check (sends_txRet (safe_constants rfl)) fun _ => sends_cgsn
  | fml610 =>
    refine sends_require (sends_usbtty _) (sends_require (sends_usbtty _) ?_)
    have hend : Fml610.setupEnd.Sends (Safe texts) :=
      sends_check (sends_txRet (safe_constants rfl)) fun _ =>
        sends_check (sends_usbtty .cgsn) fun _ => sends_check (sends_usbtty .cgmr) fun _ => trivial
    apply sends_rounds hend
    intro t next hnext
    exact sends_modeRound trivial (safe_constants rfl) (fun _ => trivial) hnext hend
  | inne7b01 =>
    exact sends_require (sends_usbtty _) (sends_require (sends_usbtty _) sends_cgsn)
  | mu609 =>
    refine sends_require (sends_usbtty _) (sends_require (sends_usbtty _) ?_)
    exact sends_check (sends_txRet (safe_constants rfl)) fun _ => sends_cgsn
  | ne16u =>
    refine sends_require (sends_usbtty _) (sends_require (sends_usbtty _) ?_)
    apply sends_rounds (sends_ne16u_setupNat false)
    intro t next hnext
    exact sends_qcfgRound rfl rfl trivial hnext (sends_ne16u_setupNat false)
  | zte7520 =>
    refine sends_require (sends_usbtty _) ?_
    refine sends_check (sends_txRet (safe_constants rfl)) fun _ => ?_
    refine sends_require (sends_usbtty _) (sends_tx trivial fun r => ?_)
    refine sends_check (p := pure r.ret) trivial fun i => ?_
    split
    · exact (Script.quiet_put _ _).sends.bind fun _ => sends_zte7520_checkCard rfl sends_cgsn
    · exact sends_zte7520_checkCard rfl sends_cgsn

/-! ### Settings -/

/-- The network mode of the EC200 is a number of its table. -/
theorem sends_ec200x_lockNettype {texts : List String} (netmode : Option String) :
    (Ec200x.lockNettype netmode).Sends (Safe texts) := by
  have hmode : plain (.raw (Ec200x.nettype netmode)) = true := by
    unfold Ec200x.nettype
    split <;> rfl
  refine sends_ask (safe_constants rfl) fun r => ?_
  split
  · exact trivial
  · split
    · exact sends_txRet (safe_constants (by simp [hmode]; decide))
    · exact trivial

/-- The network mode of the FML610 is made of constants. -/
theorem sends_fml610_lockNettype {texts : List String} (netmode : Option String) :
    (Fml610.lockNettype netmode).Sends (Safe texts) := by
  have hmode : plain (.raw (Fml610.nettype netmode)) = true := by
    unfold Fml610.nettype
    split <;> rfl
  refine sends_ask trivial fun r => ?_
  split
  · refine sends_txRet ?_
    unfold Fml610.nettypeArgs
    split
    · exact safe_constants rfl
    · exact safe_constants (by simp [hmode])
  · exact trivial

/-- The network mode of the NE16U is a number of its table. -/
theorem sends_ne16u_lockNettype {texts : List String} (netmode : Option String) :
    (Ne16u.lockNettype netmode).Sends (Safe texts) := by
  have hmode : plain (.raw (Ne16u.nettype netmode)) = true := by
    unfold Ne16u.nettype
    split <;> rfl
  refine sends_ask trivial fun r => ?_
  split
  · exact sends_txRet (safe_constants (by simp [hmode]))
  · exact trivial

/-- The network mode of the ZTE7520 is made of constants. -/
theorem sends_zte7520_sysconfig {texts : List String} (netmode : Option String) :
    (Zte7520.sysconfig netmode).Sends (Safe texts) := by
  have hmode : plain (.raw (Zte7520.nettype netmode)) = true := by
    unfold Zte7520.nettype
    split <;> rfl
  refine sends_ask trivial fun r => sends_tx trivial fun recv => ?_
  split
  · exact trivial
  · split
    · exact sends_txRet (safe_constants (by simp [hmode]; decide))
    · exact trivial

/-- The text of the mask is made of numbers and commas. -/
theorem isMask_mask (mask : List ℕ) :
    IsMask .zlteband (.raw (",".intercalate (mask.map toString))) := by
  refine ⟨rfl, ?_⟩
  unfold body
  rw [String.toList_intercalate]
  induction mask with
  | nil => simp
  | cons n mask ih =>
    have hdigits : ∀ c ∈ (toString n).toList, c.isDigit = true := by
      intro c hc
      exact Nat.isDigit_of_mem_toDigits (b := 10) (n := n) (by decide) (by decide)
        (by simpa using hc)
    by_cases hmask : mask = []
    · intro c hc
      exact Or.inl (hdigits c (by simpa [hmask] using hc))
    · intro c hc
      rw [List.map_cons, List.map_cons,
        List.intercalate_cons_of_ne_nil (by simpa using hmask)] at hc
      rcases List.mem_append.mp hc with hc | hc
      · rcases List.mem_append.mp hc with hc | hc
        · exact Or.inl (hdigits c hc)
        · exact Or.inr (List.mem_singleton.mp hc)
      · exact ih c hc

/-- The ZTE7520 writes its bands as a mask of eight numbers. -/
theorem sends_zte7520_band {texts : List String} (bandsets : Option String) :
    (Zte7520.band bandsets).Sends (Safe texts) := by
  unfold Zte7520.band
  split
  · exact trivial
  · dsimp only
    split
    · refine sends_tx trivial fun r => ?_
      split
      · exact sends_txRet (safe_set (by simp [isMask_mask]))
      · exact trivial
    · exact trivial

/-- An operation that needs a configuration sends nothing without one. -/
theorem sends_withCfg {P : Command → Prop} {op : Talk → Op Boole}
    (hop : ∀ t, cfg = some t → (op t).Sends P) : (withCfg cfg op).Sends P := by
  cases cfg with
  | none => exact trivial
  | some t => exact hop t rfl

/-- The texts of a setting are those of the configuration. -/
theorem sends_atSetting (d : Driver) :
    (d.atSetting unescape cfg).Sends (Safe (configured unescape cfg)) := by
  cases d with
  | ec200x =>
    refine sends_withCfg fun t ht => ?_
    rw [Ec200x.atSetting, ← ht]
    refine sends_check (sends_ec200x_lockNettype _) fun i => ?_
    refine sends_check (sends_blindLock fun s text hs htext => ?_) fun _ => ?_
    · have hlock := traced_lock (a := .raw text) (by simp) hs htext List.prefix_rfl
      exact safe_set (by simp [hlock, show Traced _ (.quoted "band") from Or.inl rfl])
    refine sends_check (sends_blindLock fun s text hs htext => ?_) fun _ => ?_
    · have hlock := traced_lock (a := .raw text) (by simp) hs htext List.prefix_rfl
      exact safe_set (by simp [hlock, show Traced _ (.quoted "common/4g") from Or.inl rfl])
    exact sends_profileModes .ec200x _ _
  | em350 =>
    refine sends_withCfg fun t ht => ?_
    rw [Em350.atSetting, ← ht]
    exact sends_profileModes .em350 _ _
  | fml610 =>
    refine sends_withCfg fun t ht => ?_
    rw [Fml610.atSetting, ← ht]
    exact sends_check (sends_fml610_lockNettype _) fun i => sends_profileModes .fml610 _ _
  | inne7b01 =>
    refine sends_withCfg fun t ht => ?_
    rw [Inne7b01.atSetting, ← ht]
    refine sends_check (sends_txRet (safe_constants rfl)) fun _ => ?_
    refine sends_check (sends_txRet (safe_constants rfl)) fun _ => ?_
    exact sends_profileModes .inne7b01 _ _
  | mu609 =>
    refine sends_withCfg fun t ht => ?_
    rw [Mu609.atSetting, ← ht]
    exact sends_profileModes .mu609 _ _
  | ne16u =>
    refine sends_check (sends_ne16u_lockNettype _) fun i => ?_
    refine sends_check (sends_blindLock fun s text hs htext => ?_) fun _ => ?_
    · have hlock := traced_lock (a := .raw (snprintf (lineMax - 9) text)) (by simp) hs htext
        (by simpa [body, snprintf] using List.take_prefix _ _)
      exact safe_set (by simp [hlock])
    refine sends_check (sends_blindLock fun s text hs htext => ?_) fun _ => ?_
    · have hlock := traced_lock (a := .raw (snprintf (lineMax - 11) text)) (by simp) hs htext
        (by simpa [body, snprintf] using List.take_prefix _ _)
      exact safe_set (by simp [hlock])
    exact sends_profileModes .ne16u _ _
  | zte7520 =>
    refine sends_withCfg fun t ht => ?_
    rw [Zte7520.atSetting, ← ht]
    refine sends_check (sends_txRet (safe_constants rfl)) fun _ => ?_
    refine sends_check (sends_txRet (safe_constants rfl)) fun _ => ?_
    refine sends_check (sends_zte7520_sysconfig _) fun i => ?_
    refine sends_check (sends_zte7520_band _) fun _ => ?_
    exact sends_profileModes .zte7520 _ _

/-! ### The connection -/

/-- The texts of a connection are those of the configuration. -/
theorem sends_atConnect {t : Talk} (ht : cfg = some t) (d : Driver) :
    (d.atConnect t).Sends (Safe (configured unescape cfg)) := by
  have hprofile : ∀ d, (setProfileset (jsonValue (some t) "profile_cfg") d).Sends
      (Safe (configured unescape cfg)) := by
    intro d
    rw [← ht]
    exact sends_setProfileset d
  have hcid : Traced (configured unescape cfg) (.raw (cidOf (jsonValue (some t) "profile_cfg"))) :=
    by
      rw [← ht]
      exact traced_cid
  have hone : Traced (configured unescape cfg) (.raw "1") := Or.inl rfl
  cases d with
  | ec200x =>
    have hdial : (require (txRet (.set .qnetdevctl [.raw "1",
        .raw (cidOf (jsonValue (some t) "profile_cfg")), .raw "1"]))
        (pure .ttrue)).Sends (Safe (configured unescape cfg)) :=
      sends_require (sends_txRet (safe_set (by simp [hcid, hone]))) trivial
    refine sends_check (hprofile .ec200x) fun _ => ?_
    refine sends_check (sends_txRet (safe_set (by simp [hcid]))) fun i => ?_
    split
    · exact sends_ec200x_rounds trivial trivial hdial 3 0
    · exact hdial
  | em350 =>
    refine sends_check (hprofile .em350) fun _ => sends_require (sends_txRet ?_) trivial
    rw [← ht]
    unfold Em350.dial
    dsimp only
    split
    · exact safe_set (by simp [traced_cid, traced_apn, hone])
    · exact safe_set (by
        simp [traced_cid, traced_apn, traced_user, traced_pass, traced_auth, hone])
  | fml610 =>
    refine sends_check (hprofile .fml610) fun _ => ?_
    exact sends_check (sends_txRet (safe_set (by simp [hcid, hone]))) fun _ => trivial
  | inne7b01 =>
    refine sends_check (hprofile .inne7b01) fun _ => ?_
    refine sends_require (sends_txRet (safe_set (by simp [hcid, hone]))) ?_
    exact sends_require (sends_txRet (safe_constants rfl)) trivial
  | mu609 =>
    refine sends_check (hprofile .mu609) fun _ => sends_require (sends_txRet ?_) trivial
    rw [← ht]
    exact safe_set (by
      simp [traced_cid, traced_apn, traced_user, traced_pass, traced_auth, hone])
  | ne16u =>
    refine sends_check (hprofile .ne16u) fun _ => ?_
    refine Script.Sends.bind (sends_txRet (safe_set (by simp [hcid, hone]))) fun i => ?_
    split_ifs <;> exact trivial
  | zte7520 =>
    refine sends_check (hprofile .zte7520) fun _ => ?_
    refine sends_require (sends_txRet (safe_set (by simp [hcid, hone]))) ?_
    exact sends_require (sends_txRet (safe_set (by simp [hcid, hone]))) trivial

/-- `AT^NDISSTATQRY` has no argument. -/
theorem sends_ndisstatqry {texts : List String} : ndisstatqry.Sends (Safe texts) := by
  refine sends_ask trivial fun r => ?_
  split <;> exact trivial

/-- A question about the context of the profile, of which only the value matters. -/
theorem sends_askContext {name : AtName} {f : Reply → Op Ret}
    (hf : ∀ r, (f r).Sends fun _ => False) :
    (tx (.set name [.raw (cidOf (jsonValue cfg "profile_cfg"))]) >>= fun r =>
      if r.ret ≠ .succeed then pure r.ret else f r).Sends (Safe (configured unescape cfg)) :=
  sends_ask (safe_set (by simp [traced_cid])) fun r => (hf r).mono fun _ h => h.elim

/-- The address is asked for with the context id of the profile. -/
theorem sends_cgpaddr : (cgpaddr (cidOf (jsonValue cfg "profile_cfg"))).Sends
    (Safe (configured unescape cfg)) :=
  sends_askContext fun r => by split <;> exact trivial

/-- Looking at the connection has no other text than those of the configuration. -/
theorem sends_atConnected (d : Driver) :
    (d.atConnected cfg).Sends (Safe (configured unescape cfg)) := by
  cases d with
  | ec200x =>
    refine sends_check (sends_txRet trivial) fun _ => sends_tx trivial fun r => ?_
    split <;> exact trivial
  | em350 =>
    refine sends_withCfg fun t ht => ?_
    rw [Em350.atConnected, ← ht]
    refine Script.Sends.bind sends_ndisstatqry fun i => ?_
    split
    · exact trivial
    · refine sends_check sends_cgpaddr fun i => ?_
      refine sends_check (sends_askContext fun r => ?_) fun i => trivial
      split <;> exact trivial
  | fml610 =>
    refine sends_require (sends_ask trivial fun r => ?_) trivial
    split <;> exact trivial
  | inne7b01 =>
    refine sends_require (sends_ask trivial fun r => ?_) trivial
    split <;> exact trivial
  | mu609 =>
    refine sends_withCfg fun t ht => ?_
    rw [Mu609.atConnected, ← ht]
    refine Script.Sends.bind sends_ndisstatqry fun i => ?_
    split
    · exact trivial
    · exact sends_check sends_cgpaddr fun i => trivial
  | ne16u =>
    refine sends_withCfg fun t ht => ?_
    rw [Ne16u.atConnected, ← ht]
    refine sends_require (sends_askContext fun r => ?_) trivial
    split <;> exact trivial
  | zte7520 =>
    refine sends_require (sends_ask trivial fun r => ?_) trivial
    split <;> exact trivial

/-- Disconnecting has no other text than the context id. -/
theorem sends_atDisconnect (d : Driver) :
    (d.atDisconnect cfg).Sends (Safe (configured unescape cfg)) := by
  cases d with
  | ne16u =>
    refine sends_withCfg fun t ht => ?_
    rw [Ne16u.atDisconnect, ← ht]
    have hzero : Traced (configured unescape cfg) (.raw "0") := Or.inl rfl
    exact sends_require (sends_txRet (safe_set (by simp [traced_cid, hzero]))) trivial
  | zte7520 =>
    refine sends_check (sends_txRet (safe_constants rfl)) fun _ => ?_
    exact sends_check (sends_txRet (safe_constants rfl)) fun _ => trivial
  | _ => exact sends_check (sends_txRet (safe_constants rfl)) fun _ => trivial

/-! ### Watching -/

/-- The EC200 asks for the network without an argument. -/
theorem sends_ec200x_qnwinfo {texts : List String} : Ec200x.qnwinfo.Sends (Safe texts) := by
  refine sends_ask trivial fun r =>
    (Script.quiet_foldlM (fun ret line => ?_) Ret.failed (lines r.ack)).sends
  unfold Ec200x.qnwinfoLine
  split
  · trivial
  split
  · exact (quiet_setNetwork _ _ _ _).bind fun _ _ => trivial
  · trivial

/-- The NE16U asks for the network without an argument. -/
theorem sends_ne16u_qnwinfo {texts : List String} : Ne16u.qnwinfo.Sends (Safe texts) := by
  refine sends_ask trivial fun r =>
    (Script.quiet_foldlM (fun ret line => ?_) Ret.failed (lines r.ack)).sends
  unfold Ne16u.qnwinfoLine
  split
  · trivial
  split
  · exact (quiet_setNetwork _ _ _ _).bind fun _ _ => trivial
  split
  · exact (quiet_setNetwork _ _ _ _).bind fun _ _ => trivial
  · trivial

/-- The NE16U asks for the serving cell with a constant. -/
theorem sends_ne16u_servingcell {texts : List String} :
    Ne16u.servingcell.Sends (Safe texts) := by
  refine sends_ask (safe_constants rfl) fun r =>
    (Script.quiet_foldlM (fun ret line => ?_) Ret.failed (lines r.ack)).sends
  unfold Ne16u.servingcellLine
  split
  · split <;> trivial
  · split
    · exact quiet_ne16u_setCell _ _
    · trivial

/-- The FML610 asks for the operator without an argument. -/
theorem sends_fml610_cops {texts : List String} : Fml610.cops.Sends (Safe texts) := by
  refine sends_ask trivial fun r => ?_
  split
  · trivial
  · exact (quiet_onlyIf _ (Script.quiet_put _ _)).sends.bind fun _ =>
      (quiet_setGiven _ _).sends.bind fun _ => trivial

/-- The FML610 asks for the signal without an argument. -/
theorem sends_fml610_cesq {texts : List String} : Fml610.cesq.Sends (Safe texts) := by
  refine sends_ask trivial fun r => ?_
  split
  · trivial
  · rw [Script.get_bind]
    intro nettype
    dsimp only
    split
    · exact (quiet_fml610_setOldCsq _ _ _).sends
    split
    · exact (quiet_fml610_setOldCsq _ _ _).sends
    · exact (quiet_fml610_setLte _).sends

/-- The ZTE7520 asks for the card without an argument. -/
theorem sends_zte7520_ccid {texts : List String} : Zte7520.ccid.Sends (Safe texts) := by
  refine sends_tx trivial fun r => sends_relay (p := pure r.ret) trivial fun i => ?_
  split
  · exact sends_ask trivial fun r => (quiet_zte7520_setIccid _).sends
  · exact (quiet_zte7520_setIccid _).sends

/-- The ZTE7520 asks for the signal without an argument. -/
theorem sends_zte7520_cesq {texts : List String} : Zte7520.cesq.Sends (Safe texts) := by
  refine sends_ask trivial fun r => ?_
  split
  · trivial
  · exact (quiet_onlyIf _ (Script.quiet_put _ _)).sends.bind fun _ =>
      (quiet_onlyIf _ (Script.quiet_put _ _)).sends.bind fun _ => trivial

/-- Every driver begins to watch with the PIN, and does not give it out again. -/
theorem opens_atWatch {texts : List String} (cfg : Option Talk) (d : Driver) :
    (d.atWatch cfg).Opens (.cpin (jsonString cfg "lock_pin")) (Safe texts) := by
  cases d with
  | ec200x =>
    refine (quiet_deleteAll _).opens_bind fun _ => opens_checkSim (sends_usbtty .ccid) ?_
    refine (quiet_deleteAll _).sends.bind fun _ => sends_check sends_ec200x_qnwinfo fun _ => ?_
    exact sends_checkCops (sends_checkReg sends_csqEnd)
  | em350 =>
    refine (quiet_deleteAll _).opens_bind fun _ => opens_checkSim (sends_iccid 3 _) ?_
    refine (quiet_deleteAll _).sends.bind fun _ => sends_check (sends_sysinfoex _) fun _ => ?_
    exact sends_check (sends_usbtty .cops) fun _ => sends_checkReg sends_csqEnd
  | fml610 =>
    refine (quiet_deleteAll _).opens_bind fun _ => opens_checkSim (sends_usbtty .ccid) ?_
    refine (quiet_deleteAll _).sends.bind fun _ => sends_check sends_fml610_cops fun _ => ?_
    exact sends_check sends_fml610_cesq fun _ => sends_checkReg sends_checkMissingCsq
  | inne7b01 =>
    refine (quiet_deleteAll _).opens_bind fun _ => opens_checkSim (sends_usbtty .ccid) ?_
    refine (quiet_deleteAll _).sends.bind fun _ => sends_check sends_sysinfo fun _ => ?_
    exact sends_check (sends_usbtty .cops) fun _ =>
      sends_checkReg (sends_checkZemsciq sends_csqEnd)
  | mu609 =>
    refine (quiet_deleteAll _).opens_bind fun _ => opens_checkSim (sends_iccid 3 _) ?_
    refine (quiet_deleteAll _).sends.bind fun _ => sends_check (sends_sysinfoex _) fun _ => ?_
    exact sends_check (sends_usbtty .cops) fun _ => sends_checkReg sends_csqEnd
  | ne16u =>
    refine (quiet_deleteAll _).opens_bind fun _ => opens_checkSim (sends_usbtty .ccid) ?_
    refine (quiet_deleteAll _).sends.bind fun _ => sends_check sends_ne16u_servingcell fun _ => ?_
    refine sends_check sends_ne16u_qnwinfo fun _ => sends_check (sends_usbtty .creg) fun _ => ?_
    refine sends_check (sends_usbtty .cereg) fun _ => sends_check (sends_usbtty .cgreg) fun _ => ?_
    refine sends_check (sends_usbtty .c5greg) fun i => (quiet_setPlmn i).sends.bind fun _ => ?_
    exact sends_checkCops sends_checkMissingCsq
  | zte7520 =>
    refine (quiet_deleteAll _).opens_bind fun _ => opens_checkSim sends_zte7520_ccid ?_
    refine (quiet_deleteAll _).sends.bind fun _ => sends_check sends_sysinfo fun _ => ?_
    refine sends_check sends_zte7520_cesq fun _ => sends_check (sends_usbtty .cops) fun _ => ?_
    exact sends_checkReg (sends_checkZemsciq sends_csqEnd)

/-- What any operation but `_at_watch` sends. -/
theorem sends_script (d : Driver) {op : AtOperation} (hop : op ≠ .watch) :
    (d.script unescape cfg op).Sends (Safe (configured unescape cfg)) := by
  cases op with
  | setup => exact sends_withCfg fun _ _ => sends_atSetup d
  | off => exact sends_atOff d
  | shut => exact sends_atShut d
  | setting => exact sends_atSetting d
  | watch => exact absurd rfl hop
  | connect => exact sends_withCfg fun t ht => sends_atConnect ht d
  | connected => exact sends_atConnected d
  | disconnect => exact sends_atDisconnect d

end Drivers

/-! ## Runs -/

section Runs

variable {M : Type} (answer : M → Command → Reply × M) (unescape : Unescape)

/-- A command has an argument that is not clean and is one of the texts or its beginning. -/
def Broken (texts : List String) (c : Command) : Prop :=
  ∃ name args, c = .set name args ∧ ∃ a ∈ args, ¬ CleanArg name a ∧
    ∃ text ∈ texts, (body a).toList <+: text.toList

/-- A safe command is clean, or broken by one of the texts. -/
theorem clean_or_broken {texts : List String} {c : Command} (h : Safe texts c) :
    CleanCommand c ∨ Broken texts c := by
  cases c with
  | set name args =>
    by_cases hclean : ∀ a ∈ args, CleanArg name a
    · exact Or.inl ⟨h.1, hclean⟩
    · push Not at hclean
      obtain ⟨a, ha, hbroken⟩ := hclean
      refine Or.inr ⟨name, args, rfl, a, ha, hbroken, ?_⟩
      rcases h.2 a ha with (hplain | htext) | hmask
      · exact absurd (cleanArg_of_plain name hplain) hbroken
      · exact htext
      · exact absurd (cleanArg_of_isMask hmask) hbroken
  | cpin pin => exact h.elim
  | _ => exact Or.inl trivial

/-- Every text an operation sends is read as the one line the driver meant, or a text of the
configuration breaks it. -/
theorem sent_lines (cfg : Option Talk) (d : Driver) (op : AtOperation) (m : M) (s : Device)
    {e : Command × Reply} (he : e ∈ (Script.run answer (d.script unescape cfg op) m s).trace)
    {t : String} (ht : e.1.text = some t) :
    readText t.toList = [meant e.1] ∨ Broken (configured unescape cfg) e.1 := by
  have hsafe : Safe (configured unescape cfg) e.1 := by
    by_cases hop : op = .watch
    · subst hop
      have hopens : (d.atWatch cfg).Opens (.cpin (jsonString cfg "lock_pin"))
          (Safe (configured unescape cfg)) := opens_atWatch cfg d
      obtain ⟨r, rest, htrace, hrest⟩ := hopens.run answer m s
      rw [show d.script unescape cfg .watch = d.atWatch cfg from rfl, htrace] at he
      rcases List.mem_cons.mp he with rfl | he
      · cases ht
      · exact hrest e he
    · exact (sends_script d hop).run answer m s e he
  exact (clean_or_broken hsafe).imp_left (readText_text_iff ht).mpr

/-- The access point of a profile, on its way into the line that dials. -/
theorem sent_lines_dial :
    let cfg := some (Talk.json [("profile_cfg", .json [("apn", .text "cmnet")])])
    let dial : Command := .set .ndisdup [.raw "1", .raw "1", .quoted "cmnet", .quoted "",
      .quoted "", .raw "0"]
    readText "AT^NDISDUP=1,1,\"cmnet\",\"\",\"\",0".toList = [meant dial] ∨
      Broken (configured some cfg) dial :=
  sent_lines (fun _ _ => (⟨.succeed, [], [], 0⟩, ())) some
    (some (.json [("profile_cfg", .json [("apn", .text "cmnet")])])) .mu609 .connect ()
    (fun _ => none) (e := (.set .ndisdup [.raw "1", .raw "1", .quoted "cmnet", .quoted "",
      .quoted "", .raw "0"], ⟨.succeed, [], [], 0⟩)) (by decide +kernel) (by decide +kernel)

/-! ### The PIN -/

/-- The command that gives out the PIN. -/
def isPin : Command → Bool
  | .cpin _ => true
  | _ => false

/-- A call of an operation, with the configuration, the modem and the record it finds. -/
structure Call (M : Type) where
  op : AtOperation
  cfg : Option Talk
  modem : M
  record : Device

/-- What a call sends. -/
def Call.trace (d : Driver) (call : Call M) : List (Command × Reply) :=
  (Script.run answer (d.script unescape call.cfg call.op) call.modem call.record).trace

/-- A safe command gives out no PIN. -/
theorem isPin_of_safe {texts : List String} {c : Command} (h : Safe texts c) :
    isPin c = false := by
  cases c with
  | cpin pin => exact h.elim
  | _ => rfl

/-- Among safe commands there is no PIN. -/
theorem filter_isPin {texts : List String} {es : List (Command × Reply)}
    (h : ∀ e ∈ es, Safe texts e.1) : (es.map Prod.fst).filter isPin = [] := by
  rw [List.filter_eq_nil_iff]
  intro c hc
  obtain ⟨e, he, rfl⟩ := List.mem_map.mp hc
  simp [isPin_of_safe (h e he)]

/-- A watch begins with the PIN and goes on without it. -/
theorem trace_watch (d : Driver) {call : Call M} (hop : call.op = .watch) :
    ∃ r rest, call.trace answer unescape d =
      (.cpin (jsonString call.cfg "lock_pin"), r) :: rest ∧ ∀ e ∈ rest, Safe [] e.1 := by
  rw [Call.trace, hop]
  exact (opens_atWatch call.cfg d).run answer call.modem call.record

/-- The PIN in one call. -/
theorem call_pins (d : Driver) (call : Call M) :
    ((call.trace answer unescape d).map Prod.fst).filter isPin =
      if call.op = .watch then [.cpin (jsonString call.cfg "lock_pin")] else [] := by
  split
  · next hop =>
    obtain ⟨r, rest, htrace, hrest⟩ := trace_watch answer unescape d hop
    rw [htrace, List.map_cons, List.filter_cons_of_pos rfl, filter_isPin hrest]
  · next hop =>
    exact filter_isPin ((sends_script d hop).run answer call.modem call.record)

/-- A session of any calls, whatever happens to the modem and the record in between, gives
out the PIN of the configuration once for every watch, and every watch begins with it. -/
theorem session_pins (d : Driver) (calls : List (Call M)) :
    ((calls.flatMap (Call.trace answer unescape d)).map Prod.fst).filter isPin =
        (calls.filter fun call => call.op = .watch).map
          (fun call => .cpin (jsonString call.cfg "lock_pin")) ∧
      ∀ call ∈ calls, call.op = .watch →
        ((call.trace answer unescape d).map Prod.fst).head? =
          some (.cpin (jsonString call.cfg "lock_pin")) := by
  constructor
  · induction calls with
    | nil => rfl
    | cons call calls ih =>
      rw [List.flatMap_cons, List.map_append, List.filter_append, ih, call_pins]
      by_cases hop : call.op = .watch
      · rw [if_pos hop, List.filter_cons_of_pos (by simpa using hop), List.map_cons,
          List.singleton_append]
      · rw [if_neg hop, List.filter_cons_of_neg (by simpa using hop), List.nil_append]
  · intro call _ hop
    obtain ⟨r, rest, htrace, -⟩ := trace_watch answer unescape d hop
    rw [htrace, List.map_cons, List.head?_cons]

end Runs

end Tiger.Analysis.CommandOrigins
