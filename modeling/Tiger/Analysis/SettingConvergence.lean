import Tiger.Analysis.SettingSteps

/-!
# Whether the settings come to rest

`_at_setting` returns `NULL` for a restart when a step wrote something. `runs_atSetting`
says that every driver carries out its plan against a modem that stores its settings, so
a second run returns `ttrue` exactly where the plan has nothing left to write
(`settings_converge_iff`).
-/

set_option autoImplicit false

namespace Tiger.Analysis.SettingConvergence

open Tiger.Library Tiger.Model Tiger.Analysis.ConnectContract Tiger.Analysis.ScriptSteps

variable (formats : Formats)

section Steps

variable {formats} {texts : List (Slot × String)} {contexts : String → String}

/-! ### The profile -/

section Profile

variable (m₀ : Memory)

/-- What is known of the place of a look before and behind it. -/
def Look.before (look : Look) : Slot × String := (look.slot, m₀.texts look.slot)

variable (formats) in
def Look.behind (look : Look) : Slot × String :=
  (look.slot, look.after formats (m₀.texts look.slot))

/-- An authentication that is written without a look. -/
theorem meets_login [formats.Lawful] {name : AtName} (hname : name = .authdata ∨ name = .mgauth ∨
    name = .zgpcoauth) (args : List Arg) (htexts : Looked texts) :
    (txRet (.set name args)).Meets (storingModem formats) (Facts texts contexts) fun i m =>
      Plain i ∧ i = .succeed ∧ Facts texts contexts m := by
  have haccess : (Command.set name args).access = .write (name, "") (argsText args) := by
    rcases hname with rfl | rfl | rfl <;> rfl
  have havoids : Avoids texts (.set name args) := by
    apply avoids_write haccess htexts
    · rcases hname with rfl | rfl | rfl <;> simp [IsMode]
    · rcases hname with rfl | rfl | rfl <;> simp
  intro m dev hm
  have hkeep := meets_ignored formats havoids m dev hm
  exact ⟨hkeep.1, (meets_write haccess m dev trivial).1, hkeep.2⟩

/-- The authentication of the FML610 is one command. -/
theorem mgauth_eq (cid : String) (login : Login) :
    ∃ args, Fml610.mgauth cid login = .set .mgauth args := by
  unfold Fml610.mgauth
  split <;> exact ⟨_, rfl⟩

/-- A failure cuts nothing short. -/
theorem plain_failed : Plain .failed := Or.inr rfl

/-- The profile is written where the plan has something to write. -/
theorem meets_setProfileset [formats.Lawful] (profile : Talk) (d : Driver)
    (htexts : ∀ e ∈ texts, IsMode e.1) :
    (setProfileset (some profile) d).Meets (storingModem formats)
      (Facts ((profilePlan formats d (some profile)).looks.map (Look.before m₀) ++ texts)
        m₀.contexts) fun i m =>
        Plain i ∧ (i = .succeed ↔ (profilePlan formats d (some profile)).Writes formats m₀) ∧
          Facts ((profilePlan formats d (some profile)).looks.map (Look.behind formats m₀) ++
            texts) (overwrite (profilePlan formats d (some profile)).definitions m₀.contexts)
            m := by
  have hlooked : Looked texts := fun e he => Or.inl (htexts e he)
  -- the drivers whose authentication does not count
  have hcontexts : ∀ (iptype : Option String) (d : Driver),
      profileLook (some profile) d = [] → (iptypeOf (some profile) d = iptype ∧ d ≠ .fml610) →
      (setContexts (some profile) iptype .failed).Meets (storingModem formats)
        (Facts texts m₀.contexts) fun i m =>
          Plain i ∧ (i = .succeed ↔ (profilePlan formats d (some profile)).Writes formats m₀) ∧
          Facts ((profilePlan formats d (some profile)).looks.map (Look.behind formats m₀) ++
            texts) (overwrite (profilePlan formats d (some profile)).definitions m₀.contexts)
            m := by
    intro iptype d hlooks hd
    obtain ⟨rfl, hd⟩ := hd
    refine (meets_setContexts formats (some profile) _ plain_failed).mono (fun _ h => h)
      fun i m hm => ?_
    obtain ⟨hplain, hvalue, hfacts⟩ := hm
    refine ⟨hplain, hvalue.trans ?_, ?_⟩
    · simp [Plan.Writes, profilePlan, hlooks, hd]
    · simpa [profilePlan, hlooks] using hfacts
  cases d with
  | ec200x =>
    refine meets_relay ((step_qicsgp _ _).meets (sends_qicsgp_avoids _ _ _ _ htexts) _)
      fun i m dev hm => ?_
    obtain ⟨hi, hm⟩ := hm
    obtain ⟨hplain, hvalue, hfacts⟩ :=
      meets_setContexts formats (some profile) _ (plain_counted plain_failed i) m dev hm
    refine ⟨hplain, hvalue.trans ?_, hfacts⟩
    rw [counted_eq_succeed_iff, hi]
    simp [Plan.Writes, profilePlan, profileLook, qicsgpLook, iptypeOf]
  | em350 =>
    refine (meets_login (Or.inl rfl) _ hlooked).bind fun i m dev hm => ?_
    rw [if_neg hm.1.ne_error]
    exact hcontexts _ .em350 rfl ⟨rfl, by decide⟩ m dev hm.2.2
  | fml610 =>
    obtain ⟨args, hauth⟩ := mgauth_eq (cidOf (some profile)) (loginOf (some profile))
    change (relay (txRet (Fml610.mgauth _ _)) _).Meets _ _ _
    rw [hauth]
    refine meets_relay (meets_login (Or.inr (Or.inl rfl)) args hlooked) fun i m dev hm => ?_
    obtain ⟨rfl, hm⟩ := hm
    obtain ⟨hplain, hvalue, hfacts⟩ := meets_setContexts formats (some profile) _
      (plain_counted plain_failed .succeed) m dev hm
    refine ⟨hplain, hvalue.trans ?_, hfacts⟩
    simp [Plan.Writes, profilePlan, counted]
  | inne7b01 =>
    refine meets_relay (meets_login (Or.inr (Or.inr rfl)) _ hlooked) fun i m dev hm => ?_
    exact hcontexts _ .inne7b01 rfl ⟨rfl, by decide⟩ m dev hm.2
  | mu609 => exact hcontexts _ .mu609 rfl ⟨rfl, by decide⟩
  | ne16u =>
    refine meets_relay ((step_qicsgp _ _).meets (sends_qicsgp_avoids _ _ _ _ htexts) _)
      fun i m dev hm => ?_
    obtain ⟨hi, hm⟩ := hm
    obtain ⟨hplain, hvalue, hfacts⟩ :=
      meets_setContexts formats (some profile) _ (plain_counted plain_failed i) m dev hm
    refine ⟨hplain, hvalue.trans ?_, hfacts⟩
    rw [counted_eq_succeed_iff, hi]
    simp [Plan.Writes, profilePlan, profileLook, qicsgpLook, iptypeOf]
  | zte7520 =>
    refine meets_relay (meets_login (Or.inr (Or.inr rfl)) _ hlooked) fun i m dev hm => ?_
    exact hcontexts _ .zte7520 rfl ⟨rfl, by decide⟩ m dev hm.2

/-- A restart is asked for exactly when it was before or the step wrote. -/
theorem restart_eq_null_iff (ret : Boole) (i : Ret) :
    restart ret i = .null ↔ ret = .null ∨ i = .succeed := by
  unfold restart
  split
  · next h => simp [h]
  · next h => simp [h]

/-- A step asks for a restart or leaves the value. -/
theorem restart_eq_or (ret : Boole) (i : Ret) : restart ret i = .null ∨ restart ret i = ret := by
  unfold restart
  split
  · exact Or.inl rfl
  · exact Or.inr rfl

variable (formats) in
/-- What a plan leaves, with the texts of other places; `wrote` says that a step in front of
the plan wrote something. -/
def Plan.Leaves (plan : Plan) (texts : List (Slot × String)) (wrote : Prop) (b : Boole)
    (m : Memory) : Prop :=
  (b = .null ↔ wrote ∨ plan.Writes formats m₀) ∧ (b = .null ∨ b = .ttrue) ∧
    Facts (plan.looks.map (Look.behind formats m₀) ++ texts)
      (overwrite plan.definitions m₀.contexts) m

/-- The profile and what follows it. -/
theorem meets_profile [formats.Lawful] (profile : Option Talk) (d : Driver)
    (modes : List Usbtty) {ret : Boole} (hret : ret = .null ∨ ret = .ttrue)
    (htexts : ∀ e ∈ texts, IsMode e.1) :
    (checkProfile (setProfileset · d) profile ret (checkModes modes)).Meets
      (storingModem formats)
      (Facts ((profilePlan formats d profile).looks.map (Look.before m₀) ++ texts) m₀.contexts)
      ((profilePlan formats d profile).Leaves formats m₀ texts (ret = .null)) := by
  unfold checkProfile
  cases profile with
  | none =>
    refine (meets_checkModes formats modes ret).mono (fun _ h => h) fun b m hm => ?_
    obtain ⟨rfl, hm⟩ := hm
    exact ⟨by simp [Plan.Writes, profilePlan], hret, hm⟩
  | some profile =>
    refine meets_check (meets_setProfileset m₀ profile d htexts) fun i m dev hm => ?_
    obtain ⟨hi, hm⟩ := hm
    obtain ⟨hvalue, hfacts⟩ := meets_checkModes formats modes (restart ret i) m dev hm
    unfold Plan.Leaves
    rw [hvalue, ← hi, ← restart_eq_null_iff]
    refine ⟨Iff.rfl, ?_, hfacts⟩
    rcases restart_eq_or ret i with h | h
    · exact Or.inl h
    · rw [h]
      exact hret

/-- The order of what is known does not count. -/
theorem facts_append_comm {m : Memory} {a b : List (Slot × String)}
    (hm : Facts (a ++ b) contexts m) : Facts (b ++ a) contexts m :=
  ⟨fun e he => hm.1 e (List.mem_append.mpr (List.mem_append.mp he).symm), hm.2⟩

/-- A setting carries out a plan when it does so from what the plan looks at. -/
theorem runs_of_leaves {plan : Plan} {p : Op Boole}
    (hp : ∀ m₀, p.Meets (storingModem formats)
      (Facts (plan.looks.map (Look.before m₀)) m₀.contexts)
      (plan.Leaves formats m₀ [] False)) : plan.Runs formats p := by
  intro m₀
  refine (hp m₀).mono (fun m hm => ?_) fun b m hm => ?_
  · rw [hm]
    refine ⟨fun e he => ?_, rfl⟩
    obtain ⟨look, -, rfl⟩ := List.mem_map.mp he
    rfl
  · obtain ⟨hnull, hvalue, htexts, hcontexts⟩ := hm
    rw [false_or] at hnull
    refine ⟨hnull.mpr, fun h => hvalue.resolve_left fun hb => h (hnull.mp hb), ?_, hcontexts⟩
    intro look hlook
    exact htexts _ (List.mem_append_left _ (List.mem_map_of_mem hlook))

/-- A look at the network mode and what follows it. -/
theorem leaves_mode {cfg : Talk} {d : Driver} {look : Look} {p : Op Ret} {k : Ret → Op Boole}
    (hlooks : modeLook cfg d = [look]) (hstep : look.Step formats p) (hmode : IsMode look.slot)
    (hsends : p.Sends (Avoids
      ((profilePlan formats d (jsonValue cfg "profile_cfg")).looks.map (Look.before m₀))))
    (hk : ∀ i texts, (∀ e ∈ texts, IsMode e.1) → (k i).Meets (storingModem formats)
      (Facts ((profilePlan formats d (jsonValue cfg "profile_cfg")).looks.map
        (Look.before m₀) ++ texts) m₀.contexts)
      ((profilePlan formats d (jsonValue cfg "profile_cfg")).Leaves formats m₀ texts
        (restart .ttrue i = .null))) :
    (check p k).Meets (storingModem formats)
      (Facts ((plan formats cfg d).looks.map (Look.before m₀)) m₀.contexts)
      ((plan formats cfg d).Leaves formats m₀ [] False) := by
  unfold plan
  rw [hlooks]
  refine meets_check (hstep.meets hsends (m₀.texts look.slot)) fun i m dev hm => ?_
  obtain ⟨hi, hm⟩ := hm
  have htexts : ∀ e ∈ [Look.behind formats m₀ look], IsMode e.1 := by
    intro e he
    rw [List.mem_singleton.mp he]
    exact hmode
  obtain ⟨hnull, hvalue, hfacts⟩ := hk i _ htexts m dev
    (facts_append_comm (a := [Look.behind formats m₀ look]) hm)
  refine ⟨hnull.trans ?_, hvalue, ?_⟩
  · rw [restart_eq_null_iff, hi, false_or]
    unfold Plan.Writes
    simp only [List.cons_append, List.nil_append, List.mem_cons, exists_eq_or_imp, reduceCtorEq,
      false_or]
    rw [or_left_comm, or_assoc]
  · rw [List.append_nil]
    exact facts_append_comm hfacts

/-- The look at the network mode is at one of the places of modes. -/
theorem isMode_modeLook {cfg : Talk} {d : Driver} {look : Look} (h : look ∈ modeLook cfg d) :
    IsMode look.slot := by
  cases d with
  | ec200x =>
    rw [List.mem_singleton.mp h]
    exact Or.inl rfl
  | fml610 =>
    rw [List.mem_singleton.mp h]
    exact Or.inr (Or.inl rfl)
  | ne16u =>
    rw [List.mem_singleton.mp h]
    exact Or.inr (Or.inr (Or.inl rfl))
  | zte7520 =>
    rw [List.mem_singleton.mp h]
    exact Or.inr (Or.inr (Or.inr rfl))
  | _ => exact absurd h List.not_mem_nil

/-- The looks of a profile are at authentications. -/
theorem name_profilePlan {profile : Option Talk} {d : Driver} {e : Slot × String}
    (h : e ∈ (profilePlan formats d profile).looks.map (Look.before m₀)) : e.1.1 = .qicsgp := by
  cases profile with
  | none => exact absurd h List.not_mem_nil
  | some profile =>
    cases d with
    | ec200x =>
      rw [List.mem_singleton.mp h]
      rfl
    | ne16u =>
      rw [List.mem_singleton.mp h]
      rfl
    | _ => exact absurd h List.not_mem_nil

/-- Only two drivers look at the authentication. -/
theorem looks_profilePlan (profile : Option Talk) (d : Driver) (hnum : d ≠ .ec200x)
    (hnum' : d ≠ .ne16u) : (profilePlan formats d profile).looks = [] := by
  cases profile with
  | none => rfl
  | some profile =>
    cases d with
    | ec200x => exact absurd rfl hnum
    | ne16u => exact absurd rfl hnum'
    | _ => rfl

variable (formats) in
/-- What is known in front of the profile is known of places the other steps leave alone. -/
theorem looked_profile (profile : Option Talk) (d : Driver) (htexts : ∀ e ∈ texts, IsMode e.1) :
    Looked ((profilePlan formats d profile).looks.map (Look.before m₀) ++ texts) := by
  intro e he
  rcases List.mem_append.mp he with h | h
  · exact Or.inr (name_profilePlan m₀ h)
  · exact Or.inl (htexts e h)

variable (formats) in
/-- The looks of a plan are at places that no other step writes. -/
theorem looked_plan (cfg : Talk) (d : Driver) :
    Looked ((plan formats cfg d).looks.map (Look.before m₀)) := by
  intro e he
  unfold plan at he
  rw [List.map_append] at he
  rcases List.mem_append.mp he with h | h
  · obtain ⟨look, hlook, rfl⟩ := List.mem_map.mp h
    exact Or.inl (isMode_modeLook hlook)
  · exact Or.inr (name_profilePlan m₀ h)

/-- The first step asks for a restart or leaves the value. -/
theorem restart_ttrue (i : Ret) : restart .ttrue i = .null ∨ restart .ttrue i = .ttrue :=
  restart_eq_or .ttrue i

/-- The profile alone, in the drivers without a look at the network mode. -/
theorem leaves_profile [formats.Lawful] {cfg : Talk} {d : Driver} (modes : List Usbtty)
    (hlooks : modeLook cfg d = []) :
    (checkProfile (setProfileset · d) (jsonValue cfg "profile_cfg") .ttrue
      (checkModes modes)).Meets (storingModem formats)
      (Facts ((plan formats cfg d).looks.map (Look.before m₀)) m₀.contexts)
      ((plan formats cfg d).Leaves formats m₀ [] False) := by
  have hplan : plan formats cfg d = profilePlan formats d (jsonValue cfg "profile_cfg") := by
    unfold plan
    rw [hlooks]
    rfl
  have hnone : ∀ e ∈ ([] : List (Slot × String)), IsMode e.1 := by simp
  rw [hplan]
  refine (meets_profile m₀ (jsonValue cfg "profile_cfg") d modes (Or.inr rfl) hnone).mono
    (fun m hm => ?_) fun b m hm => ?_
  · rw [List.append_nil]
    exact hm
  · exact ⟨hm.1.trans (by simp), hm.2⟩

/-- A command in front that writes other places leaves the plan as it is. -/
theorem leaves_in_front [formats.Lawful] {plan : Plan} {c : Command} {k : Op Boole}
    (hc : Avoids (plan.looks.map (Look.before m₀)) c)
    (hk : k.Meets (storingModem formats) (Facts (plan.looks.map (Look.before m₀)) m₀.contexts)
      (plan.Leaves formats m₀ [] False)) :
    (check (txRet c) fun _ => k).Meets (storingModem formats)
      (Facts (plan.looks.map (Look.before m₀)) m₀.contexts)
      (plan.Leaves formats m₀ [] False) :=
  meets_check (meets_ignored formats hc) fun _ => hk

end Profile

/-- Every driver carries out its plan. -/
theorem runs_atSetting [formats.Lawful] (unescape : Unescape) (cfg : Talk) (d : Driver) :
    (plan formats cfg d).Runs formats (d.atSetting unescape (some cfg)) := by
  apply runs_of_leaves
  intro m₀
  cases d with
  | ec200x =>
    apply leaves_mode m₀ rfl (step_ec200x_lockNettype _) (Or.inl rfl)
    · exact sends_ec200x_lockNettype _ fun e he => name_profilePlan m₀ he
    · intro i texts htexts
      have hlooked := looked_profile formats m₀ (jsonValue cfg "profile_cfg") .ec200x htexts
      refine meets_check (meets_avoids (ends_blindLock _ _ _) (sends_blindLock fun text =>
        avoids_write rfl hlooked (by simp [IsMode]) (by decide))) fun _ => ?_
      refine meets_check (meets_avoids (ends_blindLock _ _ _) (sends_blindLock fun text =>
        avoids_write rfl hlooked (by simp [IsMode]) (by decide))) fun _ => ?_
      exact meets_profile m₀ _ .ec200x _ (restart_ttrue i) htexts
  | em350 => exact leaves_profile m₀ _ rfl
  | fml610 =>
    apply leaves_mode m₀ rfl (step_fml610_lockNettype _) (Or.inr (Or.inl rfl))
    · rw [looks_profilePlan _ .fml610 (by decide) (by decide)]
      exact sends_fml610_lockNettype _
    · intro i texts htexts
      exact meets_profile m₀ _ .fml610 _ (restart_ttrue i) htexts
  | inne7b01 =>
    have hlooked := looked_plan formats m₀ cfg .inne7b01
    apply leaves_in_front m₀
    · exact avoids_write rfl hlooked (by simp [IsMode]) (by decide)
    apply leaves_in_front m₀
    · exact avoids_write rfl hlooked (by simp [IsMode]) (by decide)
    exact leaves_profile m₀ _ rfl
  | mu609 => exact leaves_profile m₀ _ rfl
  | ne16u =>
    apply leaves_mode m₀ rfl (step_ne16u_lockNettype _) (Or.inr (Or.inr (Or.inl rfl)))
    · exact sends_ne16u_lockNettype _ fun e he => name_profilePlan m₀ he
    · intro i texts htexts
      have hlooked := looked_profile formats m₀ (jsonValue cfg "profile_cfg") .ne16u htexts
      refine meets_check (meets_avoids (ends_blindLock _ _ _) (sends_blindLock fun text =>
        avoids_write rfl hlooked (by simp [IsMode]) (by decide))) fun _ => ?_
      refine meets_check (meets_avoids (ends_blindLock _ _ _) (sends_blindLock fun text =>
        avoids_write rfl hlooked (by simp [IsMode]) (by decide))) fun _ => ?_
      exact meets_profile m₀ _ .ne16u _ (restart_ttrue i) htexts
  | zte7520 =>
    have hlooked := looked_plan formats m₀ cfg .zte7520
    apply leaves_in_front m₀
    · exact avoids_write rfl hlooked (by simp [IsMode]) (by decide)
    apply leaves_in_front m₀
    · exact avoids_write rfl hlooked (by simp [IsMode]) (by decide)
    apply leaves_mode m₀ rfl (step_zte7520_sysconfig _) (Or.inr (Or.inr (Or.inr rfl)))
    · rw [looks_profilePlan _ .zte7520 (by decide) (by decide)]
      exact sends_zte7520_sysconfig_avoids _
    · intro i texts htexts
      have hlooked' := looked_profile formats m₀ (jsonValue cfg "profile_cfg") .zte7520
        htexts
      refine meets_check (meets_zte7520_band _ hlooked') fun _ => ?_
      exact meets_profile m₀ _ .zte7520 _ (restart_ttrue i) htexts

end Steps

/-! ## Coming to rest -/

/-- The modes the EC200 writes. -/
theorem ec200x_nettype_mem (netmode : Option String) :
    Ec200x.nettype netmode ∈ ["0", "1", "2", "3", "4", "6", "7"] := by
  unfold Ec200x.nettype
  split <;> decide

/-- The modes the FML610 writes. -/
theorem fml610_nettype_mem (netmode : Option String) :
    Fml610.nettype netmode ∈ ["0", "2", "3", "10"] := by
  unfold Fml610.nettype
  split <;> decide

/-- The modes the NE16U writes. -/
theorem ne16u_nettype_mem (netmode : Option String) :
    Ne16u.nettype netmode ∈ ["0", "1", "2", "5", "8"] := by
  unfold Ne16u.nettype
  split <;> decide

/-- The modes the ZTE7520 writes. -/
theorem zte7520_nettype_mem (netmode : Option String) :
    Zte7520.nettype netmode ∈ ["2", "13", "14", "15", "17"] := by
  unfold Zte7520.nettype
  split <;> decide

/-- A place of its own is printed behind its name. -/
theorem answer_of_ne (name : AtName) (hqcfg : name ≠ .qcfg) (hqicsgp : name ≠ .qicsgp)
    (text : String) :
    formats.answer (name, "") text = name.text.toList.drop 2 ++ (": " ++ text).toList := by
  unfold Formats.answer
  split
  · next heq => exact absurd (Prod.mk.inj heq).1 hqcfg
  · next heq => exact absurd (Prod.mk.inj heq).1 hqicsgp
  · next heq => rw [← (Prod.mk.inj heq).1]

/-- The EC200 leaves alone the mode it has written. -/
theorem keeps_ec200xMode_stored (netmode : Option String) :
    (ec200xMode netmode).keeps formats (ec200xMode netmode).stored = true := by
  have hall : ∀ t ∈ ["0", "1", "2", "3", "4", "6", "7"], (scanInt ','
      ("+QCFG: \"nwscanmode\"," ++ argsText [.raw t, .raw "1"]).toList).all (· = atoi t) := by
    decide
  exact hall _ (ec200x_nettype_mem netmode)

/-- The FML610 leaves alone the mode it has written. -/
theorem keeps_fml610Mode_stored (netmode : Option String) :
    (fml610Mode netmode).keeps formats (fml610Mode netmode).stored = true := by
  have hall : ∀ t ∈ ["0", "2", "3", "10"], (scanInt ':' (AtName.gtrat.text.toList.drop 2 ++
      (": " ++ argsText (if t = "10" then [.raw "10", .raw "3", .raw "0"]
        else [.raw t])).toList)).getD (-1) = atoi t := by
    decide
  unfold Look.keeps fml610Mode Fml610.nettypeArgs
  dsimp only
  rw [answer_of_ne formats .gtrat (by decide) (by decide)]
  exact decide_eq_true (hall _ (fml610_nettype_mem netmode))

/-- The NE16U leaves alone the mode it has written. -/
theorem keeps_ne16uMode_stored (netmode : Option String) :
    (ne16uMode netmode).keeps formats (ne16uMode netmode).stored = true := by
  have hall : ∀ t ∈ ["0", "1", "2", "5", "8"], (scanInt ':' (AtName.lnwscfg.text.toList.drop 2 ++
      (": " ++ argsText [.raw t]).toList)).getD (-1) = atoi t := by
    decide
  unfold Look.keeps ne16uMode
  dsimp only
  rw [answer_of_ne formats .lnwscfg (by decide) (by decide)]
  exact decide_eq_true (hall _ (ne16u_nettype_mem netmode))

/-- The ZTE7520 leaves alone the mode it has written. -/
theorem keeps_zte7520Mode_stored (netmode : Option String) :
    (zte7520Mode netmode).keeps formats (zte7520Mode netmode).stored = true := by
  have hall : ∀ t ∈ ["2", "13", "14", "15", "17"], (Zte7520.sysconfigOf
      (AtName.sysconfig.text.toList.drop 2 ++ (": " ++ argsText
        [.raw t, .raw "0", .raw "1", .raw "2"]).toList)).all (· = atoi t) := by
    decide
  unfold Look.keeps zte7520Mode
  dsimp only
  rw [answer_of_ne formats .sysconfig (by decide) (by decide)]
  exact hall _ (zte7520_nettype_mem netmode)

/-- A network mode that was written is found again. -/
theorem keeps_stored_mode {cfg : Talk} {d : Driver} {look : Look} (h : look ∈ modeLook cfg d) :
    look.keeps formats look.stored = true := by
  cases d with
  | ec200x =>
    rw [List.mem_singleton.mp h]
    exact keeps_ec200xMode_stored formats _
  | fml610 =>
    rw [List.mem_singleton.mp h]
    exact keeps_fml610Mode_stored formats _
  | ne16u =>
    rw [List.mem_singleton.mp h]
    exact keeps_ne16uMode_stored formats _
  | zte7520 =>
    rw [List.mem_singleton.mp h]
    exact keeps_zte7520Mode_stored formats _
  | _ => exact absurd h List.not_mem_nil

/-- A definition is the main one or that of an additional context. -/
theorem eq_of_mem_definitions {iptype : Option String} {profile : Option Talk}
    {x : String × String} (hx : x ∈ definitions formats iptype profile) :
    (given (jsonString profile "apn") = true ∧
        x = (cidOf profile, formats.definition iptype (jsonString profile "apn"))) ∨
      (∃ e ∈ cidsOf profile, e.1 = x.1) ∧
        x.2 = formats.definition (jsonString profile "type") (jsonString profile "apn") := by
  rcases List.mem_append.mp hx with hx | hx
  · split at hx
    · next hapn => exact Or.inl ⟨hapn, List.mem_singleton.mp hx⟩
    · exact absurd hx List.not_mem_nil
  · obtain ⟨e, he, rfl⟩ := List.mem_map.mp hx
    exact Or.inr ⟨⟨e, he, rfl⟩, rfl⟩

/-- The definitions of a profile give a context two values only where the main context is
listed once more. -/
theorem singleValued_definitions_iff (iptype : Option String) (profile : Option Talk) :
    SingleValued (definitions formats iptype profile) ↔
      (given (jsonString profile "apn") = true →
        (∃ e ∈ cidsOf profile, e.1 = cidOf profile) →
        formats.definition iptype (jsonString profile "apn") =
          formats.definition (jsonString profile "type") (jsonString profile "apn")) := by
  constructor
  · rintro h hapn ⟨e, he, hcid⟩
    unfold SingleValued definitions at h
    dsimp only at h
    rw [if_pos hapn] at h
    refine h _ (List.mem_append_left _ List.mem_cons_self) (e.1, _) ?_ hcid.symm
    exact List.mem_append_right _ (List.mem_map_of_mem he)
  · intro h x hx y hy hkey
    rcases eq_of_mem_definitions formats hx with ⟨hapn, rfl⟩ | ⟨hx', hxv⟩
    · rcases eq_of_mem_definitions formats hy with ⟨-, rfl⟩ | ⟨⟨e, he, heq⟩, hyv⟩
      · rfl
      · rw [hyv]
        exact h hapn ⟨e, he, heq.trans hkey.symm⟩
    · rcases eq_of_mem_definitions formats hy with ⟨hapn, rfl⟩ | ⟨-, hyv⟩
      · obtain ⟨e, he, heq⟩ := hx'
        rw [hxv]
        exact (h hapn ⟨e, he, heq.trans hkey⟩).symm
      · rw [hxv, hyv]

/-- The configurations and memories from which a driver comes to rest. -/
def Converges (cfg : Talk) (d : Driver) (m : Memory) : Prop :=
  ∀ profile, jsonValue cfg "profile_cfg" = some profile →
    d ≠ .fml610 ∧
    (∀ look ∈ profileLook (some profile) d,
      look.keeps formats (m.texts look.slot) = true ∨ look.keeps formats look.stored = true) ∧
    (given (jsonString profile "apn") = true →
      (∃ e ∈ cidsOf (some profile), e.1 = cidOf (some profile)) →
      formats.definition (iptypeOf (some profile) d) (jsonString profile "apn") =
        formats.definition (jsonString profile "type") (jsonString profile "apn"))

section Again

variable (unescape : Unescape) (cfg : Talk) (d : Driver) (m : Memory) (dev : Device)

/-- The run of `_at_setting` behind another one. -/
def again : Script.Outcome Command Reply String String Boole Memory :=
  let o := Script.run (storingModem formats) (d.atSetting unescape (some cfg)) m dev
  Script.run (storingModem formats) (d.atSetting unescape (some cfg)) o.device o.store

/-- The second run returns `ttrue` exactly when its plan has nothing to write. -/
theorem again_eq_ttrue_iff [formats.Lawful] :
    (again formats unescape cfg d m dev).value = .ttrue ↔
      (plan formats cfg d).always = false ∧
      (∀ look ∈ (plan formats cfg d).looks, look.keeps formats (m.texts look.slot) = true ∨
        look.keeps formats look.stored = true) ∧
      SingleValued (plan formats cfg d).definitions := by
  have hruns : (plan formats cfg d).Runs formats (d.atSetting unescape (some cfg)) :=
    runs_atSetting unescape cfg d
  obtain ⟨-, -, hafter⟩ := hruns m m dev rfl
  obtain ⟨hnull, htrue, -⟩ := hruns _ _
    (Script.run (storingModem formats) (d.atSetting unescape (some cfg)) m dev).store rfl
  rw [← writes_after_iff formats hafter]
  constructor
  · intro hvalue hwrites
    have hb := hnull hwrites
    have hvalue' : Boole.null = .ttrue := hb.symm.trans hvalue
    cases hvalue'
  · exact htrue

/-- A second run of `_at_setting` behind a first one returns `ttrue`, for any configuration and
from any memory, exactly where the driver comes to rest. -/
theorem settings_converge_iff [formats.Lawful] :
    (again formats unescape cfg d m dev).value = .ttrue ↔ Converges formats cfg d m := by
  rw [again_eq_ttrue_iff]
  unfold plan Converges
  dsimp only
  cases hprofile : jsonValue (some cfg) "profile_cfg" with
  | none =>
    refine iff_of_true ⟨rfl, fun look hlook => ?_, fun e he => absurd he List.not_mem_nil⟩
      (by simp)
    rw [show (profilePlan formats d none).looks = [] from rfl, List.append_nil] at hlook
    exact Or.inr (keeps_stored_mode formats hlook)
  | some profile =>
    have hlooks : ∀ look ∈ modeLook cfg d, look.keeps formats (m.texts look.slot) = true ∨
        look.keeps formats look.stored = true :=
      fun look hlook => Or.inr (keeps_stored_mode formats hlook)
    unfold profilePlan
    dsimp only
    rw [singleValued_definitions_iff, List.forall_mem_append, and_iff_right hlooks,
      decide_eq_false_iff_not]
    constructor
    · rintro h profile' ⟨⟩
      exact h
    · intro h
      exact h profile rfl

end Again

/-- The formats of the comments in the drivers, and a library that compares. -/
def printed : Formats where
  qicsgp := fun _ stored => "+QICSGP: " ++ stored
  definition := fun iptype apn => orEmpty iptype ++ "," ++ orEmpty apn
  cgdcont := fun iptype apn stored =>
    if stored = orEmpty iptype ++ "," ++ orEmpty apn then (.failed, stored)
    else (.succeed, orEmpty iptype ++ "," ++ orEmpty apn)

instance : printed.Lawful where
  settled _ _ := if_pos rfl
  written _ _ _ h := if_neg h

/-- A modem that keeps nothing yet. -/
def blank : Memory := ⟨fun _ => "", fun _ => "", []⟩

/-- Settings with a mode, an access point and a context besides the profile's own. -/
def netSettings : Talk :=
  .json [("lock_nettype", .text "4g"),
    ("profile_cfg", .json [("type", .text "ipv4"), ("apn", .text "cmnet"), ("cids", .text "enable"),
      ("cids_cfg", .json [("2", .json [])])])]

/-- The EC200 asks for no second restart with these settings. -/
theorem settings_converge_ec200x :
    (again printed some netSettings .ec200x blank fun _ => none).value = .ttrue := by
  refine (settings_converge_iff printed some netSettings .ec200x blank fun _ => none).mpr ?_
  intro profile hprofile
  obtain rfl := Option.some.inj hprofile
  exact ⟨by decide, by decide +kernel, fun _ hcid => absurd hcid (by decide +kernel)⟩

/-- The FML610 asks for another restart when it has a profile. -/
theorem again_fails_at_profile :
    (again printed some (.json [("profile_cfg", .json [])]) .fml610 blank
      fun _ => none).value ≠ .ttrue := by
  intro h
  have hplan := (again_eq_ttrue_iff printed some (.json [("profile_cfg", .json [])]) .fml610
    blank fun _ => none).mp h
  have halways : true = false := hplan.1
  cases halways

end Tiger.Analysis.SettingConvergence
