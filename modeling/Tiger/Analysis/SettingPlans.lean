import Tiger.Analysis.ConnectContract
import Tiger.Library.Overwrite
import Tiger.Library.Script.Reach
import Tiger.Model.StoringModem

/-!
# Plans of settings

`_at_setting` asks a modem what it has and writes what it does not have. The steps of a
driver are of three kinds: a `Look`, which asks before it writes, the definitions of the
contexts, which the library compares before it writes them, and in the FML610 the
authentication, which is always written. `plan` lists them.

What two runs do is then a matter of the plan alone (`writes_after_iff`): a look comes to
rest when the modem's answer to what was written is one it leaves alone, and the
definitions do when no context has two of them.
-/

set_option autoImplicit false

namespace Tiger.Analysis.SettingConvergence

open Tiger.Library Tiger.Model

variable (formats : Formats)

/-! ## Plans -/

/-- A step that asks for a place, leaves some answers alone and writes the place otherwise. -/
structure Look where
  slot : Slot
  leaves : List Char → Bool
  stored : String

/-- The step leaves a place alone that has this text. -/
def Look.keeps (look : Look) (text : String) : Bool :=
  look.leaves (formats.answer look.slot text)

/-- The value of the step. -/
def Look.value (look : Look) (text : String) : Ret :=
  if look.keeps formats text then .failed else .succeed

/-- The text the step leaves. -/
def Look.after (look : Look) (text : String) : String :=
  if look.keeps formats text then text else look.stored

/-- The steps of a setting. -/
structure Plan where
  looks : List Look
  always : Bool
  definitions : List (String × String)

/-- A run of the plan writes something. -/
def Plan.Writes (plan : Plan) (m : Memory) : Prop :=
  plan.always = true ∨ (∃ look ∈ plan.looks, look.keeps formats (m.texts look.slot) = false) ∨
    Changes plan.definitions m.contexts

/-- What a run of the plan makes of a memory. -/
def Plan.After (plan : Plan) (m m' : Memory) : Prop :=
  (∀ look ∈ plan.looks, m'.texts look.slot = look.after formats (m.texts look.slot)) ∧
    m'.contexts = overwrite plan.definitions m.contexts

/-- A setting that carries out a plan. -/
def Plan.Runs (plan : Plan) (p : Op Boole) : Prop :=
  ∀ m₀, p.Meets (storingModem formats) (· = m₀) fun b m =>
    (plan.Writes formats m₀ → b = .null) ∧ (¬ plan.Writes formats m₀ → b = .ttrue) ∧
      plan.After formats m₀ m

/-! ## What the drivers ask and write -/

/-- `ec200x_lock_nettype`. -/
def ec200xMode (netmode : Option String) : Look where
  slot := (.qcfg, "nwscanmode")
  leaves := fun ack => (scanInt ',' ack).all (· = atoi (Ec200x.nettype netmode))
  stored := argsText [.raw (Ec200x.nettype netmode), .raw "1"]

/-- `fm610_lock_nettype`. -/
def fml610Mode (netmode : Option String) : Look where
  slot := (.gtrat, "")
  leaves := fun ack => (scanInt ':' ack).getD (-1) = atoi (Fml610.nettype netmode)
  stored := argsText (Fml610.nettypeArgs netmode)

/-- `ne16u_lock_nettype`. -/
def ne16uMode (netmode : Option String) : Look where
  slot := (.lnwscfg, "")
  leaves := fun ack => (scanInt ':' ack).getD (-1) = atoi (Ne16u.nettype netmode)
  stored := argsText [.raw (Ne16u.nettype netmode)]

/-- `zte7520_sysconfig`. -/
def zte7520Mode (netmode : Option String) : Look where
  slot := (.sysconfig, "")
  leaves := fun ack => (Zte7520.sysconfigOf ack).all (· = atoi (Zte7520.nettype netmode))
  stored := argsText [.raw (Zte7520.nettype netmode), .raw "0", .raw "1", .raw "2"]

/-- The look at the network mode. -/
def modeLook (cfg : Talk) : Driver → List Look
  | .ec200x => [ec200xMode (jsonString cfg "lock_nettype")]
  | .fml610 => [fml610Mode (jsonString cfg "lock_nettype")]
  | .ne16u => [ne16uMode (jsonString cfg "lock_nettype")]
  | .zte7520 => [zte7520Mode (jsonString cfg "lock_nettype")]
  | .em350 | .inne7b01 | .mu609 => []

/-- `ec200x_qicsgp` and `ne16u_qicsgp`. -/
def qicsgpLook (iptype : String) (profile : Option Talk) : Look where
  slot := (.qicsgp, cidOf profile)
  leaves := contains (qicsgpLine (cidOf profile) (jsonString profile "apn") (loginOf profile))
  stored := argsText [.raw iptype, .quoted (orEmpty (jsonString profile "apn")),
    .quoted (orEmpty (loginOf profile).user), .quoted (orEmpty (loginOf profile).pass),
    .raw (loginOf profile).auth]

/-- The look at the authentication of a profile. -/
def profileLook (profile : Option Talk) : Driver → List Look
  | .ec200x => [qicsgpLook (Ec200x.iptype profile) profile]
  | .ne16u => [qicsgpLook (Ne16u.iptype profile) profile]
  | _ => []

/-- The ip type of the main context as the driver writes it. -/
def iptypeOf (profile : Option Talk) : Driver → Option String
  | .ec200x => some (Ec200x.iptype profile)
  | .fml610 => some (Fml610.iptype profile)
  | .ne16u => some (Ne16u.iptype profile)
  | _ => jsonString profile "type"

/-- The definitions of the contexts of a profile. -/
def definitions (iptype : Option String) (profile : Option Talk) : List (String × String) :=
  let apn := jsonString profile "apn"
  (if given apn then [(cidOf profile, formats.definition iptype apn)] else []) ++
    (cidsOf profile).map fun e => (e.1, formats.definition (jsonString profile "type") apn)

/-- The part of a plan that is about the profile. -/
def profilePlan (d : Driver) : Option Talk → Plan
  | none => ⟨[], false, []⟩
  | some profile =>
    ⟨profileLook (some profile) d, d = .fml610,
      definitions formats (iptypeOf (some profile) d) (some profile)⟩

/-- The plan of `_at_setting`. -/
def plan (cfg : Talk) (d : Driver) : Plan :=
  let p := profilePlan formats d (jsonValue cfg "profile_cfg")
  { p with looks := modeLook cfg d ++ p.looks }

/-! ## Two runs of a plan -/

/-- What a look leaves is left alone when it was before or when what is written is. -/
theorem keeps_after_iff (look : Look) (text : String) :
    look.keeps formats (look.after formats text) = true ↔
      look.keeps formats text = true ∨ look.keeps formats look.stored = true := by
  unfold Look.after
  split
  · next h => simp [h]
  · next h => simp [h]

/-- A second run writes nothing exactly when every step comes to rest. -/
theorem writes_after_iff {plan : Plan} {m m' : Memory} (h : plan.After formats m m') :
    ¬ plan.Writes formats m' ↔ plan.always = false ∧
      (∀ look ∈ plan.looks, look.keeps formats (m.texts look.slot) = true ∨
        look.keeps formats look.stored = true) ∧ SingleValued plan.definitions := by
  obtain ⟨htexts, hcontexts⟩ := h
  unfold Plan.Writes
  rw [hcontexts, not_or, not_or, not_changes_overwrite_iff, Bool.not_eq_true, not_exists]
  refine and_congr_right fun _ => and_congr_left fun _ => forall_congr' fun look => ?_
  rw [not_and, Bool.not_eq_false]
  refine forall_congr' fun hlook => ?_
  rw [htexts look hlook, keeps_after_iff]

end Tiger.Analysis.SettingConvergence
