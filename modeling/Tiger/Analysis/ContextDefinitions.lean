import Tiger.Analysis.ConnectContract
import Tiger.Library.Script.Reach

/-!
# The contexts a profile defines

A profile has a main context and, when they are enabled, a table of additional ones with
an ip type and an access point each. Three drivers send the ip type of the main context
as a number. `sentDefinitions` are the definitions they send, and `spells_setProfileset`
says so for every run that no command breaks off. `ownDefinitions` are the ones in which
every context has its own values.

The loop over the table reads the profile in place of the entry and does not turn the
type into a number, so the two lists are the same only for the tables of `OwnValues`.
-/

set_option autoImplicit false

namespace Tiger.Analysis.ContextDefinitions

open Tiger.Library Tiger.Model Tiger.Analysis.ConnectContract

/-- The drivers that send the ip type of the main context as a number. -/
inductive Numbering where
  | ec200x
  | fml610
  | ne16u

namespace Numbering

def driver : Numbering → Driver
  | ec200x => .ec200x
  | fml610 => .fml610
  | ne16u => .ne16u

/-- The number for the ip type of a profile or of an entry. -/
def iptype : Numbering → Option Talk → String
  | ec200x => Ec200x.iptype
  | fml610 => Fml610.iptype
  | ne16u => Ne16u.iptype

end Numbering

/-- The two ways to write an ip type. -/
inductive Encoding where
  | text
  | number

/-- The ip type of a profile or of an entry. -/
def encode (d : Numbering) : Encoding → Option Talk → Option String
  | .text, value => jsonString value "type"
  | .number, value => some (d.iptype value)

/-- A command that defines a context. -/
def isDefinition : Command → Bool
  | .cgdcont _ _ _ => true
  | _ => false

/-- The definition of the main context, when there is an access point. -/
def mainDefinition (iptype : Option String) (profile : Option Talk) : List Command :=
  let apn := jsonString profile "apn"
  if given apn then [.cgdcont (cidOf profile) iptype apn] else []

/-- Every context with the values of its own. -/
def ownDefinitions (encode : Option Talk → Option String) (profile : Option Talk) :
    List Command :=
  mainDefinition (encode profile) profile ++ (cidsOf profile).map fun e =>
    .cgdcont e.1 (encode (some e.2)) (jsonString (some e.2) "apn")

/-- What the drivers send. -/
def sentDefinitions (iptype : Option String) (profile : Option Talk) : List Command :=
  mainDefinition iptype profile ++ (cidsOf profile).map fun e =>
    .cgdcont e.1 (jsonString profile "type") (jsonString profile "apn")

/-- A reply that does not break an operation off. -/
def Whole (_ : Command) (r : Reply) : Prop := r.ret ≠ .error ∧ r.ret ≠ .term

/-- A value that does not break an operation off. -/
def Goes (i : Ret) : Prop := i ≠ .error ∧ i ≠ .term

/-- A run defines the contexts with their own values, all of them in one encoding. -/
def Defines {M : Type} (d : Numbering) (profile : Option Talk)
    (o : Script.Outcome Command Reply String String Ret M) : Prop :=
  ∃ encoding, (o.trace.map Prod.fst).filter isDefinition =
    ownDefinitions (encode d encoding) profile

/-- The profiles whose contexts do get their own values: the type of the profile, as it is
written, stands for the type of each entry, and the access points are the same. -/
def OwnValues (d : Numbering) (profile : Option Talk) : Prop :=
  ∃ encoding,
    (given (jsonString profile "apn") → some (d.iptype profile) = encode d encoding profile) ∧
    ∀ e ∈ cidsOf profile, jsonString profile "type" = encode d encoding (some e.2) ∧
      jsonString profile "apn" = jsonString (some e.2) "apn"

/-! ## What is sent -/

/-- Counting a success breaks nothing off. -/
theorem goes_counted {ret : Ret} (h : Goes ret) (i : Ret) : Goes (counted ret i) := by
  unfold counted
  split
  · exact ⟨nofun, nofun⟩
  · exact h

/-- A command of the driver is no definition. -/
theorem spells_txRet {c : Command} (hc : isDefinition c = false) :
    (txRet c).Spells Whole isDefinition Goes [] :=
  Script.Spells.call_of_not hc fun _ h => ⟨rfl, h⟩

/-- A call of the library is one definition. -/
theorem spells_usbttyCgdcont (cid : String) (iptype apn : Option String) :
    (usbttyCgdcont cid iptype apn).Spells Whole isDefinition Goes
      [.cgdcont cid iptype apn] := by
  rw [usbttyCgdcont, libraryCall_bind]
  apply Script.Spells.call_of_sel rfl
  intro r hr
  apply Script.Quiet.spells
  exact Script.quiet_puts r.edits hr

/-- A relayed step spells its definitions in front of those that follow. -/
theorem spells_relay {p : Op Ret} {k : Ret → Op Ret} {l l' : List Command}
    (hp : p.Spells Whole isDefinition Goes l)
    (hk : ∀ i, Goes i → (k i).Spells Whole isDefinition Goes l') :
    (relay p k).Spells Whole isDefinition Goes (l ++ l') := by
  apply hp.bind
  intro i hi
  rw [if_neg (not_or.mpr hi)]
  exact hk i hi

/-- The additional contexts are defined with the type and access point of the profile. -/
theorem spells_setCids (profile : Option Talk) (cids : List (String × Talk)) {ret : Ret}
    (hret : Goes ret) :
    (setCids profile cids ret).Spells Whole isDefinition Goes (cids.map fun e =>
      .cgdcont e.1 (jsonString profile "type") (jsonString profile "apn")) := by
  induction cids generalizing ret with
  | nil => exact ⟨rfl, hret⟩
  | cons e cids ih =>
    apply spells_relay (spells_usbttyCgdcont _ _ _)
    intro i _
    exact ih (goes_counted hret i)

/-- The contexts of a profile are defined in their order. -/
theorem spells_setContexts (profile : Option Talk) (iptype : Option String) {ret : Ret}
    (hret : Goes ret) :
    (setContexts profile iptype ret).Spells Whole isDefinition Goes
      (sentDefinitions iptype profile) := by
  unfold setContexts sentDefinitions mainDefinition
  dsimp only
  split
  · apply spells_relay (spells_usbttyCgdcont _ _ _)
    intro i _
    exact spells_setCids profile _ (goes_counted hret i)
  · exact spells_setCids profile _ hret

/-- The older authentication defines nothing. -/
theorem spells_qicsgp (cid iptype : String) (apn : Option String) (login : Login) :
    (qicsgp cid iptype apn login).Spells Whole isDefinition Goes [] := by
  rw [qicsgp, tx_bind]
  apply Script.Spells.call_of_not rfl
  intro r hr
  split
  · exact ⟨rfl, hr⟩
  · split
    · exact ⟨rfl, by decide, by decide⟩
    · apply spells_relay (l := []) (spells_txRet rfl)
      intro _ _
      exact spells_txRet rfl

/-- The definitions a driver sends, when no command breaks it off. -/
theorem spells_setProfileset (d : Numbering) (profile : Option Talk) :
    (setProfileset profile d.driver).Spells Whole isDefinition Goes
      (sentDefinitions (some (d.iptype profile)) profile) := by
  have hfailed : Goes .failed := ⟨nofun, nofun⟩
  cases d with
  | ec200x =>
    apply spells_relay (l := []) (spells_qicsgp _ _ _ _)
    intro i _
    exact spells_setContexts profile _ (goes_counted hfailed i)
  | fml610 =>
    have hauth : isDefinition (Fml610.mgauth (cidOf profile) (loginOf profile)) = false := by
      unfold Fml610.mgauth
      split <;> rfl
    apply spells_relay (l := []) (spells_txRet hauth)
    intro i _
    exact spells_setContexts profile _ (goes_counted hfailed i)
  | ne16u =>
    apply spells_relay (l := []) (spells_qicsgp _ _ _ _)
    intro i _
    exact spells_setContexts profile _ (goes_counted hfailed i)

/-! ## Own values -/

/-- The main definition shows the ip type only with an access point. -/
theorem mainDefinition_eq_iff (iptype iptype' : Option String) (profile : Option Talk) :
    mainDefinition iptype profile = mainDefinition iptype' profile ↔
      (given (jsonString profile "apn") → iptype = iptype') := by
  unfold mainDefinition
  dsimp only
  split
  · next h => simp [h]
  · next h => simp [h]

/-- The definitions sent are each context's own exactly where types and access points agree. -/
theorem sentDefinitions_eq_iff (encode : Option Talk → Option String) (iptype : Option String)
    (profile : Option Talk) :
    sentDefinitions iptype profile = ownDefinitions encode profile ↔
      (given (jsonString profile "apn") → iptype = encode profile) ∧
        ∀ e ∈ cidsOf profile, jsonString profile "type" = encode (some e.2) ∧
          jsonString profile "apn" = jsonString (some e.2) "apn" := by
  have hlength : (mainDefinition iptype profile).length =
      (mainDefinition (encode profile) profile).length := by
    unfold mainDefinition
    dsimp only
    split <;> rfl
  rw [← mainDefinition_eq_iff]
  unfold sentDefinitions ownDefinitions
  constructor
  · intro h
    obtain ⟨hmain, hcids⟩ := List.append_inj h hlength
    rw [List.map_inj_left] at hcids
    refine ⟨hmain, fun e he => ?_⟩
    simpa using hcids e he
  · rintro ⟨hmain, hcids⟩
    rw [hmain, List.append_cancel_left_eq, List.map_inj_left]
    intro e he
    rw [(hcids e he).1, (hcids e he).2]

section Runs

variable {M : Type} (modem : M → Command → Reply × M) (m : M) (dev : Device)

/-- Against any modem and from any record, a run that is not broken off defines every context
with its own values exactly for the profiles of `OwnValues`. -/
theorem definitions_iff (d : Numbering) (profile : Option Talk)
    (hwhole : ∀ e ∈ (Script.run modem (setProfileset profile d.driver) m dev).trace,
      e.2.ret ≠ .error ∧ e.2.ret ≠ .term) :
    Defines d profile (Script.run modem (setProfileset profile d.driver) m dev) ↔
      OwnValues d profile := by
  obtain ⟨hsent, -⟩ := (spells_setProfileset d profile).run modem m dev hwhole
  unfold Defines OwnValues
  rw [hsent]
  exact exists_congr fun encoding => sentDefinitions_eq_iff _ _ profile

end Runs

/-- Contexts without access points, in which the additional one has the ip type of the main
one. -/
def sharedType : Talk :=
  .json [("type", .text "ipv4v6"), ("cids", .text "enable"),
    ("cids_cfg", .json [("2", .json [("type", .text "ipv4v6")])])]

/-- A profile whose additional context has the type of the profile. -/
theorem definitions_of_shared_type :
    Defines .ne16u (some sharedType)
      (Script.run willingModem (setProfileset (some sharedType) .ne16u) () fun _ => none) :=
  (definitions_iff willingModem () (fun _ => none) .ne16u _ (by decide)).mpr
    ⟨.text, by decide, by decide⟩

/-- An additional context with an ip type and an access point of its own. -/
def twoContexts : Talk :=
  .json [("type", .text "ipv4"), ("apn", .text "net"), ("cids", .text "enable"),
    ("cids_cfg", .json [("2", .json [("type", .text "ipv6"), ("apn", .text "ims")])])]

/-- The EC200X defines context 2 with the values of the profile. -/
theorem definitions_fail_at_two_contexts :
    ¬ Defines .ec200x (some twoContexts)
      (Script.run willingModem (setProfileset (some twoContexts) .ec200x) ()
        fun _ => none) := by
  rintro ⟨encoding, h⟩
  cases encoding with
  | number =>
    revert h
    decide
  | text =>
    revert h
    decide

end Tiger.Analysis.ContextDefinitions
