import Tiger.Library.Script.Paths
import Tiger.Model.Modemdrv

/-!
# The steps of a watch

`_at_watch` edits the record it was given. `cleared` are the attributes a driver has
edited at the end of every watch that ends well; the others are recorded when an answer
states them (`States`), and only then.

The rules follow one attribute `key` that is not cleared along the paths of a watch.
`Edits` is for a step without commands and says when it edits `key`; `Keeps` is a step that
edits it exactly when an answer states it, and `Finishes` a watch that ends with the
attributes of `cleared` edited. None of them reads an attribute that was not edited before.
-/

set_option autoImplicit false

namespace Tiger.Analysis.WatchFreshness

open Tiger.Library Tiger.Model

/-! ## Attributes -/

/-- The attributes of a record that are about the signal and the cell. -/
def attributes : List String :=
  ["plmn", "nettype", "netera", "nettype2", "signal", "rssi", "csq", "rsrp", "rsrq", "sinr",
    "rsrp2", "rsrq2", "sinr2", "band", "band2", "arfcn", "pcid"]

/-- The attributes a driver has edited at the end of every watch that ends well. -/
def cleared : Driver → List String
  | .ec200x => ["plmn", "rssi", "signal", "band", "nettype", "csq"]
  | .em350 | .mu609 => ["plmn", "rssi", "signal", "nettype", "csq"]
  | .fml610 => ["plmn", "rssi", "signal", "csq", "rsrp", "nettype"]
  | .inne7b01 | .zte7520 => ["plmn", "rssi", "signal", "rsrp", "rsrq", "nettype", "csq"]
  | .ne16u => ["plmn", "rssi", "signal", "csq", "rsrp", "rsrq", "sinr", "band", "netera",
      "nettype", "rsrp2", "rsrq2", "sinr2", "band2", "nettype2"]

/-- The operations of the library, whose replies edit the record. -/
def isLibrary : Command → Bool
  | .usbtty _ | .cpin _ | .cgdcont _ _ _ => true
  | _ => false

/-- A line of the answer to `at+qeng="servingcell"` has the number of a cell. -/
def namesCell (line : List Char) : Bool :=
  (strstr "WCDMA".toList line).isNone && (Ne16u.cellOf line).any Ne16u.Cell.known

/-- The kind of network a reply to `AT+COPS?` gives. -/
def copsNettypeOf (r : Reply) : Option String :=
  if r.ret = .succeed then (Fml610.copsPlmn r.ack).bind fun found => Fml610.copsNettype found.2
  else none

/-- The reply to a driver's own command states an attribute that is not cleared; `last` is the
exchange before. -/
def States (d : Driver) (key : String) (last : Option (Command × Reply)) (c : Command)
    (r : Reply) : Prop :=
  match d with
  | .fml610 => key = "rsrq" ∧ c = .exec .cesq ∧ r.ret = .succeed ∧
      (∃ q, cesqOf r.ack = some q ∧ 0 < q.rsrq ∧ q.rsrq ≤ 34) ∧
      ∃ cops, last = some (.read .cops, cops) ∧
        Fml610.isGsm (copsNettypeOf cops) = false ∧ Fml610.isUmts (copsNettypeOf cops) = false
  | .inne7b01 | .zte7520 => (key = "band" ∨ key = "arfcn") ∧ c = .set .zemsciq [.raw "1"] ∧
      r.ret = .succeed ∧ (zemsciqOf r.ack).isSome
  | .ne16u => key = "pcid" ∧ c = .set .qeng [.quoted "servingcell"] ∧ r.ret = .succeed ∧
      ∃ line ∈ lines r.ack, namesCell line = true
  | .ec200x | .em350 | .mu609 => False

/-- An exchange states an attribute. -/
def Event (d : Driver) (key : String) (last : Option (Command × Reply)) (c : Command)
    (r : Reply) : Prop :=
  isLibrary c = true ∧ key ∈ r.edits.map Prod.fst ∨ States d key last c r

/-- The answers of a watch state an attribute. -/
def Stated (d : Driver) (key : String) (t : List (Command × Reply)) : Prop :=
  Script.Met (Event d key) none t

/-- The attribute is one the driver does not clear. -/
def Uncleared (d : Driver) (key : String) : Prop := key ∈ attributes ∧ key ∉ cleared d

/-- An uncleared attribute is none of the cleared ones. -/
theorem Uncleared.ne {d : Driver} {key k : String} (hkey : Uncleared d key)
    (hk : k ∈ cleared d) : k ≠ key := by
  rintro rfl
  exact hkey.2 hk

/-- The keys that every driver clears. -/
theorem common_subset (d : Driver) :
    ["plmn", "rssi", "signal", "nettype", "csq"] ⊆ cleared d := by
  cases d <;> decide

/-- An uncleared attribute is none that every driver clears. -/
theorem Uncleared.ne_common {d : Driver} {key k : String} (hkey : Uncleared d key)
    (hk : k ∈ ["plmn", "rssi", "signal", "nettype", "csq"]) : k ≠ key :=
  hkey.ne (common_subset d hk)

/-- An uncleared attribute is not the number of the card. -/
theorem Uncleared.ne_iccid {d : Driver} {key : String} (hkey : Uncleared d key) :
    "iccid" ≠ key := by
  rintro rfl
  have hiccid : "iccid" ∉ attributes := by decide
  exact hiccid hkey.1

/-! ## Steps -/

/-- A path on which the keys of `E` are edited, and `key` is when an answer stated it. -/
def Known (key : String) (E : List String) (σ : Script.Path Command Reply String String) :
    Prop :=
  (∀ k ∈ E, σ.edited k) ∧ (σ.edited key ↔ σ.met)

/-- A step without commands that reads the keys of `E` at most and edits `key` when `P`. -/
def Edits (d : Driver) (key : String) (E : List String) (P : Prop) {A : Type} (p : Op A) :
    Prop :=
  ∀ σ, (∀ k ∈ E, σ.edited k) → p.After (Event d key) (fun _ σ' =>
    (∀ k, σ.edited k → σ'.edited k) ∧ (σ'.edited key ↔ P ∨ σ.edited key) ∧
      (σ'.met ↔ σ.met)) σ

/-- A step that edits `key` exactly when an answer states it. -/
def Keeps (d : Driver) (key : String) (E : List String) {A : Type} (p : Op A) : Prop :=
  ∀ σ, Known key E σ → p.After (Event d key) (fun _ σ => Known key E σ) σ

/-- What is known at the end of a watch. -/
def Ended (d : Driver) (key : String) (b : Boole)
    (σ : Script.Path Command Reply String String) : Prop :=
  (σ.edited key ↔ σ.met) ∧ (b = .ttrue → ∀ k ∈ cleared d, σ.edited k)

/-- A watch that ends with the attributes of `cleared` edited. -/
def Finishes (d : Driver) (key : String) (E : List String) (p : Op Boole) : Prop :=
  ∀ σ, Known key E σ → p.After (Event d key) (Ended d key) σ

section Steps

variable {d : Driver} {key : String} {E : List String} {A B : Type} {P P' : Prop}

/-! ### Edits -/

/-- What is edited may be said in other words. -/
theorem Edits.congr {p : Op A} (hp : Edits d key E P p) (h : P ↔ P') : Edits d key E P' p := by
  rw [← propext h]
  exact hp

/-- A value edits nothing. -/
theorem edits_pure (a : A) : Edits d key E False (pure a : Op A) :=
  fun _ _ => ⟨fun _ h => h, (or_iff_right id).symm, Iff.rfl⟩

/-- An edit is one of its own key. -/
theorem edits_put (k : String) (v : Option String) :
    Edits d key E (k = key) (Script.put k v : Op Unit) := by
  refine fun σ _ => ⟨fun _ => Or.inr, ?_, Iff.rfl⟩
  change key = k ∨ σ.edited key ↔ _
  rw [eq_comm]

/-- An edit of another key leaves the attribute. -/
theorem edits_put_of_ne {k : String} (hk : k ≠ key) (v : Option String) :
    Edits d key E False (Script.put k v : Op Unit) :=
  (edits_put k v).congr (iff_false_intro hk)

/-- Reading a key that is edited says nothing about what was before. -/
theorem edits_read {k : String} {f : Option String → Op A} (hk : k ∈ E)
    (hf : ∀ x, Edits d key E P (f x)) : Edits d key E P (Script.read k f) :=
  fun σ hσ => ⟨hσ k hk, hf _ σ hσ⟩

/-- Two steps edit what either does. -/
theorem Edits.bind {p : Op A} {f : A → Op B} (hp : Edits d key E P p)
    (hf : ∀ a, Edits d key E P' (f a)) : Edits d key E (P ∨ P') (p >>= f) := by
  intro σ hσ
  rw [Script.after_bind]
  refine (hp σ hσ).mono fun a σ₁ hσ₁ => ?_
  obtain ⟨hmono, hedited, hmet⟩ := hσ₁
  refine (hf a σ₁ fun k hk => hmono k (hσ k hk)).mono fun b σ₂ hσ₂ => ?_
  obtain ⟨hmono', hedited', hmet'⟩ := hσ₂
  refine ⟨fun k hk => hmono' k (hmono k hk), ?_, hmet'.trans hmet⟩
  rw [hedited', hedited, or_left_comm, or_assoc]

/-- The second step decides. -/
theorem Edits.before {p : Op A} {f : A → Op B} (hp : Edits d key E False p)
    (hf : ∀ a, Edits d key E P (f a)) : Edits d key E P (p >>= f) :=
  (hp.bind hf).congr (or_iff_right id)

/-- The first step decides. -/
theorem Edits.followed {p : Op A} {f : A → Op B} (hp : Edits d key E P p)
    (hf : ∀ a, Edits d key E False (f a)) : Edits d key E P (p >>= f) :=
  (hp.bind hf).congr (or_iff_left id)

/-- What is edited on a condition is edited on it. -/
theorem edits_onlyIf {b : Bool} {p : Op Unit} (hp : Edits d key E P p) :
    Edits d key E (b = true ∧ P) (onlyIf b p) := by
  cases b with
  | true => exact hp.congr (and_iff_right rfl).symm
  | false => exact (edits_pure ()).congr (by simp)

/-- What edits nothing edits nothing on a condition. -/
theorem edits_onlyIf_of_not {b : Bool} {p : Op Unit} (hp : Edits d key E False p) :
    Edits d key E False (onlyIf b p) :=
  (edits_onlyIf hp).congr (and_iff_right_of_imp False.elim)

/-- Recording a text leaves the other attributes. -/
theorem edits_setGiven {k : String} (hk : k ≠ key) (o : Option (List Char)) :
    Edits d key E False (setGiven k o) := by
  cases o with
  | none => exact edits_pure ()
  | some s => exact edits_put_of_ne hk _

/-- A loop edits what one of its turns does. -/
theorem edits_foldlM {P : B → Prop} {f : A → B → Op A}
    (hf : ∀ a b, Edits d key E (P b) (f a b)) (a : A) (l : List B) :
    Edits d key E (∃ b ∈ l, P b) (l.foldlM f a) := by
  induction l generalizing a with
  | nil => exact (edits_pure a).congr (by simp)
  | cons b l ih =>
    rw [List.foldlM_cons]
    exact ((hf a b).bind fun a' => ih a').congr (by simp)

/-- Edits are those of their own keys. -/
theorem edits_puts (es : List (String × Option String)) :
    Edits d key E (key ∈ es.map Prod.fst) (Script.puts es : Op Unit) :=
  fun _ _ => Script.after_puts es fun _ hedited hmet =>
    ⟨fun k hk => (hedited k).mpr (Or.inr hk), hedited key, hmet⟩

/-! ### Steps with commands -/

/-- A step that does not edit the attribute keeps what is known. -/
theorem Edits.keeps {p : Op A} (hp : Edits d key E False p) : Keeps d key E p := by
  intro σ hσ
  refine (hp σ hσ.1).mono fun a σ' hσ' => ?_
  obtain ⟨hmono, hedited, hmet⟩ := hσ'
  refine ⟨fun k hk => hmono k (hσ.1 k hk), ?_⟩
  rw [hedited, hmet, or_iff_right id]
  exact hσ.2

/-- A value keeps what is known. -/
theorem keeps_pure (a : A) : Keeps d key E (pure a : Op A) := (edits_pure a).keeps

/-- Two steps keep what is known when each does. -/
theorem Keeps.bind {p : Op A} {f : A → Op B} (hp : Keeps d key E p)
    (hf : ∀ a, Keeps d key E (f a)) : Keeps d key E (p >>= f) := by
  intro σ hσ
  rw [Script.after_bind]
  exact (hp σ hσ).mono fun a σ' hσ' => hf a σ' hσ'

/-- An edit of another key keeps what is known. -/
theorem Known.edit {σ : Script.Path Command Reply String String} (hσ : Known key E σ)
    {k : String} (hk : k ≠ key) (v : Option String) : Known key E (σ.edit k v) :=
  ⟨fun k' hk' => Or.inr (hσ.1 k' hk'), (or_iff_right hk.symm).trans hσ.2⟩

/-- An edit of another key makes it known. -/
theorem Known.edit_cons {σ : Script.Path Command Reply String String} (hσ : Known key E σ)
    {k : String} (hk : k ≠ key) (v : Option String) : Known key (k :: E) (σ.edit k v) :=
  ⟨fun k' hk' => (List.mem_cons.mp hk').imp_right (hσ.1 k'), (hσ.edit hk v).2⟩

/-- An exchange that states nothing keeps what is known. -/
theorem Known.exchange {σ : Script.Path Command Reply String String} (hσ : Known key E σ)
    {c : Command} {r : Reply} (hevent : ¬ Event d key σ.last c r) :
    Known key E (σ.exchange (Event d key) c r) :=
  ⟨hσ.1, hσ.2.trans (or_iff_left hevent).symm⟩

/-- Behind a reply that is recorded when it states the attribute, the same is known. -/
theorem Edits.after_exchange {p : Op A} {σ : Script.Path Command Reply String String}
    {c : Command} {r : Reply} (hp : Edits d key E (Event d key σ.last c r) p)
    (hσ : Known key E σ) :
    p.After (Event d key) (fun _ σ' => Known key E σ') (σ.exchange (Event d key) c r) := by
  refine (hp (σ.exchange (Event d key) c r) hσ.1).mono fun a σ' hσ' => ?_
  obtain ⟨hmono, hedited, hmet⟩ := hσ'
  refine ⟨fun k hk => hmono k (hσ.1 k hk), ?_⟩
  rw [hedited, hmet, or_comm]
  exact or_congr_left hσ.2

/-- A command keeps what is known when its answer is edited as it states. -/
theorem keeps_call {c : Command} {f : Reply → Op A}
    (hf : ∀ last r, Edits d key E (Event d key last c r) (f r)) :
    Keeps d key E (Script.call c f) :=
  fun σ hσ r => (hf σ.last r).after_exchange hσ

/-- The commands whose replies may state an attribute. -/
def isStating (d : Driver) (c : Command) : Bool :=
  match d, c with
  | .fml610, .exec .cesq => true
  | .inne7b01, .set .zemsciq _ | .zte7520, .set .zemsciq _ => true
  | .ne16u, .set .qeng _ => true
  | _, _ => false

/-- A command that states nothing states no attribute. -/
theorem not_states {c : Command} (hc : isStating d c = false)
    (last : Option (Command × Reply)) (r : Reply) : ¬ States d key last c r := by
  intro h
  cases d with
  | fml610 =>
    obtain ⟨-, rfl, -⟩ := h
    cases hc
  | inne7b01 =>
    obtain ⟨-, rfl, -⟩ := h
    cases hc
  | ne16u =>
    obtain ⟨-, rfl, -⟩ := h
    cases hc
  | zte7520 =>
    obtain ⟨-, rfl, -⟩ := h
    cases hc
  | _ => exact h

/-- A command of the driver itself is an event when it states the attribute. -/
theorem event_iff_states {c : Command} (hc : isLibrary c = false)
    (last : Option (Command × Reply)) (r : Reply) :
    Event d key last c r ↔ States d key last c r := by
  refine or_iff_right ?_
  rw [hc]
  exact fun h => Bool.false_ne_true h.1

/-- A driver's own command that states nothing is no event. -/
theorem not_event {c : Command} (hc : isLibrary c = false) (hc' : isStating d c = false)
    (last : Option (Command × Reply)) (r : Reply) : ¬ Event d key last c r := by
  rw [event_iff_states hc]
  exact not_states hc' last r

/-- A driver's own command keeps what is known. -/
theorem keeps_tx {c : Command} (hc : isLibrary c = false) (hc' : isStating d c = false) :
    Keeps d key E (tx c) :=
  keeps_call fun last r => (edits_pure r).congr (iff_false_intro (not_event hc hc' last r)).symm

/-- A call of the library edits what its answer states. -/
theorem keeps_libraryCall {c : Command} (hc : isLibrary c = true)
    (hc' : isStating d c = false) : Keeps d key E (libraryCall c) := by
  refine keeps_call fun last r => ((edits_puts r.edits).followed fun _ => edits_pure r).congr ?_
  unfold Event
  rw [or_iff_left (not_states hc' last r), and_iff_right hc]

/-- An operation of the library edits what its answer states. -/
theorem keeps_usbtty (op : Usbtty) : Keeps d key E (usbtty op) :=
  (keeps_libraryCall rfl (by cases d <;> rfl)).bind fun _ => keeps_pure _

/-- Giving out the PIN edits what its answer states. -/
theorem keeps_usbttyCpin (pin : Option String) : Keeps d key E (usbttyCpin pin) :=
  (keeps_libraryCall rfl (by cases d <;> rfl)).bind fun _ => keeps_pure _

/-- Relayed steps keep what is known. -/
theorem keeps_relay {p : Op Ret} {k : Ret → Op Ret} (hp : Keeps d key E p)
    (hk : ∀ i, Keeps d key E (k i)) : Keeps d key E (relay p k) := by
  refine hp.bind fun i => ?_
  split
  · exact keeps_pure _
  · exact hk i

/-! ### From step to step -/

/-- An operation that does not end well has nothing to show. -/
theorem finishes_of_ne_ttrue {b : Boole} (hb : b ≠ .ttrue) : Finishes d key E (pure b) :=
  fun _ hσ => ⟨hσ.2, fun h => absurd h hb⟩

/-- An operation may end well when all cleared attributes are edited. -/
theorem finishes_ttrue (hE : cleared d ⊆ E) : Finishes d key E (pure .ttrue) :=
  fun _ hσ => ⟨hσ.2, fun _ k hk => hσ.1 k (hE hk)⟩

/-- Reading a key that is edited, and going on to the end. -/
theorem finishes_read {k : String} {f : Option String → Op Boole} (hk : k ∈ E)
    (hf : ∀ x, Finishes d key E (f x)) : Finishes d key E (Script.read k f) :=
  fun σ hσ => ⟨hσ.1 k hk, hf _ σ hσ⟩

/-- A step in front of the end. -/
theorem Keeps.finishes {p : Op A} {f : A → Op Boole} (hp : Keeps d key E p)
    (hf : ∀ a, Finishes d key E (f a)) : Finishes d key E (p >>= f) := by
  intro σ hσ
  rw [Script.after_bind]
  exact (hp σ hσ).mono fun a σ' hσ' => hf a σ' hσ'

/-- A step whose value may end the watch, with more known behind it. -/
theorem after_check {p : Op Ret} {k : Ret → Op Boole}
    {R : Script.Path Command Reply String String → Prop}
    {σ : Script.Path Command Reply String String} (hR : ∀ σ, R σ → Known key E σ)
    (hp : p.After (Event d key) (fun _ σ => R σ) σ)
    (hk : ∀ i σ, R σ → (k i).After (Event d key) (Ended d key) σ) :
    (check p k).After (Event d key) (Ended d key) σ := by
  unfold check
  rw [Script.after_bind]
  refine hp.mono fun i σ' hσ' => ?_
  split
  · exact ⟨(hR σ' hσ').2, by simp⟩
  split
  · exact ⟨(hR σ' hσ').2, by simp⟩
  · exact hk i σ' hσ'

/-- A checked step in front of the end. -/
theorem finishes_check {p : Op Ret} {k : Ret → Op Boole} (hp : Keeps d key E p)
    (hk : ∀ i, Finishes d key E (k i)) : Finishes d key E (check p k) :=
  fun σ hσ => after_check (fun _ h => h) (hp σ hσ) hk

/-- The step for the operator in front of the end. -/
theorem finishes_checkCops {k : Op Boole} (hk : Finishes d key E k) :
    Finishes d key E (checkCops k) := by
  refine finishes_check (keeps_usbtty _) fun _ => ?_
  exact finishes_check (keeps_usbtty _) fun _ => hk

/-- The step for the signal in front of the end. -/
theorem finishes_checkCsq {k : ℤ → Op Boole} (hk : ∀ csq, Finishes d key E (k csq)) :
    Finishes d key E (checkCsq k) := by
  refine (keeps_libraryCall rfl (by cases d <;> rfl)).finishes fun r => ?_
  exact finishes_check (keeps_pure _) fun _ => hk r.csq

/-- More is edited behind a deletion. -/
theorem finishes_deleteAll (hkey : Uncleared d key) {keys : List String}
    {f : Unit → Op Boole} (hkeys : keys ⊆ cleared d)
    (hf : Finishes d key (keys ++ E) (f ())) : Finishes d key E (deleteAll keys >>= f) := by
  intro σ hσ
  unfold deleteAll
  rw [Script.after_bind]
  have hmap : (keys.map fun key => (key, (none : Option String))).map Prod.fst = keys := by
    rw [List.map_map]
    exact List.map_id keys
  refine Script.after_puts _ fun σ' hedited hmet => hf σ' ⟨fun k hk => ?_, ?_⟩
  · rw [hedited, hmap]
    exact (List.mem_append.mp hk).imp_right (hσ.1 k)
  · rw [hedited, hmap, hmet, or_iff_right fun h => hkey.2 (hkeys h)]
    exact hσ.2

/-! ### The steps of the drivers -/

section Shared

variable (hkey : Uncleared d key)

include hkey

/-- Asking for the card keeps what is known. -/
theorem keeps_iccid (tries : ℕ) (ret : Ret) : Keeps d key E (iccid tries ret) := by
  induction tries generalizing ret with
  | zero => exact keeps_pure ret
  | succ tries ih =>
    refine (keeps_tx rfl (by cases d <;> rfl)).bind fun r => ?_
    refine keeps_relay (keeps_pure _) fun i => ?_
    split
    · split
      · exact ((edits_put_of_ne hkey.ne_iccid _).before fun _ => edits_pure _).keeps
      · exact ih .failed
    · exact ih i

/-- Recording the card edits no attribute of the network. -/
theorem edits_setIccid (ack : List Char) : Edits d key E False (Zte7520.setIccid ack) := by
  unfold Zte7520.setIccid
  split
  · exact (edits_put_of_ne hkey.ne_iccid _).before fun _ => edits_pure _
  · exact edits_pure _

/-- Asking for the card keeps what is known. -/
theorem keeps_ccid : Keeps d key E Zte7520.ccid := by
  refine (keeps_tx rfl (by cases d <;> rfl)).bind fun r => ?_
  refine keeps_relay (keeps_pure _) fun i => ?_
  split
  · refine (keeps_tx rfl (by cases d <;> rfl)).bind fun r' => ?_
    split
    · exact keeps_pure _
    · exact (edits_setIccid hkey _).keeps
  · exact (edits_setIccid hkey _).keeps

/-- Asking for the network keeps what is known. -/
theorem keeps_sysinfo : Keeps d key E sysinfo := by
  refine (keeps_tx rfl (by cases d <;> rfl)).bind fun r => ?_
  split
  · exact keeps_pure _
  · exact ((edits_setGiven (hkey.ne_common (by decide)) _).before fun _ => edits_pure _).keeps

/-- The newer question for the network keeps what is known. -/
theorem keeps_sysinfoex (typeOf : List Char → ℤ) : Keeps d key E (sysinfoex typeOf) := by
  refine (keeps_tx rfl (by cases d <;> rfl)).bind fun r => ?_
  split
  · exact keeps_pure _
  · exact ((edits_setGiven (hkey.ne_common (by decide)) _).before fun _ => edits_pure _).keeps

/-- Recording the registration reads `plmn` alone. -/
theorem edits_setPlmn (hE : "plmn" ∈ E) (i : Ret) : Edits d key E False (setPlmn i) :=
  edits_read hE fun _ => edits_onlyIf_of_not (edits_setGiven (hkey.ne_common (by decide)) _)

/-- Recording the signal edits no uncleared attribute. -/
theorem edits_setCsq (csq : ℤ) : Edits d key E False (setCsq csq) := by
  unfold setCsq
  split
  · exact edits_pure ()
  · exact (edits_put_of_ne (hkey.ne_common (by decide)) _).before fun _ =>
      edits_put_of_ne (hkey.ne_common (by decide)) _

/-- Recording a missing signal reads `rssi` alone. -/
theorem edits_setMissingCsq (hE : "rssi" ∈ E) (csq : ℤ) (rssi : Option ℤ) :
    Edits d key E False (setMissingCsq csq rssi) := by
  unfold setMissingCsq
  split
  · exact edits_pure ()
  · refine edits_read hE fun _ => ?_
    exact (edits_onlyIf_of_not (edits_put_of_ne (hkey.ne_common (by decide)) _)).before
      fun _ => edits_put_of_ne (hkey.ne_common (by decide)) _

/-- Recording the level edits no uncleared attribute. -/
theorem edits_setSignal (signal : ℤ) : Edits d key E False (setSignal signal) :=
  edits_onlyIf_of_not (edits_put_of_ne (hkey.ne_common (by decide)) _)

/-- The level by the strength reads `rssi` alone. -/
theorem edits_rssiSignal (hE : "rssi" ∈ E) : Edits d key E False rssiSignal :=
  edits_read hE fun _ => edits_setSignal hkey _

/-- The level by the received power reads `rssi` and `rsrp` alone. -/
theorem edits_rsrpSignal (hE : "rssi" ∈ E) (hE' : "rsrp" ∈ E) :
    Edits d key E False rsrpSignal := by
  rw [rsrpSignal, number_bind]
  refine edits_read hE' fun v => ?_
  split
  · exact edits_setSignal hkey _
  · exact edits_rssiSignal hkey hE

/-! ### The parts of a watch -/

/-- The step for the card in front of the end. -/
theorem finishes_checkSim {ccid : Op Ret} {k : Op Boole} (pin : Option String)
    (hccid : Keeps d key E ccid) (hk : Finishes d key E k) :
    Finishes d key E (checkSim ccid pin k) := by
  have hiccid : ∀ s, Keeps d key E (setString "iccid" s) :=
    fun s => (edits_put_of_ne hkey.ne_iccid _).keeps
  refine (keeps_usbttyCpin pin).finishes fun i => ?_
  split
  · exact finishes_of_ne_ttrue (by decide)
  split
  · exact finishes_of_ne_ttrue (by decide)
  split
  · exact (hiccid _).finishes fun _ => hk
  split
  · exact (hiccid _).finishes fun _ => hk
  split
  · refine (hiccid _).finishes fun _ => ?_
    refine finishes_check (keeps_usbtty _) fun _ => ?_
    exact finishes_check hccid fun _ => hk
  · exact hk

/-- The step for the registration in front of the end. -/
theorem finishes_checkReg {k : Op Boole} (hE : "plmn" ∈ E) (hk : Finishes d key E k) :
    Finishes d key E (checkReg k) := by
  refine finishes_check (keeps_usbtty _) fun _ => ?_
  refine finishes_check (keeps_usbtty _) fun _ => ?_
  refine finishes_check (keeps_usbtty _) fun i => ?_
  exact (edits_setPlmn hkey hE i).keeps.finishes fun _ => hk

/-- The step for the registration in 5G in front of the end. -/
theorem finishes_checkReg5g {k : Op Boole} (hE : "plmn" ∈ E) (hk : Finishes d key E k) :
    Finishes d key E (Ne16u.checkReg5g k) := by
  refine finishes_check (keeps_usbtty _) fun _ => ?_
  refine finishes_check (keeps_usbtty _) fun _ => ?_
  refine finishes_check (keeps_usbtty _) fun _ => ?_
  refine finishes_check (keeps_usbtty _) fun i => ?_
  exact (edits_setPlmn hkey hE i).keeps.finishes fun _ => hk

/-- The step for a missing signal in front of the end. -/
theorem finishes_checkMissingCsq (rssiOf : ℤ → Option ℤ) {k : Op Boole} (hE : "csq" ∈ E)
    (hE' : "rssi" ∈ E) (hk : Finishes d key E k) :
    Finishes d key E (checkMissingCsq rssiOf k) := by
  rw [checkMissingCsq, number_bind]
  refine finishes_read hE fun v => ?_
  split
  · refine finishes_checkCsq fun csq => ?_
    exact (edits_setMissingCsq hkey hE' csq _).keeps.finishes fun _ => hk
  · exact hk

/-- The end of the watches that take the level from `rssi`. -/
theorem finishes_level (hE : "rssi" ∈ E) (hcleared : cleared d ⊆ ["csq"] ++ E) :
    Finishes d key E (do
      deleteAll ["csq"]
      checkCsq fun csq => do
      setCsq csq
      rssiSignal
      pure .ttrue) := by
  refine finishes_deleteAll hkey ?_ ?_
  · exact List.Subset.trans (by decide) (common_subset d)
  · refine finishes_checkCsq fun csq => ?_
    refine (edits_setCsq hkey csq).keeps.finishes fun _ => ?_
    refine (edits_rssiSignal hkey (List.mem_append_right _ hE)).keeps.finishes fun _ => ?_
    exact finishes_ttrue hcleared

end Shared

end Steps

end Tiger.Analysis.WatchFreshness
