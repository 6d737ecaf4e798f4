import Tiger.Library.Quoted
import Tiger.Model.AtScript

/-!
# The lines of the drivers, read back

A driver prints the arguments of a command into a line, some of them between quotes, and
escapes nothing. The modem reads up to a line end, and a semicolon outside quotes ends a
command as well. A reader that knows the names and takes a quote at the start of an
argument for an opening one reads the line as the driver meant it exactly when no argument
holds what ends it early (`readText_text_iff`).
-/

set_option autoImplicit false

namespace Tiger.Analysis.CommandLines

open Tiger.Library Tiger.Model

/-! ## The reader -/

/-- What a line says. -/
inductive Line where
  | set (name : AtName) (items : List (Item Char))
  | read (name : AtName)
  | exec (name : AtName)
deriving DecidableEq

/-- The names a reader knows. -/
def names : List AtName :=
  [.authdata, .cesq, .cgact, .cgcontrdp, .cgmm, .cgpaddr, .cops, .cpwroff, .dhcpctrl, .gtrat,
    .gtrndis, .gtusbmode, .iccid, .lband, .lnwscfg, .lpowd, .mgauth, .ndisdup, .ndisstatqry,
    .qcfg, .qctpwdcfg, .qeng, .qiact, .qicsgp, .qideact, .qnetdevctl, .qnetdevstatus, .qnwinfo,
    .qnwlock, .qpowd, .reset, .scfg, .sysconfig, .sysinfo, .sysinfoex, .zemsciq, .zgact,
    .zgpcoauth, .ziccid, .zlanenable, .zlteband, .zncard, .znetcardtype]

/-- The name a line begins with. -/
def nameOf (s : List Char) : Option AtName := names.find? fun name => name.text.toList = s

/-- A letter that ends the name. -/
def endsName (c : Char) : Bool := c = '=' || c = '?'

/-- A letter that ends the line. -/
def isLineEnd (c : Char) : Bool := c = '\r' || c = '\n'

/-- A field that does not end the command. -/
def single : Item Char → Bool
  | .bare s => ';' ∉ s
  | .quoted _ => true

/-- Read what stands behind the name. -/
def readForm (name : AtName) : List Char → Option Line
  | [] => some (.exec name)
  | ['?'] => some (.read name)
  | '=' :: t =>
    ((readItems ',' '"' (.bare []) t).filter (·.all single)).map (.set name)
  | _ => none

/-- Read a line. -/
def readLine (t : List Char) : Option Line :=
  (nameOf (t.takeWhile (! endsName ·))).bind fun name =>
    readForm name (t.dropWhile (! endsName ·))

/-- Read a text line by line. -/
def readText (t : List Char) : List (Option Line) := (t.splitOnP isLineEnd).map readLine

/-- The fields of an argument. It is one field, but for the bytes of a band mask. -/
def fieldsOf (name : AtName) : Arg → List (Item Char)
  | .raw s => if name = .zlteband then (s.toList.splitOn ',').map .bare else [.bare s.toList]
  | .quoted s => [.quoted s.toList]

/-- What a driver means by a command, where it prints the line itself. -/
def meant : Command → Option Line
  | .set name args => some (.set name (args.flatMap (fieldsOf name)))
  | .read name => some (.read name)
  | .exec name => some (.exec name)
  | _ => none

/-- What stands in an argument. -/
def body : Arg → String
  | .raw s => s
  | .quoted s => s

/-- A field no reader takes for something else: in quotes it holds no quote, and without them no
comma, no semicolon and no quote at its start. -/
def CleanField : Item Char → Prop
  | .bare s => ',' ∉ s ∧ s.head? ≠ some '"' ∧ ';' ∉ s
  | .quoted s => '"' ∉ s

/-- An argument of clean fields and without a line end. -/
def CleanArg (name : AtName) (a : Arg) : Prop :=
  (∀ c ∈ (body a).toList, isLineEnd c = false) ∧ ∀ item ∈ fieldsOf name a, CleanField item

/-- A command with arguments, all of them clean. -/
def CleanCommand : Command → Prop
  | .set name args => args ≠ [] ∧ ∀ a ∈ args, CleanArg name a
  | _ => True

/-! ## Names -/

/-- Every name is read as itself. -/
theorem nameOf_text (name : AtName) : nameOf name.text.toList = some name := by
  cases name <;> decide +kernel

/-- No letter of a name ends it. -/
theorem name_letters (name : AtName) : name.text.toList.all (! endsName ·) = true := by
  cases name <;> decide +kernel

/-- A name has no line end. -/
theorem name_line (name : AtName) : ∀ c ∈ name.text.toList, isLineEnd c = false := by
  have hnone : name.text.toList.all (! isLineEnd ·) = true := by
    cases name <;> decide +kernel
  intro c hc
  simpa using List.all_eq_true.mp hnone c hc

/-- A line begins with its name, and what ends it begins the form. -/
theorem readLine_append (name : AtName) {rest : List Char}
    (h : rest.head?.all endsName = true) :
    readLine (name.text.toList ++ rest) = readForm name rest := by
  have hletters : ∀ c ∈ name.text.toList, (! endsName c) = true :=
    List.all_eq_true.mp (name_letters name)
  have hrest : rest.takeWhile (! endsName ·) = [] ∧ rest.dropWhile (! endsName ·) = rest := by
    cases rest with
    | nil => exact ⟨rfl, rfl⟩
    | cons c rest =>
      have hc : endsName c = true := h
      exact ⟨List.takeWhile_cons_of_neg (by simp [hc]), List.dropWhile_cons_of_neg (by simp [hc])⟩
  unfold readLine
  rw [List.takeWhile_append_of_pos hletters, List.dropWhile_append_of_pos hletters, hrest.1,
    hrest.2, List.append_nil, nameOf_text, Option.bind_some]

/-! ## Arguments -/

/-- A comma stands between two rows of items. -/
theorem itemText_append {as bs : List (Item Char)} (ha : as ≠ []) (hb : bs ≠ []) :
    itemText ',' '"' (as ++ bs) = itemText ',' '"' as ++ ',' :: itemText ',' '"' bs := by
  induction as with
  | nil => exact absurd rfl ha
  | cons a as ih =>
    by_cases has : as = []
    · rw [has, List.singleton_append, itemText_cons hb, itemText_singleton]
    · rw [List.cons_append, itemText_cons (by simp [has]), ih has, itemText_cons has,
        List.append_assoc, List.cons_append]

/-- Every argument has a field. -/
theorem fieldsOf_ne_nil (name : AtName) (a : Arg) : fieldsOf name a ≠ [] := by
  cases a with
  | raw s =>
    intro h
    rw [fieldsOf] at h
    split at h
    · exact List.splitOn_ne_nil ',' s.toList (List.map_eq_nil_iff.mp h)
    · cases h
  | quoted s => exact List.cons_ne_nil _ _

/-- The fields of an argument make up its text. -/
theorem itemText_fieldsOf (name : AtName) (a : Arg) :
    itemText ',' '"' (fieldsOf name a) = a.text.toList := by
  cases a with
  | raw s =>
    rw [fieldsOf]
    split
    · have hmap : (s.toList.splitOn ',').map (Item.text '"' ∘ Item.bare) = s.toList.splitOn ',' :=
        List.map_id' _
      rw [itemText, List.map_map, hmap, List.intercalate_splitOn]
      rfl
    · rw [itemText_singleton]
      rfl
  | quoted s =>
    rw [fieldsOf, itemText_singleton, Item.text, Arg.text, String.toList_append,
      String.toList_append]
    rfl

/-- The fields of the arguments make up the line behind the sign. -/
theorem itemText_flatMap (name : AtName) (args : List Arg) :
    itemText ',' '"' (args.flatMap (fieldsOf name)) =
      (",".intercalate (args.map Arg.text)).toList := by
  rw [String.toList_intercalate, List.map_map]
  induction args with
  | nil => rfl
  | cons a args ih =>
    rw [List.flatMap_cons, List.map_cons]
    by_cases hargs : args = []
    · rw [hargs, List.flatMap_nil, List.append_nil, itemText_fieldsOf]
      simp
    · have hfields : args.flatMap (fieldsOf name) ≠ [] := by
        obtain ⟨b, bs, rfl⟩ := List.exists_cons_of_ne_nil hargs
        rw [List.flatMap_cons]
        exact List.append_ne_nil_of_left_ne_nil (fieldsOf_ne_nil name b) _
      rw [itemText_append (fieldsOf_ne_nil name a) hfields, itemText_fieldsOf, ih,
        List.intercalate_cons_of_ne_nil (by simpa using hargs), List.append_assoc]
      rfl

/-- The line behind the sign has a line end exactly when one of the arguments has. -/
theorem line_args (args : List Arg) :
    (∀ c ∈ (",".intercalate (args.map Arg.text)).toList, isLineEnd c = false) ↔
      ∀ a ∈ args, ∀ c ∈ (body a).toList, isLineEnd c = false := by
  have hcomma : isLineEnd ',' = false := by decide
  have hquote : isLineEnd '"' = false := by decide
  have hone : ∀ a : Arg, (∀ c ∈ a.text.toList, isLineEnd c = false) ↔
      ∀ c ∈ (body a).toList, isLineEnd c = false := by
    intro a
    cases a with
    | raw s => exact Iff.rfl
    | quoted s => simp [Arg.text, body, or_imp, forall_and, hquote]
  rw [String.toList_intercalate, List.map_map]
  induction args with
  | nil => simp
  | cons a args ih =>
    rw [List.forall_mem_cons, List.map_cons]
    refine Iff.trans ?_ (and_congr (hone a) ih)
    by_cases hargs : args = []
    · simp [hargs]
    · rw [List.intercalate_cons_of_ne_nil (by simpa using hargs)]
      simp only [List.forall_mem_append, Function.comp_apply]
      simp [hcomma]

/-- A clean field is one that can be told from its surroundings and does not end the command. -/
theorem cleanField_iff (item : Item Char) :
    CleanField item ↔ item.Clean ',' '"' ∧ single item = true := by
  cases item with
  | bare s => simp [CleanField, Item.Clean, single, and_assoc]
  | quoted s => simp [CleanField, Item.Clean, single]

/-! ## Lines -/

/-- The fields of a command are read back exactly when there are arguments and all their fields
are clean. -/
theorem readForm_set_iff (name : AtName) (args : List Arg) :
    readForm name ('=' :: itemText ',' '"' (args.flatMap (fieldsOf name))) =
        meant (.set name args) ↔
      args ≠ [] ∧ ∀ a ∈ args, ∀ item ∈ fieldsOf name a, CleanField item := by
  have hempty : args.flatMap (fieldsOf name) = [] ↔ args = [] := by
    rw [List.flatMap_eq_nil_iff]
    cases args with
    | nil => simp
    | cons a args =>
      refine iff_of_false (fun hall => ?_) (List.cons_ne_nil a args)
      exact fieldsOf_ne_nil name a (hall a List.mem_cons_self)
  have hset : ∀ (o : Option (List (Item Char))) (items : List (Item Char)),
      (o.filter (·.all single)).map (Line.set name) = some (.set name items) ↔
        o = some items ∧ items.all single = true := by
    intro o items
    rw [Option.map_eq_some_iff]
    simp only [Line.set.injEq, true_and, Option.filter_eq_some_iff]
    constructor
    · rintro ⟨_, ⟨ho, hall⟩, rfl⟩
      exact ⟨ho, hall⟩
    · rintro ⟨ho, hall⟩
      exact ⟨items, ⟨ho, hall⟩, rfl⟩
  show ((readItems ',' '"' (.bare []) _).filter (·.all single)).map (Line.set name) =
    some (.set name (args.flatMap (fieldsOf name))) ↔ _
  rw [hset, readItems_itemText_iff (by decide), ne_eq, hempty, and_assoc, List.all_eq_true]
  refine and_congr_right fun _ => ?_
  rw [← forall₂_and, List.forall_mem_flatMap]
  exact forall₂_congr fun a _ => forall₂_congr fun item _ => (cleanField_iff item).symm

/-- A text is read as the one line that is meant exactly when the arguments are clean. -/
theorem readText_text_iff {c : Command} {t : String} (h : c.text = some t) :
    readText t.toList = [meant c] ↔ CleanCommand c := by
  -- one line, and what is read in it
  have hline : readText t.toList = [meant c] ↔
      (∀ x ∈ t.toList, isLineEnd x = false) ∧ readLine t.toList = meant c := by
    unfold readText
    rw [List.map_eq_singleton_iff]
    constructor
    · rintro ⟨line, hcut, hread⟩
      obtain ⟨hnone, rfl⟩ := splitOnP_eq_singleton_iff.mp hcut
      exact ⟨hnone, hread⟩
    · rintro ⟨hnone, hread⟩
      exact ⟨t.toList, splitOnP_eq_singleton_iff.mpr ⟨hnone, rfl⟩, hread⟩
  rw [hline]
  cases c with
  | set name args =>
    obtain rfl := Option.some.inj h
    have htext : (name.text ++ "=" ++ ",".intercalate (args.map Arg.text)).toList =
        name.text.toList ++ '=' :: itemText ',' '"' (args.flatMap (fieldsOf name)) := by
      rw [String.toList_append, String.toList_append, itemText_flatMap, List.append_assoc]
      rfl
    have hsign : isLineEnd '=' = false := by decide
    rw [htext, readLine_append name rfl, readForm_set_iff, List.forall_mem_append,
      and_iff_right (name_line name), List.forall_mem_cons, and_iff_right hsign,
      itemText_flatMap, line_args]
    unfold CleanCommand CleanArg
    rw [and_left_comm, ← forall₂_and]
  | read name =>
    obtain rfl := Option.some.inj h
    have hquery : isLineEnd '?' = false := by decide
    rw [String.toList_append, readLine_append name rfl]
    refine iff_of_true ⟨?_, rfl⟩ trivial
    rw [List.forall_mem_append]
    exact ⟨name_line name, by simp [hquery]⟩
  | exec name =>
    obtain rfl := Option.some.inj h
    refine iff_of_true ⟨name_line name, ?_⟩ trivial
    rw [← List.append_nil name.text.toList, readLine_append name rfl]
    rfl
  | usbtty op => cases h
  | cpin pin => cases h
  | cgdcont cid iptype apn => cases h
  | rx => cases h

/-- A password with a quote in it ends its argument early, and one with a carriage return the
whole line. -/
example : readText "AT+QCTPWDCFG=\"user\",\"pa\"ss\"".toList = [none] ∧
    readText "AT+QCTPWDCFG=\"user\",\"pa\rss\"".toList = [none, none] := by decide +kernel

end Tiger.Analysis.CommandLines
