import Tiger.Library.Latest
import Tiger.Model.Hostapd

/-!
# The files of the access control

A file of the access control holds what the last SSID that names it has put there
(`files_hostapd`), and it is there only if that SSID lists a key. `hostapd_iff` says for
which configurations every file that a section names holds the keys of that section's SSID.
-/

set_option autoImplicit false

namespace Tiger.Analysis.AccessLists

open Tiger.Library Tiger.Model Tiger.Model.Hostapd

variable {sys : System} {radio : Radio} {files : Files} {i : ℕ} {path : String}

/-! ## The lists -/

/-- Keys, one in a line. -/
def keyText (keys : List String) : String := String.join (keys.map (· ++ "\n"))

/-- The keys of the SSID in slot `i`. -/
def keysOf (sys : System) (radio : Radio) (i : ℕ) : List String :=
  ((configOf sys radio i).map macKeys).getD []

/-- The file of the access control of slot `i`, when its SSID is enabled and has one. -/
def fileOf (sys : System) (radio : Radio) (i : ℕ) : Option String := do
  let netdev ← deviceOf sys radio i
  let cfg ← configOf sys radio i
  let acl ← aclOf cfg
  pure (aclPath sys netdev acl)

/-- A section names a file. -/
def Section.Names (sec : Section) (path : String) : Prop :=
  .acceptMacFile path ∈ sec.lines ∨ .denyMacFile path ∈ sec.lines

/-- The keys a component is configured with. -/
def comKeys (sys : System) (com : String) : List String := ((sys.config com).map macKeys).getD []

/-- Every file a section names is there and holds the keys of its own SSID. -/
def Exact (sys : System) (s : State) : Prop :=
  ∀ sec ∈ s.sections, ∀ path, Section.Names sec path →
    s.files path = some (keyText (comKeys sys sec.com))

/-! ## Writing the keys -/

/-- Appending the keys one by one appends their text, and no key touches no file. -/
theorem foldl_string3file (files : Files) (path : String) (keys : List String) :
    keys.foldl (fun files key => string3file files path (key ++ "\n")) files =
      if keys = [] then files
      else Function.update files path (some ((files path).getD "" ++ keyText keys)) := by
  induction keys generalizing files with
  | nil => simp
  | cons key keys ih =>
    have hjoin : keyText (key :: keys) = key ++ "\n" ++ keyText keys := String.join_cons
    rw [List.foldl_cons, ih, if_neg (List.cons_ne_nil key keys), hjoin]
    unfold string3file
    by_cases hkeys : keys = []
    · subst hkeys
      rw [if_pos rfl]
      simp [keyText]
    · rw [if_neg hkeys, Function.update_idem, Function.update_self, Option.getD_some,
        String.append_assoc]

/-- After the keys are written the file holds them, and there is none where there are no keys. -/
theorem writeKeys_eq (files : Files) (path : String) (keys : List String) :
    writeKeys files path keys =
      Function.update files path (if keys = [] then none else some (keyText keys)) := by
  unfold writeKeys
  rw [foldl_string3file]
  by_cases hkeys : keys = []
  · rw [if_pos hkeys, if_pos hkeys]
    rfl
  · rw [if_neg hkeys, if_neg hkeys]
    unfold unlink
    rw [Function.update_idem, Function.update_self, Option.getD_none, String.empty_append]

/-- The text of a key is not empty. -/
theorem keyText_ne_empty {keys : List String} (h : keys ≠ []) : keyText keys ≠ "" := by
  obtain ⟨key, rest, rfl⟩ := List.exists_cons_of_ne_nil h
  have hjoin : keyText (key :: rest) = key ++ "\n" ++ keyText rest := String.join_cons
  intro hempty
  have hlist := congrArg String.toList (hjoin.symm.trans hempty)
  simp at hlist

/-! ## One turn -/

/-- The section of slot `i`, when its SSID is enabled. -/
def sectionOf (sys : System) (radio : Radio) (i : ℕ) : Option Section := do
  let netdev ← deviceOf sys radio i
  let cfg ← configOf sys radio i
  pure ⟨compath radio i,
    networkLines sys (compath radio i) netdev cfg ++ aclLines sys netdev cfg ++ lastLines cfg⟩

/-- A section is made from the device and the configuration of its slot. -/
theorem eq_of_sectionOf {sec : Section} (hsec : sectionOf sys radio i = some sec) :
    ∃ netdev cfg, deviceOf sys radio i = some netdev ∧ configOf sys radio i = some cfg ∧
      sec = ⟨compath radio i, networkLines sys (compath radio i) netdev cfg ++
        aclLines sys netdev cfg ++ lastLines cfg⟩ := by
  simp only [sectionOf, Option.bind_eq_bind, Option.bind_eq_some_iff, Option.pure_def,
    Option.some.injEq] at hsec
  obtain ⟨netdev, hdev, cfg, hcfg, heq⟩ := hsec
  exact ⟨netdev, cfg, hdev, hcfg, heq.symm⟩

/-- What slot `i` decides about a file: its keys stand in it, or it is gone. -/
def decision (sys : System) (radio : Radio) (path : String) (i : ℕ) : Option (Option String) :=
  if fileOf sys radio i = some path then
    some (if keysOf sys radio i = [] then none else some (keyText (keysOf sys radio i)))
  else none

/-- A turn adds the section of its slot, if there is one. -/
theorem sections_ssidTurn (s : State) (i : ℕ) :
    (ssidTurn sys radio s i).sections = s.sections ++ (sectionOf sys radio i).toList := by
  unfold ssidTurn sectionOf
  cases deviceOf sys radio i with
  | none => simp
  | some netdev =>
    cases configOf sys radio i with
    | none => simp
    | some cfg => simp

/-- A turn leaves in a file what it decides about it. -/
theorem files_ssidTurn (s : State) (i : ℕ) (path : String) :
    (ssidTurn sys radio s i).files path =
      (decision sys radio path i).getD (s.files path) := by
  unfold ssidTurn decision fileOf keysOf aclFiles
  cases deviceOf sys radio i with
  | none => simp
  | some netdev =>
    cases configOf sys radio i with
    | none => simp
    | some cfg =>
      cases hacl : aclOf cfg with
      | none => simp [hacl]
      | some acl =>
        by_cases hpath : aclPath sys netdev acl = path
        · subst hpath
          simp [hacl, writeKeys_eq]
        · simp [hacl, writeKeys_eq, hpath, Function.update_of_ne (Ne.symm hpath)]

/-! ## The loop -/

/-- The sections are those of the enabled SSIDs, in the order of the slots. -/
theorem sections_hostapd (files : Files) :
    (hostapd sys radio files).sections = (List.range 4).filterMap (sectionOf sys radio) := by
  have hfold : ∀ (is : List ℕ) (s : State), (is.foldl (ssidTurn sys radio) s).sections =
      s.sections ++ is.filterMap (sectionOf sys radio) := by
    intro is
    induction is with
    | nil => simp
    | cons i is ih =>
      intro s
      rw [List.foldl_cons, ih, sections_ssidTurn, List.filterMap_cons, List.append_assoc]
      cases sectionOf sys radio i <;> rfl
  unfold hostapd
  rw [hfold, List.nil_append]

/-- The sections of the file are those of the four slots. -/
theorem mem_sections_iff (files : Files) (sec : Section) :
    sec ∈ (hostapd sys radio files).sections ↔ ∃ i < 4, sectionOf sys radio i = some sec := by
  rw [sections_hostapd, List.mem_filterMap]
  simp

/-- **The files.** What stands in a file is what the last SSID that has it decides. -/
theorem files_hostapd (path : String) :
    (hostapd sys radio files).files path =
      (latest (decision sys radio path) (List.range 4)).getD (files path) := by
  have hstep : ∀ (s : State) (text : Option String) (i : ℕ), s.files path = text →
      (ssidTurn sys radio s i).files path = (decision sys radio path i).getD text := by
    intro s text i hs
    rw [files_ssidTurn, hs]
  exact latest_run (R := fun (s : State) text => s.files path = text) hstep rfl _

/-! ## What a section names -/

/-- A line that names no file. -/
def Line.plain : Line → Bool
  | .set _ _ => true
  | .blank => true
  | _ => false

/-- The lines of the encryption name no file. -/
theorem secureLines_plain (cfg : Talk) : (secureLines cfg).all Line.plain = true := by
  unfold secureLines
  dsimp only
  split
  · rfl
  · next lines hmode =>
    have hlines : lines.all Line.plain = true := by
      split at hmode <;> cases hmode <;> rfl
    rw [List.all_append, List.all_append, hlines]
    cases jsonString (some cfg) "wpa_rekey" with
    | none => rfl
    | some ptr =>
      dsimp only
      by_cases hpos : atoi ptr > 0
      · rw [if_pos hpos]
        rfl
      · rw [if_neg hpos]
        rfl

/-- Lines that name no file name none when they are printed on a condition. -/
theorem all_plain_ite (lines : List Line) (h : lines.all Line.plain = true) (b : Bool) :
    (if b then lines else []).all Line.plain = true := by
  cases b with
  | false => rfl
  | true => exact h

/-- The first lines of a section name no file. -/
theorem networkLines_plain (sys : System) (compath netdev : String) (cfg : Talk) :
    (networkLines sys compath netdev cfg).all Line.plain = true := by
  have hoptions : ((entriesOf (jsonValue (some cfg) "hostapd_options")).map
      (fun axp => Line.set axp.1 (printed (xText (some axp.2))))).all Line.plain = true := by
    rw [List.all_map]
    exact List.all_eq_true.mpr fun axp _ => rfl
  have hbridge : ((sys.bridge compath).map (Line.set "bridge")).toList.all Line.plain = true := by
    cases sys.bridge compath <;> rfl
  unfold networkLines
  simp only [List.all_append, secureLines_plain, hoptions, hbridge, Bool.and_true]
  rw [all_plain_ite [.set "ap_isolate" "1"] rfl,
    all_plain_ite [.set "wmm_enabled" "1", .set "uapsd_advertisement_enabled" "1"] rfl,
    all_plain_ite [.set "wds_sta" "1"] rfl]
  rfl

/-- The last lines of a section name no file. -/
theorem lastLines_plain (cfg : Talk) : (lastLines cfg).all Line.plain = true := by
  unfold lastLines
  split
  · rfl
  · split <;> rfl

/-- A line that names a file is none of those that do not. -/
theorem notMem_of_plain {lines : List Line} {line : Line} (hall : lines.all Line.plain = true)
    (hline : Line.plain line = false) : line ∉ lines := by
  intro hmem
  have hplain := List.all_eq_true.mp hall line hmem
  rw [hline] at hplain
  cases hplain

/-- A section names the file of its own slot, and no other. -/
theorem names_iff {sec : Section} (hsec : sectionOf sys radio i = some sec) (path : String) :
    Section.Names sec path ↔ fileOf sys radio i = some path := by
  obtain ⟨netdev, cfg, hdev, hcfg, rfl⟩ := eq_of_sectionOf hsec
  have hmem : ∀ line : Line, Line.plain line = false →
      (line ∈ networkLines sys (compath radio i) netdev cfg ++ aclLines sys netdev cfg ++
        lastLines cfg ↔ line ∈ aclLines sys netdev cfg) := by
    intro line hline
    have hnetwork := notMem_of_plain (networkLines_plain sys (compath radio i) netdev cfg) hline
    have hlast := notMem_of_plain (lastLines_plain cfg) hline
    simp [hnetwork, hlast]
  have hfile : fileOf sys radio i = (aclOf cfg).map (aclPath sys netdev) := by
    unfold fileOf
    rw [hdev, hcfg, Option.bind_eq_bind, Option.bind_some, Option.bind_eq_bind, Option.bind_some]
    exact Option.map_eq_bind.symm
  unfold Section.Names
  rw [hmem _ rfl, hmem _ rfl, hfile]
  unfold aclLines
  cases aclOf cfg with
  | none => simp
  | some acl => cases acl <;> simp [eq_comm]

/-! ## Every file that is named -/

/-- The keys of a section are those of its slot. -/
theorem comKeys_sectionOf {sec : Section} (hsec : sectionOf sys radio i = some sec) :
    comKeys sys sec.com = keysOf sys radio i := by
  obtain ⟨netdev, cfg, -, hcfg, rfl⟩ := eq_of_sectionOf hsec
  have hconfig : sys.config (compath radio i) = some cfg := by
    unfold configOf at hcfg
    cases hread : sys.config (compath radio i) with
    | none => simp [hread] at hcfg
    | some cfg' =>
      simp only [hread, Option.ite_none_right_eq_some, Option.some.injEq] at hcfg
      rw [hcfg.2]
  unfold comKeys keysOf
  rw [hconfig, hcfg]

/-- A slot with a file has a section. -/
theorem exists_sectionOf (hfile : fileOf sys radio i = some path) :
    ∃ sec, sectionOf sys radio i = some sec := by
  unfold fileOf at hfile
  unfold sectionOf
  cases hdev : deviceOf sys radio i with
  | none => simp [hdev] at hfile
  | some netdev =>
    cases hcfg : configOf sys radio i with
    | none => simp [hdev, hcfg] at hfile
    | some cfg => simp

/-- All lists are exact when the file of every slot holds the keys of that slot. -/
theorem exact_iff_slots :
    Exact sys (hostapd sys radio files) ↔
      ∀ i < 4, ∀ path, fileOf sys radio i = some path →
        (hostapd sys radio files).files path = some (keyText (keysOf sys radio i)) := by
  constructor
  · intro hexact i hi path hfile
    obtain ⟨sec, hsec⟩ := exists_sectionOf hfile
    have hmem := (mem_sections_iff files sec).mpr ⟨i, hi, hsec⟩
    rw [← comKeys_sectionOf hsec]
    exact hexact sec hmem path ((names_iff hsec path).mpr hfile)
  · intro hslots sec hmem path hnames
    obtain ⟨i, hi, hsec⟩ := (mem_sections_iff files sec).mp hmem
    rw [comKeys_sectionOf hsec]
    exact hslots i hi path ((names_iff hsec path).mp hnames)

/-- A slot decides about its own file: removed without a key, else the text of the keys. -/
theorem decision_of_file (hfile : fileOf sys radio i = some path) :
    decision sys radio path i =
      some (if keysOf sys radio i = [] then none else some (keyText (keysOf sys radio i))) :=
  if_pos hfile

/-- A file that one of the slots has holds what the last of them puts there. -/
theorem exists_last (files : Files) (hi : i < 4) (hfile : fileOf sys radio i = some path) :
    ∃ j < 4, fileOf sys radio j = some path ∧
      (hostapd sys radio files).files path =
        if keysOf sys radio j = [] then none else some (keyText (keysOf sys radio j)) := by
  rw [files_hostapd]
  cases hlast : latest (decision sys radio path) (List.range 4) with
  | none =>
    have hnone := latest_eq_none_iff.mp hlast i (List.mem_range.mpr hi)
    rw [decision_of_file hfile] at hnone
    cases hnone
  | some text =>
    obtain ⟨j, hj, hdecides⟩ := exists_of_latest hlast
    have hfilej : fileOf sys radio j = some path := by
      by_contra hother
      rw [decision, if_neg hother] at hdecides
      cases hdecides
    rw [decision_of_file hfilej, Option.some.injEq] at hdecides
    exact ⟨j, List.mem_range.mp hj, hfilej, hdecides.symm⟩

/-- **The access lists.** Every file that a section names holds the keys of that section's
SSID exactly when every SSID with access control lists a key, and SSIDs that have one file
list the same. -/
theorem hostapd_iff (sys : System) (radio : Radio) (files : Files) :
    Exact sys (hostapd sys radio files) ↔
      ∀ i < 4, ∀ path, fileOf sys radio i = some path →
        keysOf sys radio i ≠ [] ∧
          ∀ j < 4, fileOf sys radio j = some path →
            keyText (keysOf sys radio j) = keyText (keysOf sys radio i) := by
  rw [exact_iff_slots]
  constructor
  · intro hslots i hi path hfile
    obtain ⟨j, hj, hfilej, hholds⟩ := exists_last files hi hfile
    constructor
    · intro hempty
      have hi' := hslots i hi path hfile
      rw [hholds] at hi'
      by_cases hkeys : keysOf sys radio j = []
      · rw [if_pos hkeys] at hi'
        cases hi'
      · rw [if_neg hkeys, hempty, Option.some.injEq] at hi'
        exact keyText_ne_empty hkeys hi'
    · intro k hk hfilek
      have hk' := hslots k hk path hfilek
      rw [hslots i hi path hfile, Option.some.injEq] at hk'
      exact hk'.symm
  · intro hlists i hi path hfile
    obtain ⟨j, hj, hfilej, hholds⟩ := exists_last files hi hfile
    obtain ⟨-, hsame⟩ := hlists i hi path hfile
    rw [hholds, if_neg (hlists j hj path hfilej).1, hsame j hj hfilej]

/-! ## A list without keys -/

/-- One SSID is enabled; it accepts the stations of a table that lists none. -/
def emptyTable : System where
  netdev _ := some "wlan0"
  readable _ := true
  config com :=
    if com = "wifi@nssid" then
      some (.json [("status", .text "enable"), ("acl", .text "accept"), ("acl_table", .json [])])
    else none
  bridge _ := none
  varPath name := "/var/wifi/" ++ name

def radioN : Radio := ⟨"n", "wifi@n", none⟩

/-- Its file is named and is not there. -/
theorem emptyTable_no_file : ¬ Exact emptyTable (hostapd emptyTable radioN fun _ => none) := by
  intro hexact
  have hfile : fileOf emptyTable radioN 0 = some "/var/wifi/hostapd.wlan0_accept" := by
    decide +kernel
  have hholds := exact_iff_slots.mp hexact 0 (by decide) _ hfile
  have hnone : (hostapd emptyTable radioN fun _ => none).files "/var/wifi/hostapd.wlan0_accept" =
      none := by
    decide +kernel
  rw [hnone] at hholds
  cases hholds

end Tiger.Analysis.AccessLists
