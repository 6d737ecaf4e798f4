import Tiger.Analysis.AccessLists
import Tiger.Library.Delimited
import Tiger.Library.Sections
import Tiger.Model.HostapdRadio

/-!
# Reading the configuration of `hostapd` back

The file is a text of lines `key=value`. The lines up to the first `interface=` are about
the radio, and every `interface=` begins the section of an SSID. When no printed text holds
a line break, and no option is named `interface`, the file is read back as it was meant:
the settings of the radio and one section for each enabled SSID (`readFile_confFile`). So
no SSID has a say in the section of another one, and each is offered under its own name,
with its own key (`credentials_read`).
-/

set_option autoImplicit false

namespace Tiger.Analysis.HostapdFile

open Tiger.Library Tiger.Model Tiger.Model.Hostapd Tiger.Analysis.AccessLists

/-! ## The reader -/

/-- The key and the value of a line. -/
def assignment (line : String) : Option (String × String) :=
  if '=' ∈ line.toList then
    some (String.ofList (line.toList.takeWhile (· ≠ '=')),
      String.ofList (line.toList.dropWhile (· ≠ '=')).tail)
  else none

/-- What a reader finds: the settings of the radio, and those of each section. -/
structure File where
  head : List (String × String)
  sections : List (List (String × String))

/-- The setting begins a section. -/
def isInterface (s : String × String) : Bool := s.1 = "interface"

/-- The file a text is read as. -/
def readFile (text : List Char) : File :=
  let r := Library.sections isInterface
    (((linesOf '\n' text).map String.ofList).filterMap assignment)
  ⟨r.1, r.2⟩

/-- The values of a key. -/
def values (key : String) (settings : List (String × String)) : List String :=
  settings.filterMap fun s => if s.1 = key then some s.2 else none

/-! ## The lines -/

/-- The setting of a line. -/
def setting : Line → Option (String × String)
  | .set key value => some (key, value)
  | .acceptMacFile path => some ("accept_mac_file", path)
  | .denyMacFile path => some ("deny_mac_file", path)
  | .blank => none

/-- The setting of a line has a key without `=`. -/
def KeyOk (l : Line) : Prop := ∀ s, setting l = some s → '=' ∉ s.1.toList

/-- A printed setting is read back. -/
theorem assignment_set {key value : String} (h : '=' ∉ key.toList) :
    assignment (key ++ "=" ++ value) = some (key, value) := by
  have hline : (key ++ "=" ++ value).toList = key.toList ++ '=' :: value.toList := by simp
  unfold assignment
  rw [hline, if_pos (by simp), takeWhile_ne_append h, dropWhile_ne_append h]
  simp

/-- A line is read as its setting. -/
theorem assignment_body {l : Line} (h : KeyOk l) : assignment l.body = setting l := by
  have haccept : "accept_mac_file=" = "accept_mac_file" ++ "=" := by decide
  have hdeny : "deny_mac_file=" = "deny_mac_file" ++ "=" := by decide
  cases l with
  | set key value => exact assignment_set (h _ rfl)
  | acceptMacFile path =>
    rw [Line.body, haccept]
    exact assignment_set (h _ rfl)
  | denyMacFile path =>
    rw [Line.body, hdeny]
    exact assignment_set (h _ rfl)
  | blank => decide

/-! ## The settings of a section -/

/-- The settings of a list of lines. -/
def settings (lines : List Line) : List (String × String) := lines.filterMap setting

/-- The keys of the lines up to the options, but for the one that begins the section. -/
def frontKeys : List String :=
  ["ctrl_interface", "ap_isolate", "ignore_broadcast_ssid", "preamble", "wmm_enabled",
    "uapsd_advertisement_enabled", "eapol_version", "auth_algs", "wpa", "okc",
    "disable_pmksa_caching", "wpa_key_mgmt", "wpa_pairwise", "wpa_passphrase",
    "wpa_group_rekey", "wpa_gmk_rekey", "ssid", "utf8_ssid"]

/-- The keys of the lines behind the options. -/
def backKeys : List String :=
  ["bridge", "wds_sta", "macaddr_acl", "accept_mac_file", "deny_mac_file", "max_num_sta"]

/-- The key of a line is one of a list. -/
def keyIn (keys : List String) (l : Line) : Bool := (setting l).all (·.1 ∈ keys)

/-- The keys of the options of an SSID. -/
def optionKeys (cfg : Talk) : List String :=
  (entriesOf (jsonValue (some cfg) "hostapd_options")).map Prod.fst

/-- The lines of the options. -/
def optionLines (cfg : Talk) : List Line :=
  (entriesOf (jsonValue (some cfg) "hostapd_options")).map
    fun axp => .set axp.1 (printed (xText (some axp.2)))

/-- The lines between the first one and the options. -/
def frontLines (cfg : Talk) : List Line :=
  [.set "ctrl_interface" ctrlDir] ++
    (if enabled cfg "isolated" then [.set "ap_isolate" "1"] else []) ++
    [.set "ignore_broadcast_ssid" (if enabled cfg "broadcast" then "0" else "1"),
      .set "preamble" "1"] ++
    (if enabled cfg "wmm" then
      [.set "wmm_enabled" "1", .set "uapsd_advertisement_enabled" "1"] else []) ++
    secureLines cfg ++
    [.set "ssid" (printed (jsonString (some cfg) "ssid")), .set "utf8_ssid" "1"]

/-- The lines behind the options. -/
def backLines (sys : System) (compath netdev : String) (cfg : Talk) : List Line :=
  ((sys.bridge compath).map (Line.set "bridge")).toList ++
    (if enabled cfg "wds" then [.set "wds_sta" "1"] else []) ++
    aclLines sys netdev cfg ++ lastLines cfg

/-- The lines of a section in their parts. -/
theorem sectionLines_eq (sys : System) (compath netdev : String) (cfg : Talk) :
    networkLines sys compath netdev cfg ++ aclLines sys netdev cfg ++ lastLines cfg =
      .set "interface" netdev ::
        (frontLines cfg ++ optionLines cfg ++ backLines sys compath netdev cfg) := by
  simp [networkLines, frontLines, optionLines, backLines, List.append_assoc]

/-- Lines printed on a condition have the properties they have anyway. -/
theorem all_ite {p : Line → Bool} (lines : List Line) (h : lines.all p = true) (b : Bool) :
    (if b then lines else []).all p = true := by
  cases b with
  | false => rfl
  | true => exact h

/-- The keys of a security. -/
def secureKeys : List String :=
  ["eapol_version", "auth_algs", "wpa", "okc", "disable_pmksa_caching", "wpa_key_mgmt",
    "wpa_pairwise", "wpa_passphrase", "wpa_group_rekey", "wpa_gmk_rekey"]

/-- The lines of the encryption have these keys. -/
theorem secureLines_keys (cfg : Talk) : (secureLines cfg).all (keyIn secureKeys) = true := by
  unfold secureLines
  dsimp only
  split
  · rfl
  · next lines hmode =>
    have hlines : lines.all (keyIn secureKeys) = true := by
      split at hmode <;> cases hmode <;> decide
    rw [List.all_append, List.all_append, hlines]
    cases jsonString (some cfg) "wpa_rekey" with
    | none => rfl
    | some ptr =>
      dsimp only
      by_cases hpos : atoi ptr > 0
      · rw [if_pos hpos]
        rfl
      · rw [if_neg hpos]
        rfl

/-- Keys that are allowed are allowed among more. -/
theorem keyIn_of_subset {keys keys' : List String} (h : keys ⊆ keys') {l : Line}
    (hl : keyIn keys l = true) : keyIn keys' l = true := by
  unfold keyIn at hl ⊢
  cases hs : setting l with
  | none => rfl
  | some s =>
    rw [hs] at hl
    exact decide_eq_true (h (of_decide_eq_true hl))

/-- The lines in front of the options have these keys. -/
theorem frontLines_keys (cfg : Talk) : (frontLines cfg).all (keyIn frontKeys) = true := by
  have hsecure : (secureLines cfg).all (keyIn frontKeys) = true :=
    List.all_eq_true.mpr fun l hl =>
      keyIn_of_subset (by decide) (List.all_eq_true.mp (secureLines_keys cfg) l hl)
  unfold frontLines
  simp only [List.all_append, hsecure, Bool.and_true]
  rw [all_ite [.set "ap_isolate" "1"] rfl,
    all_ite [.set "wmm_enabled" "1", .set "uapsd_advertisement_enabled" "1"] rfl]
  rfl

/-- The lines behind the options have these keys. -/
theorem backLines_keys (sys : System) (compath netdev : String) (cfg : Talk) :
    (backLines sys compath netdev cfg).all (keyIn backKeys) = true := by
  have hbridge : ((sys.bridge compath).map (Line.set "bridge")).toList.all (keyIn backKeys) =
      true := by
    cases sys.bridge compath <;> rfl
  have hacl : (aclLines sys netdev cfg).all (keyIn backKeys) = true := by
    unfold aclLines
    split <;> rfl
  have hlast : (lastLines cfg).all (keyIn backKeys) = true := by
    unfold lastLines
    split
    · rfl
    · split <;> rfl
  unfold backLines
  simp only [List.all_append, hbridge, hacl, hlast, Bool.and_true]
  rw [all_ite [.set "wds_sta" "1"] rfl]
  rfl

/-- A setting among lines with given keys has one of them. -/
theorem mem_of_keyIn {keys : List String} {lines : List Line} {l : Line} {s : String × String}
    (hall : lines.all (keyIn keys) = true) (hl : l ∈ lines) (hs : setting l = some s) :
    s.1 ∈ keys := by
  have hkey := List.all_eq_true.mp hall l hl
  rw [keyIn, hs] at hkey
  exact of_decide_eq_true hkey

/-- Every key behind the first line is one of `_hostapd` or of an option. -/
theorem key_mem {sys : System} {compath netdev : String} {cfg : Talk} {l : Line}
    {s : String × String}
    (hl : l ∈ frontLines cfg ++ optionLines cfg ++ backLines sys compath netdev cfg)
    (hs : setting l = some s) : s.1 ∈ frontKeys ++ backKeys ∨ s.1 ∈ optionKeys cfg := by
  rcases List.mem_append.mp hl with hl | hl
  · rcases List.mem_append.mp hl with hl | hl
    · exact .inl (List.mem_append_left _ (mem_of_keyIn (frontLines_keys cfg) hl hs))
    · obtain ⟨axp, haxp, rfl⟩ := List.mem_map.mp hl
      cases hs
      exact .inr (List.mem_map_of_mem haxp)
  · exact .inl (List.mem_append_right _
      (mem_of_keyIn (backLines_keys sys compath netdev cfg) hl hs))

/-! ## The file -/

/-- The lines behind the first one of a section. -/
def restLines (sys : System) (compath netdev : String) (cfg : Talk) : List Line :=
  frontLines cfg ++ optionLines cfg ++ backLines sys compath netdev cfg

/-- The names of the options are keys of their own. -/
def OptionsOk (cfg : Talk) : Prop := ∀ k ∈ optionKeys cfg, '=' ∉ k.toList ∧ k ≠ "interface"

/-- No line of a section holds `=` in its key when no option does. -/
theorem keyOk_restLines {sys : System} {compath netdev : String} {cfg : Talk}
    (h : OptionsOk cfg) : ∀ l ∈ restLines sys compath netdev cfg, KeyOk l := by
  have hown : ∀ k ∈ frontKeys ++ backKeys, '=' ∉ k.toList := by decide
  intro l hl s hs
  rcases key_mem hl hs with hkey | hkey
  · exact hown _ hkey
  · exact (h _ hkey).1

/-- The settings of a section are a section of the file. -/
theorem isSection_settings {sys : System} {compath netdev : String} {cfg : Talk}
    (h : OptionsOk cfg) :
    IsSection isInterface
      (settings (.set "interface" netdev :: restLines sys compath netdev cfg)) := by
  refine ⟨("interface", netdev), settings (restLines sys compath netdev cfg), rfl, rfl, ?_⟩
  intro s hs
  obtain ⟨l, hl, hsetting⟩ := List.mem_filterMap.mp hs
  have hown : "interface" ∉ frontKeys ++ backKeys := by decide
  refine decide_eq_false fun hkey => ?_
  rcases key_mem hl hsetting with hmem | hmem
  · exact hown (hkey ▸ hmem)
  · exact (h _ hmem).2 hkey

section File

variable {sys : System} {r : RadioSource} {obj object : String} {files : Files}

/-- The names of the options do not get in the way of the reader: no line of the radio and no
option of an enabled SSID is read as the begin of a section. -/
structure NamesOk (sys : System) (r : RadioSource) (obj object : String) : Prop where
  radio : ∀ line ∈ r.lines, ∀ s, assignment line = some s → isInterface s = false
  ssid : ∀ i < 4, ∀ cfg, configOf sys (r.radio obj object) i = some cfg → OptionsOk cfg

/-- The lines of a text come back as they were printed, exactly when no line holds a line
break. -/
theorem lines_read_iff (sys : System) (r : RadioSource) (obj object : String) (files : Files) :
    (linesOf '\n' (confFile sys r obj object files)).map String.ofList =
        fileLines sys r obj object files ++ [""] ↔
      ∀ line ∈ fileLines sys r obj object files, '\n' ∉ line.toList := by
  have hback : ((fileLines sys r obj object files).map String.toList).map String.ofList =
      fileLines sys r obj object files := by
    simp [Function.comp_def]
  constructor
  · intro heq line hline
    have hmem : line ∈ (linesOf '\n' (confFile sys r obj object files)).map String.ofList := by
      rw [heq]
      exact List.mem_append_left _ hline
    obtain ⟨l, hl, rfl⟩ := List.mem_map.mp hmem
    simpa using not_mem_of_mem_linesOf hl
  · intro h
    have hlines : ∀ l ∈ (fileLines sys r obj object files).map String.toList, '\n' ∉ l := by
      intro l hl
      obtain ⟨line, hline, rfl⟩ := List.mem_map.mp hl
      exact h line hline
    rw [confFile, linesOf_unlines_of_not_mem hlines, List.map_append, hback]
    rfl

/-- The lines of a section, by its slot. -/
theorem exists_slot {s : Section} (h : s ∈ sectionsOf sys r obj object files) :
    ∃ i < 4, ∃ netdev cfg, deviceOf sys (r.radio obj object) i = some netdev ∧
      configOf sys (r.radio obj object) i = some cfg ∧
      s.lines = .set "interface" netdev ::
        restLines sys (compath (r.radio obj object) i) netdev cfg := by
  obtain ⟨i, hi, hsec⟩ := (mem_sections_iff files s).mp h
  obtain ⟨netdev, cfg, hdev, hcfg, rfl⟩ := eq_of_sectionOf hsec
  exact ⟨i, hi, netdev, cfg, hdev, hcfg, sectionLines_eq sys _ netdev cfg⟩

/-- The lines of a section are read as its settings. -/
theorem filterMap_assignment {s : Section} (hnames : NamesOk sys r obj object)
    (h : s ∈ sectionsOf sys r obj object files) :
    (s.lines.map Line.body).filterMap assignment = settings s.lines := by
  obtain ⟨i, hi, netdev, cfg, -, hcfg, hlines⟩ := exists_slot h
  rw [settings, List.filterMap_map]
  refine List.filterMap_congr fun l hl => assignment_body ?_
  rw [hlines] at hl
  rcases List.mem_cons.mp hl with rfl | hl
  · intro s hs
    have hkey : '=' ∉ "interface".toList := by decide
    cases hs
    exact hkey
  · exact keyOk_restLines (hnames.ssid i hi cfg hcfg) l hl

/-- What is written for an SSID is read as a section. -/
theorem isSection_of_mem {s : Section} (hnames : NamesOk sys r obj object)
    (h : s ∈ sectionsOf sys r obj object files) : IsSection isInterface (settings s.lines) := by
  obtain ⟨i, hi, netdev, cfg, -, hcfg, hlines⟩ := exists_slot h
  rw [hlines]
  exact isSection_settings (hnames.ssid i hi cfg hcfg)

/-- **Round trip.** Without line breaks in the lines the file is read as it was put together. -/
theorem readFile_confFile (hnames : NamesOk sys r obj object)
    (h : ∀ line ∈ fileLines sys r obj object files, '\n' ∉ line.toList) :
    readFile (confFile sys r obj object files) =
      ⟨r.lines.filterMap assignment,
        (sectionsOf sys r obj object files).map fun s => settings s.lines⟩ := by
  have hlines := (lines_read_iff sys r obj object files).mpr h
  have hsections : ((sectionsOf sys r obj object files).flatMap fun s =>
      s.lines.map Line.body).filterMap assignment =
      ((sectionsOf sys r obj object files).map fun s => settings s.lines).flatten := by
    rw [List.filterMap_flatMap, List.flatMap_def]
    congr 1
    exact List.map_congr_left fun s hs => filterMap_assignment hnames hs
  have hempty : [""].filterMap assignment = [] := by decide
  have hhead : ∀ s ∈ r.lines.filterMap assignment, isInterface s = false := by
    intro s hs
    obtain ⟨line, hline, hread⟩ := List.mem_filterMap.mp hs
    exact hnames.radio line hline s hread
  have hall : ∀ l ∈ (sectionsOf sys r obj object files).map fun s => settings s.lines,
      IsSection isInterface l := by
    intro l hl
    obtain ⟨s, hs, rfl⟩ := List.mem_map.mp hl
    exact isSection_of_mem hnames hs
  have hread : Library.sections isInterface
      (((linesOf '\n' (confFile sys r obj object files)).map String.ofList).filterMap assignment) =
      (r.lines.filterMap assignment,
        (sectionsOf sys r obj object files).map fun s => settings s.lines) := by
    rw [hlines, List.filterMap_append, hempty, List.append_nil, fileLines,
      List.filterMap_append, hsections, sections_append_flatten hhead hall]
  unfold readFile
  rw [hread]

end File

/-! ## The credentials -/

/-- Values are found in one list after the other. -/
@[simp] theorem values_append (key : String) (s t : List (String × String)) :
    values key (s ++ t) = values key s ++ values key t := List.filterMap_append

/-- Settings are read from one list after the other. -/
@[simp] theorem settings_append (a b : List Line) : settings (a ++ b) = settings a ++ settings b :=
  List.filterMap_append

/-- No lines have no settings. -/
@[simp] theorem settings_nil : settings [] = [] := rfl

/-- A line that sets a key is a setting. -/
@[simp] theorem settings_set (key value : String) (lines : List Line) :
    settings (.set key value :: lines) = (key, value) :: settings lines := rfl

/-- No settings have no values. -/
@[simp] theorem values_nil (key : String) : values key [] = [] := rfl

/-- A setting of the key comes in front. -/
@[simp] theorem values_cons (key k v : String) (s : List (String × String)) :
    values key ((k, v) :: s) = if k = key then v :: values key s else values key s := by
  unfold values
  rw [List.filterMap_cons]
  split <;> split <;> simp_all

/-- Lines printed on a condition have their values on it. -/
@[simp] theorem values_ite (key : String) (b : Bool) (lines : List Line) :
    values key (settings (if b then lines else [])) =
      if b then values key (settings lines) else [] := by
  cases b <;> rfl

/-- A key that no line has has no value. -/
theorem values_eq_nil {key : String} {keys : List String} {lines : List Line}
    (hall : lines.all (keyIn keys) = true) (hkey : key ∉ keys) :
    values key (settings lines) = [] := by
  refine List.filterMap_eq_nil_iff.mpr fun s hs => if_neg fun heq => hkey ?_
  obtain ⟨l, hl, hsetting⟩ := List.mem_filterMap.mp hs
  rw [← heq]
  exact mem_of_keyIn hall hl hsetting

/-- A key that is no option has no value among the options. -/
theorem values_optionLines {key : String} {cfg : Talk} (h : key ∉ optionKeys cfg) :
    values key (settings (optionLines cfg)) = [] := by
  refine List.filterMap_eq_nil_iff.mpr fun s hs => if_neg fun heq => h ?_
  obtain ⟨l, hl, hsetting⟩ := List.mem_filterMap.mp hs
  obtain ⟨axp, haxp, rfl⟩ := List.mem_map.mp hl
  cases hsetting
  rw [← heq]
  exact List.mem_map_of_mem haxp

/-- The keys of an SSID: none for an open network. -/
def passphrases (cfg : Talk) : List String :=
  if jsonString (some cfg) "secure" ∈ [some "wpapsk", some "wpa2psk", some "wpapskwpa2psk"] then
    [printed (jsonString (some cfg) "wpa_key")]
  else []

/-- The passphrases are those of the encryption. -/
theorem values_secureLines (cfg : Talk) :
    values "wpa_passphrase" (settings (secureLines cfg)) = passphrases cfg := by
  unfold secureLines passphrases
  dsimp only
  split
  · next hmode =>
    split at hmode
    · cases hmode
    · cases hmode
    · cases hmode
    · next h1 h2 h3 =>
      rw [if_neg (by simpa using ⟨h1, h2, h3⟩)]
      rfl
  · next lines hmode =>
    have hlines : values "wpa_passphrase" (settings lines) = [] ∧ jsonString (some cfg) "secure" ∈
        [some "wpapsk", some "wpa2psk", some "wpapskwpa2psk"] := by
      split at hmode
      all_goals first | (cases hmode; simp [*]) | cases hmode
    rw [if_pos hlines.2]
    simp only [settings_append, values_append, hlines.1]
    cases jsonString (some cfg) "wpa_rekey" with
    | none => simp
    | some ptr =>
      dsimp only
      by_cases hpos : atoi ptr > 0
      · rw [if_pos hpos]
        simp
      · rw [if_neg hpos]
        simp

/-- Name and passphrase stand in front of the options. -/
theorem values_frontLines (cfg : Talk) :
    values "ssid" (settings (frontLines cfg)) = [printed (jsonString (some cfg) "ssid")] ∧
      values "wpa_passphrase" (settings (frontLines cfg)) = passphrases cfg := by
  have hssid : values "ssid" (settings (secureLines cfg)) = [] :=
    values_eq_nil (secureLines_keys cfg) (by decide)
  unfold frontLines
  simp [hssid, values_secureLines]

/-- The options of an SSID leave its name and its key alone. -/
def NoCredentials (cfg : Talk) : Prop :=
  "ssid" ∉ optionKeys cfg ∧ "wpa_passphrase" ∉ optionKeys cfg

/-- A section has one name and the passphrase of its key. -/
theorem values_restLines (sys : System) (compath netdev : String) {cfg : Talk}
    (h : NoCredentials cfg) :
    values "ssid" (settings (restLines sys compath netdev cfg)) =
        [printed (jsonString (some cfg) "ssid")] ∧
      values "wpa_passphrase" (settings (restLines sys compath netdev cfg)) =
        passphrases cfg := by
  have hback : ∀ key, key ∉ backKeys →
      values key (settings (backLines sys compath netdev cfg)) = [] :=
    fun key hkey => values_eq_nil (backLines_keys sys compath netdev cfg) hkey
  unfold restLines
  simp only [settings_append, values_append]
  constructor
  · rw [(values_frontLines cfg).1, values_optionLines h.1, hback _ (by decide)]
    rfl
  · rw [(values_frontLines cfg).2, values_optionLines h.2, hback _ (by decide)]
    simp

/-- The settings of a slot whose SSID is enabled, made from the configuration of that SSID alone. -/
def slotSettings (sys : System) (radio : Radio) (i : ℕ) : Option (List (String × String)) := do
  let netdev ← deviceOf sys radio i
  let cfg ← configOf sys radio i
  pure (settings (.set "interface" netdev :: restLines sys (compath radio i) netdev cfg))

/-- What a reader finds in the file. -/
structure ReadBack (sys : System) (r : RadioSource) (obj object : String) (f : File) : Prop where
  /-- The radio has the settings of its lines. -/
  head : f.head = r.lines.filterMap assignment
  /-- There is one section for each enabled SSID, in the order of the slots. -/
  sections : f.sections = (List.range 4).filterMap (slotSettings sys (r.radio obj object))
  /-- The section of an SSID whose options leave them alone has its own device, name and key. -/
  credentials : ∀ i < 4, ∀ netdev cfg, deviceOf sys (r.radio obj object) i = some netdev →
    configOf sys (r.radio obj object) i = some cfg → NoCredentials cfg →
    ∃ s ∈ f.sections, slotSettings sys (r.radio obj object) i = some s ∧
      values "interface" s = [netdev] ∧
      values "ssid" s = [printed (jsonString (some cfg) "ssid")] ∧
      values "wpa_passphrase" s = passphrases cfg

/-- The settings of a slot are those of its section. -/
theorem slotSettings_eq (sys : System) (radio : Radio) (i : ℕ) :
    slotSettings sys radio i = (sectionOf sys radio i).map fun s => settings s.lines := by
  unfold slotSettings sectionOf
  cases deviceOf sys radio i with
  | none => rfl
  | some netdev =>
    cases configOf sys radio i with
    | none => rfl
    | some cfg => exact congrArg some (congrArg settings (sectionLines_eq sys _ netdev cfg).symm)

/-- The lines of the file come back exactly when none of them holds a line break, and then the
radio and every SSID are read with their own settings. -/
theorem hostapd_file_read {sys : System} {r : RadioSource} {obj object : String} (files : Files)
    (hnames : NamesOk sys r obj object) :
    ((linesOf '\n' (confFile sys r obj object files)).map String.ofList =
        fileLines sys r obj object files ++ [""] ↔
      ∀ line ∈ fileLines sys r obj object files, '\n' ∉ line.toList) ∧
    ((∀ line ∈ fileLines sys r obj object files, '\n' ∉ line.toList) →
      ReadBack sys r obj object (readFile (confFile sys r obj object files))) := by
  refine ⟨lines_read_iff sys r obj object files, fun hlines => ?_⟩
  have hsections : (sectionsOf sys r obj object files).map (fun s => settings s.lines) =
      (List.range 4).filterMap (slotSettings sys (r.radio obj object)) := by
    rw [sectionsOf, sections_hostapd, List.map_filterMap]
    exact List.filterMap_congr fun i _ => (slotSettings_eq sys _ i).symm
  rw [readFile_confFile hnames hlines, hsections]
  refine ⟨rfl, rfl, ?_⟩
  intro i hi netdev cfg hdev hcfg hcred
  have hslot : slotSettings sys (r.radio obj object) i = some (settings (.set "interface" netdev ::
      restLines sys (compath (r.radio obj object) i) netdev cfg)) := by
    simp [slotSettings, hdev, hcfg]
  obtain ⟨hssid, hpass⟩ := values_restLines sys (compath (r.radio obj object) i) netdev hcred
  have hinterface : values "interface" (settings (restLines sys
      (compath (r.radio obj object) i) netdev cfg)) = [] := by
    refine List.filterMap_eq_nil_iff.mpr fun t ht => if_neg fun heq => ?_
    obtain ⟨l, hl, hsetting⟩ := List.mem_filterMap.mp ht
    have hown : "interface" ∉ frontKeys ++ backKeys := by decide
    rcases key_mem hl hsetting with hmem | hmem
    · exact hown (heq ▸ hmem)
    · exact (hnames.ssid i hi cfg hcfg _ hmem).2 heq
  refine ⟨_, List.mem_filterMap.mpr ⟨i, List.mem_range.mpr hi, hslot⟩, hslot, ?_⟩
  simp [hinterface, hssid, hpass]

/-- A radio with a closed and an open network. -/
def twoNetworks : System where
  netdev com :=
    if com = "wifi@nssid" then some "wlan0" else if com = "wifi@nssid2" then some "wlan1" else none
  readable _ := true
  config com :=
    if com = "wifi@nssid" then
      some (.json [("status", .text "enable"), ("ssid", .text "home"),
        ("secure", .text "wpa2psk"), ("wpa_key", .text "interface=wlan9")])
    else if com = "wifi@nssid2" then
      some (.json [("status", .text "enable"), ("ssid", .text "guest")])
    else none
  bridge _ := none
  varPath name := "/var/wifi/" ++ name

def radioG : RadioSource :=
  ⟨some (.json [("channel", .text "6")]), none, none⟩

/-- Both networks are read back, a key that looks like a line of the file included. -/
theorem hostapd_file_read_twoNetworks :
    ReadBack twoNetworks radioG "n" "wifi@n"
      (readFile (confFile twoNetworks radioG "n" "wifi@n" fun _ => none)) := by
  refine (hostapd_file_read (fun _ => none) ⟨?_, ?_⟩).2 (by decide +kernel)
  · have hlines : ∀ line ∈ radioG.lines, (assignment line).any isInterface = false := by
      decide +kernel
    intro line hline s hs
    have hany := hlines line hline
    rw [hs] at hany
    exact hany
  · have hnone : ∀ i < 4, (configOf twoNetworks (radioG.radio "n" "wifi@n") i).all
        (optionKeys · = []) = true := by decide +kernel
    intro i hi cfg hcfg k hk
    have hkeys := hnone i hi
    rw [hcfg] at hkeys
    rw [of_decide_eq_true hkeys] at hk
    cases hk

end Tiger.Analysis.HostapdFile
