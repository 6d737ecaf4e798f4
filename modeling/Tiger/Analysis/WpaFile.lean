import Tiger.Model.Station

/-!
# The network blocks of the station's file

What `wpa_supplicant` reads from the file is compared with the configured peers. A
file is printed line by line, so it is read as printed as long as no printed text
holds a line break (`networkBlocks_wpaFile`); a text that does hold one cannot be
carried by any line.

The block of the second peer prints the SSID of the third. So the file is the one the
configuration asks for exactly when that makes no difference (`wpa_file_iff`).
-/

set_option autoImplicit false

namespace Tiger.Analysis.WpaFile

open Tiger.Library Tiger.Model Tiger.Model.Station

/-- The configured peers, in their order. -/
def peers (v : Settings) : List String :=
  (if given v.peer then [printed v.peer] else []) ++
    (if given v.peer2 then [printed v.peer2] else []) ++
    (if given v.peer3 then [printed v.peer3] else [])

/-- What stands behind `key=` in a line, when the line is an entry of this key. -/
def valueOf (key line : String) : Option String :=
  if ("\t\t" ++ key ++ "=").toList.isPrefixOf line.toList then
    some (String.ofList (line.toList.drop ("\t\t" ++ key ++ "=").toList.length))
  else none

/-- The values of a key in a block. -/
def values (key : String) (block : List String) : List String := block.filterMap (valueOf key)

/-- The lines of a block that name neither the network nor its priority. -/
def securityLines (block : List String) : List String :=
  block.filter fun line => valueOf "ssid" line = none && valueOf "priority" line = none

/-- The security settings of the configuration, as lines of a block. -/
def configuredSecurity (v : Settings) : List String :=
  ("scan_ssid=1" :: bssidEntries v ++ secureEntries v).map ("\t\t" ++ ·)

/-- The file has one block for each configured peer with the SSID of the peer, the priorities
decrease, and every block has the configured security settings. -/
structure FileMeets (v : Settings) : Prop where
  ssid : (networkBlocks (wpaFile v)).map (values "ssid") =
    (peers v).map fun p => ["\"" ++ p ++ "\""]
  priority : ∃ ns : List ℕ, (networkBlocks (wpaFile v)).map (values "priority") =
    ns.map (fun n => [toString n]) ∧ ns.Pairwise (· > ·)
  security : ∀ b ∈ networkBlocks (wpaFile v), securityLines b = configuredSecurity v

/-- A text without a line break. -/
def OneLine (s : String) : Prop := '\n' ∉ s.toList

instance (s : String) : Decidable (OneLine s) := by unfold OneLine; infer_instance

/-! ## Reading the file -/

/-- The SSIDs the file prints, each with its priority. -/
def slots (v : Settings) : List (String × String) :=
  (if given v.peer then [(printed v.peer, "3")] else []) ++
    (if given v.peer2 then [(printed v.peer3, "2")] else []) ++
    (if given v.peer3 then [(printed v.peer3, "1")] else [])

/-- The blocks of the file, as they are printed. -/
def printedBlocks (v : Settings) : List (List String) :=
  (slots v).map fun s => (blockEntries v s.1 s.2).map ("\t\t" ++ ·)

/-- The file is its head and the blocks. -/
theorem wpaLines_eq (v : Settings) :
    wpaLines v = "ap_scan=1" :: render opening closing (printedBlocks v) := by
  unfold wpaLines peerLines peer2Lines peer3Lines networkLines render printedBlocks slots
  split <;> split <;> split <;> simp

/-- No entry closes a block. -/
theorem entry_ne_closing (entry : String) : "\t\t" ++ entry ≠ closing := by
  intro h
  have hchars := congrArg String.toList h
  simp [closing] at hchars

/-- No line of a block closes it. -/
theorem closing_not_mem {v : Settings} {b : List String} (h : b ∈ printedBlocks v) :
    closing ∉ b := by
  obtain ⟨s, -, rfl⟩ := List.mem_map.mp h
  intro hmem
  obtain ⟨entry, -, heq⟩ := List.mem_map.mp hmem
  exact entry_ne_closing entry heq

/-- Without line breaks the file is read as it was printed. -/
theorem networkBlocks_wpaFile {v : Settings} (h : ∀ line ∈ wpaLines v, OneLine line) :
    networkBlocks (wpaFile v) = printedBlocks v := by
  have hlines : ∀ l ∈ (wpaLines v).map String.toList, '\n' ∉ l := by
    intro l hl
    obtain ⟨line, hline, rfl⟩ := List.mem_map.mp hl
    exact h line hline
  have hback : ((wpaLines v).map String.toList).map String.ofList = wpaLines v := by
    simp [Function.comp_def]
  unfold networkBlocks wpaFile
  rw [linesOf_unlines_of_not_mem hlines, List.map_append, hback, wpaLines_eq, List.cons_append,
    blocks_none_cons (by decide), blocks_render fun b hb => closing_not_mem hb]
  simp [blocks, opening]

/-- A line of a block that is read has no line break. -/
theorem oneLine_of_mem {v : Settings} {b : List String} {line : String}
    (hb : b ∈ networkBlocks (wpaFile v)) (hline : line ∈ b) : OneLine line := by
  rcases mem_of_mem_blocks none hb hline with hread | hread
  · simp at hread
  · obtain ⟨l, hl, rfl⟩ := List.mem_map.mp hread
    have hbreak := not_mem_of_mem_linesOf hl
    simpa [OneLine] using hbreak

/-- There is a block as soon as a block is printed, whatever the texts are. -/
theorem networkBlocks_ne_nil {v : Settings} (h : printedBlocks v ≠ []) :
    networkBlocks (wpaFile v) ≠ [] := by
  obtain ⟨b, bs, hbs⟩ := List.exists_cons_of_ne_nil h
  have hlines : wpaLines v =
      "ap_scan=1" :: opening :: (b ++ closing :: render opening closing bs) := by
    rw [wpaLines_eq, hbs]
    simp [render]
  have hscan : linesOf '\n' "ap_scan=1".toList = ["ap_scan=1".toList] :=
    linesOf_of_not_mem (by decide)
  have hopen : linesOf '\n' opening.toList = [opening.toList] := linesOf_of_not_mem (by decide)
  have hclose : linesOf '\n' closing.toList = [closing.toList] := linesOf_of_not_mem (by decide)
  unfold networkBlocks wpaFile
  rw [linesOf_unlines, hlines]
  simp only [List.map_cons, List.map_append, List.flatMap_cons, List.flatMap_append, hscan, hopen,
    hclose, List.cons_append, List.nil_append, List.append_assoc, String.ofList_toList]
  rw [blocks_none_cons (by decide), blocks, if_pos rfl]
  exact blocks_ne_nil [] (by simp)

/-- There is a block when there is a peer. -/
theorem printedBlocks_ne_nil_iff (v : Settings) :
    printedBlocks v ≠ [] ↔ given v.peer ∨ given v.peer2 ∨ given v.peer3 := by
  unfold printedBlocks slots
  split <;> split <;> split <;> simp_all

/-- The file has a block exactly when one of the three peers is given. -/
theorem networkBlocks_ne_nil_iff (v : Settings) :
    networkBlocks (wpaFile v) ≠ [] ↔ given v.peer ∨ given v.peer2 ∨ given v.peer3 := by
  rw [← printedBlocks_ne_nil_iff]
  constructor
  · intro hread hprinted
    apply hread
    have hone : ∀ line ∈ wpaLines v, OneLine line := by
      rw [wpaLines_eq, hprinted]
      decide
    rw [networkBlocks_wpaFile hone, hprinted]
  · exact networkBlocks_ne_nil

/-! ## The entries of a block -/

/-- An entry has its value. -/
@[simp] theorem valueOf_self (key value : String) :
    valueOf key ("\t\t" ++ (key ++ "=" ++ value)) = some value := by
  simp [valueOf, ← String.append_assoc]

/-- The network of an entry is between quotes. -/
theorem valueOf_ssid (ssid : String) :
    valueOf "ssid" ("\t\t" ++ ("ssid=\"" ++ ssid ++ "\"")) = some ("\"" ++ ssid ++ "\"") := by
  have hline : "ssid=\"" ++ ssid ++ "\"" = "ssid" ++ "=" ++ ("\"" ++ ssid ++ "\"") := by
    simp [← String.append_assoc]
  rw [hline, valueOf_self]

/-- The priority of an entry is its number. -/
theorem valueOf_priority (n : String) :
    valueOf "priority" ("\t\t" ++ ("priority=" ++ n)) = some n :=
  valueOf_self "priority" n

/-- An entry that names neither the network nor its priority. -/
def Plain (entry : String) : Prop :=
  valueOf "ssid" ("\t\t" ++ entry) = none ∧ valueOf "priority" ("\t\t" ++ entry) = none

instance (entry : String) : Decidable (Plain entry) := by unfold Plain; infer_instance

/-- An address names neither. -/
theorem plain_bssid (mac : String) : Plain ("bssid=" ++ mac) := by
  simp [Plain, valueOf, List.isPrefixOf]

/-- A key names neither. -/
theorem plain_psk (key : String) : Plain ("psk=\"" ++ key ++ "\"") := by
  simp [Plain, valueOf, List.isPrefixOf]

/-- The encryption names neither. -/
theorem plain_secureEntries (v : Settings) : ∀ entry ∈ secureEntries v, Plain entry := by
  have hpsk := plain_psk (printed v.wpaKey)
  have hmgmt : Plain "key_mgmt=WPA-PSK" := by decide
  have hnone : Plain "key_mgmt=NONE" := by decide
  have hwpa : Plain "proto=WPA" := by decide
  have hrsn : Plain "proto=RSN" := by decide
  unfold secureEntries
  split
  · simp [hmgmt, hwpa, hpsk]
  split
  · simp [hmgmt, hrsn, hpsk]
  split
  · simp [hmgmt, hpsk]
  · simp [hnone]

/-- The entries of a block besides its network and its priority. -/
def sharedEntries (v : Settings) : List String :=
  "scan_ssid=1" :: bssidEntries v ++ secureEntries v

/-- The shared entries name neither. -/
theorem plain_sharedEntries (v : Settings) : ∀ entry ∈ sharedEntries v, Plain entry := by
  intro entry hentry
  unfold sharedEntries bssidEntries at hentry
  rcases List.mem_append.mp hentry with h | h
  · rcases List.mem_cons.mp h with rfl | h
    · decide
    · split at h
      · rw [List.mem_singleton] at h
        subst h
        exact plain_bssid _
      · cases h
  · exact plain_secureEntries v entry h

/-- The security that is configured is that of the shared entries. -/
theorem configuredSecurity_eq (v : Settings) :
    configuredSecurity v = (sharedEntries v).map ("\t\t" ++ ·) := rfl

/-- The lines of a block, as the shared ones with the network and the priority put in. -/
theorem blockLines_eq (v : Settings) (ssid n : String) :
    (blockEntries v ssid n).map ("\t\t" ++ ·) =
      ["\t\tscan_ssid=1", "\t\t" ++ ("ssid=\"" ++ ssid ++ "\"")] ++
        (bssidEntries v ++ secureEntries v).map ("\t\t" ++ ·) ++
          ["\t\t" ++ ("priority=" ++ n)] := by
  have hscan : "\t\t" ++ "scan_ssid=1" = "\t\tscan_ssid=1" := by decide
  simp [blockEntries, hscan]

/-- Entries without the key have no value of it. -/
theorem values_plain {key : String} {entries : List String}
    (h : ∀ entry ∈ entries, valueOf key ("\t\t" ++ entry) = none) :
    values key (entries.map ("\t\t" ++ ·)) = [] := by
  rw [values, List.filterMap_eq_nil_iff]
  intro line hline
  obtain ⟨entry, hentry, rfl⟩ := List.mem_map.mp hline
  exact h entry hentry

/-- What stands behind the priority names neither. -/
theorem plain_rest (v : Settings) : ∀ entry ∈ bssidEntries v ++ secureEntries v, Plain entry :=
  fun entry hentry => plain_sharedEntries v entry (List.mem_cons_of_mem _ hentry)

/-- A block has one network. -/
theorem values_ssid (v : Settings) (ssid n : String) :
    values "ssid" ((blockEntries v ssid n).map ("\t\t" ++ ·)) = ["\"" ++ ssid ++ "\""] := by
  have hrest := values_plain fun entry hentry => (plain_rest v entry hentry).1
  have hscan : valueOf "ssid" "\t\tscan_ssid=1" = none := by decide
  have hn : valueOf "ssid" ("\t\t" ++ ("priority=" ++ n)) = none := by
    simp [valueOf, List.isPrefixOf]
  unfold values at hrest ⊢
  rw [blockLines_eq, List.filterMap_append, List.filterMap_append, hrest]
  simp only [List.filterMap_cons, List.filterMap_nil, hscan, hn, valueOf_ssid, List.append_nil]

/-- A block has one priority. -/
theorem values_priority (v : Settings) (ssid n : String) :
    values "priority" ((blockEntries v ssid n).map ("\t\t" ++ ·)) = [n] := by
  have hrest := values_plain fun entry hentry => (plain_rest v entry hentry).2
  have hscan : valueOf "priority" "\t\tscan_ssid=1" = none := by decide
  have hssid : valueOf "priority" ("\t\t" ++ ("ssid=\"" ++ ssid ++ "\"")) = none := by
    simp [valueOf, List.isPrefixOf]
  unfold values at hrest ⊢
  rw [blockLines_eq, List.filterMap_append, List.filterMap_append, hrest]
  simp only [List.filterMap_cons, List.filterMap_nil, hscan, hssid, valueOf_priority,
    List.append_nil, List.nil_append]

/-- A block has the configured security. -/
theorem securityLines_block (v : Settings) (ssid n : String) :
    securityLines ((blockEntries v ssid n).map ("\t\t" ++ ·)) = configuredSecurity v := by
  have hrest : securityLines ((bssidEntries v ++ secureEntries v).map ("\t\t" ++ ·)) =
      (bssidEntries v ++ secureEntries v).map ("\t\t" ++ ·) := by
    rw [securityLines, List.filter_eq_self]
    intro line hline
    obtain ⟨entry, hentry, rfl⟩ := List.mem_map.mp hline
    obtain ⟨hssid, hpriority⟩ := plain_rest v entry hentry
    simp [hssid, hpriority]
  have hscan : valueOf "ssid" "\t\tscan_ssid=1" = none := by decide
  have hscan' : valueOf "priority" "\t\tscan_ssid=1" = none := by decide
  have htab : "\t\t" ++ "scan_ssid=1" = "\t\tscan_ssid=1" := by decide
  unfold securityLines at hrest ⊢
  rw [blockLines_eq, List.filter_append, List.filter_append, hrest, configuredSecurity_eq,
    sharedEntries, List.cons_append, List.map_cons, htab]
  simp only [List.filter_cons, List.filter_nil, hscan, hscan', valueOf_ssid, valueOf_priority]
  simp

/-! ## When the file is the configured one -/

/-- Two texts are one line when each is. -/
@[simp] theorem oneLine_append (a b : String) : OneLine (a ++ b) ↔ OneLine a ∧ OneLine b := by
  simp [OneLine]

/-- The SSIDs are the peers exactly when the second block may print the third peer. -/
theorem slots_eq_peers_iff (v : Settings) :
    (slots v).map Prod.fst = peers v ↔ (given v.peer2 → printed v.peer3 = printed v.peer2) := by
  unfold slots peers
  split <;> split <;> split <;> simp_all

/-- A text that is not given is one line. -/
theorem printed_oneLine_of_not_given {s : Option String} (h : ¬ given s) : OneLine (printed s) := by
  cases s with
  | none => decide
  | some s =>
    have hs : s = "" := by simpa [given] using h
    subst hs
    decide

/-- The SSIDs have no line break when the peers have none. -/
theorem slots_oneLine {v : Settings} (h : ∀ p ∈ peers v, OneLine p) :
    ∀ s ∈ slots v, OneLine s.1 ∧ OneLine s.2 := by
  have hpeer3 : OneLine (printed v.peer3) := by
    by_cases hgiven : given v.peer3
    · exact h _ (by simp [peers, hgiven])
    · exact printed_oneLine_of_not_given hgiven
  have hpeer : given v.peer → OneLine (printed v.peer) := fun hgiven =>
    h _ (by simp [peers, hgiven])
  have hnumbers : OneLine "3" ∧ OneLine "2" ∧ OneLine "1" := by decide
  intro s hs
  unfold slots at hs
  rcases List.mem_append.mp hs with hs | hs
  · rcases List.mem_append.mp hs with hs | hs
    · split at hs
      · next hgiven =>
        rw [List.mem_singleton] at hs
        subst hs
        exact ⟨hpeer hgiven, hnumbers.1⟩
      · cases hs
    · split at hs
      · rw [List.mem_singleton] at hs
        subst hs
        exact ⟨hpeer3, hnumbers.2.1⟩
      · cases hs
  · split at hs
    · rw [List.mem_singleton] at hs
      subst hs
      exact ⟨hpeer3, hnumbers.2.2⟩
    · cases hs

/-- There is no slot exactly when there is no peer. -/
theorem slots_eq_nil_iff (v : Settings) : slots v = [] ↔ peers v = [] := by
  unfold slots peers
  split <;> split <;> split <;> simp

/-- The texts the configuration prints hold no line break. -/
def TextsOneLine (v : Settings) : Prop :=
  (∀ p ∈ peers v, OneLine p) ∧
    (peers v ≠ [] → ∀ entry ∈ bssidEntries v ++ secureEntries v, OneLine entry)

/-- Texts without line breaks make lines. -/
theorem wpaLines_oneLine {v : Settings} (h : TextsOneLine v) :
    ∀ line ∈ wpaLines v, OneLine line := by
  intro line hline
  rw [wpaLines_eq] at hline
  rcases List.mem_cons.mp hline with rfl | hline
  · decide
  obtain ⟨b, hb, hline⟩ := List.mem_flatMap.mp hline
  rcases List.mem_append.mp hline with hline | hline
  · rcases List.mem_cons.mp hline with rfl | hline
    · decide
    obtain ⟨s, hs, rfl⟩ := List.mem_map.mp hb
    obtain ⟨entry, hentry, rfl⟩ := List.mem_map.mp hline
    obtain ⟨hssid, hpriority⟩ := slots_oneLine h.1 s hs
    have hpeers : peers v ≠ [] := by
      rw [ne_eq, ← slots_eq_nil_iff]
      exact List.ne_nil_of_mem hs
    have htab : OneLine "\t\t" := by decide
    have hentries := h.2 hpeers
    have hone : OneLine entry := by
      have hquote : OneLine "\"" := by decide
      have hkey : OneLine "ssid=\"" ∧ OneLine "priority=" ∧ OneLine "scan_ssid=1" := by decide
      simp only [blockEntries, List.mem_append, List.mem_cons, List.not_mem_nil, or_false] at hentry
      rcases hentry with (((rfl | rfl) | hmem) | hmem) | rfl
      · exact hkey.2.2
      · simp [hkey.1, hquote, hssid]
      · exact hentries entry (List.mem_append_left _ hmem)
      · exact hentries entry (List.mem_append_right _ hmem)
      · simp [hkey.2.1, hpriority]
    simp [htab, hone]
  · rw [List.mem_singleton] at hline
    subst hline
    decide

/-- Read as printed, the file meets the configuration when its SSIDs are the peers. -/
theorem fileMeets_iff_of_oneLine {v : Settings} (h : TextsOneLine v) :
    FileMeets v ↔ (slots v).map Prod.fst = peers v := by
  have hread := networkBlocks_wpaFile (wpaLines_oneLine h)
  have hssid : (printedBlocks v).map (values "ssid") =
      ((slots v).map Prod.fst).map fun p => ["\"" ++ p ++ "\""] := by
    simp [printedBlocks, values_ssid]
  constructor
  · intro hmeets
    have hsame := hmeets.ssid
    rw [hread, hssid] at hsame
    refine List.map_injective_iff.mpr ?_ hsame
    intro p q hpq
    have hchars : "\"" ++ p ++ "\"" = "\"" ++ q ++ "\"" := by simpa using hpq
    have hlist : p.toList = q.toList := by simpa using congrArg String.toList hchars
    exact String.toList_inj.mp hlist
  · intro hpeers
    refine ⟨?_, ?_, ?_⟩
    · rw [hread, hssid, hpeers]
    · rw [hread]
      have hpriority : (printedBlocks v).map (values "priority") =
          (slots v).map fun s => [s.2] := by
        simp [printedBlocks, values_priority]
      rw [hpriority]
      refine ⟨(if given v.peer then [3] else []) ++ (if given v.peer2 then [2] else []) ++
        (if given v.peer3 then [1] else []), ?_, ?_⟩
      · unfold slots
        split <;> split <;> split <;> rfl
      · split <;> split <;> split <;> decide
    · intro b hb
      rw [hread] at hb
      obtain ⟨s, -, rfl⟩ := List.mem_map.mp hb
      exact securityLines_block v s.1 s.2

/-- What stands behind a key in a line without a line break has none. -/
theorem oneLine_of_valueOf {key line value : String} (h : valueOf key line = some value)
    (hline : OneLine line) : OneLine value := by
  unfold valueOf at h
  split at h
  · cases h
    intro hbreak
    rw [String.toList_ofList] at hbreak
    exact hline (List.mem_of_mem_drop hbreak)
  · cases h

/-- A file that meets the configuration has printed no line break. -/
theorem textsOneLine_of_fileMeets {v : Settings} (h : FileMeets v) : TextsOneLine v := by
  constructor
  · intro p hp
    have hvalue : ["\"" ++ p ++ "\""] ∈ (networkBlocks (wpaFile v)).map (values "ssid") := by
      rw [h.ssid]
      exact List.mem_map_of_mem hp
    obtain ⟨b, hb, hread⟩ := List.mem_map.mp hvalue
    have hmem : "\"" ++ p ++ "\"" ∈ values "ssid" b := by
      rw [hread]
      exact List.mem_singleton_self _
    obtain ⟨line, hline, hssid⟩ := List.mem_filterMap.mp hmem
    have hone := oneLine_of_valueOf hssid (oneLine_of_mem hb hline)
    rw [oneLine_append, oneLine_append] at hone
    exact hone.1.2
  · intro hpeers entry hentry
    have hsome : networkBlocks (wpaFile v) ≠ [] := by
      intro hnil
      have hssid := h.ssid
      rw [hnil, List.map_nil, eq_comm, List.map_eq_nil_iff] at hssid
      exact hpeers hssid
    obtain ⟨b, hb⟩ := List.exists_mem_of_ne_nil _ hsome
    have hline : "\t\t" ++ entry ∈ securityLines b := by
      rw [h.security b hb, configuredSecurity_eq]
      exact List.mem_map_of_mem (List.mem_cons_of_mem _ hentry)
    have hone := oneLine_of_mem hb (List.mem_of_mem_filter hline)
    exact ((oneLine_append _ _).mp hone).2

/-- **The network blocks.** The file has one block for each peer, with the SSID of the peer, its
place in the order and the security settings, if and only if the second peer is absent or
prints like the third and no text of the file holds a line break. -/
theorem wpa_file_iff (v : Settings) :
    FileMeets v ↔
      (given v.peer2 → printed v.peer3 = printed v.peer2) ∧ TextsOneLine v := by
  constructor
  · intro hmeets
    have hone := textsOneLine_of_fileMeets hmeets
    exact ⟨(slots_eq_peers_iff v).mp ((fileMeets_iff_of_oneLine hone).mp hmeets), hone⟩
  · rintro ⟨hpeer2, hone⟩
    exact (fileMeets_iff_of_oneLine hone).mpr ((slots_eq_peers_iff v).mpr hpeer2)

/-- Two peers of an open network. -/
def twoPeers : Settings :=
  settings (some (.json [("peer", .text "home"), ("peer2", .text "office")]))

/-- The block of the second peer prints a null pointer. -/
theorem wpa_file_second_peer :
    (networkBlocks (wpaFile twoPeers)).map (values "ssid") = [["\"home\""], ["\"(null)\""]] ∧
      ¬ FileMeets twoPeers := by
  refine ⟨by decide, ?_⟩
  intro hmeets
  have hssid := hmeets.ssid
  revert hssid
  decide

end Tiger.Analysis.WpaFile
