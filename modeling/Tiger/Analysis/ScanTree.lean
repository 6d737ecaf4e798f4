import Mathlib.Data.List.MinMax
import Tiger.Analysis.ScanListing

/-!
# The tree of a scan

The address is cut out of fixed columns, so it moves out of them at the hundredth cell; an
ESSID that does not fit into the buffer is cut; and no entry ever gets the mixed mode, since
the text of it holds the text of WPA2. Apart from these the tree has one entry for each
address, with what is listed for it, and no ESSID changes anything else (`aplist_iff`).
-/

set_option autoImplicit false

namespace Tiger.Analysis.ScanTree

open Tiger.Library Tiger.Model Tiger.Model.Aplist
open Tiger.Analysis.ScanRules Tiger.Analysis.ScanFile Tiger.Analysis.ScanListing

/-! ## Where it goes right -/

/-- The recorded kind is the right one but for the mixed ones. -/
theorem recordedSecure_eq {security : Security} (h : ∀ cipher, security ≠ .psk .mixed cipher) :
    recordedSecure security = security.secure := by
  cases security with
  | none => rfl
  | psk mode cipher =>
    cases mode with
    | wpa => rfl
    | wpa2 => rfl
    | mixed => exact absurd rfl (h cipher)

/-- A clear listing is recorded as it is. -/
theorem records_of_clear {aps : List AccessPoint} (h : Clear aps) :
    Records (treeOf (fileOf aps)) aps := by
  have htree := treeOf_fileOf h.few h.short
  have hreport : ∀ a ∈ aps, reportOf (setEntries [] a.attributes) = a.report := by
    intro a ha
    rw [reportOf_attributes, recordedSecure_eq (h.pure a ha)]
    rfl
  constructor
  · exact nodup_treeOf _
  · intro k hk
    rw [htree, mem_keys_setEntries, List.map_map] at hk
    rcases hk with hk | hk
    · exact List.mem_map.mp hk
    · exact absurd hk List.not_mem_nil
  · intro a ha
    have hmem : a.key ∈ (treeOf (fileOf aps)).map Prod.fst := by
      rw [htree, mem_keys_setEntries, List.map_map]
      exact Or.inl (List.mem_map.mpr ⟨a, ha, rfl⟩)
    obtain ⟨⟨k, x⟩, hx, hk⟩ := List.mem_map.mp hmem
    change k = a.key at hk
    subst hk
    refine ⟨x, lookup_of_mem (nodup_treeOf _) hx, ?_⟩
    rw [htree] at hx
    rcases mem_of_mem_setEntries hx with hx | hx
    · obtain ⟨b, hb, heq⟩ := List.mem_map.mp hx
      obtain ⟨hkey, rfl⟩ := Prod.mk.inj heq
      rw [hreport b hb, h.once b hb a ha hkey]
    · exact absurd hx List.not_mem_nil

/-! ## Where it goes wrong -/

/-- A listing goes on with the next numbers. -/
theorem listing_append (n : ℕ) (aps bps : List AccessPoint) :
    listing n (aps ++ bps) = listing n aps ++ listing (n + aps.length) bps := by
  induction aps generalizing n with
  | nil => rfl
  | cons a aps ih =>
    rw [List.cons_append, listing, listing, ih, List.length_cons, List.cons_append,
      List.append_assoc, Nat.add_right_comm, Nat.add_assoc]

/-- From cell 100 on a number has three digits. -/
theorem cellNumber_hundred : cellNumber 100 = ['1', '0', '0'] := by decide

/-- The hundredth cell is recorded under a key that begins with a space. -/
theorem space_of_readLine (a : AccessPoint) (p : Parse) :
    ∃ rest, String.ofList (' ' :: rest) ∈
      (readLine p (a.cellLine 100 ++ ['\n'])).tree.map Prod.fst := by
  have hcut : ((a.cellLine 100 ++ ['\n']).drop 19).take 17 =
      ' ' :: (a.bssid ++ ['\n']).take 16 := by
    have htext : a.cellLine 100 ++ ['\n'] =
        "Cell 100 - Address:".toList ++ ' ' :: (a.bssid ++ ['\n']) := by
      unfold AccessPoint.cellLine
      rw [List.append_assoc, List.append_assoc, List.append_assoc]
      rfl
    have hlength : "Cell 100 - Address:".toList.length = 19 := rfl
    rw [htext, List.drop_left' hlength, List.take_succ_cons]
  refine ⟨((a.bssid ++ ['\n']).take 16).map Char.toUpper, ?_⟩
  have hread : readLine p (a.cellLine 100 ++ ['\n']) =
      ⟨setEntry (String.ofList (((' ' :: (a.bssid ++ ['\n']).take 16)).map Char.toUpper)) [] p.tree,
        some (String.ofList (((' ' :: (a.bssid ++ ['\n']).take 16)).map Char.toUpper))⟩ := by
    unfold readLine
    rw [hcut]
    rfl
  rw [hread, mem_keys_setEntry]
  exact Or.inl rfl

/-- A key is made of the digits of an address. -/
theorem space_notMem_key (a : AccessPoint) (rest : List Char) :
    a.key ≠ String.ofList (' ' :: rest) := by
  have hdigits : ∀ c ∈ bssidDigits, c.toUpper ≠ ' ' :=
    List.forall_iff_forall_mem.mp (by decide)
  intro h
  have hlist := String.ofList_injective h
  have hmem : ' ' ∈ a.bssid.map Char.toUpper := by
    rw [hlist]
    exact List.mem_cons_self
  obtain ⟨c, hc, hspace⟩ := List.mem_map.mp hmem
  exact hdigits c (a.address.2 hc) hspace

/-- The tree of a hundred cells or more has a key that is not listed. -/
theorem few_of_records {aps : List AccessPoint} (h : Records (treeOf (fileOf aps)) aps) :
    aps.length < 100 := by
  by_contra hmany
  have hlen : 99 < aps.length := by omega
  have hsplit : aps = aps.take 99 ++ aps[99] :: aps.drop 100 := by
    rw [List.getElem_cons_drop, List.take_append_drop]
  have hlines : listing 1 aps = listing 1 (aps.take 99) ++
      ((aps[99].cellLine 100) :: (aps[99].lines ++ listing 101 (aps.drop 100))) := by
    have happend := listing_append 1 (aps.take 99) (aps[99] :: aps.drop 100)
    rwa [← hsplit, List.length_take_of_le (by omega)] at happend
  have hplain : '\n' ∉ aps[99].cellLine 100 := by
    simp [AccessPoint.cellLine, newline_notMem_bssid, cellNumber_hundred]
  have hfits : (aps[99].cellLine 100).length + 1 < readbufSize := by
    simp [AccessPoint.cellLine, cellNumber_hundred, aps[99].address.1, readbufSize]
  have hspace : ∃ rest, String.ofList (' ' :: rest) ∈ (treeOf (fileOf aps)).map Prod.fst := by
    unfold treeOf fileOf
    rw [fgets_unlines, hlines, List.flatMap_append, List.foldl_append, List.flatMap_cons,
      fgets_fits hplain hfits, List.singleton_append, List.foldl_cons]
    obtain ⟨rest, hrest⟩ := space_of_readLine aps[99] (((listing 1 (aps.take 99)).flatMap
      fun l => fgets readbufSize [] (l ++ ['\n'])).foldl readLine ⟨[], none⟩)
    exact ⟨rest, mem_keys_foldl hrest _⟩
  obtain ⟨rest, hrest⟩ := hspace
  obtain ⟨a, -, ha⟩ := h.listed _ hrest
  exact space_notMem_key a rest ha

/-- What an entry says comes from its attributes. -/
theorem mem_of_own {tree : List (String × Attributes)} {aps : List AccessPoint}
    (h : Records tree aps) {a : AccessPoint} (ha : a ∈ aps) :
    ∃ e ∈ tree, ("secure", a.security.secure) ∈ e.2 ∧
      (a.ssid = [] ∨ ("ssid", String.ofList a.ssid) ∈ e.2) := by
  obtain ⟨x, hx, hreport⟩ := h.own a ha
  have hsecure : x.lookup "secure" = some a.security.secure := congrArg Report.secure hreport
  have hssid : (x.lookup "ssid").getD "" = String.ofList a.ssid := congrArg Report.ssid hreport
  refine ⟨(a.key, x), mem_of_lookup hx, mem_of_lookup hsecure, ?_⟩
  cases hname : x.lookup "ssid" with
  | none =>
    rw [hname] at hssid
    left
    have hlist := congrArg String.toList hssid
    rw [String.toList_ofList] at hlist
    exact hlist.symm
  | some name =>
    rw [hname] at hssid
    change name = _ at hssid
    exact Or.inr (hssid ▸ mem_of_lookup hname)

/-- No entry has the mixed mode. -/
theorem pure_of_records {file : List Char} {aps : List AccessPoint}
    (h : Records (treeOf file) aps) {a : AccessPoint} (ha : a ∈ aps) (cipher : Cipher) :
    a.security ≠ .psk .mixed cipher := by
  intro hmixed
  obtain ⟨e, he, hsecure, -⟩ := mem_of_own h ha
  have hnot : ∀ w ∈ e.2, w ≠ ("secure", "wpapskwpa2psk") := by
    refine forall_treeOf (Q := fun w => w ≠ ("secure", "wpapskwpa2psk")) (fun l _ w hw => ?_) e he
    cases given_of_mem hw with
    | secure e' hfound =>
      intro heq
      exact secure_ne_mixed hfound (Prod.mk.inj heq).2
    | ssid => simp
    | channel => simp
    | rssi => simp
    | signal => simp
    | encrypt => simp
  rw [hmixed] at hsecure
  exact hnot _ hsecure rfl

/-- What is found is no longer than the text. -/
theorem length_of_strstr {needle s t : List Char} (h : strstr needle s = some t) :
    t.length ≤ s.length := by
  obtain ⟨front, tail, rfl, rfl⟩ := eq_of_strstr h
  exact (List.suffix_append front (needle ++ tail)).length_le

/-- Chopping makes no text longer. -/
theorem length_chop_le (s : List Char) : (chop s).length ≤ s.length := by
  unfold chop
  split
  · exact le_refl _
  · exact List.length_take_le' _ _

/-- Where a line gives a name, the name is found in it. -/
theorem ssid_of_given {l : List Char} {w : String × String} (h : Given l w) (hw : w.1 = "ssid") :
    ∃ ptr, strstr "ESSID: \"".toList l = some ptr ∧
      w.2 = String.ofList (chop (ptr.drop 8)) := by
  cases h with
  | ssid ptr hptr => exact ⟨ptr, hptr, rfl⟩
  | channel => exact absurd hw (by simp)
  | rssi => exact absurd hw (by simp)
  | signal => exact absurd hw (by simp)
  | secure => exact absurd hw (by simp)
  | encrypt => exact absurd hw (by simp)

/-- A name is not longer than the line it is found in. -/
theorem length_ssid_le {l : List Char} {w : String × String} (h : w ∈ attributesOf l)
    (hw : w.1 = "ssid") : w.2.length ≤ l.length := by
  obtain ⟨ptr, hptr, hname⟩ := ssid_of_given (given_of_mem h) hw
  have hchop := length_chop_le (ptr.drop 8)
  have hstr := length_of_strstr hptr
  rw [List.length_drop] at hchop
  rw [hname, String.length_ofList]
  omega

/-- The line of the name is 19 characters longer than the name. -/
theorem length_essidLine (a : AccessPoint) : a.essidLine.length = 19 + a.ssid.length := by
  unfold AccessPoint.essidLine
  rw [List.length_append, List.length_append]
  change 18 + (a.ssid.length + 1) = _
  omega

/-- A name that is read from the line of an ESSID is shorter than it, unless the line fits. -/
theorem length_ssid_lt (a : AccessPoint) {part : List Char} {w : String × String}
    (hpart : part ∈ fgets readbufSize [] (a.essidLine ++ ['\n'])) (h : w ∈ attributesOf part)
    (hw : w.1 = "ssid") : w.2.length < max 1003 a.ssid.length := by
  have hplain : '\n' ∉ a.essidLine := (lines_plain a a.essidLine List.mem_cons_self).1
  have hlength := length_essidLine a
  have hsize : readbufSize = 1021 + 2 := rfl
  by_cases hfits : a.essidLine.length + 1 < readbufSize
  · rw [fgets_fits hplain hfits, List.mem_singleton] at hpart
    subst hpart
    unfold AccessPoint.essidLine at h
    rw [attributesOf_essid] at h
    split at h
    · exact absurd h List.not_mem_nil
    · rw [List.mem_singleton.mp h, String.length_ofList]
      omega
  · rw [hsize, fgets_long hplain (by omega), List.mem_cons] at hpart
    rcases hpart with rfl | hpart
    · obtain ⟨ptr, hptr, hname⟩ := ssid_of_given (given_of_mem h) hw
      have htake : a.essidLine.take 1022 =
          "          ESSID: \"".toList ++ (a.ssid ++ ['"']).take 1004 := by
        unfold AccessPoint.essidLine
        rw [List.take_append]
        rfl
      have hstr : strstr "ESSID: \"".toList ("          ESSID: \"".toList ++
          (a.ssid ++ ['"']).take 1004) = some ("ESSID: \"".toList ++ (a.ssid ++ ['"']).take 1004) :=
        rfl
      have hrest : ((a.ssid ++ ['"']).take 1004).length = 1004 := by
        rw [List.length_take, List.length_append, List.length_singleton]
        omega
      rw [htake, hstr, Option.some.injEq] at hptr
      subst hptr
      have hdrop : ("ESSID: \"".toList ++ (a.ssid ++ ['"']).take 1004).drop 8 =
          (a.ssid ++ ['"']).take 1004 := rfl
      rw [hdrop] at hname
      rw [hname, String.length_ofList, chop, if_neg (by omega), List.length_take, hrest]
      omega
    · have hlen := length_le_of_mem_fgets hpart
      have hle := length_ssid_le h hw
      rw [List.length_append, List.length_drop, List.length_nil, List.length_singleton] at hlen
      omega

/-- A line of a listing is the line of a cell or one of its access point. -/
theorem mem_listing {n : ℕ} {aps : List AccessPoint} {l : List Char} (h : l ∈ listing n aps) :
    ∃ a ∈ aps, (∃ m < n + aps.length, l = a.cellLine m) ∨ l ∈ a.lines := by
  induction aps generalizing n with
  | nil => exact absurd h List.not_mem_nil
  | cons a aps ih =>
    rw [listing, List.mem_cons, List.mem_append] at h
    rcases h with rfl | h | h
    · exact ⟨a, List.mem_cons_self, Or.inl ⟨n, by simp, rfl⟩⟩
    · exact ⟨a, List.mem_cons_self, Or.inr h⟩
    · obtain ⟨b, hb, hl⟩ := ih h
      refine ⟨b, List.mem_cons_of_mem _ hb, hl.imp_left ?_⟩
      rintro ⟨m, hm, rfl⟩
      exact ⟨m, by rw [List.length_cons]; omega, rfl⟩

/-- Behind the line of the ESSID no line gives a name. -/
theorem ne_ssid_of_mem (a : AccessPoint) {l : List Char} (hl : l ∈ a.lines)
    (hne : l ≠ a.essidLine) {w : String × String} (h : w ∈ attributesOf (l ++ ['\n'])) :
    w.1 ≠ "ssid" := by
  have hkind := (a.plain a.kind (by simp)).1
  have hquality := (a.plain a.quality (by simp)).1
  simp only [AccessPoint.lines, List.mem_cons, List.not_mem_nil, or_false] at hl
  rcases hl with rfl | rfl | rfl | rfl | rfl
  · exact absurd rfl hne
  · rw [attributesOf_channel hkind a.numbers.1] at h
    rw [List.mem_singleton.mp h]
    simp
  · rw [attributesOf_signal a.numbers.2 hquality] at h
    simp only [List.mem_cons, List.not_mem_nil, or_false] at h
    rcases h with rfl | rfl <;> simp
  · have hgiven := attributesOf_encryption a.security
    unfold AccessPoint.encryptionLine at h
    rw [hgiven, List.mem_cons, Option.mem_toList, Option.map_eq_some_iff] at h
    rcases h with rfl | ⟨cipher, -, rfl⟩
    · simp
    · simp
  · rw [List.nil_append, attributesOf_blank] at h
    exact absurd h List.not_mem_nil

/-- A name that does not fit is not recorded. -/
theorem short_of_records {aps : List AccessPoint} (h : Records (treeOf (fileOf aps)) aps) :
    ∀ a ∈ aps, a.essidLine.length + 1 < readbufSize := by
  have hfew := few_of_records h
  intro a ha
  by_contra hlong
  obtain ⟨b, hb, hmax⟩ : ∃ b ∈ aps, ∀ c ∈ aps, c.ssid.length ≤ b.ssid.length := by
    cases hbest : aps.argmax (fun c => c.ssid.length) with
    | none =>
      rw [List.argmax_eq_none.mp hbest] at ha
      exact absurd ha List.not_mem_nil
    | some b => exact ⟨b, List.argmax_mem hbest, fun c hc =>
        List.le_of_mem_argmax (f := fun c : AccessPoint => c.ssid.length) hc hbest⟩
  have hmany : 1003 ≤ b.ssid.length := by
    have hle := hmax a ha
    have hsize : readbufSize = 1023 := rfl
    rw [length_essidLine] at hlong
    omega
  have hbound : ∀ e ∈ treeOf (fileOf aps), ∀ w ∈ e.2,
      w.1 = "ssid" → w.2.length < b.ssid.length := by
    refine forall_treeOf fun part hpart w hw hname => ?_
    unfold fileOf at hpart
    rw [fgets_unlines, List.mem_flatMap] at hpart
    obtain ⟨l, hl, hpart⟩ := hpart
    obtain ⟨c, hc, ⟨m, hm, rfl⟩ | hl⟩ := mem_listing hl
    · have hlen := length_le_of_mem_fgets hpart
      have hle := length_ssid_le hw hname
      rw [List.length_append, length_cellLine c (by omega), List.length_nil,
        List.length_singleton] at hlen
      omega
    · by_cases hne : l = c.essidLine
      · subst hne
        have hlt := length_ssid_lt c hpart hw hname
        have hle := hmax c hc
        omega
      · rw [fgets_fits (lines_plain c l hl).1 (length_of_mem_lines c hl hne),
          List.mem_singleton] at hpart
        subst hpart
        exact absurd hname (ne_ssid_of_mem c hl hne hw)
  obtain ⟨e, he, -, hssid⟩ := mem_of_own h hb
  rcases hssid with hempty | hssid
  · rw [hempty] at hmany
    exact absurd hmany (by simp)
  · have hlt := hbound e he _ hssid rfl
    rw [String.length_ofList] at hlt
    omega

/-- **The tree of a scan.** With neither an address nor a name the tree is returned. It has
exactly one entry for each listed address, with the name, the channel, the rssi, the mode and
the cipher that are listed for it, whatever the names are, if and only if there are less than
a hundred cells, no network is of the mixed mode, every name fits into the buffer with its
line, and no address is listed with two different things. -/
theorem aplist_iff (aps : List AccessPoint) (ssid2 ssid3 : Option String) (good : Bool) :
    (∃ tree, stationDevAplist (fileOf aps) none none ssid2 ssid3 good = some (.tree tree) ∧
      Records tree aps) ↔ Clear aps := by
  have hwhole : stationDevAplist (fileOf aps) none none ssid2 ssid3 good =
      some (.tree (treeOf (fileOf aps))) := rfl
  rw [hwhole]
  constructor
  · rintro ⟨tree, htree, h⟩
    cases htree
    refine ⟨few_of_records h, fun a ha cipher => pure_of_records h ha cipher, short_of_records h,
      fun a ha b hb hkey => ?_⟩
    obtain ⟨x, hx, hreport⟩ := h.own a ha
    obtain ⟨y, hy, hreport'⟩ := h.own b hb
    rw [hkey, hy, Option.some.injEq] at hx
    rw [← hreport, ← hreport', hx]
  · intro h
    exact ⟨_, rfl, records_of_clear h⟩

/-- A network of the mixed mode. -/
def mixedNetwork : AccessPoint := ashyelf (.psk .mixed .ccmp)

/-- A network of the mixed mode is recorded as one of WPA2. -/
theorem mixedNetwork_not_recorded :
    ¬ ∃ tree, stationDevAplist (fileOf [mixedNetwork]) none none none none false =
      some (.tree tree) ∧ Records tree [mixedNetwork] := by
  rintro ⟨tree, htree, h⟩
  cases htree
  exact pure_of_records h List.mem_cons_self .ccmp rfl

end Tiger.Analysis.ScanTree
