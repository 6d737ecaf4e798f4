import Tiger.Analysis.ScanRules
import Tiger.Model.Aplist

/-!
# The lines of a scan

A line that fits into the buffer is read by itself, a longer one in parts (`fgets_fits`,
`fgets_long`), and what follows a newline is read on its own (`fgets_append`). Every line
behind that of a cell writes the attributes it gives into the entry of the cell
(`readLine_fill`). An entry is built from what lines give alone, so what every line keeps,
every entry of the tree has (`forall_treeOf`).
-/

set_option autoImplicit false

namespace Tiger.Analysis.ScanFile

open Tiger.Library Tiger.Model Tiger.Model.Aplist
open Tiger.Analysis.ScanRules

/-! ## Reading in parts -/

/-- What stands behind a newline is read by itself. -/
theorem fgets_append (size : ℕ) (seg l rest : List Char) :
    fgets size seg (l ++ '\n' :: rest) = fgets size seg (l ++ ['\n']) ++ fgets size [] rest := by
  induction l generalizing seg with
  | nil =>
    rw [List.nil_append, List.nil_append, fgets, if_pos (Or.inl rfl), fgets, if_pos (Or.inl rfl)]
    rfl
  | cons c l ih =>
    rw [List.cons_append, List.cons_append, fgets, fgets]
    split
    · rw [ih, List.cons_append]
    · exact ih (c :: seg)

/-- The parts of lines come line by line. -/
theorem fgets_unlines (size : ℕ) (ls : List (List Char)) :
    fgets size [] (unlines '\n' ls) = ls.flatMap fun l => fgets size [] (l ++ ['\n']) := by
  induction ls with
  | nil => rfl
  | cons l ls ih => rw [unlines_cons, fgets_append, ih, List.flatMap_cons]

/-- The start of a line, as far as it fits. -/
theorem fgets_start {size : ℕ} {l : List Char} (hl : '\n' ∉ l) (seg rest : List Char)
    (hlen : seg.length + l.length + 1 < size) :
    fgets size seg (l ++ rest) = fgets size (l.reverse ++ seg) rest := by
  induction l generalizing seg with
  | nil => rfl
  | cons c l ih =>
    rw [List.mem_cons, not_or] at hl
    rw [List.length_cons] at hlen
    have hgo : ¬ (c = '\n' ∨ seg.length + 2 = size) := by
      rintro (hc | hsize)
      · exact hl.1 hc.symm
      · omega
    rw [List.cons_append, fgets, if_neg hgo, ih hl.2 (c :: seg) (by rw [List.length_cons]; omega),
      List.reverse_cons, List.append_assoc]
    rfl

/-- A line that fits is read whole. -/
theorem fgets_fits {size : ℕ} {l : List Char} (hl : '\n' ∉ l) (hlen : l.length + 1 < size) :
    fgets size [] (l ++ ['\n']) = [l ++ ['\n']] := by
  rw [fgets_start hl [] _ (by rw [List.length_nil]; omega), fgets, if_pos (Or.inl rfl)]
  simp [fgets]

/-- Of a line that does not fit, the start is read first. -/
theorem fgets_long {size : ℕ} {l : List Char} (hl : '\n' ∉ l) (hlen : size + 1 ≤ l.length)
    (rest : List Char) : fgets (size + 2) [] (l ++ rest) =
      l.take (size + 1) :: fgets (size + 2) [] (l.drop (size + 1) ++ rest) := by
  have hsize : size < l.length := hlen
  have htake : l.take size ++ l[size] :: (l.drop (size + 1) ++ rest) = l ++ rest := by
    rw [← List.cons_append, List.getElem_cons_drop, ← List.append_assoc, List.take_append_drop]
  have hsub : '\n' ∉ l.take size := fun h => hl (List.mem_of_mem_take h)
  have hlength : (l.take size).length = size := List.length_take_of_le (by omega)
  rw [← htake, fgets_start hsub [] _ (by rw [List.length_nil, hlength]; omega), fgets,
    if_pos (Or.inr (by simp [hlength])), List.append_nil, List.reverse_cons, List.reverse_reverse,
    ← List.take_succ_eq_append_getElem hsize]

/-- A part is not longer than the text. -/
theorem length_le_of_mem_fgets {size : ℕ} {seg s part : List Char}
    (h : part ∈ fgets size seg s) : part.length ≤ seg.length + s.length := by
  induction s generalizing seg with
  | nil =>
    rw [fgets] at h
    split at h
    · exact absurd h List.not_mem_nil
    · rw [List.mem_singleton.mp h, List.length_reverse]
      exact Nat.le_add_right _ _
  | cons c s ih =>
    rw [fgets] at h
    rw [List.length_cons]
    split at h
    · rcases List.mem_cons.mp h with rfl | h
      · rw [List.length_reverse, List.length_cons]
        omega
      · have hlen := ih h
        rw [List.length_nil] at hlen
        omega
    · have hlen := ih h
      rw [List.length_cons] at hlen
      omega

/-! ## One line -/

/-- A line behind that of a cell fills the entry of the cell. -/
theorem readLine_fill {l : List Char} (hl : "Cell".toList.isPrefixOf l = false) (bssid : String)
    (x : Attributes) (tree : List (String × Attributes)) :
    readLine ⟨setEntry bssid x tree, some bssid⟩ l =
      ⟨setEntry bssid (setEntries x (attributesOf l)) tree, some bssid⟩ := by
  unfold readLine
  rw [hl, if_neg (by decide)]
  simp only [lookup_setEntry, if_true, Option.getD_some, setEntry_setEntry]

/-- Several lines behind that of a cell. -/
theorem foldl_readLine_fill {ls : List (List Char)}
    (hls : ∀ l ∈ ls, "Cell".toList.isPrefixOf l = false) (bssid : String) (x : Attributes)
    (tree : List (String × Attributes)) :
    ls.foldl readLine ⟨setEntry bssid x tree, some bssid⟩ =
      ⟨setEntry bssid (setEntries x (ls.flatMap attributesOf)) tree, some bssid⟩ := by
  induction ls generalizing x with
  | nil => rfl
  | cons l ls ih =>
    rw [List.foldl_cons, readLine_fill (hls l List.mem_cons_self), List.flatMap_cons,
      setEntries_append]
    exact ih (fun l' hl' => hls l' (List.mem_cons_of_mem _ hl')) _

/-! ## All lines -/

/-- The keys of the tree are distinct. -/
theorem nodup_readLine {p : Parse} (h : (p.tree.map Prod.fst).Nodup) (l : List Char) :
    ((readLine p l).tree.map Prod.fst).Nodup := by
  unfold readLine
  split
  · exact nodup_keys_setEntry h
  · split
    · exact h
    · exact nodup_keys_setEntry h

/-- A key stays in the tree. -/
theorem mem_keys_readLine {p : Parse} {k : String} (h : k ∈ p.tree.map Prod.fst) (l : List Char) :
    k ∈ (readLine p l).tree.map Prod.fst := by
  unfold readLine
  split
  · exact mem_keys_setEntry.mpr (Or.inr h)
  · split
    · exact h
    · exact mem_keys_setEntry.mpr (Or.inr h)

/-- A cell that was read stays in the tree. -/
theorem mem_keys_foldl {p : Parse} {k : String} (h : k ∈ p.tree.map Prod.fst)
    (ls : List (List Char)) : k ∈ (ls.foldl readLine p).tree.map Prod.fst := by
  induction ls generalizing p with
  | nil => exact h
  | cons l ls ih => exact ih (mem_keys_readLine h l)

/-- No cell stands twice in the tree. -/
theorem nodup_treeOf (file : List Char) : ((treeOf file).map Prod.fst).Nodup := by
  have hrun : ∀ (ls : List (List Char)) (p : Parse), (p.tree.map Prod.fst).Nodup →
      ((ls.foldl readLine p).tree.map Prod.fst).Nodup := by
    intro ls
    induction ls with
    | nil => exact fun p h => h
    | cons l ls ih => exact fun p h => ih _ (nodup_readLine h l)
  exact hrun _ _ List.nodup_nil

/-- Of each attribute in the tree after a line holds what holds of those in the tree before
and of those the line gives. -/
theorem forall_readLine {Q : String × String → Prop} {p : Parse} {l : List Char}
    (hl : ∀ w ∈ attributesOf l, Q w) (h : ∀ e ∈ p.tree, ∀ w ∈ e.2, Q w) :
    ∀ e ∈ (readLine p l).tree, ∀ w ∈ e.2, Q w := by
  intro e he w hw
  unfold readLine at he
  split at he
  · rcases mem_of_mem_setEntry he with rfl | he
    · exact absurd hw List.not_mem_nil
    · exact h e he w hw
  · split at he
    · exact h e he w hw
    · next bssid _ =>
      rcases mem_of_mem_setEntry he with rfl | he
      · rcases mem_of_mem_setEntries hw with hw | hw
        · exact hl w hw
        · cases hx : p.tree.lookup bssid with
          | none =>
            rw [hx] at hw
            exact absurd hw List.not_mem_nil
          | some x =>
            rw [hx] at hw
            exact h _ (mem_of_lookup hx) w hw
      · exact h e he w hw

/-- What holds of all that the lines give holds of the tree. -/
theorem forall_treeOf {Q : String × String → Prop} {file : List Char}
    (h : ∀ l ∈ fgets readbufSize [] file, ∀ w ∈ attributesOf l, Q w) :
    ∀ e ∈ treeOf file, ∀ w ∈ e.2, Q w := by
  have hrun : ∀ (ls : List (List Char)) (p : Parse), (∀ l ∈ ls, ∀ w ∈ attributesOf l, Q w) →
      (∀ e ∈ p.tree, ∀ w ∈ e.2, Q w) → ∀ e ∈ (ls.foldl readLine p).tree, ∀ w ∈ e.2, Q w := by
    intro ls
    induction ls with
    | nil => exact fun p _ h => h
    | cons l ls ih =>
      intro p hls h
      exact ih _ (fun l' hl' => hls l' (List.mem_cons_of_mem _ hl'))
        (forall_readLine (hls l List.mem_cons_self) h)
  exact hrun _ _ h fun e he => absurd he List.not_mem_nil

/-- What a line can give. -/
inductive Given (l : List Char) : String × String → Prop
  | ssid (ptr : List Char) (h : strstr "ESSID: \"".toList l = some ptr) :
    Given l ("ssid", String.ofList (chop (ptr.drop 8)))
  | channel (i : ℤ) : Given l ("channel", toString i)
  | rssi (i : ℤ) : Given l ("rssi", toString i)
  | signal (i : ℤ) : Given l ("signal", toString i)
  | secure (e : String × String × Option String)
    (h : encryptions.find? (fun e => contains e.1 l) = some e) : Given l ("secure", e.2.1)
  | encrypt (text : String) : Given l ("wpa_encrypt", text)

/-- An attribute that is recorded is given by the line. -/
theorem given_of_mem {l : List Char} {w : String × String} (h : w ∈ attributesOf l) :
    Given l w := by
  unfold attributesOf at h
  split at h
  · next ptr hptr =>
    change w ∈ (if chop (ptr.drop 8) = [] then []
      else [("ssid", String.ofList (chop (ptr.drop 8)))]) at h
    split at h
    · exact absurd h List.not_mem_nil
    · rw [List.mem_singleton.mp h]
      exact .ssid ptr hptr
  split at h
  · split at h
    · rw [List.mem_singleton.mp h]
      exact .channel _
    · exact absurd h List.not_mem_nil
  split at h
  · split at h
    · rcases List.mem_cons.mp h with rfl | h
      · exact .rssi _
      · rw [List.mem_singleton.mp h]
        exact .signal _
    · exact absurd h List.not_mem_nil
  split at h
  · split at h
    · next secure encrypt hfind =>
      rcases List.mem_cons.mp h with rfl | h
      · exact .secure _ hfind
      · rw [Option.mem_toList, Option.map_eq_some_iff] at h
        obtain ⟨text, -, rfl⟩ := h
        exact .encrypt text
    · exact absurd h List.not_mem_nil
  · exact absurd h List.not_mem_nil

/-- The text of a mixed mode holds the text of WPA2, which is looked for first: no entry gets
the mixed mode. -/
theorem secure_ne_mixed {l : List Char} {e : String × String × Option String}
    (h : encryptions.find? (fun e => contains e.1 l) = some e) : e.2.1 ≠ "wpapskwpa2psk" := by
  have hplain : ∀ e ∈ encryptions.take 7, e.2.1 ≠ "wpapskwpa2psk" := by decide
  have hinner : ∀ e ∈ encryptions.drop 7, ∃ e' ∈ encryptions.take 7,
      e'.1.toList <:+: e.1.toList := by decide
  rw [← List.take_append_drop 7 encryptions, List.find?_append] at h
  cases hfirst : (encryptions.take 7).find? (fun e => contains e.1 l) with
  | some e' =>
    rw [hfirst, Option.some_or, Option.some.injEq] at h
    exact hplain e (h ▸ List.mem_of_find?_eq_some hfirst)
  | none =>
    rw [hfirst, Option.none_or] at h
    obtain ⟨e', he', hin⟩ := hinner e (List.mem_of_find?_eq_some h)
    have hfound := List.find?_some h
    have hnot := List.find?_eq_none.mp hfirst e' he'
    rw [contains_iff] at hfound hnot
    exact absurd (hin.trans hfound) hnot

/-- No entry has a `sig`. -/
theorem sig_eq_none {file : List Char} {e : String × Attributes} (he : e ∈ treeOf file) :
    e.2.lookup "sig" = none := by
  have hne : ∀ w ∈ e.2, w.1 ≠ "sig" := by
    refine forall_treeOf (Q := fun w => w.1 ≠ "sig") (fun l _ w hw => ?_) e he
    cases given_of_mem hw <;> simp
  apply lookup_eq_none_of_notMem
  intro hmem
  obtain ⟨w, hw, hsig⟩ := List.mem_map.mp hmem
  exact hne w hw hsig

end Tiger.Analysis.ScanFile
