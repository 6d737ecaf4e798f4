import Tiger.Analysis.ScanRules
import Tiger.Model.Buffers

/-!
# The splitting loop

On a text with its zero the loop ends and sees the parts between the separators, as
`tokLoop` gives them, and reads nothing behind the zero (`ends_split`). On a text without
a zero it runs out of the buffer (`not_ends_unterminated`). The loop of the band list is
the one that can meet such a text (`split_iff`).
-/

set_option autoImplicit false

namespace Tiger.Analysis.SplittingLoop

open Tiger.Library Tiger.Model Tiger.Model.Buffers
open Tiger.Analysis.ScanRules

/-! ## The segments -/

/-- The parts without an empty one at the end. -/
def withoutLastEmpty (parts : List (List Char)) : List (List Char) :=
  if parts.getLast? = some [] then parts.dropLast else parts

/-- The parts of a text between the separators, without an empty one behind a final
separator. -/
def segments (sep : Char) (s : List Char) : List (List Char) := withoutLastEmpty (s.splitOn sep)

/-- Only the last piece can be left out. -/
theorem withoutLastEmpty_cons (p : List Char) {ps : List (List Char)} (h : ps ≠ []) :
    withoutLastEmpty (p :: ps) = p :: withoutLastEmpty ps := by
  unfold withoutLastEmpty
  rw [List.getLast?_cons_of_ne_nil h, List.dropLast_cons_of_ne_nil h]
  split <;> rfl

/-- The tokens are the pieces, without an empty one at the end. -/
theorem tokLoop_eq_splitOnPPrepend (sep : Char) (seg s : List Char) :
    tokLoop sep seg s = withoutLastEmpty (s.splitOnPPrepend (· == sep) seg) := by
  induction s generalizing seg with
  | nil =>
    rw [tokLoop, List.splitOnPPrepend_nil]
    by_cases hseg : seg = []
    · simp [hseg, withoutLastEmpty]
    · simp [hseg, withoutLastEmpty]
  | cons c cs ih =>
    rw [tokLoop, List.splitOnPPrepend_cons_eq_if]
    by_cases hc : c = sep
    · have hparts : cs.splitOnPPrepend (· == sep) [] ≠ [] := List.splitOnPPrepend_ne_nil _ _ _
      rw [if_pos hc, if_pos (beq_iff_eq.mpr hc), ih]
      exact (withoutLastEmpty_cons _ hparts).symm
    · rw [if_neg hc, if_neg fun h => hc (beq_iff_eq.mp h), ih]

/-- The loop over a text gives its segments. -/
theorem tokLoop_eq_segments (sep : Char) (s : List Char) : tokLoop sep [] s = segments sep s :=
  tokLoop_eq_splitOnPPrepend sep [] s

/-! ## One turn -/

variable {limit k : ℕ} {sep : Char} {done f rest : List Char} {seen : List (List Char)}

/-- The window over the rest is what the limit leaves of it. -/
theorem window_append (limit : ℕ) (done rest : List Char) :
    window limit done.length (done ++ rest) = rest.take (limit + 1 - done.length) := by
  unfold window
  rw [List.drop_take, List.drop_left]

/-- What lies before the limit is read whole. -/
theorem window_text (rest : List Char) (c : Char) (h : done.length + f.length ≤ limit) :
    ∃ rest', window limit done.length (done ++ (f ++ c :: rest)) = f ++ c :: rest' := by
  refine ⟨rest.take (limit - done.length - f.length), ?_⟩
  have hcut : limit + 1 - done.length = f.length + (limit - done.length - f.length + 1) := by
    omega
  rw [window_append, hcut, List.take_length_add_append, List.take_succ_cons]

/-- The first cell of a text is its zero only if the text is empty. -/
theorem head_ne_nul (c : Char) (rest : List Char) (hf : nul ∉ f) (hne : f ≠ [] ∨ c ≠ nul) :
    ∃ c', (f ++ c :: rest).head? = some c' ∧ c' ≠ nul := by
  cases f with
  | nil => exact ⟨c, rfl, hne.resolve_left (fun h => h rfl)⟩
  | cons c' f => exact ⟨c', rfl, fun h => hf (h ▸ List.mem_cons_self)⟩

/-- A turn cuts the buffer at a separator and goes on behind it. -/
theorem splitTurn_sep (limit k : ℕ) (done rest : List Char) (seen : List (List Char))
    (hsep : sep ≠ nul) (hnul : nul ∉ f) (hf : sep ∉ f)
    (hlimit : done.length + f.length ≤ limit) :
    splitTurn limit sep ⟨done ++ (f ++ sep :: rest), some done.length, some k, seen⟩ =
      .again ⟨done ++ f ++ [nul] ++ rest, some (done ++ f ++ [nul]).length,
        some (done.length + f.length), seen ++ [f]⟩ := by
  obtain ⟨rest₁, hread⟩ := window_text rest sep hlimit
  obtain ⟨rest₂, htext⟩ := window_text rest nul hlimit
  obtain ⟨c, hhead, hc⟩ := head_ne_nul sep rest₁ hnul (Or.inr hsep)
  have hput : (done ++ (f ++ sep :: rest)).set (done.length + f.length) nul =
      done ++ (f ++ nul :: rest) := by
    rw [← List.append_assoc, ← List.length_append, List.set_append_right _ _ le_rfl,
      Nat.sub_self, List.set_cons_zero, List.append_assoc]
  unfold splitTurn
  simp only [hread, hhead, if_neg hc, seek_append hnul hf, Option.map_some, putNul, hput, htext,
    textAt_append hnul]
  simp [Nat.add_assoc]

/-- A turn takes the last piece and comes to the end. -/
theorem splitTurn_last (limit k : ℕ) (done rest : List Char) (seen : List (List Char))
    (hsep : sep ≠ nul) (hnul : nul ∉ f) (hf : sep ∉ f) (hne : f ≠ [])
    (hlimit : done.length + f.length ≤ limit) :
    splitTurn limit sep ⟨done ++ (f ++ nul :: rest), some done.length, some k, seen⟩ =
      .again ⟨done ++ (f ++ nul :: rest), none, none, seen ++ [f]⟩ := by
  obtain ⟨rest', hread⟩ := window_text rest nul hlimit
  obtain ⟨c, hhead, hc⟩ := head_ne_nul nul rest' hnul (Or.inl hne)
  unfold splitTurn
  simp only [hread, hhead, if_neg hc, seek_end hsep hnul hf, Option.map_none, putNul,
    textAt_append hnul]

/-- A turn at the terminator ends the loop. -/
theorem splitTurn_nul (hlimit : done.length ≤ limit) :
    splitTurn limit sep ⟨done ++ nul :: rest, some done.length, some k, seen⟩ = .done seen := by
  obtain ⟨rest', hread⟩ := window_text (f := []) rest nul hlimit
  rw [List.nil_append, List.nil_append] at hread
  unfold splitTurn
  simp only [hread, List.head?_cons, if_true]

/-- A turn without a place to go on ends the loop. -/
theorem splitTurn_null {cells : List Char} {tok : Option ℕ} :
    splitTurn limit sep ⟨cells, tok, none, seen⟩ = .done seen := rfl

/-- A turn without a separator and a terminator runs off the buffer. -/
theorem splitTurn_fault (hnul : nul ∉ f) (hf : sep ∉ f) :
    splitTurn limit sep ⟨done ++ f, some done.length, some k, seen⟩ = .fault := by
  have hsub : ∀ {c}, c ∉ f → c ∉ f.take (limit + 1 - done.length) :=
    fun hc h => hc (List.mem_of_mem_take h)
  unfold splitTurn
  simp only [window_append, seek_of_notMem (hsub hnul) (hsub hf)]
  split
  · rfl
  · next c hc =>
    have hmem := List.mem_of_mem_head? hc
    rw [if_neg (ne_of_mem_of_not_mem hmem (hsub hnul))]

/-! ## The whole loop -/

/-- **The run over a text.** The loop ends, having seen the segments, without a read behind
the zero of the text. -/
theorem ends_split (k : ℕ) (done s junk : List Char) (seen : List (List Char))
    (hsep : sep ≠ nul) (hnul : nul ∉ s)
    (hlimit : done.length + s.length = limit) (r : List (List Char)) :
    Ends (splitTurn limit sep) ⟨done ++ (s ++ nul :: junk), some done.length, some k, seen⟩ r ↔
      seen ++ tokLoop sep [] s = r := by
  induction hn : s.length using Nat.strong_induction_on generalizing done s k seen with
  | _ n ih =>
    by_cases hmem : sep ∈ s
    · -- the segment in front of the first separator, then the rest behind it
      obtain ⟨f, rest, rfl, hf⟩ := List.eq_append_cons_of_mem hmem
      have hparts : nul ∉ f ∧ nul ∉ rest := by
        constructor
        · exact fun h => hnul (List.mem_append_left _ h)
        · exact fun h => hnul (List.mem_append_right _ (List.mem_cons_of_mem _ h))
      have hlen : (f ++ sep :: rest).length = f.length + rest.length + 1 := by
        simp [Nat.add_assoc]
      have hstep := splitTurn_sep limit k done (rest ++ nul :: junk) seen hsep hparts.1 hf
        (by omega)
      have hrest := ih rest.length (by omega) (done.length + f.length) (done ++ f ++ [nul]) rest
        (seen ++ [f]) hparts.2 (by simp only [List.length_append, List.length_singleton]; omega) rfl
      rw [List.append_assoc f, List.cons_append, ends_iff_of_again hstep, hrest,
        tokLoop_append hf]
      simp
    · by_cases hne : s = []
      · subst hne
        rw [List.nil_append, ends_iff_of_done (splitTurn_nul (by omega))]
        simp [tokLoop]
      · have hstep := splitTurn_last limit k done junk seen hsep hnul hmem hne (by omega)
        rw [ends_iff_of_again hstep, ends_iff_of_done splitTurn_null, tokLoop_of_notMem hmem]
        simp [hne]

/-- **The run without a zero.** On cells without a zero the loop reads behind their end. -/
theorem not_ends_unterminated (k : ℕ) (done s : List Char) (seen : List (List Char))
    (hsep : sep ≠ nul) (hnul : nul ∉ s)
    (hlimit : done.length + s.length ≤ limit + 1) (r : List (List Char)) :
    ¬ Ends (splitTurn limit sep) ⟨done ++ s, some done.length, some k, seen⟩ r := by
  induction hn : s.length using Nat.strong_induction_on generalizing done s k seen with
  | _ n ih =>
    by_cases hmem : sep ∈ s
    · obtain ⟨f, rest, rfl, hf⟩ := List.eq_append_cons_of_mem hmem
      have hparts : nul ∉ f ∧ nul ∉ rest := by
        constructor
        · exact fun h => hnul (List.mem_append_left _ h)
        · exact fun h => hnul (List.mem_append_right _ (List.mem_cons_of_mem _ h))
      have hlen : (f ++ sep :: rest).length = f.length + rest.length + 1 := by
        simp [Nat.add_assoc]
      have hstep := splitTurn_sep limit k done rest seen hsep hparts.1 hf (by omega)
      rw [ends_iff_of_again hstep]
      exact ih rest.length (by omega) (done.length + f.length) (done ++ f ++ [nul]) rest
        (seen ++ [f]) hparts.2
        (by simp only [List.length_append, List.length_singleton]; omega) rfl
    · exact not_ends_of_fault (splitTurn_fault hnul hmem)

/-! ## The places of the loop -/

/-- What a copy of at most `n - 1` characters leaves in a buffer of `n`. -/
theorem strncpy_eq {buffer s : List Char} (h : s.length < buffer.length) :
    strncpy buffer s (buffer.length - 1) =
      s ++ List.replicate (buffer.length - 1 - s.length) nul ++
        buffer.drop (buffer.length - 1) := by
  unfold strncpy
  rw [List.take_of_length_le (by omega)]

/-- A band list leaves more than one byte of its buffer, or the last byte is a zero. -/
def Closed (w : Splitter) (buffer s : List Char) : Prop :=
  w = .band → s.length + 1 < buffer.length ∨ buffer.getLast? = some nul

/-- A copy that leaves more than one byte has a zero behind it. -/
theorem strncpy_short (buffer s : List Char) (h : s.length + 1 < buffer.length) :
    ∃ junk, strncpy buffer s (buffer.length - 1) = s ++ nul :: junk := by
  obtain ⟨m, hm⟩ : ∃ m, buffer.length - 1 - s.length = m + 1 :=
    ⟨buffer.length - 2 - s.length, by omega⟩
  refine ⟨List.replicate m nul ++ buffer.drop (buffer.length - 1), ?_⟩
  rw [strncpy_eq (by omega), hm, List.replicate_succ, List.append_assoc, List.cons_append]

/-- A copy that leaves one byte leaves it as it was. -/
theorem strncpy_full (buffer s : List Char) (h : s.length + 1 = buffer.length) :
    ∃ c, buffer.getLast? = some c ∧ strncpy buffer s (buffer.length - 1) = s ++ [c] := by
  have hne : buffer ≠ [] := List.ne_nil_of_length_pos (by omega)
  have hnone : buffer.length - 1 - s.length = 0 := by omega
  refine ⟨buffer.getLast hne, List.getLast?_eq_some_getLast hne, ?_⟩
  rw [strncpy_eq (by omega), hnone, List.drop_length_sub_one hne]
  simp

/-- A cleared buffer holds the text with its zero. -/
theorem strncpy_cleared {n : ℕ} {s : List Char} (h : s.length < n) :
    ∃ junk, strncpy (List.replicate n nul) s (n - 1) = s ++ nul :: junk := by
  have hlen : (List.replicate n nul).length = n := List.length_replicate
  by_cases hshort : s.length + 1 < n
  · have hfill := strncpy_short (List.replicate n nul) s (by omega)
    rwa [hlen] at hfill
  · obtain ⟨c, hc, hfill⟩ := strncpy_full (List.replicate n nul) s (by omega)
    rw [List.getLast?_replicate, if_neg (by omega)] at hc
    rw [hlen, ← Option.some.inj hc] at hfill
    exact ⟨[], hfill⟩

/-- The buffer holds the text with its zero, or the text fills it up to a last byte that is no
zero. -/
theorem fill_eq (w : Splitter) {buffer s : List Char} (h : s.length < buffer.length) :
    (Closed w buffer s ∧ ∃ junk, w.fill buffer s = s ++ nul :: junk) ∨
      (¬ Closed w buffer s ∧ ∃ c, c ≠ nul ∧ w.fill buffer s = s ++ [c]) := by
  cases w with
  | pppopt => exact Or.inl ⟨nofun, strncpy_cleared h⟩
  | manager => exact Or.inl ⟨nofun, strncpy_cleared h⟩
  | answer => exact Or.inl ⟨nofun, _, rfl⟩
  | band =>
    by_cases hshort : s.length + 1 < buffer.length
    · exact Or.inl ⟨fun _ => Or.inl hshort, strncpy_short buffer s hshort⟩
    · obtain ⟨c, hc, hfill⟩ := strncpy_full buffer s (by omega)
      by_cases hnul : c = nul
      · subst hnul
        exact Or.inl ⟨fun _ => Or.inr hc, [], hfill⟩
      · refine Or.inr ⟨fun hclosed => ?_, c, hnul, hfill⟩
        rcases hclosed rfl with hlen | hlast
        · exact hshort hlen
        · rw [hc] at hlast
          exact hnul (Option.some.inj hlast)

/-- **Splitting in place.** The loop ends, reads nothing behind the zero of the text and sees
exactly its segments, if and only if the text is no band list that leaves one byte of its
buffer, where no zero stands. -/
theorem split_iff (w : Splitter) (sep : Char) (buffer s : List Char) (hsep : sep ≠ nul)
    (hnul : nul ∉ s) (hfit : s.length < buffer.length) :
    Ends (splitTurn s.length sep) (Split.start (w.fill buffer s)) (segments sep s) ↔
      Closed w buffer s := by
  rcases fill_eq w hfit with ⟨hclosed, junk, hfill⟩ | ⟨hopen, c, hc, hfill⟩
  · refine iff_of_true ?_ hclosed
    rw [hfill, ← tokLoop_eq_segments]
    exact (ends_split 0 [] s junk [] hsep hnul (Nat.zero_add _) _).mpr rfl
  · refine iff_of_false ?_ hopen
    have hmem : nul ∉ s ++ [c] := by simp [hnul, hc.symm]
    rw [hfill]
    exact not_ends_unterminated 0 [] (s ++ [c]) [] hsep hmem (by simp) _

/-- A list of managers that fits into the buffer. -/
theorem split_iff_managers :
    Ends (splitTurn 5 ';') (Split.start (Splitter.manager.fill (List.replicate 8 '?')
        "a;;b;".toList)) (segments ';' "a;;b;".toList) ↔
      Closed .manager (List.replicate 8 '?') "a;;b;".toList :=
  split_iff .manager ';' (List.replicate 8 '?') "a;;b;".toList (by decide) (by decide) (by decide)

/-- A list of bands that leaves one byte of the buffer. -/
def longBands : List Char := List.replicate (lineMax - 1) '1'

/-- The loop over the long list of bands runs out of the buffer. -/
theorem longBands_run_out :
    longBands.length < lineMax ∧ ∀ r,
      ¬ Ends (splitTurn longBands.length ',')
        (Split.start (Splitter.band.fill (List.replicate lineMax '1') longBands)) r := by
  have hlen : longBands.length = lineMax - 1 := List.length_replicate
  refine ⟨by rw [hlen]; decide, fun r => ?_⟩
  have hfill : ∀ n, 0 < n →
      Splitter.band.fill (List.replicate n '1') (List.replicate (n - 1) '1') =
        List.replicate n '1' := by
    intro n hn
    have hrest : n - (n - 1) = 1 := by omega
    have hwhole : List.replicate (n - 1) '1' ++ ['1'] = List.replicate n '1' := by
      rw [← List.replicate_succ', Nat.sub_add_cancel hn]
    simpa [Splitter.fill, strncpy, hrest] using hwhole
  have hnul : nul ∉ List.replicate lineMax '1' := by
    rw [List.mem_replicate]
    exact fun h => absurd h.2 (by decide)
  rw [hlen]
  unfold longBands
  rw [hfill lineMax (by decide)]
  refine not_ends_unterminated 0 [] _ [] (by decide) hnul ?_ r
  rw [List.length_nil, List.length_replicate]
  decide

/-! ## The segments the components are modelled with -/

/-- Of a text that is too long the copy keeps what fits. -/
theorem strncpy_take (buffer s : List Char) (n : ℕ) :
    strncpy buffer s n = strncpy buffer (s.take n) n := by
  unfold strncpy
  rw [List.take_take, Nat.min_self, List.length_take]
  congr 3
  omega

/-- In a cleared buffer of `LINE_MAX` bytes the loop sees the segments `tokSegments` gives. -/
theorem ends_tokSegments {w : Splitter} (hw : w = .pppopt ∨ w = .manager) {sep : Char}
    {buffer : List Char} {ptr : String} (hsep : sep ≠ nul) (hnul : nul ∉ ptr.toList)
    (hsize : buffer.length = lineMax) :
    Ends (splitTurn (ptr.toList.take (lineMax - 1)).length sep)
      (Split.start (w.fill buffer ptr.toList)) ((tokSegments sep ptr).map String.toList) := by
  have hfits : (ptr.toList.take (lineMax - 1)).length < lineMax := by
    rw [List.length_take]
    have hpos : 0 < lineMax := by decide
    omega
  obtain ⟨junk, hfill⟩ := strncpy_cleared hfits
  have hcells : w.fill buffer ptr.toList = ptr.toList.take (lineMax - 1) ++ nul :: junk := by
    rcases hw with rfl | rfl
    · unfold Splitter.fill
      rw [hsize, strncpy_take, hfill]
    · unfold Splitter.fill
      rw [hsize, strncpy_take, hfill]
  have hseen : (tokSegments sep ptr).map String.toList =
      tokLoop sep [] (ptr.toList.take (lineMax - 1)) := by
    simp [tokSegments]
  rw [hcells, hseen]
  exact (ends_split 0 [] _ junk [] hsep (fun h => hnul (List.mem_of_mem_take h))
    (Nat.zero_add _) _).mpr rfl

/-- On an answer the loop sees its lines. -/
theorem ends_lines {buffer ack : List Char} (hnul : nul ∉ ack) :
    Ends (splitTurn ack.length '\n') (Split.start (Splitter.answer.fill buffer ack)) (lines ack) :=
  (ends_split 0 [] ack _ [] (by decide) hnul (Nat.zero_add _) _).mpr rfl

end Tiger.Analysis.SplittingLoop
