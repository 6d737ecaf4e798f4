import Mathlib.Data.List.DropRight
import Tiger.Model.Buffers
import Tiger.Model.Modemdrv.Common

/-!
# Trimming the number of the card

`em350_iccid` trims its buffer from the end and then from the start. Each loop puts zeros
over what is neither letter nor digit (`ends_trimEnd`, `ends_trimStart`). On a token with a
letter or a digit both stay in the buffer and give the trimmed token; on any other the loop
from the end leaves the buffer at its start (`trims_iff`).
-/

set_option autoImplicit false

namespace Tiger.Analysis.IccidTrim

open Tiger.Library Tiger.Model Tiger.Model.Buffers

/-! ## The parts of a token -/

/-- What is trimmed. -/
abbrev Other (c : Char) : Prop := c.isAlphanum = false

/-- A token is its trimmed part with other characters on both sides. -/
structure Parts (token front back : List Char) : Prop where
  eq : token = front ++ trimAlnum token ++ back
  front_other : ∀ c ∈ front, Other c
  back_other : ∀ c ∈ back, Other c
  first : ∃ c rest, trimAlnum token = c :: rest ∧ ¬ Other c
  last : ∃ rest c, trimAlnum token = rest ++ [c] ∧ ¬ Other c

variable {token : List Char}

/-- Trimming takes other characters off both ends. -/
theorem trimAlnum_eq (token : List Char) :
    trimAlnum token = (token.dropWhile (! ·.isAlphanum)).rdropWhile (! ·.isAlphanum) := rfl

/-- A token with a letter or a digit has a trimmed part. -/
theorem exists_parts (h : ∃ c ∈ token, ¬ Other c) : ∃ front back, Parts token front back := by
  obtain ⟨a, ha, halnum⟩ := h
  have hother : ∀ c : Char, (!c.isAlphanum) = true ↔ Other c := fun c => by simp
  -- the token begins to be kept at a letter or digit
  obtain ⟨c, rest, hdrop⟩ : ∃ c rest, token.dropWhile (! ·.isAlphanum) = c :: rest := by
    apply List.exists_cons_of_ne_nil
    rw [ne_eq, List.dropWhile_eq_nil_iff]
    exact fun hall => halnum ((hother a).mp (hall a ha))
  have hc : ¬ Other c := by
    have hhead := List.head_dropWhile_not (p := fun c : Char => ! c.isAlphanum) (l := token)
      (by simp [hdrop])
    simpa [hdrop] using hhead
  have hne : trimAlnum token ≠ [] := by
    rw [trimAlnum_eq, ne_eq, List.rdropWhile_eq_nil_iff]
    exact fun hall => hc ((hother c).mp (hall c (hdrop ▸ List.mem_cons_self)))
  refine ⟨token.takeWhile (! ·.isAlphanum),
    (token.dropWhile (! ·.isAlphanum)).rtakeWhile (! ·.isAlphanum), ?_, ?_, ?_, ?_, ?_⟩
  · rw [trimAlnum_eq, List.append_assoc, List.rdropWhile_append_rtakeWhile,
      List.takeWhile_append_dropWhile]
  · intro c hmem
    exact (hother c).mp (List.mem_takeWhile_imp (p := fun c : Char => ! c.isAlphanum) hmem)
  · intro c hmem
    exact (hother c).mp (List.mem_rtakeWhile_imp (p := fun c : Char => ! c.isAlphanum) hmem)
  · obtain ⟨c', rest', htrim⟩ := List.exists_cons_of_ne_nil hne
    have hprefix := List.rdropWhile_prefix (! ·.isAlphanum) (token.dropWhile (! ·.isAlphanum))
    rw [← trimAlnum_eq, htrim, hdrop, List.cons_prefix_cons] at hprefix
    exact ⟨c', rest', htrim, hprefix.1 ▸ hc⟩
  · have hlast := List.rdropWhile_last_not (fun c : Char => ! c.isAlphanum) _ hne
    refine ⟨(trimAlnum token).dropLast, (trimAlnum token).getLast hne,
      (List.dropLast_append_getLast hne).symm, ?_⟩
    exact fun hlast' => hlast ((hother _).mpr hlast')

/-! ## The loops -/

/-- The cell behind what is done holds the next character. -/
theorem cellAt_append (done : List Char) (c : Char) (rest : List Char) :
    cellAt (done ++ c :: rest) done.length = some c := by
  simp [cellAt]

/-- Writing a zero there replaces that character. -/
theorem set_append (done : List Char) (c : Char) (rest : List Char) :
    (done ++ c :: rest).set (done.length : ℤ).toNat nul = done ++ nul :: rest := by
  rw [Int.toNat_natCast, List.set_append_right _ _ le_rfl, Nat.sub_self, List.set_cons_zero]

/-- A letter or a digit is not the terminator. -/
theorem ne_nul_of_not_other {c : Char} (h : ¬ Other c) : c ≠ nul := by
  rintro rfl
  exact h (by decide)

/-- **The loop from the end.** It puts zeros over the last characters that are neither letters
nor digits. -/
theorem ends_trimEnd (keep back rest r : List Char) (hback : ∀ c ∈ back, Other c)
    (hnul : nul ∉ back) :
    Ends trimEndTurn ⟨keep ++ back ++ rest, (keep.length : ℤ) + back.length - 1⟩ r ↔
      Ends trimEndTurn
        ⟨keep ++ List.replicate back.length nul ++ rest, (keep.length : ℤ) - 1⟩ r := by
  induction back using List.reverseRecOn generalizing rest with
  | nil => simp
  | append_singleton back c ih =>
    have hc : Other c := hback c (by simp)
    have hne : c ≠ nul := fun h => hnul (h ▸ by simp)
    have hpos : ((keep ++ back).length : ℤ) = (keep.length : ℤ) + (back ++ [c]).length - 1 := by
      simp only [List.length_append, List.length_singleton]
      omega
    have hcells : keep ++ (back ++ [c]) ++ rest = (keep ++ back) ++ c :: rest := by simp
    have hstep : trimEndTurn ⟨(keep ++ back) ++ c :: rest, ((keep ++ back).length : ℤ)⟩ =
        .again ⟨(keep ++ back) ++ nul :: rest, ((keep ++ back).length : ℤ) - 1⟩ := by
      unfold trimEndTurn
      simp only [cellAt_append, set_append, if_neg hne, hc]
      rfl
    have hrest := ih (nul :: rest) (fun c' hc' => hback c' (List.mem_append_left _ hc'))
      fun h => hnul (List.mem_append_left _ h)
    have hzeros : List.replicate (back ++ [c]).length nul ++ rest =
        List.replicate back.length nul ++ nul :: rest := by
      simp [List.replicate_succ']
    rw [hcells, ← hpos, ends_iff_of_again hstep, List.length_append, Nat.cast_add, hrest,
      List.append_assoc, List.append_assoc, hzeros]

/-- At a letter or a digit the loop from the end stops. -/
theorem ends_trimEnd_kept {c : Char} (hc : ¬ Other c) (keep rest r : List Char) :
    Ends trimEndTurn ⟨keep ++ c :: rest, keep.length⟩ r ↔ keep ++ c :: rest = r := by
  have hdone : trimEndTurn ⟨keep ++ c :: rest, keep.length⟩ = .done (keep ++ c :: rest) := by
    unfold trimEndTurn
    simp only [cellAt_append, if_neg (ne_nul_of_not_other hc)]
    rw [if_pos (Bool.of_not_eq_false hc)]
  exact ends_iff_of_done hdone

/-- In front of the buffer it faults. -/
theorem not_ends_trimEnd (cells r : List Char) : ¬ Ends trimEndTurn ⟨cells, -1⟩ r :=
  not_ends_of_fault rfl

/-- **The loop from the start.** It puts zeros over the first characters that are neither letters
nor digits. -/
theorem ends_trimStart (done front rest : List Char) (r : List Char × ℕ)
    (hfront : ∀ c ∈ front, Other c) (hnul : nul ∉ front) :
    Ends trimStartTurn ⟨done ++ front ++ rest, done.length⟩ r ↔
      Ends trimStartTurn ⟨done ++ List.replicate front.length nul ++ rest,
        (done.length : ℤ) + front.length⟩ r := by
  induction front generalizing done with
  | nil => simp
  | cons c front ih =>
    have hc : Other c := hfront c List.mem_cons_self
    have hne : c ≠ nul := fun h => hnul (h ▸ List.mem_cons_self)
    have hcells : done ++ c :: front ++ rest = done ++ c :: (front ++ rest) := by simp
    have hstep : trimStartTurn ⟨done ++ c :: (front ++ rest), done.length⟩ =
        .again ⟨done ++ nul :: (front ++ rest), (done.length : ℤ) + 1⟩ := by
      unfold trimStartTurn
      simp only [cellAt_append, set_append, if_neg hne, hc]
      rfl
    have hrest := ih (done ++ [nul]) (fun c' hc' => hfront c' (List.mem_cons_of_mem _ hc'))
      fun h => hnul (List.mem_cons_of_mem _ h)
    rw [hcells, ends_iff_of_again hstep]
    simpa [List.replicate_succ, add_assoc, add_comm, add_left_comm] using hrest

/-- The first loop ends at a letter or a digit. -/
theorem ends_trimStart_kept {c : Char} (hc : ¬ Other c) (done rest : List Char)
    (r : List Char × ℕ) :
    Ends trimStartTurn ⟨done ++ c :: rest, done.length⟩ r ↔
      (done ++ c :: rest, done.length) = r := by
  have hdone : trimStartTurn ⟨done ++ c :: rest, done.length⟩ =
      .done (done ++ c :: rest, done.length) := by
    unfold trimStartTurn
    simp only [cellAt_append, if_neg (ne_nul_of_not_other hc)]
    rw [if_pos (Bool.of_not_eq_false hc), Int.toNat_natCast]
  exact ends_iff_of_done hdone

/-! ## The whole trimming -/

/-- The token that is read back from the buffer, where it fits. -/
theorem iccidbuf_eq (hfit : token.length < nameMax) :
    ∃ n, iccidbuf token = token ++ List.replicate (n + 1) nul :=
  ⟨nameMax - token.length - 1, by unfold iccidbuf; congr 2; omega⟩

/-- A text in front of zeros is read back. -/
theorem textAt_zeros {f : List Char} (h : nul ∉ f) (n : ℕ) :
    textAt nul (f ++ List.replicate (n + 1) nul) = some f := by
  rw [List.replicate_succ]
  exact textAt_append h _

/-- A token with a letter or a digit that fits is trimmed. -/
theorem trims_of_parts {front back : List Char} (p : Parts token front back) (hnul : nul ∉ token)
    (hfit : token.length < nameMax) : Trims (iccidbuf token) (trimAlnum token) := by
  obtain ⟨n, hbuf⟩ := iccidbuf_eq hfit
  have hparts : nul ∉ front ∧ nul ∉ trimAlnum token ∧ nul ∉ back := by
    have h := hnul
    rw [p.eq] at h
    simpa [and_assoc] using h
  obtain ⟨c, rest, hfirst, hc⟩ := p.first
  obtain ⟨rest', c', hlast, hc'⟩ := p.last
  have hzeros : List.replicate back.length nul ++ List.replicate (n + 1) nul =
      List.replicate (back.length + n + 1) nul := by
    rw [List.replicate_append_replicate, Nat.add_assoc]
  refine ⟨token, front ++ trimAlnum token ++ List.replicate (back.length + n + 1) nul,
    List.replicate front.length nul ++ trimAlnum token ++
      List.replicate (back.length + n + 1) nul, front.length, ?_, ?_, ?_, ?_⟩
  · rw [hbuf]
    exact textAt_zeros hnul n
  · have hlen : (token.length : ℤ) - 1 =
        ((front ++ trimAlnum token).length : ℤ) + back.length - 1 := by
      conv_lhs => rw [p.eq]
      simp only [List.length_append]
      omega
    have hkept : front ++ trimAlnum token = (front ++ rest') ++ [c'] := by
      rw [hlast, List.append_assoc]
    have hstart : iccidbuf token =
        front ++ trimAlnum token ++ back ++ List.replicate (n + 1) nul := by
      rw [hbuf, ← p.eq]
    have hptr : ((front ++ trimAlnum token).length : ℤ) - 1 = ((front ++ rest').length : ℤ) := by
      rw [hkept, List.length_append, List.length_singleton]
      omega
    rw [hstart, hlen, ends_trimEnd _ back _ _ p.back_other hparts.2.2, hptr, List.append_assoc,
      hzeros, hkept, List.append_assoc, List.singleton_append]
    exact (ends_trimEnd_kept hc' _ _ _).mpr rfl
  · have hstep := ends_trimStart [] front
      (trimAlnum token ++ List.replicate (back.length + n + 1) nul)
      (List.replicate front.length nul ++ trimAlnum token ++
        List.replicate (back.length + n + 1) nul, front.length) p.front_other hparts.1
    have hdone := ends_trimStart_kept hc (List.replicate front.length nul)
      (rest ++ List.replicate (back.length + n + 1) nul)
      (List.replicate front.length nul ++ trimAlnum token ++
        List.replicate (back.length + n + 1) nul, front.length)
    rw [List.length_replicate] at hdone
    rw [List.nil_append, ← List.append_assoc, List.length_nil, Nat.cast_zero, zero_add,
      List.nil_append] at hstep
    refine hstep.mpr ?_
    rw [hfirst] at hdone ⊢
    refine hdone.mpr ?_
    rw [List.append_assoc, List.cons_append]
  · rw [List.append_assoc, List.drop_append_of_le_length (by simp),
      List.drop_of_length_le (by simp), List.nil_append]
    exact textAt_zeros hparts.2.1 _

/-- On a token without letters and digits the loop from the end does not end. -/
theorem not_trims (hother : ∀ c ∈ token, Other c) (hnul : nul ∉ token)
    (hfit : token.length < nameMax) (iccid : List Char) : ¬ Trims (iccidbuf token) iccid := by
  obtain ⟨n, hbuf⟩ := iccidbuf_eq hfit
  rintro ⟨text, kept, trimmed, start, htext, hend, -⟩
  rw [hbuf, textAt_zeros hnul] at htext
  have hstep := ends_trimEnd [] token (List.replicate (n + 1) nul) kept hother hnul
  rw [List.nil_append, List.length_nil, Nat.cast_zero, zero_add, zero_sub] at hstep
  rw [hbuf, ← Option.some.inj htext] at hend
  exact not_ends_trimEnd _ _ (hstep.mp hend)

/-- **The number of the card.** Both loops end within the buffer and leave the token without its
leading and trailing other characters, if and only if it holds a letter or a digit. -/
theorem trims_iff (token : List Char) (hnul : nul ∉ token) (hfit : token.length < nameMax) :
    Trims (iccidbuf token) (trimAlnum token) ↔ ∃ c ∈ token, c.isAlphanum = true := by
  by_cases h : ∃ c ∈ token, ¬ Other c
  · refine iff_of_true ?_ ?_
    · obtain ⟨front, back, p⟩ := exists_parts h
      exact trims_of_parts p hnul hfit
    · obtain ⟨c, hmem, hc⟩ := h
      exact ⟨c, hmem, Bool.of_not_eq_false hc⟩
  · refine iff_of_false ?_ ?_
    · refine not_trims (fun c hc => ?_) hnul hfit _
      by_contra hother
      exact h ⟨c, hc, hother⟩
    · rintro ⟨c, hmem, hc⟩
      exact h ⟨c, hmem, by simp [hc]⟩

/-- The number of a card between quotes. -/
theorem trims_iff_card :
    Trims (iccidbuf "\"8986F\",".toList) (trimAlnum "\"8986F\",".toList) ↔
      ∃ c ∈ "\"8986F\",".toList, c.isAlphanum = true :=
  trims_iff "\"8986F\",".toList (by decide) (by decide)

/-- The loop from the end runs out of the buffer on a token of marks. -/
theorem marks_not_trimmed : ¬ ∃ iccid, Trims (iccidbuf "--".toList) iccid := by
  rintro ⟨iccid, htrims⟩
  exact not_trims (List.forall_iff_forall_mem.mp (by decide)) (by decide) (by decide) iccid htrims

end Tiger.Analysis.IccidTrim
