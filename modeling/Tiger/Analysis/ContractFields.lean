import Tiger.Analysis.ScanRules
import Tiger.Model.Modemdrv.Em350

/-!
# The fields of the answer to `AT+CGCONTRDP`

Four patterns are tried one after the other, each a field shorter than the one before. The
fields of a shorter pattern are the first ones of a longer one (`scan_commaFields_take`),
so the patterns come to the fields up to the first empty one, seven at most, where there
are four of them (`contractFields_eq`), and the operation succeeds exactly when
`contractOf` does (`cgcontrdp_succeeds`).
-/

set_option autoImplicit false

namespace Tiger.Analysis.ContractFields

open Tiger.Library Tiger.Model Tiger.Model.Em350
open Tiger.Analysis.ScanRules

/-- A field more in front, with its comma. -/
theorem commaFields_succ (n : ℕ) :
    commaFields (n + 1) = .field ',' :: .lit ',' :: commaFields n := rfl

/-! ## Patterns of different length -/

/-- A shorter pattern finds the first fields of a longer one. -/
theorem scan_commaFields_take {n m : ℕ} (h : n ≤ m) (s : List Char) :
    (scan (commaFields n) s).fields = (scan (commaFields m) s).fields.take n := by
  induction n generalizing m s with
  | zero => rw [List.take_zero]; rfl
  | succ n ih =>
    obtain ⟨m, rfl⟩ : ∃ k, m = k + 1 := ⟨m - 1, by omega⟩
    rw [commaFields_succ, commaFields_succ, scan_field_lit, scan_field_lit]
    split
    · rfl
    · rw [List.take_succ_cons]
      split
      · rw [List.take_nil]
      · rw [ih (Nat.le_of_succ_le_succ h)]

/-- As many fields are read as are asked for, at most. -/
theorem length_scan_commaFields (n : ℕ) (s : List Char) :
    (scan (commaFields n) s).fields.length ≤ n := by
  rw [scan_commaFields_take (le_refl n)]
  exact List.length_take_le n _

/-- In a text of fields, the fields up to the first empty one are found. -/
theorem scan_commaFields_delimited (n : ℕ) (f : List Char) (fs : List (List Char))
    (h : ∀ x ∈ f :: fs, ',' ∉ x) :
    (scan (commaFields n) (delimited ',' f fs)).fields =
      (((f :: fs).takeWhile (· ≠ [])).take n).map .str := by
  induction n generalizing f fs with
  | zero => rw [List.take_zero]; rfl
  | succ n ih =>
    have hf : ',' ∉ f := h f List.mem_cons_self
    rw [commaFields_succ, scan_field_lit]
    by_cases hempty : f = []
    · subst hempty
      rw [List.takeWhile_cons_of_neg (by simp), List.take_nil, List.map_nil]
      cases fs with
      | nil => rw [delimited_nil, if_pos (Or.inl rfl)]
      | cons g fs => rw [delimited_cons, List.nil_append, List.head?_cons,
          if_pos (Or.inr rfl)]
    · obtain ⟨c, f, rfl⟩ := List.exists_cons_of_ne_nil hempty
      have hc : c ≠ ',' := by
        rintro rfl
        exact hf List.mem_cons_self
      have hgo : ¬ (delimited ',' (c :: f) fs = [] ∨
          (delimited ',' (c :: f) fs).head? = some ',') := by
        simp [delimited, hc]
      rw [if_neg hgo, List.takeWhile_cons_of_pos (by simp), List.take_succ_cons, List.map_cons]
      cases fs with
      | nil =>
        rw [delimited_nil, takeWhile_ne_of_notMem hf, dropWhile_ne_of_notMem hf, if_pos rfl,
          List.takeWhile_nil, List.take_nil, List.map_nil]
      | cons g fs =>
        rw [delimited_cons, takeWhile_ne_append hf, dropWhile_ne_append hf,
          if_neg (List.cons_ne_nil _ _), List.tail_cons,
          ih g fs fun x hx => h x (List.mem_cons_of_mem _ hx)]

/-- The fields are texts. -/
theorem str_of_mem_commaFields {n : ℕ} {s : List Char} {x : Field}
    (hx : x ∈ (scan (commaFields n) s).fields) : ∃ t, x = .str t := by
  induction n generalizing s with
  | zero => exact absurd hx List.not_mem_nil
  | succ n ih =>
    rw [commaFields_succ, scan_field_lit] at hx
    split at hx
    · exact absurd hx List.not_mem_nil
    · rcases List.mem_cons.mp hx with rfl | hx
      · exact ⟨_, rfl⟩
      · split at hx
        · exact absurd hx List.not_mem_nil
        · exact ih hx

/-- The patterns find the fields up to the first empty one, seven at most, if there are four. -/
theorem contractFields_eq (s : List Char) :
    contractFields s =
      if 4 ≤ (scan (commaFields 7) s).fields.length then some (scan (commaFields 7) s).fields
      else none := by
  have hlen := length_scan_commaFields 7 s
  have htake : ∀ n ≤ 7, (scan (commaFields n) s).fields =
      (scan (commaFields 7) s).fields.take n := fun n hn => scan_commaFields_take hn s
  unfold contractFields
  generalize (scan (commaFields 7) s).fields = fields at htake hlen ⊢
  have hstep : ∀ n ≤ 7, (if (scan (commaFields n) s).fields.length = n then
      some (scan (commaFields n) s).fields else none) =
      if n ≤ fields.length then some (fields.take n) else none := by
    intro n hn
    have hiff : (fields.take n).length = n ↔ n ≤ fields.length := by
      rw [List.length_take]
      omega
    rw [htake n hn]
    simp only [hiff]
  simp only [List.findSome?_cons, List.findSome?_nil]
  rw [hstep 7 (by omega), hstep 6 (by omega), hstep 5 (by omega), hstep 4 (by omega)]
  by_cases hfour : 4 ≤ fields.length
  · have hwhole : ∀ n, fields.length ≤ n → fields.take n = fields :=
      fun n hn => List.take_of_length_le hn
    rw [if_pos hfour]
    have hcases : fields.length = 4 ∨ fields.length = 5 ∨ fields.length = 6 ∨
        fields.length = 7 := by omega
    rcases hcases with h | h | h | h <;> simp [h, hwhole]
  · rw [if_neg hfour, if_neg hfour, if_neg (by omega), if_neg (by omega), if_neg (by omega)]

/-! ## The operation -/

/-- The fields in front of the address, the address, and the fields behind it. -/
theorem fields_eq_of_length {s : List Char}
    (h : 4 ≤ (scan (commaFields 7) s).fields.length) :
    ∃ cid id apn sipmask more,
      (scan (commaFields 7) s).fields =
        .str cid :: .str id :: .str apn :: .str sipmask :: more := by
  have hstr : ∀ x ∈ (scan (commaFields 7) s).fields, ∃ t, x = .str t :=
    fun x hx => str_of_mem_commaFields hx
  generalize (scan (commaFields 7) s).fields = fields at h hstr ⊢
  rcases fields with _ | ⟨a, _ | ⟨b, _ | ⟨c, _ | ⟨e, more⟩⟩⟩⟩
  · simp at h
  · simp at h
  · simp at h
  · simp at h
  · obtain ⟨cid, rfl⟩ := hstr a (by simp)
    obtain ⟨id, rfl⟩ := hstr b (by simp)
    obtain ⟨apn, rfl⟩ := hstr c (by simp)
    obtain ⟨sipmask, rfl⟩ := hstr e (by simp)
    exact ⟨cid, id, apn, sipmask, more, rfl⟩

/-- The pattern without the last comma finds the same four fields. -/
theorem scan_four (s : List Char) :
    (scan [.field ',', .lit ',', .field ',', .lit ',', .field ',', .lit ',', .field ','] s).fields =
      (scan (commaFields 7) s).fields.take 4 := by
  have hlast : ∀ s : List Char, (scan [.field ','] s).fields = (scan (commaFields 1) s).fields := by
    intro s
    rw [commaFields_succ, scan_field_lit, scan]
    by_cases hempty : s = []
    · rw [if_pos hempty, if_pos (Or.inl hempty)]
    · by_cases hhead : s.head? = some ','
      · rw [if_neg hempty, if_pos hhead, if_pos (Or.inr hhead)]
      · rw [if_neg hempty, if_neg hhead, if_neg (not_or.mpr ⟨hempty, hhead⟩)]
        split <;> rfl
  rw [← scan_commaFields_take (by decide : 4 ≤ 7)]
  simp only [commaFields_succ, scan_field_lit, hlast]

/-- A pattern of numbers finds numbers. -/
theorem num_of_mem_scan {ds : List Directive} (hds : ∀ d ∈ ds, d = .int ∨ ∃ c, d = .lit c)
    {s : List Char} {x : Field} (hx : x ∈ (scan ds s).fields) : ∃ n, x = .num n := by
  induction ds generalizing s with
  | nil => exact absurd hx List.not_mem_nil
  | cons d ds ih =>
    have hrest : ∀ d ∈ ds, d = .int ∨ ∃ c, d = .lit c :=
      fun d' hd' => hds d' (List.mem_cons_of_mem _ hd')
    rcases hds d List.mem_cons_self with rfl | ⟨c, rfl⟩
    · rw [scan] at hx
      split at hx
      · exact absurd hx List.not_mem_nil
      split at hx
      · rcases List.mem_cons.mp hx with rfl | hx
        · exact ⟨_, rfl⟩
        · exact ih hrest hx
      · exact absurd hx List.not_mem_nil
    · cases s with
      | nil => exact absurd hx List.not_mem_nil
      | cons c' s =>
        rw [scan] at hx
        split at hx
        · exact ih hrest hx
        · exact absurd hx List.not_mem_nil

/-- Fields that are all numbers are a list of numbers. -/
theorem exists_map_num {fields : List Field} (h : ∀ x ∈ fields, ∃ n, x = .num n) :
    ∃ ns : List ℤ, fields = ns.map .num := by
  induction fields with
  | nil => exact ⟨[], rfl⟩
  | cons x fields ih =>
    obtain ⟨n, rfl⟩ := h x List.mem_cons_self
    obtain ⟨ns, rfl⟩ := ih fun y hy => h y (List.mem_cons_of_mem _ hy)
    exact ⟨n :: ns, rfl⟩

/-- Eight numbers are found exactly when the address and the mask are. -/
theorem addressAndMask_isSome (s : String) :
    (addressAndMask s).isSome = eightGroups s.toList := by
  have hnum : ∀ x ∈ (scan groupsFormat s.toList).fields, ∃ n, x = .num n := by
    intro x hx
    refine num_of_mem_scan (fun d hd => ?_) hx
    simp only [groupsFormat, List.mem_cons, List.not_mem_nil, or_false] at hd
    rcases hd with rfl | rfl | rfl | rfl | rfl | rfl | rfl | rfl | rfl | rfl | rfl | rfl | rfl |
      rfl | rfl <;> simp
  have hgroups : eightGroups s.toList =
      decide ((scan groupsFormat s.toList).fields.length = 8) := rfl
  rw [hgroups]
  unfold addressAndMask
  generalize (scan groupsFormat s.toList).fields = fields at hnum ⊢
  split
  · rfl
  · next hnot =>
    change false = decide _
    rw [eq_comm, decide_eq_false_iff_not]
    intro hlen
    obtain ⟨ns, rfl⟩ := exists_map_num hnum
    rw [List.length_map] at hlen
    rcases ns with _ | ⟨p1, _ | ⟨p2, _ | ⟨p3, _ | ⟨p4, _ | ⟨p5, _ | ⟨p6, _ | ⟨p7, _ | ⟨p8,
      _ | ⟨p9, ns⟩⟩⟩⟩⟩⟩⟩⟩⟩
    case cons.cons.cons.cons.cons.cons.cons.cons.nil =>
      exact hnot p1 p2 p3 p4 p5 p6 p7 p8 rfl
    all_goals simp at hlen

/-- The operation succeeds exactly when the address and the mask are found. -/
theorem cgcontrdp_succeeds (ack : List Char) :
    (cgcontrdpOf ack).any eightGroups = (contractOf ack).succeeds := by
  unfold cgcontrdpOf contractOf
  cases strstr "CGCONTRDP:".toList ack with
  | none => rfl
  | some str =>
    simp only [Option.map_some, Option.bind_some, scan_four, contractFields_eq]
    by_cases hfour : 4 ≤ (scan (commaFields 7) str).fields.length
    · obtain ⟨cid, id, apn, sipmask, more, hfields⟩ := fields_eq_of_length hfour
      rw [if_pos hfour, hfields]
      simp only [List.take_succ_cons, List.take_zero]
      cases contains "0.0.0.0" sipmask with
      | true => rfl
      | false =>
        simp only [Bool.false_eq_true, if_false, Option.any_some, innerText]
        rw [addressAndMask_isSome, String.toList_ofList]
    · rw [if_neg hfour]
      have hshort : ((scan (commaFields 7) str).fields.take 4).length < 4 := by
        rw [List.length_take]
        omega
      have hnone : ∀ a b c e, ((scan (commaFields 7) str).fields.take 4) ≠ [a, b, c, e] := by
        intro a b c e h
        rw [h] at hshort
        exact absurd hshort (by simp)
      split
      · next heq => exact absurd (Option.some.inj heq) (hnone _ _ _ _)
      · rfl

end Tiger.Analysis.ContractFields
