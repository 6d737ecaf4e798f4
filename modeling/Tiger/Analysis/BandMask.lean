import Tiger.Analysis.ScanRules
import Tiger.Library.ByteMask
import Tiger.Model.Modemdrv.Zte7520

/-!
# The band mask of the ZTE 7520

The bands are given as numbers with commas between them, and the modem takes them as a mask
of eight bytes. The numbers are put into the mask one by one, and the mask is sent when its
text does not stand in the answer to a question for the current one. A number above 64
sets no bit but counts as a band, and above 88 it shifts out of an `int`; a mask whose text
stands in that of another one is taken for it (`band_iff`).
-/

set_option autoImplicit false

namespace Tiger.Analysis.BandMask

open Tiger.Library Tiger.Model Tiger.Model.Zte7520
open Tiger.Analysis.ScanRules

/-! ## Bands and masks -/

/-- Band sets that fit into the buffer with the end of the text, which `strncpy` writes only when
there is room for it. -/
abbrev Bandsets := { s : String // s.length + 1 < lineMax }

/-- The numbers between the commas. -/
def Bandsets.numbers (s : Bandsets) : List ℤ :=
  (s.1.toList.splitOn ',').map fun tok => atoi (String.ofList tok)

/-- A mask of eight bytes. -/
structure Mask where
  bytes : List ℕ
  eight : bytes.length = 8
  byte : ∀ x ∈ bytes, x < 256
  deriving DecidableEq

/-- A mask as it is sent. -/
def Mask.text (mask : Mask) : String := ",".intercalate (mask.bytes.map toString)

/-- The bits of the mask are those of the bands. -/
def Mask.Locks (mask : Mask) (bands : List ℤ) : Prop :=
  ∀ b : ℕ, 1 ≤ b → b ≤ 64 → (bitAt mask.bytes (b - 1) = true ↔ (b : ℤ) ∈ bands)

/-- A band the modem has. -/
def Band (b : ℤ) : Prop := 1 ≤ b ∧ b ≤ 64

/-- An answer that states a mask: its text stands there, and no digit beside it. -/
def States (ack : List Char) (mask : Mask) : Prop :=
  ∃ head tail, ack = head ++ mask.text.toList ++ tail ∧
    head.getLast?.any Char.isDigit = false ∧ tail.head?.any Char.isDigit = false

/-- The command that sets a mask given as a text. -/
def setOf (text : String) : Command := .set .zlteband [.raw text]

/-- A command is sent exactly when there is a band and the current mask does not have the bits
of the bands; the mask that is sent has them; and no number shifts out of an `int`. -/
structure Locked (bands : List ℤ) (current : Mask) (sent : List Command) : Prop where
  exact : (∃ text, setOf text ∈ sent) ↔ (∃ b ∈ bands, Band b) ∧ ¬ current.Locks bands
  bits : ∀ text, setOf text ∈ sent → ∃ mask : Mask, text = mask.text ∧ mask.Locks bands
  shift : ∀ b ∈ bands, (bandBit b.toNat).2 < 32

/-- No number is above 88; where there is a band, no mask with its bits stands in the answer but
the current one; and where there is none but a number above 64, the empty mask stands there. -/
structure Plain (bands : List ℤ) (current : Mask) (ack : List Char) : Prop where
  low : ∀ b ∈ bands, b ≤ 88
  told : (∃ b ∈ bands, Band b) → ∀ mask : Mask, mask.Locks bands →
    mask.text.toList <:+: ack → mask = current
  idle : (∃ b ∈ bands, 64 < b) → (∀ b ∈ bands, ¬ Band b) → ∀ mask : Mask, mask.Locks bands →
    mask.text.toList <:+: ack

/-! ## The numbers -/

/-- The loop over the buffer sees the numbers between the commas, but for zeros. -/
theorem mem_numbers_iff (s : Bandsets) {n : ℤ} (hn : n ≠ 0) :
    n ∈ (tokSegments ',' s.1).map atoi ↔ n ∈ s.numbers := by
  have hempty : atoi (String.ofList []) = 0 := by decide
  have hfilter : ∀ ls : List (List Char),
      n ∈ ls.map (fun tok => atoi (String.ofList tok)) ↔
        n ∈ (ls.filter (· ≠ [])).map fun tok => atoi (String.ofList tok) := by
    intro ls
    simp only [List.mem_map, List.mem_filter, decide_eq_true_eq]
    constructor
    · rintro ⟨tok, htok, rfl⟩
      refine ⟨tok, ⟨htok, ?_⟩, rfl⟩
      rintro rfl
      exact hn hempty
    · rintro ⟨tok, ⟨htok, -⟩, rfl⟩
      exact ⟨tok, htok, rfl⟩
  have hwhole : s.1.toList.take (lineMax - 1) = s.1.toList := by
    apply List.take_of_length_le
    have hlen := s.2
    rw [← String.length_toList] at hlen
    omega
  have hsplit := filter_tokLoop ',' [] s.1.toList
  rw [List.splitOnPPrepend_nil_right] at hsplit
  unfold tokSegments Bandsets.numbers
  rw [hwhole, List.map_map]
  change n ∈ (tokLoop ',' [] s.1.toList).map (fun tok => atoi (String.ofList tok)) ↔ _
  rw [hfilter, hsplit, ← hfilter]
  rfl

/-! ## The mask -/

/-- One turn of the loop. -/
def putBand (mask : List ℕ × Bool) (tok : String) : List ℕ × Bool :=
  if (atoi tok).toNat = 0 then mask
  else
    (mask.1.modify (bandBit (atoi tok).toNat).1 (· ||| byteBit (bandBit (atoi tok).toNat).2), true)

/-- The mask is put together band by band. -/
theorem bandMask_eq (toks : List String) :
    bandMask toks = toks.foldl putBand (List.replicate 8 0, false) := rfl

/-- A single bit fits into a byte. -/
theorem byteBit_lt (n : ℕ) : byteBit n < 256 := by
  unfold byteBit
  split
  · next h => exact Nat.pow_lt_pow_right (by decide) h
  · decide

/-- A band sets its own bit, and a number above 64 none. -/
theorem bandBit_iff {n b : ℕ} (hn : n ≠ 0) (hb : b < 64) :
    (decide (b / 8 = (bandBit n).1) && (byteBit (bandBit n).2).testBit (b % 8)) = true ↔
      n = b + 1 := by
  unfold bandBit byteBit
  rw [Bool.and_eq_true, decide_eq_true_eq]
  by_cases hhigh : n ≥ 57
  · simp only [if_pos hhigh]
    by_cases hbyte : n - 57 < 8
    · rw [if_pos hbyte, Nat.testBit_two_pow, decide_eq_true_eq]
      omega
    · rw [if_neg hbyte, Nat.zero_testBit]
      simp only [Bool.false_eq_true, and_false, false_iff]
      omega
  · simp only [if_neg hhigh]
    rw [if_pos (Nat.mod_lt _ (by decide)), Nat.testBit_two_pow, decide_eq_true_eq]
    omega

/-- What a turn of the loop keeps, and the bits after it. -/
theorem putBand_spec {mask : List ℕ × Bool} (hlen : mask.1.length = 8)
    (hbyte : ∀ x ∈ mask.1, x < 256) (tok : String) :
    (putBand mask tok).1.length = 8 ∧ (∀ x ∈ (putBand mask tok).1, x < 256) ∧
      (∀ b < 64, bitAt (putBand mask tok).1 b = true ↔
        bitAt mask.1 b = true ∨ atoi tok = (b + 1 : ℕ)) ∧
      ((putBand mask tok).2 = true ↔ mask.2 = true ∨ 1 ≤ atoi tok) := by
  unfold putBand
  by_cases hn : (atoi tok).toNat = 0
  · rw [if_pos hn]
    refine ⟨hlen, hbyte, fun b hb => ?_, ?_⟩
    · have hne : atoi tok ≠ (b + 1 : ℕ) := by omega
      rw [or_iff_left hne]
    · have hnot : ¬ 1 ≤ atoi tok := by omega
      rw [or_iff_left hnot]
  · rw [if_neg hn]
    have hj : (bandBit (atoi tok).toNat).1 < mask.1.length := by
      rw [hlen]
      unfold bandBit
      split
      · exact (by decide : 7 < 8)
      · omega
    refine ⟨by rw [List.length_modify, hlen], lt_of_mem_modify hbyte _ (byteBit_lt _),
      fun b hb => ?_, ?_⟩
    · have hcast : (atoi tok).toNat = b + 1 ↔ atoi tok = (b + 1 : ℕ) := by omega
      rw [bitAt_modify hj, Bool.or_eq_true, bandBit_iff hn hb, hcast]
    · have hband : 1 ≤ atoi tok := by omega
      simp [hband]

/-- What the whole loop leaves. -/
theorem foldl_putBand (toks : List String) (mask : List ℕ × Bool) (hlen : mask.1.length = 8)
    (hbyte : ∀ x ∈ mask.1, x < 256) :
    (toks.foldl putBand mask).1.length = 8 ∧ (∀ x ∈ (toks.foldl putBand mask).1, x < 256) ∧
      (∀ b < 64, bitAt (toks.foldl putBand mask).1 b = true ↔
        bitAt mask.1 b = true ∨ ((b + 1 : ℕ) : ℤ) ∈ toks.map atoi) ∧
      ((toks.foldl putBand mask).2 = true ↔ mask.2 = true ∨ ∃ n ∈ toks.map atoi, 1 ≤ n) := by
  induction toks generalizing mask with
  | nil => exact ⟨hlen, hbyte, by simp, by simp⟩
  | cons tok toks ih =>
    obtain ⟨hlen', hbyte', hbits, hset⟩ := putBand_spec hlen hbyte tok
    obtain ⟨hlen'', hbyte'', hbits', hset'⟩ := ih _ hlen' hbyte'
    rw [List.foldl_cons]
    refine ⟨hlen'', hbyte'', fun b hb => ?_, ?_⟩
    · rw [hbits' b hb, hbits b hb, List.map_cons, List.mem_cons, or_assoc, eq_comm (a := atoi tok)]
    · rw [hset', hset, List.map_cons, List.exists_mem_cons_iff, or_assoc]

/-- The mask the loop leaves. -/
def requested (s : Bandsets) : Mask where
  bytes := (bandMask (tokSegments ',' s.1)).1
  eight := by
    rw [bandMask_eq]
    exact (foldl_putBand _ (List.replicate 8 0, false) List.length_replicate (by simp)).1
  byte := by
    rw [bandMask_eq]
    exact (foldl_putBand _ (List.replicate 8 0, false) List.length_replicate (by simp)).2.1

/-- The mask has the bits of the bands. -/
theorem requested_locks (s : Bandsets) : (requested s).Locks s.numbers := by
  intro b hone hmax
  have hspec := (foldl_putBand (tokSegments ',' s.1) (List.replicate 8 0, false)
    List.length_replicate (by simp)).2.2.1 (b - 1) (by omega)
  have hb : b - 1 + 1 = b := by omega
  rw [bitAt_replicate_zero, hb, mem_numbers_iff s (by omega), or_iff_right Bool.false_ne_true]
    at hspec
  exact hspec

/-- A mask is asked for when there is a number above zero. -/
theorem asked_iff (s : Bandsets) :
    (bandMask (tokSegments ',' s.1)).2 = true ↔ ∃ n ∈ s.numbers, 1 ≤ n := by
  rw [bandMask_eq,
    (foldl_putBand _ (List.replicate 8 0, false) List.length_replicate (by simp)).2.2.2]
  constructor
  · rintro (h | ⟨n, hn, hone⟩)
    · cases h
    · exact ⟨n, (mem_numbers_iff s (by omega)).mp hn, hone⟩
  · rintro ⟨n, hn, hone⟩
    exact Or.inr ⟨n, (mem_numbers_iff s (by omega)).mpr hn, hone⟩

/-- The bands decide the mask. -/
theorem eq_of_locks {bands : List ℤ} {m m' : Mask} (h : m.Locks bands) (h' : m'.Locks bands) :
    m = m' := by
  have hbytes : m.bytes = m'.bytes := by
    refine eq_of_bitAt (m.eight.trans m'.eight.symm) m.byte m'.byte fun b hb => ?_
    rw [m.eight] at hb
    rw [Bool.eq_iff_iff]
    exact (h (b + 1) (by omega) (by omega)).trans (h' (b + 1) (by omega) (by omega)).symm
  cases m
  cases m'
  cases hbytes
  rfl

/-- The shift of a number is in the range of an `int` up to 88. -/
theorem shift_iff (b : ℤ) : (bandBit b.toNat).2 < 32 ↔ b ≤ 88 := by
  unfold bandBit
  split <;> omega

/-! ## The answer -/

/-- An answer that states a mask holds its text. -/
theorem stands_of_states {ack : List Char} {mask : Mask} (h : States ack mask) :
    mask.text.toList <:+: ack := by
  obtain ⟨head, tail, rfl, -⟩ := h
  exact ⟨head, tail, rfl⟩

section Sent

variable {bands : List ℤ} {current mask : Mask} {ack : List Char} {sent : List Command}

/-- What is sent is right, where the numbers and the answer are plain. -/
theorem locked_of_plain (hmask : mask.Locks bands) (hcurrent : current.text.toList <:+: ack)
    (hsent : ∀ text, setOf text ∈ sent ↔
      (∃ n ∈ bands, 1 ≤ n) ∧ ¬ mask.text.toList <:+: ack ∧ text = mask.text)
    (h : Plain bands current ack) : Locked bands current sent := by
  refine ⟨⟨?_, ?_⟩, fun text htext => ?_, fun b hb => (shift_iff b).mpr (h.low b hb)⟩
  · rintro ⟨text, htext⟩
    obtain ⟨⟨n, hn, hone⟩, hstands, -⟩ := (hsent text).mp htext
    refine ⟨by_contra fun hnone => hstands ?_, fun hlocks => hstands ?_⟩
    · have hno : ∀ b ∈ bands, ¬ Band b := fun b hb hband => hnone ⟨b, hb, hband⟩
      have hhigh : 64 < n := by
        by_contra hlow
        exact hno n hn ⟨hone, by omega⟩
      exact h.idle ⟨n, hn, hhigh⟩ hno mask hmask
    · rwa [eq_of_locks hmask hlocks]
  · rintro ⟨⟨b, hb, hband⟩, hother⟩
    refine ⟨mask.text, (hsent _).mpr ⟨⟨b, hb, hband.1⟩, fun hstands => hother ?_, rfl⟩⟩
    rwa [← h.told ⟨b, hb, hband⟩ mask hmask hstands]
  · exact ⟨mask, ((hsent text).mp htext).2.2, hmask⟩

/-- The numbers and the answer are plain, where what is sent is right. -/
theorem plain_of_locked (hmask : mask.Locks bands)
    (hsent : ∀ text, setOf text ∈ sent ↔
      (∃ n ∈ bands, 1 ≤ n) ∧ ¬ mask.text.toList <:+: ack ∧ text = mask.text)
    (h : Locked bands current sent) : Plain bands current ack := by
  refine ⟨fun b hb => (shift_iff b).mp (h.shift b hb), fun hband mask' hmask' hstands => ?_,
    fun hhigh hnone mask' hmask' => ?_⟩
  · rw [eq_of_locks hmask' hmask] at hstands ⊢
    have hnot : ¬ ∃ text, setOf text ∈ sent := by
      rintro ⟨text, htext⟩
      exact ((hsent text).mp htext).2.1 hstands
    have hlocks : current.Locks bands := by
      by_contra hother
      exact hnot (h.exact.mpr ⟨hband, hother⟩)
    exact eq_of_locks hmask hlocks
  · rw [eq_of_locks hmask' hmask]
    by_contra hstands
    obtain ⟨b, hb, hmax⟩ := hhigh
    obtain ⟨⟨b', hb', hband⟩, -⟩ :=
      h.exact.mp ⟨mask.text, (hsent _).mpr ⟨⟨b, hb, by omega⟩, hstands, rfl⟩⟩
    exact hnone b' hb' hband

end Sent

/-! ## The run -/

section Run

variable {M : Type} (answer : M → Command → Reply × M)

/-- The commands of a run: none where no number is above zero, else the question, and the mask
where it does not stand in the answer. -/
theorem sent_band (bandsets : Bandsets) (m : M) (s : Device)
    (hret : (answer m (.read .zlteband)).1.ret = .succeed) :
    (Script.run answer (band (some bandsets.1)) m s).trace.map Prod.fst =
      if (bandMask (tokSegments ',' bandsets.1)).2 = true then
        .read .zlteband :: (if contains (requested bandsets).text
            (answer m (.read .zlteband)).1.ack = true then []
          else [setOf (requested bandsets).text])
      else [] := by
  have hbuffer : ",".intercalate ((bandMask (tokSegments ',' bandsets.1)).1.map toString) =
      (requested bandsets).text := rfl
  unfold band
  by_cases hset : (bandMask (tokSegments ',' bandsets.1)).2 = true
  · simp only [hset, if_true, hbuffer, tx_bind]
    rw [Script.run]
    cases hstands : contains (requested bandsets).text (answer m (.read .zlteband)).1.ack with
    | true =>
      simp only [hret]
      rfl
    | false =>
      simp only [hret]
      rfl
  · simp only [hset]
    rfl

/-- The mask is sent when there is a number above zero and it does not stand in the answer. -/
theorem mem_sent_band (bandsets : Bandsets) (m : M) (s : Device)
    (hret : (answer m (.read .zlteband)).1.ret = .succeed) (text : String) :
    setOf text ∈ (Script.run answer (band (some bandsets.1)) m s).trace.map Prod.fst ↔
      (∃ n ∈ bandsets.numbers, 1 ≤ n) ∧
        ¬ (requested bandsets).text.toList <:+: (answer m (.read .zlteband)).1.ack ∧
        text = (requested bandsets).text := by
  rw [sent_band answer bandsets m s hret, ← asked_iff, ← contains_iff]
  by_cases hset : (bandMask (tokSegments ',' bandsets.1)).2 = true
  · by_cases hstands : contains (requested bandsets).text (answer m (.read .zlteband)).1.ack = true
    · simp [hset, hstands, setOf]
    · simp [hset, hstands, setOf]
  · simp [hset]

/-- **The band mask.** For every band set and every answer that states the current mask, the
mask of the bands is sent exactly when there is a band and the current mask is another one, and
no number shifts out of range, if and only if no number is above 88, the text of the mask does
not stand in the answer unless it is the current one, and where all numbers above zero are
above 64, the text of the empty mask does stand there. -/
theorem band_iff (bandsets : Bandsets) (current : Mask) (m : M) (s : Device)
    (hret : (answer m (.read .zlteband)).1.ret = .succeed)
    (hack : States (answer m (.read .zlteband)).1.ack current) :
    Locked bandsets.numbers current
        ((Script.run answer (band (some bandsets.1)) m s).trace.map Prod.fst) ↔
      Plain bandsets.numbers current (answer m (.read .zlteband)).1.ack :=
  ⟨plain_of_locked (requested_locks bandsets) (mem_sent_band answer bandsets m s hret),
    locked_of_plain (requested_locks bandsets) (stands_of_states hack)
      (mem_sent_band answer bandsets m s hret)⟩

end Run

/-! ## An answer of one line -/

/-- A modem that answers every command with one mask. -/
def oneMask (mask : Mask) (_ : Unit) (_ : Command) : Reply × Unit :=
  (⟨.succeed, "+ZLTEBAND: ".toList ++ mask.text.toList ++ "\n".toList, [], 0⟩, ())

/-- This modem answers every command with its mask. -/
theorem states_oneMask (mask : Mask) (c : Command) : States (oneMask mask () c).1.ack mask :=
  ⟨"+ZLTEBAND: ".toList, "\n".toList, rfl, by decide, by decide⟩

/-- The mask of the bands 1, 2 and 4. -/
def locked124 : Mask := ⟨[11, 0, 0, 0, 0, 0, 0, 0], by decide, by decide⟩

def band1 : Bandsets := ⟨"1", by decide⟩

/-- Band 1 alone, against a modem that is locked to the bands 1, 2 and 4. -/
theorem band_iff_band1 :
    Locked band1.numbers locked124
        ((Script.run (oneMask locked124) (band (some band1.1)) () fun _ => none).trace.map
          Prod.fst) ↔
      Plain band1.numbers locked124 (oneMask locked124 () (.read .zlteband)).1.ack :=
  band_iff (oneMask locked124) band1 locked124 () (fun _ => none) rfl (states_oneMask _ _)

/-- Band 1 is not set where the bands 1, 2 and 4 are: the text of its mask stands in theirs. -/
theorem band1_not_locked :
    ¬ Locked band1.numbers locked124
      ((Script.run (oneMask locked124) (band (some band1.1)) () fun _ => none).trace.map
        Prod.fst) := by
  intro h
  have hplain := plain_of_locked (requested_locks band1)
    (mem_sent_band (oneMask locked124) band1 () (fun _ => none) rfl) h
  have hstands :
      (requested band1).text.toList <:+: (oneMask locked124 () (.read .zlteband)).1.ack := by
    decide
  have heq := hplain.told ⟨1, by decide, by decide, by decide⟩ _ (requested_locks band1) hstands
  exact absurd heq (by decide)

end Tiger.Analysis.BandMask
