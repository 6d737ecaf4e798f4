import Tiger.Library.Alignment
import Tiger.Model.HostapdRadio

/-!
# The channels a radio is set to

`_hostapd` writes two things about the width of a channel: a sideband of 11n and 11a, which
bonds it with the next channel above or below, and the centre of a wider block of 11ac. The
tables of the three `wireless_*_adjustment` functions are compared with the aligned blocks
of 2, 4 and 8 channels (`bonds_agree`), and what they name is compared with the channels of
the country (`occupied_offered_iff`).

The exceptions come from the tables: no block of 11ac is named above channel 144, no sideband
at 140 and 144, and no table looks at the country.
-/

set_option autoImplicit false

namespace Tiger.Analysis.ChannelPlan

open Tiger.Library Tiger.Model Tiger.Model.Hostapd

/-! ## Sidebands and blocks -/

/-- The widths with a bond. -/
inductive Width where
  | w40
  | w80
  | w160
  deriving DecidableEq

namespace Width

def text : Width → String
  | w40 => "40"
  | w80 => "80"
  | w160 => "160"

/-- The channels of 20 MHz in a width. -/
def count : Width → ℕ
  | w40 => 2
  | w80 => 4
  | w160 => 8

/-- What is printed as the centre of a channel. -/
def idx (w : Width) (ch : ℤ) (channel : Option String) : String :=
  match w with
  | w40 => idx40 ch
  | w80 => idx80 ch
  | w160 => idx160 ch channel

/-- The channels with a block of a width. -/
def grid : Width → List ℤ
  | w160 => [36, 40, 44, 48, 52, 56, 60, 64, 100, 104, 108, 112, 116, 120, 124, 128]
  | _ => [36, 40, 44, 48, 52, 56, 60, 64, 100, 104, 108, 112, 116, 120, 124, 128, 132, 136, 140,
      144]

end Width

/-- The channels a sideband stands for. -/
def pair (ch : ℤ) : Sideband → List ℤ
  | .above => placesFrom ch 4 2
  | .below => placesFrom (ch - 4) 4 2

/-- The centre a text names. -/
def centreOf (idx : String) : Option ℤ := if 0 < atoi idx then some (atoi idx) else none

/-- The channels around a centre. -/
def around (w : Width) (c : ℤ) : List ℤ := placesFrom (c - 2 * (w.count - 1)) 4 w.count

/-- A channel is printed with the centre of a block around it. -/
def Named (w : Width) (channel : Option String) (c : ℤ) : Prop :=
  centreOf (w.idx (channelNumber channel) channel) = some c ∧
    channelNumber channel ∈ around w c

/-- The block of a channel, counted from channel 36. -/
def blockOf (w : Width) (ch : ℤ) : Set ℤ := alignedBlock 36 4 w.count ch

/-- The centre of the block of a channel. -/
def centre (w : Width) (ch : ℤ) : ℤ :=
  36 + 4 * (w.count * ((ch - 36) / 4 / w.count)) + 2 * (w.count - 1)

/-! ### The centres -/

/-- A block of 160 MHz does not depend on the text of the channel. -/
theorem idx160_of_mem {ch : ℤ} (channel : Option String) (h : ch ∈ Width.w160.grid) :
    idx160 ch channel = idx160 ch none := by
  simp only [Width.grid, List.mem_cons, List.not_mem_nil, or_false] at h
  casesm* _ ∨ _
  all_goals subst h; rfl

/-- A channel with a block is printed with the centre of it. -/
theorem centreOf_of_mem {w : Width} {ch : ℤ} (channel : Option String) (h : ch ∈ w.grid) :
    centreOf (w.idx ch channel) = some (centre w ch) := by
  have htable : ∀ w : Width, ∀ ch ∈ w.grid, centreOf (w.idx ch none) = some (centre w ch) := by
    intro w
    cases w <;> decide +kernel
  rw [← htable w ch h]
  cases w with
  | w40 => rfl
  | w80 => rfl
  | w160 => exact congrArg centreOf (idx160_of_mem channel h)

/-- At 40 MHz a channel without a block is printed with no number or a negative one. -/
theorem idx40_of_not_mem {ch : ℤ} (h : ch ∉ Width.w40.grid) : idx40 ch = "-2" ∨ idx40 ch = "" := by
  simp only [Width.grid, List.mem_cons, List.not_mem_nil, or_false, not_or] at h
  simp only [idx40, h, or_self, if_false]
  split
  · exact .inl rfl
  · exact .inr rfl

/-- At 80 MHz a channel without a block is printed with no number or a negative one. -/
theorem idx80_of_not_mem {ch : ℤ} (h : ch ∉ Width.w80.grid) : idx80 ch = "-6" ∨ idx80 ch = "" := by
  simp only [Width.grid, List.mem_cons, List.not_mem_nil, or_false, not_or] at h
  simp only [idx80, h, or_self, if_false]
  split
  · exact .inl rfl
  · exact .inr rfl

/-- At 160 MHz a channel without a block is printed itself. -/
theorem idx160_of_not_mem {ch : ℤ} (channel : Option String) (h : ch ∉ Width.w160.grid) :
    idx160 ch channel = if ch = 0 then "acs_survey" else printed channel := by
  simp only [Width.grid, List.mem_cons, List.not_mem_nil, or_false, not_or] at h
  simp only [idx160, h, or_self, if_false]

/-- The centre is in the middle of the block. -/
theorem mem_around_centre {w : Width} {ch y : ℤ} :
    y ∈ around w (centre w ch) ↔ y ∈ blockOf w ch := by
  refine mem_placesFrom_iff (by decide) (by cases w <;> decide) ?_
  unfold centre
  omega

/-- The channels with a block are four apart, from 36 on. -/
theorem dvd_of_mem_grid {w : Width} {ch : ℤ} (h : ch ∈ w.grid) : (4 : ℤ) ∣ ch - 36 := by
  have htable : ∀ w : Width, ∀ ch ∈ w.grid, (4 : ℤ) ∣ ch - 36 := by
    intro w
    cases w <;> decide
  exact htable w ch h

/-- A channel lies in its own block. -/
theorem mem_blockOf_self {w : Width} {ch : ℤ} (h : ch ∈ w.grid) : ch ∈ blockOf w ch :=
  mem_alignedBlock_self (dvd_of_mem_grid h)

/-- Where there is no block, no centre is printed, or for 160 MHz the channel itself. -/
theorem centreOf_of_not_mem {w : Width} {channel : Option String}
    (hgrid : channelNumber channel ∉ w.grid) :
    centreOf (w.idx (channelNumber channel) channel) =
      if w = .w160 ∧ 0 < channelNumber channel then some (channelNumber channel) else none := by
  have hnone : centreOf "-2" = none ∧ centreOf "-6" = none ∧ centreOf "" = none ∧
      centreOf "acs_survey" = none := by decide
  obtain ⟨h2, h6, hempty, hacs⟩ := hnone
  cases w with
  | w40 => rcases idx40_of_not_mem hgrid with heq | heq <;> simp [Width.idx, *]
  | w80 => rcases idx80_of_not_mem hgrid with heq | heq <;> simp [Width.idx, *]
  | w160 =>
    rw [Width.idx, idx160_of_not_mem channel hgrid]
    cases channel with
    | none => simp [channelNumber, hacs]
    | some text =>
      by_cases hzero : channelNumber (some text) = 0
      · simp [hzero, hacs]
      · rw [if_neg hzero]
        have hnumber : channelNumber (some text) = atoi text := rfl
        have hprinted : printed (some text) = text := rfl
        by_cases hpos : 0 < atoi text
        · rw [if_pos ⟨rfl, hnumber ▸ hpos⟩, hprinted, hnumber, centreOf, if_pos hpos]
        · rw [if_neg fun h => hpos (hnumber ▸ h.2), hprinted, centreOf, if_neg hpos]

/-- The centre that is named, by the number of the channel: that of its block, and without a block
none, or for 160 MHz the channel itself. -/
def namedCentre (w : Width) (ch : ℤ) : Option ℤ :=
  if ch ∈ w.grid then some (centre w ch) else if w = .w160 ∧ 0 < ch then some ch else none

/-- The centre that is printed is the one that is named. -/
theorem centreOf_idx (w : Width) (channel : Option String) :
    centreOf (w.idx (channelNumber channel) channel) = namedCentre w (channelNumber channel) := by
  unfold namedCentre
  by_cases h : channelNumber channel ∈ w.grid
  · rw [if_pos h, centreOf_of_mem channel h]
  · rw [if_neg h]
    exact centreOf_of_not_mem h

/-- A channel is printed with the centre of its block when it has one, and else with no centre
that has it around. -/
theorem named_iff (w : Width) (channel : Option String) (c : ℤ) :
    Named w channel c ↔
      channelNumber channel ∈ w.grid ∧ c = centre w (channelNumber channel) := by
  unfold Named
  by_cases h : channelNumber channel ∈ w.grid
  · rw [centreOf_of_mem channel h]
    constructor
    · rintro ⟨heq, -⟩
      exact ⟨h, (Option.some.inj heq).symm⟩
    · rintro ⟨-, rfl⟩
      exact ⟨rfl, mem_around_centre.mpr (mem_blockOf_self h)⟩
  · refine iff_of_false ?_ fun hnamed => h hnamed.1
    rintro ⟨hcentre, haround⟩
    rw [centreOf_of_not_mem h] at hcentre
    split at hcentre
    · rename_i h160
      obtain ⟨rfl, -⟩ := h160
      cases hcentre
      -- the places around a centre are 2, 6, 10 or 14 away from it
      obtain ⟨i, -, hi⟩ := mem_placesFrom.mp haround
      simp only [Width.count] at hi
      omega
    · cases hcentre

/-! ### The sidebands -/

/-- A channel with a sideband is the lower or the upper one of its pair. -/
theorem sideband11a_eq_some {ch : ℤ} {s : Sideband} (h : sideband11a ch = some s) :
    ch = 0 ∨ (36 ≤ ch ∧ ch ≤ 136 ∧ (ch - 36) % 8 = if s = .above then 0 else 4) ∨
      (149 ≤ ch ∧ ch ≤ 161 ∧ (ch - 149) % 8 = if s = .above then 0 else 4) := by
  unfold sideband11a at h
  split at h
  · rename_i hmem
    cases h
    simp only [List.mem_cons, List.not_mem_nil, or_false] at hmem
    rw [if_neg (by decide)]
    omega
  · split at h
    · rename_i hmem
      cases h
      simp only [List.mem_cons, List.not_mem_nil, or_false] at hmem
      rw [if_pos rfl]
      omega
    · cases h

/-- The origin of the pairs of a channel. -/
def origin (ch : ℤ) : ℤ := if ch < 149 then 36 else 149

/-- A channel and its sideband are the pair of the channel. -/
theorem mem_pair_iff {ch y : ℤ} {s : Sideband} (h : sideband11a ch = some s) (hch : ch ≠ 0) :
    y ∈ pair ch s ↔ y ∈ alignedBlock (origin ch) 4 2 ch := by
  have hplace := sideband11a_eq_some h
  unfold origin
  cases s with
  | above =>
    refine mem_placesFrom_iff (by decide) (by decide) ?_
    rw [if_pos rfl] at hplace
    split <;> omega
  | below =>
    refine mem_placesFrom_iff (by decide) (by decide) ?_
    rw [if_neg (by decide)] at hplace
    split <;> omega

/-! ### Both together -/

/-- What the tables say of a channel. -/
structure BondsAgree (channel : Option String) : Prop where
  /-- The centres that are printed. -/
  printed : ∀ w, centreOf (w.idx (channelNumber channel) channel) =
    namedCentre w (channelNumber channel)
  /-- The channels that are printed with a centre of a block around them. -/
  named : ∀ w, (∃ c, Named w channel c) ↔ channelNumber channel ∈ w.grid
  /-- The channels around the centre are the aligned block. -/
  aligned : ∀ w c, Named w channel c →
    ∀ y, y ∈ around w c ↔ y ∈ blockOf w (channelNumber channel)
  /-- The sideband lies in the block. -/
  sideband : ∀ w c s, Named w channel c → sideband11a (channelNumber channel) = some s →
    ∀ y ∈ pair (channelNumber channel) s, y ∈ around w c
  /-- A narrower block lies in a wider one. -/
  nested : ∀ w c v e, Named w channel c → Named v channel e → w.count ≤ v.count →
    ∀ y ∈ around w c, y ∈ around v e
  /-- Two channels have the block in common or no channel of it. -/
  apart : ∀ w c channel' e, Named w channel c → Named w channel' e →
    c = e ∨ ∀ y ∈ around w c, y ∉ around w e
  /-- The channels with a sideband and a centre. -/
  both : sideband11a (channelNumber channel) ≠ none ∧ (∃ c, Named .w40 channel c) ↔
    channelNumber channel ∈ [36, 40, 44, 48, 52, 56, 60, 64, 100, 104, 108, 112, 116, 120, 124,
      128, 132, 136]
  /-- The channels with a sideband and no centre. -/
  sidebandOnly : sideband11a (channelNumber channel) ≠ none ∧ (¬∃ c, Named .w40 channel c) ↔
    channelNumber channel ∈ [0, 149, 153, 157, 161]

/-- A centre is named for exactly the channels with a block. -/
theorem exists_named_iff (w : Width) (channel : Option String) :
    (∃ c, Named w channel c) ↔ channelNumber channel ∈ w.grid := by
  simp [named_iff]

/-- The channels around the centre are those of the block. -/
theorem mem_around_iff {w : Width} {channel : Option String} {c : ℤ} (h : Named w channel c)
    (y : ℤ) : y ∈ around w c ↔ y ∈ blockOf w (channelNumber channel) := by
  rw [((named_iff w channel c).mp h).2]
  exact mem_around_centre

/-- A block lies in the wider block of its channel. -/
theorem blockOf_subset {w v : Width} (h : w.count ≤ v.count) (ch : ℤ) :
    blockOf w ch ⊆ blockOf v ch := by
  have hmul : v.count = w.count * (v.count / w.count) := by
    cases w <;> cases v <;> first | rfl | exact absurd h (by decide)
  unfold blockOf
  rw [hmul]
  exact alignedBlock_subset _

/-- On the channels with blocks the sidebands are counted from channel 36 too. -/
theorem mem_pair_iff_blockOf {w : Width} {ch y : ℤ} {s : Sideband} (hgrid : ch ∈ w.grid)
    (h : sideband11a ch = some s) : y ∈ pair ch s ↔ y ∈ blockOf .w40 ch := by
  have hrange : 36 ≤ ch ∧ ch < 149 := by
    cases w <;> simp only [Width.grid, List.mem_cons, List.not_mem_nil, or_false] at hgrid <;> omega
  rw [mem_pair_iff h (by omega), origin, if_pos hrange.2]
  rfl

/-- Blocks with different centres have no channel in common. -/
theorem blockOf_apart {w : Width} {ch ch' y : ℤ} (h : centre w ch ≠ centre w ch')
    (hy : y ∈ blockOf w ch) : y ∉ blockOf w ch' := by
  refine notMem_alignedBlock (fun heq => h ?_) hy
  unfold centre
  rw [heq]

/-- The tables of the sidebands and of the centres agree where both have an entry. -/
theorem bonds_agree (channel : Option String) : BondsAgree channel where
  printed w := centreOf_idx w channel
  named w := exists_named_iff w channel
  aligned _ _ h := mem_around_iff h
  sideband w c s h hs y hy := by
    rw [mem_around_iff h]
    have hgrid := ((named_iff w channel c).mp h).1
    rw [mem_pair_iff_blockOf hgrid hs] at hy
    exact blockOf_subset (by cases w <;> decide) _ hy
  nested w c v e hw hv hle y hy := by
    rw [mem_around_iff hw] at hy
    rw [mem_around_iff hv]
    exact blockOf_subset hle _ hy
  apart w c channel' e h h' := by
    by_cases heq : c = e
    · exact .inl heq
    · right
      have hc := ((named_iff w channel c).mp h).2
      have he := ((named_iff w channel' e).mp h').2
      have hne : centre w (channelNumber channel) ≠ centre w (channelNumber channel') :=
        hc ▸ he ▸ heq
      intro y hy hy'
      rw [mem_around_iff h] at hy
      rw [mem_around_iff h'] at hy'
      exact blockOf_apart hne hy hy'
  both := by
    rw [exists_named_iff]
    generalize channelNumber channel = ch
    simp only [sideband11a, Width.grid, List.mem_cons, List.not_mem_nil, or_false]
    split_ifs <;> simp <;> omega
  sidebandOnly := by
    rw [exists_named_iff]
    generalize channelNumber channel = ch
    simp only [sideband11a, Width.grid, List.mem_cons, List.not_mem_nil, or_false]
    split_ifs <;> simp <;> omega

/-! ## The channels of the country -/

/-- The number of the channel a radio is set to. -/
def number (r : RadioSource) : ℤ := channelNumber (some r.channelText)

/-- The sideband that is printed for a radio. -/
def sidebandOf (r : RadioSource) : Option Sideband :=
  if hasA r.mode then
    if r.bandwidth = "40" ∨ r.bandwidth = "80" ∨ r.bandwidth = "160" then sideband11a (number r)
    else none
  else if r.bandwidth = "20" then none
  else sideband11n (number r) (r.string "extcha")

/-- The width of 11ac that is printed for a radio. -/
def widthOf (r : RadioSource) : Option Width :=
  if hasA r.mode && hasAc r.mode then
    if strcasecmp r.bandwidth "40" then some .w40
    else if strcasecmp r.bandwidth "80" then some .w80
    else if strcasecmp r.bandwidth "160" then some .w160
    else none
  else none

/-- The centre that is printed for a radio. -/
def idxOf (r : RadioSource) (w : Width) : String := w.idx (number r) (some r.channelText)

/-- The channels of a channel with a sideband and the centre of a width. -/
def named (ch : ℤ) (s : Option Sideband) (w : Option Width) (c : Width → Option ℤ) : List ℤ :=
  ch :: s.elim [] (pair ch) ++ w.elim [] fun w => (c w).elim [] (around w)

/-- The channels the file names: the channel, its sideband, and those around the centre. -/
def occupied (r : RadioSource) : List ℤ :=
  named (number r) (sidebandOf r) (widthOf r) fun w => centreOf (idxOf r w)

/-- The channels the file names are not all channels of the country. -/
def Strays (r : RadioSource) (chs : List ℕ) (ch : ℕ) : Prop :=
  if hasA r.mode then
    (r.bandwidth = "40" ∨ r.bandwidth = "80" ∨ r.bandwidth = "160") ∧ ch = 116 ∧ 120 ∉ chs ∨
      hasAc r.mode ∧
        (r.bandwidth = "40" ∧ ch = 140 ∨
          r.bandwidth = "80" ∧ (ch = 132 ∨ ch = 136 ∨ ch = 140) ∨
          r.bandwidth = "160" ∧ (132 ≤ ch ∨ ch ≤ 64 ∧ 36 ∉ chs ∨ 100 ≤ ch ∧ 120 ∉ chs))
  else r.bandwidth ≠ "20" ∧ r.string "extcha" ≠ some "below" ∧ (ch = 8 ∨ ch = 9) ∧ 12 ∉ chs

/-! ### The width of a bandwidth -/

/-- A letter of another case is not a digit. -/
theorem eq_of_toLower_eq {c d : Char} (hd : d.isAlpha = false) (h : c.toLower = d) : c = d := by
  subst h
  unfold Char.toLower at hd ⊢
  by_cases hupper : c.val ≥ 'A'.val ∧ c.val ≤ 'Z'.val
  · exfalso
    rw [dif_pos hupper] at hd
    have hA : 65 ≤ c.val.toNat := hupper.1
    have hZ : c.val.toNat ≤ 90 := hupper.2
    have hshift : (c.val + ('a'.val - 'A'.val)).toNat = c.val.toNat + 32 := by
      rw [UInt32.toNat_add]
      show (c.val.toNat + 32) % 4294967296 = _
      omega
    have hlower : ∀ e : Char, e.isAlpha = (e.isUpper || decide (97 ≤ e.val.toNat) &&
        decide (e.val.toNat ≤ 122)) := fun _ => rfl
    rw [hlower, Bool.or_eq_false_iff, hshift, decide_eq_true (by omega), decide_eq_true (by omega)]
      at hd
    cases hd.2
  · rw [dif_neg hupper]

/-- A text without letters is compared as it is. -/
theorem strcasecmp_iff {s t : String} (ht : t.toList.all (! Char.isAlpha ·) = true)
    (hlower : t.toList.map Char.toLower = t.toList) : strcasecmp s t ↔ s = t := by
  unfold strcasecmp
  rw [hlower, decide_eq_true_iff]
  constructor
  · intro h
    have hsame : ∀ (u v : List Char), (∀ c ∈ v, c.isAlpha = false) → u.map Char.toLower = v →
        u = v := by
      intro u
      induction u with
      | nil => exact fun v _ h => h
      | cons c u ih =>
        rintro v hv rfl
        rw [List.map_cons, ← eq_of_toLower_eq (hv _ (by simp)) rfl]
        rw [← ih _ (fun d hd => hv d (List.mem_cons_of_mem _ hd)) rfl]
    have hplain : ∀ c ∈ t.toList, c.isAlpha = false := by simpa using ht
    exact String.toList_injective (hsame _ _ hplain h)
  · rintro rfl
    exact hlower

/-- The width of a bandwidth. -/
def widthOfText (bandwidth : String) : Option Width :=
  if bandwidth = "40" then some .w40
  else if bandwidth = "80" then some .w80
  else if bandwidth = "160" then some .w160
  else none

/-- The text of a width has no letters, so case does not count. -/
theorem strcasecmp_text (s : String) (w : Width) : strcasecmp s w.text ↔ s = w.text := by
  cases w <;> exact strcasecmp_iff (by decide) (by decide)

/-- The width of a radio is that of its bandwidth where the mode is 11ac. -/
theorem widthOf_eq (r : RadioSource) :
    widthOf r = if hasA r.mode && hasAc r.mode then widthOfText r.bandwidth else none := by
  have h40 := strcasecmp_text r.bandwidth .w40
  have h80 := strcasecmp_text r.bandwidth .w80
  have h160 := strcasecmp_text r.bandwidth .w160
  simp only [Width.text] at h40 h80 h160
  simp only [widthOf, widthOfText, h40, h80, h160]

/-! ### The lines -/

/-- The lines of 11a stand in the file of a radio of 5 GHz. -/
theorem mem_lines_of_mem_aLines {r : RadioSource} {line : String} (ha : hasA r.mode)
    (h : line ∈ r.aLines) : line ∈ r.lines := by
  simp [RadioSource.lines, ha, h]

/-- The lines of 11n stand in the file of a radio of 2.4 GHz. -/
theorem mem_lines_of_mem_nLines {r : RadioSource} {line : String} (ha : ¬hasA r.mode)
    (h : line ∈ r.nLines) : line ∈ r.lines := by
  simp [RadioSource.lines, ha, h]

/-- What 11a writes begins with the sideband. -/
theorem wireless11aAdjustment_eq (channel bandwidth : String) (shortgi : Option String)
    (shortgiopt : Option Talk) :
    ∃ rest, wireless11aAdjustment (some channel) (some bandwidth) shortgi shortgiopt =
      sidebandText (if bandwidth = "40" ∨ bandwidth = "80" ∨ bandwidth = "160" then
        sideband11a (channelNumber (some channel)) else none) ++ rest := by
  unfold wireless11aAdjustment
  simp only [Option.some.injEq]
  split
  · exact ⟨_, rfl⟩
  · exact ⟨_, String.empty_append.symm⟩

/-- What 11n writes begins with the sideband. -/
theorem wireless11nAdjustment_eq (channel bandwidth : String) (ext shortgi : Option String)
    (shortgiopt : Option Talk) :
    ∃ rest, wireless11nAdjustment (some channel) ext (some bandwidth) shortgi shortgiopt =
      sidebandText (if bandwidth = "20" then none
        else sideband11n (channelNumber (some channel)) ext) ++ rest := by
  unfold wireless11nAdjustment
  simp only [Option.some.injEq, reduceCtorEq, false_or]
  split
  · exact ⟨_, String.empty_append.symm⟩
  · exact ⟨_, rfl⟩

/-- The line of the capabilities begins with the sideband. -/
theorem sideband_mem_lines (r : RadioSource) :
    ∃ rest, "ht_capab=" ++ sidebandText (sidebandOf r) ++ rest ∈ r.lines := by
  unfold sidebandOf number
  by_cases ha : hasA r.mode
  · rw [if_pos ha]
    obtain ⟨rest, hrest⟩ := wireless11aAdjustment_eq r.channelText r.bandwidth
      (r.string "shortgi") r.shortgiopt
    refine ⟨rest ++ r.capab "ht_capab", mem_lines_of_mem_aLines ha ?_⟩
    rw [RadioSource.aLines, hrest]
    simp [String.append_assoc]
  · rw [if_neg ha]
    obtain ⟨rest, hrest⟩ := wireless11nAdjustment_eq r.channelText r.bandwidth
      (r.string "extcha") (r.string "shortgi") r.shortgiopt
    refine ⟨rest ++ r.capab "ht_capab", mem_lines_of_mem_nLines ha ?_⟩
    rw [RadioSource.nLines, hrest]
    simp [String.append_assoc]

/-- A bandwidth with a width is the text of it. -/
theorem text_of_widthOfText {bandwidth : String} {w : Width} (h : widthOfText bandwidth = some w) :
    bandwidth = w.text := by
  unfold widthOfText at h
  split_ifs at h with h40 h80 h160
  all_goals cases h; assumption

/-- The lines of a width. -/
theorem wireless11acAdjustment_lines (channel shortgi : Option String)
    (shortgiopt : Option Talk) (w : Width) :
    "vht_oper_centr_freq_seg0_idx=" ++ w.idx (channelNumber channel) channel ∈
      (wireless11acAdjustment channel (some w.text) shortgi shortgiopt).lines := by
  have h4020 : strcasecmp "40" "20" = false := by decide
  have h8020 : strcasecmp "80" "20" = false := by decide
  have h8040 : strcasecmp "80" "40" = false := by decide
  have h16020 : strcasecmp "160" "20" = false := by decide
  have h16040 : strcasecmp "160" "40" = false := by decide
  have h16080 : strcasecmp "160" "80" = false := by decide
  have hself : ∀ s, strcasecmp s s = true := by simp [strcasecmp]
  cases w <;> simp [wireless11acAdjustment, Width.text, Width.idx, chwidthLines, *]

/-- The centre has a line of its own. -/
theorem idx_mem_lines {r : RadioSource} {w : Width} (h : widthOf r = some w) :
    "vht_oper_centr_freq_seg0_idx=" ++ idxOf r w ∈ r.lines := by
  rw [widthOf_eq] at h
  by_cases hac : hasA r.mode && hasAc r.mode
  · rw [if_pos hac] at h
    obtain ⟨ha, hac⟩ := Bool.and_eq_true_iff.mp hac
    apply mem_lines_of_mem_aLines ha
    have hline := wireless11acAdjustment_lines (some r.channelText) (r.string "shortgi")
      r.shortgiopt w
    rw [← text_of_widthOfText h] at hline
    simp [RadioSource.aLines, RadioSource.acLines, hac, idxOf, number, hline]
  · rw [if_neg hac] at h
    cases h

/-! ### The rows of the tables -/

/-- The rows of 5 GHz a country stands for. -/
def aRows : List (List ℕ) := [0, 1, 2, 3, 4, 5, 7, 9].filterMap fun i => aBand[i]?

/-- The rows of 2.4 GHz a country stands for. -/
def nRows : List (List ℕ) := [0, 1, 5].filterMap fun i => nBand[i]?

/-- The channels of a country are a row of the table for the band. -/
theorem mem_rows {country : String} {a : Bool} {chs : List ℕ}
    (h : countryChannels country a = some chs) : chs ∈ if a then aRows else nRows := by
  have htable : ∀ p ∈ countryList,
      (∀ chs ∈ aBand[p.a]?, chs ∈ aRows) ∧ ∀ chs ∈ nBand[p.n]?, chs ∈ nRows := by
    decide +kernel
  unfold countryChannels at h
  split at h
  · cases h
  · rename_i p hfind
    have hp := htable p (List.mem_of_find?_eq_some hfind)
    cases a
    · exact hp.2 chs h
    · exact hp.1 chs h

/-! ### What the file names -/

/-- `Strays` for a row of 5 GHz. -/
def StraysA (w : Option Width) (ac : Bool) (chs : List ℕ) (ch : ℕ) : Prop :=
  w ≠ none ∧ ch = 116 ∧ 120 ∉ chs ∨
    ac ∧ (w = some .w40 ∧ ch = 140 ∨ w = some .w80 ∧ (ch = 132 ∨ ch = 136 ∨ ch = 140) ∨
      w = some .w160 ∧ (132 ≤ ch ∨ ch ≤ 64 ∧ 36 ∉ chs ∨ 100 ≤ ch ∧ 120 ∉ chs))

instance (w : Option Width) (ac : Bool) (chs : List ℕ) (ch : ℕ) :
    Decidable (StraysA w ac chs ch) := by unfold StraysA; infer_instance

/-- The channels of 5 GHz that are named with a width, for each row. -/
theorem named_a_iff : ∀ chs ∈ aRows, ∀ ch ∈ chs, ∀ ac : Bool,
    ∀ w ∈ [none, some Width.w40, some .w80, some .w160],
      (∀ c ∈ named (ch : ℤ) (if w = none then none else sideband11a ch) (if ac then w else none)
        fun w => namedCentre w ch, ∃ k ∈ chs, (k : ℤ) = c) ↔ ¬StraysA w ac chs ch := by
  decide +kernel

/-- The channels of 2.4 GHz that are named with a bond, for each row. -/
theorem named_n_iff : ∀ chs ∈ nRows, ∀ ch ∈ chs, ∀ ext ∈ [none, some "below"],
    (∀ c ∈ named (ch : ℤ) (sideband11n ch ext) none fun _ => none, ∃ k ∈ chs, (k : ℤ) = c) ↔
      ¬(ext = none ∧ (ch = 8 ∨ ch = 9) ∧ 12 ∉ chs) := by
  decide +kernel

/-- Any setting but `below` is taken as none. -/
theorem sideband11n_of_ne {ext : Option String} (h : ext ≠ some "below") (ch : ℤ) :
    sideband11n ch ext = sideband11n ch none := by
  simp [sideband11n, h]

/-- A bandwidth has a width exactly when it is the text of it. -/
theorem widthOfText_eq_some_iff (bandwidth : String) (w : Width) :
    widthOfText bandwidth = some w ↔ bandwidth = w.text := by
  refine ⟨text_of_widthOfText, ?_⟩
  rintro rfl
  cases w <;> rfl

/-- The bandwidths with a width are these three. -/
theorem widthOfText_ne_none_iff (bandwidth : String) :
    widthOfText bandwidth ≠ none ↔ bandwidth = "40" ∨ bandwidth = "80" ∨ bandwidth = "160" := by
  unfold widthOfText
  split_ifs <;> simp_all

/-- At 5 GHz the channels that are named are offered, but for the exceptions. -/
theorem occupied_a_iff {r : RadioSource} {chs : List ℕ} {ch : ℕ} (ha : hasA r.mode)
    (hrow : chs ∈ aRows) (hch : ch ∈ chs) (hnumber : number r = ch) :
    (∀ c ∈ occupied r, ∃ k ∈ chs, (k : ℤ) = c) ↔ ¬Strays r chs ch := by
  have hmem : widthOfText r.bandwidth ∈ [none, some Width.w40, some .w80, some .w160] := by
    cases widthOfText r.bandwidth with
    | none => simp
    | some w => cases w <;> simp
  have hiff := named_a_iff chs hrow ch hch (hasAc r.mode) _ hmem
  have hstrays : Strays r chs ch ↔ StraysA (widthOfText r.bandwidth) (hasAc r.mode) chs ch := by
    unfold Strays StraysA
    rw [if_pos ha, widthOfText_ne_none_iff]
    simp only [widthOfText_eq_some_iff, Width.text]
  have hsideband : sidebandOf r =
      if widthOfText r.bandwidth = none then none else sideband11a ch := by
    rw [sidebandOf, if_pos ha, hnumber]
    by_cases hnone : widthOfText r.bandwidth = none
    · rw [if_pos hnone, if_neg fun h => (widthOfText_ne_none_iff _).mpr h hnone]
    · rw [if_neg hnone, if_pos ((widthOfText_ne_none_iff _).mp hnone)]
  have hcentre : ∀ w, centreOf (idxOf r w) = namedCentre w ch := by
    intro w
    rw [← hnumber]
    exact centreOf_idx w (some r.channelText)
  rw [hstrays, ← hiff]
  unfold occupied
  rw [hsideband, hnumber, widthOf_eq, ha, Bool.true_and, funext hcentre]

/-- At 2.4 GHz the channels that are named are offered, but for the exceptions. -/
theorem occupied_n_iff {r : RadioSource} {chs : List ℕ} {ch : ℕ} (ha : ¬hasA r.mode)
    (hrow : chs ∈ nRows) (hch : ch ∈ chs) (hnumber : number r = ch) :
    (∀ c ∈ occupied r, ∃ k ∈ chs, (k : ℤ) = c) ↔ ¬Strays r chs ch := by
  have hwidth : widthOf r = none := by simp [widthOf, ha]
  have hsideband : sidebandOf r =
      if r.bandwidth = "20" then none else sideband11n ch (r.string "extcha") := by
    rw [sidebandOf, if_neg ha, hnumber]
  unfold occupied Strays
  rw [hwidth, hsideband, hnumber, if_neg ha]
  by_cases h20 : r.bandwidth = "20"
  · rw [if_pos h20]
    simp only [h20, ne_eq, not_true_eq_false, false_and, not_false_eq_true, iff_true, named,
      Option.elim_none, List.append_nil, List.mem_singleton, forall_eq]
    exact ⟨ch, hch, rfl⟩
  · rw [if_neg h20]
    by_cases hbelow : r.string "extcha" = some "below"
    · rw [hbelow]
      have hiff := named_n_iff chs hrow ch hch (some "below") (by simp)
      simpa [named] using hiff
    · rw [sideband11n_of_ne hbelow]
      have hiff := named_n_iff chs hrow ch hch none (by simp)
      simpa [named, h20, hbelow] using hiff

/-- An object with a key for each channel. -/
def channelKeys (chs : List ℕ) : Talk := .json (chs.map fun ch => (toString ch, .json []))

/-- `_chlist` answers with the channels of the row of the country. -/
theorem chlist_eq_iff (cfg : Option Talk) (mode country : String) (chs : List ℕ) :
    chlist cfg (some mode) (some country) = some (channelKeys chs) ↔
      countryChannels country (hasA mode) = some chs := by
  have hkey : Function.Injective fun ch : ℕ => (toString ch, Talk.json []) := by
    intro ch ch' h
    have hdigits := congrArg (fun e : String × Talk => Nat.ofDigitChars 10 e.1.toList 0) h
    simpa [Nat.ofDigitChars_ten_toDigits] using hdigits
  change (countryChannels country (hasA mode)).map channelKeys = some (channelKeys chs) ↔ _
  rw [Option.map_eq_some_iff]
  constructor
  · rintro ⟨chs', hrow, hkeys⟩
    rwa [← List.map_injective_iff.mpr hkey (Talk.json.inj hkeys)]
  · intro hrow
    exact ⟨chs, hrow, rfl⟩

/-- A radio on a channel that `_chlist` offers for its mode and country is set to channels that are
offered there, but for the exceptions of `Strays`. -/
theorem occupied_offered_iff (r : RadioSource) {chs : List ℕ} {ch : ℕ}
    (hlist : chlist r.cfg (some r.mode) (some r.country) = some (channelKeys chs)) (hch : ch ∈ chs)
    (hnumber : number r = ch) :
    (∃ rest, "ht_capab=" ++ sidebandText (sidebandOf r) ++ rest ∈ r.lines) ∧
      (∀ w, widthOf r = some w → "vht_oper_centr_freq_seg0_idx=" ++ idxOf r w ∈ r.lines) ∧
      ((∀ c ∈ occupied r, ∃ k ∈ chs, (k : ℤ) = c) ↔ ¬Strays r chs ch) := by
  refine ⟨sideband_mem_lines r, fun _ => idx_mem_lines, ?_⟩
  have hrow := mem_rows ((chlist_eq_iff _ _ _ _).mp hlist)
  by_cases ha : hasA r.mode
  · rw [if_pos ha] at hrow
    exact occupied_a_iff ha hrow hch hnumber
  · rw [if_neg ha] at hrow
    exact occupied_n_iff ha hrow hch hnumber

/-- A radio in the United Kingdom on channel 132, with 80 MHz. -/
def wideRadio : RadioSource where
  cfg := some (.json [("mode", .text "ac"), ("country", .text "gb"), ("channel", .text "132"),
    ("bandwidth", .text "80")])
  channel := none
  hstinfo := none

/-- The centre of this radio is 138, so channel 144 is named, which the country has not. -/
theorem occupied_offered_wide :
    occupied wideRadio = [132, 132, 136, 132, 136, 140, 144] ∧
      ∃ chs, chlist wideRadio.cfg (some wideRadio.mode) (some wideRadio.country) =
          some (channelKeys chs) ∧ ¬∀ c ∈ occupied wideRadio, ∃ k ∈ chs, (k : ℤ) = c := by
  have hlist : chlist wideRadio.cfg (some wideRadio.mode) (some wideRadio.country) =
      some (channelKeys ((aBand[1]?).getD [])) :=
    (chlist_eq_iff _ _ _ _).mpr (by decide +kernel)
  refine ⟨by decide +kernel, (aBand[1]?).getD [], hlist, fun h => ?_⟩
  have hiff := (@occupied_offered_iff wideRadio ((aBand[1]?).getD []) 132 hlist
    (by decide) (by decide +kernel)).2.2
  exact hiff.mp h (by unfold Strays; decide +kernel)

end Tiger.Analysis.ChannelPlan
