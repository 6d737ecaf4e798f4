import Tiger.Analysis.ScanRules
import Tiger.Model.AccessPoint

/-!
# The fields of the output of `iw`

`_status` looks for its three fields in the whole output and cuts them in one buffer. What it
reports is said by `statusInfo_output`: the SSID as it is, the address from the lines in front
of it, and the channel from the first place that holds `channel `, which may be the SSID
itself. `status_iff` compares two outputs that differ in the SSID alone.
-/

set_option autoImplicit false

namespace Tiger.Analysis.StatusFields

open Tiger.Library Tiger.Model Tiger.Model.Buffers Tiger.Model.AccessPoint
open Tiger.Analysis.ScanRules

/-! ## Cutting -/

variable {a v r found : List Char} {c : Char}

/-- A value that ends at `c` is cut there. -/
theorem cutAt_found (hc : c ∉ v) (hv : nul ∉ v) :
    cutAt c (a ++ (v ++ c :: r)) a.length =
      some ⟨a ++ (v ++ nul :: r), some (a.length, v)⟩ := by
  have hset : (a ++ (v ++ c :: r)).set (a.length + v.length) nul = a ++ (v ++ nul :: r) := by
    simp
  unfold cutAt
  rw [List.drop_left, seek_append hv hc]
  dsimp only
  rw [hset, List.drop_left, textAt_append hv]
  rfl

/-- Without a separator nothing is cut. -/
theorem cutAt_end (hne : c ≠ nul) (hc : c ∉ v) (hv : nul ∉ v) :
    cutAt c (a ++ (v ++ nul :: r)) a.length = some ⟨a ++ (v ++ nul :: r), none⟩ := by
  unfold cutAt
  rw [List.drop_left, seek_end hne hv hc]

/-- What stands between the first `key` of a text and the next `c`. -/
def valueBehind (key : String) (c : Char) (text : List Char) : Option (List Char) :=
  match strstr key.toList text with
  | none => none
  | some found =>
    let value := found.drop key.length
    if c ∈ value then some (value.takeWhile (· ≠ c)) else none

/-- Without the key nothing stands behind it. -/
theorem valueBehind_none {key : String} (h : strstr key.toList a = none) :
    valueBehind key c a = none := by
  unfold valueBehind
  rw [h]

/-- Behind the key stands the text up to the separator. -/
theorem valueBehind_found {key : String} {tail : List Char}
    (h : strstr key.toList a = some (key.toList ++ tail)) :
    valueBehind key c a = if c ∈ tail then some (tail.takeWhile (· ≠ c)) else none := by
  have hdrop : (key.toList ++ tail).drop key.length = tail := by
    rw [← String.length_toList, List.drop_left]
  unfold valueBehind
  rw [h]
  dsimp only
  rw [hdrop]

/-- The value is cut out of the buffer at the separator. -/
theorem valueOf_found {key : String} (hc : c ∉ v) (hv : nul ∉ v) :
    valueOf key c (a ++ (key.toList ++ (v ++ c :: r))) (some a.length) =
      some ⟨a ++ (key.toList ++ (v ++ nul :: r)), some (a.length + key.length, v)⟩ := by
  have hplace : a.length + key.length = (a ++ key.toList).length := by
    rw [List.length_append, String.length_toList]
  unfold valueOf
  dsimp only
  rw [hplace, ← List.append_assoc, cutAt_found hc hv, List.append_assoc]

/-- Without a separator there is no value. -/
theorem valueOf_end {key : String} (hne : c ≠ nul) (hc : c ∉ v) (hv : nul ∉ v) :
    valueOf key c (a ++ (key.toList ++ (v ++ nul :: r))) (some a.length) =
      some ⟨a ++ (key.toList ++ (v ++ nul :: r)), none⟩ := by
  have hplace : a.length + key.length = (a ++ key.toList).length := by
    rw [List.length_append, String.length_toList]
  unfold valueOf
  dsimp only
  rw [hplace, ← List.append_assoc, cutAt_end hne hc hv]

/-- Where a text ends with a zero, the value that is cut is the one in the text. -/
theorem valueOf_text {key : String} {tail : List Char} (hne : c ≠ nul) (htail : nul ∉ tail) :
    ∃ cut, valueOf key c (a ++ (key.toList ++ (tail ++ nul :: r))) (some a.length) = some cut ∧
      cut.value.map Prod.snd = if c ∈ tail then some (tail.takeWhile (· ≠ c)) else none := by
  by_cases hc : c ∈ tail
  · obtain ⟨front, back, hsplit, hfront⟩ := List.eq_append_cons_of_mem hc
    have hnul : nul ∉ front := fun hmem => htail (hsplit ▸ List.mem_append_left _ hmem)
    have hcells : tail ++ nul :: r = front ++ c :: (back ++ nul :: r) := by
      rw [hsplit, List.append_assoc, List.cons_append]
    rw [if_pos hc, hcells, hsplit, takeWhile_ne_append hfront]
    exact ⟨_, valueOf_found hfront hnul, rfl⟩
  · rw [if_neg hc]
    exact ⟨_, valueOf_end hne hc htail, rfl⟩

/-- The letters of the value become capital in their cells. -/
theorem lowtoupp_value {key : String} :
    lowtoupp ⟨a ++ (key.toList ++ (v ++ r)), some (a.length + key.length, v)⟩ =
      ⟨a ++ (key.toList ++ (v.map Char.toUpper ++ r)),
        some (a.length + key.length, v.map Char.toUpper)⟩ := by
  have hfront : (a ++ key.toList).length = a.length + key.length := by
    rw [List.length_append, String.length_toList]
  have hcells : a ++ (key.toList ++ (v ++ r)) = a ++ key.toList ++ (v ++ r) :=
    (List.append_assoc _ _ _).symm
  unfold lowtoupp
  dsimp only
  rw [hcells, ← hfront, List.take_left, ← List.drop_drop, List.drop_left, List.drop_left,
    List.append_assoc, List.append_assoc]

/-! ## The output around an SSID -/

/-- What `iw` prints around the text of an SSID: no line in front of it holds `ssid ` or
`channel `, and none behind it holds `addr `. -/
structure Frame where
  before : List Char
  after : List Char
  before_ssid : ¬ "ssid ".toList <:+: before
  before_channel : ¬ "channel ".toList <:+: before
  after_addr : ¬ "addr ".toList <:+: after
  before_nul : nul ∉ before
  after_nul : nul ∉ after

/-- The text of an SSID. -/
structure Ssid where
  text : List Char
  line : '\n' ∉ text
  text_nul : nul ∉ text

/-- The text with what stands around it; `mark` ends its line. -/
def around (before text after : List Char) (mark : Char) : List Char :=
  before ++ '\t' :: ("ssid ".toList ++ (text ++ mark :: after))

/-- The output with the SSID in it. -/
def Frame.output (f : Frame) (s : Ssid) : List Char := around f.before s.text f.after '\n'

/-- The text that holds the first `channel `: the SSID, if it does, or what is behind it. -/
def Frame.channelText (f : Frame) (s : Ssid) : List Char :=
  if "channel ".toList <:+: s.text then s.text else f.after

variable {f : Frame} {s : Ssid}

/-- The output holds no terminator. -/
theorem nul_notMem_output (f : Frame) (s : Ssid) : nul ∉ f.output s := by
  unfold Frame.output around
  have hword : nul ∉ "ssid ".toList := by decide
  have htab : nul ≠ '\t' := by decide
  have hline : nul ≠ '\n' := by decide
  simp only [List.mem_append, List.mem_cons, f.before_nul, f.after_nul, s.text_nul, hword, htab,
    hline, or_self, not_false_eq_true]

/-- Output that fits stands in the buffer with zeros behind it. -/
theorem readbuf_output (hfits : (f.output s).length < readSize) :
    ∃ zeros, readbuf (f.output s) = around f.before s.text (f.after ++ nul :: zeros) '\n' := by
  have hsize : readSize - (f.output s).length = readSize - (f.output s).length - 1 + 1 := by omega
  refine ⟨List.replicate (readSize - (f.output s).length - 1) nul, ?_⟩
  unfold readbuf
  rw [List.take_of_length_le hfits.le, hsize, List.replicate_succ]
  simp [Frame.output, around]

/-- In such a buffer the whole output is searched. -/
theorem search_output (hfits : (f.output s).length < readSize) (needle : String) :
    search needle (readbuf (f.output s)) =
      some ((strstr needle.toList (f.output s)).map fun found =>
        (f.output s).length - found.length) := by
  have hsize : readSize - (f.output s).length = readSize - (f.output s).length - 1 + 1 := by omega
  unfold search readbuf
  rw [List.take_of_length_le hfits.le, hsize, List.replicate_succ,
    textAt_append (nul_notMem_output f s)]
  rfl

/-- In one that is full the search runs out of it. -/
theorem search_full (hfull : readSize ≤ (f.output s).length) (needle : String) :
    search needle (readbuf (f.output s)) = none := by
  have htaken : nul ∉ (f.output s).take readSize := fun hmem =>
    nul_notMem_output f s (List.mem_of_mem_take hmem)
  unfold search readbuf
  rw [Nat.sub_eq_zero_of_le hfull, List.replicate_zero, List.append_nil,
    textAt_of_notMem htaken]
  rfl

/-! ## The three fields -/

/-- The first name of the output is that of the network. -/
theorem strstr_ssid (f : Frame) (s : Ssid) :
    strstr "ssid ".toList (f.output s) =
      some ("ssid ".toList ++ (s.text ++ '\n' :: f.after)) :=
  strstr_behind (by decide) f.before_ssid

/-- A place that is found is counted from the front. -/
theorem pointer_eq {front : List Char} (h : f.output s = front ++ found) :
    (f.output s).length - found.length = front.length := by
  rw [h, List.length_append, Nat.add_sub_cancel]

/-- The name of the network is cut out at its line end. -/
theorem valueOf_ssid (f : Frame) (s : Ssid) (back : List Char) :
    valueOf "ssid " '\n' (around f.before s.text back '\n')
        ((strstr "ssid ".toList (f.output s)).map fun found =>
          (f.output s).length - found.length) =
      some ⟨around f.before s.text back nul, some (f.before.length + 6, s.text)⟩ := by
  have houtput : f.output s = (f.before ++ ['\t']) ++
      ("ssid ".toList ++ (s.text ++ '\n' :: f.after)) := by
    simp [Frame.output, around]
  have hcells : ∀ mark, around f.before s.text back mark =
      (f.before ++ ['\t']) ++ ("ssid ".toList ++ (s.text ++ mark :: back)) := by
    intro mark
    simp [around]
  rw [strstr_ssid, Option.map_some, pointer_eq houtput, hcells, hcells,
    valueOf_found s.line s.text_nul, List.length_append]
  rfl

/-- An address in front of the SSID is cut at the end of its line. -/
theorem valueOf_addr_before {f : Frame} (s : Ssid) (back : List Char)
    (hbefore : strstr "addr ".toList f.before = some found) :
    ∃ b front, valueOf "addr " '\n' (around f.before s.text back nul)
        ((strstr "addr ".toList (f.output s)).map fun found =>
          (f.output s).length - found.length) = some b ∧
      front.length = f.before.length ∧ (lowtoupp b).cells = around front s.text back nul ∧
      (lowtoupp b).value.map Prod.snd =
        (valueBehind "addr " '\n' f.before).map (List.map Char.toUpper) := by
  obtain ⟨front, tail, hsplit, rfl⟩ := eq_of_strstr hbefore
  have htail : nul ∉ tail := by
    intro hmem
    refine f.before_nul ?_
    rw [hsplit]
    exact List.mem_append_right _ (List.mem_append_right _ hmem)
  have hfound : strstr "addr ".toList (f.output s) = some ("addr ".toList ++ tail ++
      '\t' :: ("ssid ".toList ++ (s.text ++ '\n' :: f.after))) :=
    strstr_of_some (by decide) hbefore
  have houtput : f.output s = front ++ ("addr ".toList ++ tail ++
      '\t' :: ("ssid ".toList ++ (s.text ++ '\n' :: f.after))) := by
    simp [Frame.output, around, hsplit]
  rw [hfound, Option.map_some, pointer_eq houtput, valueBehind_found hbefore]
  by_cases hline : '\n' ∈ tail
  · obtain ⟨v, rest, rfl, hv⟩ := List.eq_append_cons_of_mem hline
    have hvnul : nul ∉ v := fun hmem => htail (List.mem_append_left _ hmem)
    have hcells : around f.before s.text back nul = front ++ ("addr ".toList ++
        (v ++ '\n' :: (rest ++ '\t' :: ("ssid ".toList ++ (s.text ++ nul :: back))))) := by
      simp [around, hsplit]
    rw [hcells, valueOf_found hv hvnul, if_pos hline, takeWhile_ne_append hv]
    refine ⟨_, front ++ ("addr ".toList ++ (v.map Char.toUpper ++ nul :: rest)), rfl, ?_, ?_, ?_⟩
    · rw [hsplit]
      simp
    · rw [lowtoupp_value]
      simp [around]
    · rw [lowtoupp_value]
      rfl
  · -- the line would end behind the SSID, where the zero stands now
    have hcells : around f.before s.text back nul = front ++ ("addr ".toList ++
        ((tail ++ '\t' :: ("ssid ".toList ++ s.text)) ++ nul :: back)) := by
      simp [around, hsplit]
    have hnoline : '\n' ∉ tail ++ '\t' :: ("ssid ".toList ++ s.text) := by
      simp [hline, s.line]
    have hnonul : nul ∉ tail ++ '\t' :: ("ssid ".toList ++ s.text) := by
      simp only [List.mem_append, List.mem_cons, htail, s.text_nul, false_or, or_false]
      decide
    rw [hcells, valueOf_end (by decide) hnoline hnonul, if_neg hline, ← hcells]
    exact ⟨_, f.before, rfl, rfl, rfl, rfl⟩

/-- A key that is not in front of the SSID is looked for in its text and behind it. -/
theorem strstr_output {key : String} (htab : '\t' ∉ key.toList) (hne : key.toList ≠ [])
    (hword : ∀ rest, strstr key.toList ("ssid ".toList ++ rest) = strstr key.toList rest)
    (hbefore : strstr key.toList f.before = none) (s : Ssid) :
    strstr key.toList (f.output s) = strstr key.toList (s.text ++ '\n' :: f.after) := by
  unfold Frame.output around
  rw [strstr_of_none hne htab hbefore, hword]

/-- An address in the SSID is not cut: the end of the line is gone. -/
theorem valueOf_addr_behind {f : Frame} (s : Ssid) (back : List Char)
    (hbefore : strstr "addr ".toList f.before = none) :
    valueOf "addr " '\n' (around f.before s.text back nul)
        ((strstr "addr ".toList (f.output s)).map fun found =>
          (f.output s).length - found.length) =
      some ⟨around f.before s.text back nul, none⟩ := by
  have hword : ∀ rest, strstr "addr ".toList ("ssid ".toList ++ rest) =
      strstr "addr ".toList rest := by
    intro rest
    simp [strstr]
  rw [strstr_output (by decide) (by decide) hword hbefore]
  cases htext : strstr "addr ".toList s.text with
  | some found =>
    obtain ⟨front, tail, hsplit, rfl⟩ := eq_of_strstr htext
    have houtput : f.output s = (f.before ++ '\t' :: ("ssid ".toList ++ front)) ++
        ("addr ".toList ++ tail ++ '\n' :: f.after) := by
      simp [Frame.output, around, hsplit]
    have hcells : around f.before s.text back nul =
        (f.before ++ '\t' :: ("ssid ".toList ++ front)) ++
          ("addr ".toList ++ (tail ++ nul :: back)) := by
      simp [around, hsplit]
    have hline := s.line
    have hnul := s.text_nul
    rw [hsplit, List.mem_append, List.mem_append, not_or, not_or] at hline hnul
    rw [strstr_of_some (by decide) htext, Option.map_some, pointer_eq houtput, hcells,
      valueOf_end (by decide) hline.2.2 hnul.2.2]
  | none =>
    have hafter := (strstr_eq_none_iff "addr " f.after).mpr f.after_addr
    rw [strstr_of_none (by decide) (by decide) htext, hafter]
    rfl

/-- The address comes from the lines in front of the SSID. -/
theorem valueOf_addr (f : Frame) (s : Ssid) (back : List Char) :
    ∃ b front, valueOf "addr " '\n' (around f.before s.text back nul)
        ((strstr "addr ".toList (f.output s)).map fun found =>
          (f.output s).length - found.length) = some b ∧
      front.length = f.before.length ∧ (lowtoupp b).cells = around front s.text back nul ∧
      (lowtoupp b).value.map Prod.snd =
        (valueBehind "addr " '\n' f.before).map (List.map Char.toUpper) := by
  cases hbefore : strstr "addr ".toList f.before with
  | some found => exact valueOf_addr_before s back hbefore
  | none =>
    refine ⟨_, f.before, valueOf_addr_behind s back hbefore, rfl, rfl, ?_⟩
    rw [valueBehind_none hbefore]
    rfl

/-- The channel comes from the SSID, if that holds the key, or from the lines behind it. -/
theorem valueOf_channel (f : Frame) (s : Ssid) (zeros front : List Char)
    (hfront : front.length = f.before.length) :
    ∃ c, valueOf "channel " ' ' (around front s.text (f.after ++ nul :: zeros) nul)
        ((strstr "channel ".toList (f.output s)).map fun found =>
          (f.output s).length - found.length) = some c ∧
      c.value.map Prod.snd = valueBehind "channel " ' ' (f.channelText s) := by
  have hword : ∀ rest, strstr "channel ".toList ("ssid ".toList ++ rest) =
      strstr "channel ".toList rest := by
    intro rest
    simp [strstr]
  have hbefore := (strstr_eq_none_iff "channel " f.before).mpr f.before_channel
  rw [strstr_output (by decide) (by decide) hword hbefore]
  unfold Frame.channelText
  cases htext : strstr "channel ".toList s.text with
  | some found =>
    have hholds : "channel ".toList <:+: s.text := by
      by_contra hnot
      rw [(strstr_eq_none_iff "channel " s.text).mpr hnot] at htext
      cases htext
    obtain ⟨text, tail, hsplit, rfl⟩ := eq_of_strstr htext
    have houtput : f.output s = (f.before ++ '\t' :: ("ssid ".toList ++ text)) ++
        ("channel ".toList ++ tail ++ '\n' :: f.after) := by
      simp [Frame.output, around, hsplit]
    have hplace : (f.before ++ '\t' :: ("ssid ".toList ++ text)).length =
        (front ++ '\t' :: ("ssid ".toList ++ text)).length := by
      rw [List.length_append, List.length_append, hfront]
    have hcells : around front s.text (f.after ++ nul :: zeros) nul =
        (front ++ '\t' :: ("ssid ".toList ++ text)) ++
          ("channel ".toList ++ (tail ++ nul :: (f.after ++ nul :: zeros))) := by
      simp [around, hsplit]
    have hnul := s.text_nul
    rw [hsplit, List.mem_append, List.mem_append, not_or, not_or] at hnul
    rw [if_pos hholds, strstr_of_some (by decide) htext, Option.map_some, pointer_eq houtput,
      hplace, hcells, valueBehind_found htext]
    exact valueOf_text (by decide) hnul.2.2
  | none =>
    have hnot := (strstr_eq_none_iff "channel " s.text).mp htext
    rw [if_neg hnot, strstr_of_none (by decide) (by decide) htext]
    cases hafter : strstr "channel ".toList f.after with
    | none => exact ⟨_, rfl, (valueBehind_none hafter).symm⟩
    | some found =>
      obtain ⟨lines, tail, hsplit, rfl⟩ := eq_of_strstr hafter
      have houtput : f.output s =
          (f.before ++ '\t' :: ("ssid ".toList ++ (s.text ++ '\n' :: lines))) ++
            ("channel ".toList ++ tail) := by
        simp [Frame.output, around, hsplit]
      have hplace : (f.before ++ '\t' :: ("ssid ".toList ++ (s.text ++ '\n' :: lines))).length =
          (front ++ '\t' :: ("ssid ".toList ++ (s.text ++ nul :: lines))).length := by
        simp [hfront]
      have hcells : around front s.text (f.after ++ nul :: zeros) nul =
          (front ++ '\t' :: ("ssid ".toList ++ (s.text ++ nul :: lines))) ++
            ("channel ".toList ++ (tail ++ nul :: zeros)) := by
        simp [around, hsplit]
      have hnul := f.after_nul
      rw [hsplit, List.mem_append, List.mem_append, not_or, not_or] at hnul
      rw [Option.map_some, pointer_eq houtput, hplace, hcells, valueBehind_found hafter]
      exact valueOf_text (by decide) hnul.2.2

/-! ## What is reported -/

/-- **The report.** From an output that fits into the buffer. -/
theorem statusInfo_output (hfits : (f.output s).length < readSize) :
    statusInfo (f.output s) =
      some ⟨some s.text, (valueBehind "addr " '\n' f.before).map (List.map Char.toUpper),
        valueBehind "channel " ' ' (f.channelText s)⟩ := by
  obtain ⟨zeros, hcells⟩ := readbuf_output hfits
  obtain ⟨b, front, haddr, hlength, hb, hbssid⟩ := valueOf_addr f s (f.after ++ nul :: zeros)
  obtain ⟨c, hchannel, hc⟩ := valueOf_channel f s zeros front hlength
  unfold statusInfo
  dsimp only
  rw [search_output hfits, search_output hfits, search_output hfits, hcells]
  simp only [Option.bind_eq_bind, Option.bind_some, valueOf_ssid, haddr, hb, hchannel, hbssid, hc,
    Option.pure_def, Option.map_some]

/-- An output that does not fit leaves no text in the buffer. -/
theorem statusInfo_full (hfull : readSize ≤ (f.output s).length) :
    statusInfo (f.output s) = none := by
  unfold statusInfo
  dsimp only
  rw [search_full hfull]
  rfl

/-- Two outputs that differ in the SSID alone are reported with the same channel and address,
and each with its own SSID. -/
def Unforged (f : Frame) (s₁ s₂ : Ssid) : Prop :=
  ∃ r₁ r₂, statusInfo (f.output s₁) = some r₁ ∧ statusInfo (f.output s₂) = some r₂ ∧
    r₁.channel = r₂.channel ∧ r₁.bssid = r₂.bssid ∧
    r₁.ssid = some s₁.text ∧ r₂.ssid = some s₂.text

/-- Output that is read fits into the buffer. -/
theorem fits_of_statusInfo {r : Info} (h : statusInfo (f.output s) = some r) :
    (f.output s).length < readSize := by
  by_contra hfull
  rw [statusInfo_full (Nat.le_of_not_lt hfull)] at h
  cases h

/-- Without the key in the name, the channel is looked for behind it. -/
theorem channelText_of_not_holds (f : Frame) (h : ¬ "channel ".toList <:+: s.text) :
    f.channelText s = f.after := if_neg h

/-- **The fields.** No field is forged exactly when both outputs fit into the buffer, and
neither SSID holds `channel ` or the first places that hold it show the same word behind it. -/
theorem status_iff (f : Frame) (s₁ s₂ : Ssid) :
    Unforged f s₁ s₂ ↔
      (f.output s₁).length < readSize ∧ (f.output s₂).length < readSize ∧
        (¬ "channel ".toList <:+: s₁.text ∧ ¬ "channel ".toList <:+: s₂.text ∨
          valueBehind "channel " ' ' (f.channelText s₁) =
            valueBehind "channel " ' ' (f.channelText s₂)) := by
  constructor
  · rintro ⟨r₁, r₂, h₁, h₂, hchannel, -, -, -⟩
    have hfits₁ := fits_of_statusInfo h₁
    have hfits₂ := fits_of_statusInfo h₂
    rw [statusInfo_output hfits₁, Option.some.injEq] at h₁
    rw [statusInfo_output hfits₂, Option.some.injEq] at h₂
    subst h₁ h₂
    exact ⟨hfits₁, hfits₂, Or.inr hchannel⟩
  · rintro ⟨hfits₁, hfits₂, hholds⟩
    have hchannel : valueBehind "channel " ' ' (f.channelText s₁) =
        valueBehind "channel " ' ' (f.channelText s₂) := by
      rcases hholds with ⟨hnot₁, hnot₂⟩ | hsame
      · rw [channelText_of_not_holds f hnot₁, channelText_of_not_holds f hnot₂]
      · exact hsame
    exact ⟨_, _, statusInfo_output hfits₁, statusInfo_output hfits₂, hchannel, rfl, rfl, rfl⟩

/-! ## A forged channel -/

/-- The output for an access point on channel 6. -/
def wlan0 : Frame where
  before := "Interface wlan0\n\tifindex 5\n\twdev 0x1\n\taddr 0a:1b:2c:3d:4e:5f\n".toList
  after := ("\ttype AP\n\twiphy 0\n" ++
    "\tchannel 6 (2437 MHz), width: 20 MHz, center1: 2437 MHz\n\ttxpower 20.00 dBm\n").toList
  before_ssid := by decide +kernel
  before_channel := by decide +kernel
  after_addr := by decide +kernel
  before_nul := by decide
  after_nul := by decide +kernel

def home : Ssid := ⟨"home".toList, by decide, by decide⟩

def channel11 : Ssid := ⟨"channel 11 home".toList, by decide, by decide⟩

/-- An SSID shows a channel that the access point is not on. -/
theorem channel_forged :
    (statusInfo (wlan0.output home)).bind Info.channel = some "6".toList ∧
      (statusInfo (wlan0.output channel11)).bind Info.channel = some "11".toList ∧
      ¬ Unforged wlan0 home channel11 := by
  have hhome : (wlan0.output home).length < readSize := by decide +kernel
  have hforged : (wlan0.output channel11).length < readSize := by decide +kernel
  have hsix : valueBehind "channel " ' ' (wlan0.channelText home) = some "6".toList := by decide
  have heleven : valueBehind "channel " ' ' (wlan0.channelText channel11) =
      some "11".toList := by
    decide
  rw [statusInfo_output hhome, statusInfo_output hforged]
  refine ⟨hsix, heleven, ?_⟩
  rintro ⟨r₁, r₂, h₁, h₂, hchannel, -, -, -⟩
  rw [statusInfo_output hhome, Option.some.injEq] at h₁
  rw [statusInfo_output hforged, Option.some.injEq] at h₂
  subst h₁ h₂
  dsimp only at hchannel
  rw [hsix, heleven] at hchannel
  revert hchannel
  decide

end Tiger.Analysis.StatusFields
