import Tiger.Library.LowerEnvelope
import Tiger.Analysis.PhaseLock

/-!
# The box of the phase lock

In exact arithmetic, with rising times and a line that runs through all error bars: what
`save_min` gets is a line of least slope through the error bars, and `save_max` one of greatest
slope (`pass_kept`). Where such a line touches one upper end alone, pass 2 finds it (`pass_found`),
and with both lines found pass 4 has a place to begin (`pass4_some`).

The two passes are one argument: pass 3 is pass 2 with all signs turned, so the ends of the error
bars are taken with the sign of the pass.
-/

set_option autoImplicit false

namespace Tiger.Analysis.PhaseEnvelope

open Tiger.Library Tiger.Model.Phaselock Tiger.Analysis.PhaseLock

/-! ## Signs -/

/-- A number with the sign of a pass. -/
def signed (sign : Bool) (x : ℚ) : ℚ := if sign then -x else x

/-- The ends that a pass walks along. -/
def base (sign : Bool) : End := if sign then .min else .max

/-- The other sign turns the order around. -/
theorem signed_not_le {sign : Bool} {x y : ℚ} :
    signed (! sign) x ≤ signed (! sign) y ↔ signed sign y ≤ signed sign x := by
  cases sign <;> simp [signed]

/-- A sign loses nothing. -/
theorem signed_injective (sign : Bool) {x y : ℚ} (h : signed sign x = signed sign y) : x = y := by
  cases sign <;> simpa [signed] using h

section Rows

variable (ring : DRing ℚ) (rp : Fin ringSize)

/-! ## Rows -/

/-- The time of a place, from the oldest datum on. -/
def time (k : ℕ) : ℚ := elapsed ring (place rp k) (place rp 0)

/-- The end of an error bar. -/
def row (e : End) (k : ℕ) : ℚ := (ring (place rp k)).ss e

/-- The value of a line at a place; its offset is the value at the newest. -/
def valueAt (s : Seg ℚ) (k : ℕ) : ℚ := s.offset + s.slope * (time ring rp k - time ring rp 15)

/-- A line runs through all error bars. -/
def Fits (s : Seg ℚ) : Prop :=
  ∀ k ≤ 15, row ring rp .min k ≤ valueAt ring rp s k ∧ valueAt ring rp s k ≤ row ring rp .max k

/-- The ends of the error bars with the sign of a pass. -/
def ends (sign : Bool) (e : End) (k : ℕ) : ℚ := signed sign (row ring rp e k)

variable {ring rp}

/-- The unsigned difference of two times that rise is the time between them. -/
theorem elapsed_eq (ht : Rising (time ring rp) 15) {i k : ℕ} (hik : i ≤ k) (hk : k ≤ 15) :
    elapsed ring (place rp k) (place rp i) = time ring rp k - time ring rp i := by
  have hle : ((ring (place rp i)).absolute - (ring (place rp 0)).absolute).toNat ≤
      ((ring (place rp k)).absolute - (ring (place rp 0)).absolute).toNat := by
    rcases Nat.eq_or_lt_of_le hik with rfl | hik
    · exact le_rfl
    · exact Nat.le_of_lt (Nat.cast_lt.mp (ht i k hik hk))
  have hsub : ((ring (place rp k)).absolute - (ring (place rp i)).absolute).toNat =
      ((ring (place rp k)).absolute - (ring (place rp 0)).absolute).toNat -
        ((ring (place rp i)).absolute - (ring (place rp 0)).absolute).toNat := by
    simp only [UInt32.toNat_sub] at *
    have h0 := (ring (place rp 0)).absolute.toNat_lt
    have hi := (ring (place rp i)).absolute.toNat_lt
    have hk := (ring (place rp k)).absolute.toNat_lt
    omega
  show (((ring (place rp k)).absolute - (ring (place rp i)).absolute).toNat : ℚ) = _
  rw [hsub, Nat.cast_sub hle]
  rfl

/-- The slope of a segment is that of the line between its ends. -/
theorem segTo_slope (ht : Rising (time ring rp) 15) {i k : ℕ} (hik : i < k) (hk : k ≤ 15)
    (s0 s1 : End) (sign : Bool) :
    signed sign (segTo ring rp (place rp i) s0 s1 (place rp k)).slope =
      slopeTo (time ring rp) (ends ring rp sign s1) (ends ring rp sign s0) i k := by
  unfold segTo slopeTo ends row
  dsimp only
  rw [elapsed_eq ht hik.le hk]
  cases sign with
  | false => rfl
  | true =>
    simp only [signed, if_true]
    rw [← neg_div]
    congr 1
    ring

/-- The line of a segment goes through its beginning. -/
theorem valueAt_segTo (ht : Rising (time ring rp) 15) {i n : ℕ} (hin : i < n) (hn : n ≤ 15)
    (s0 s1 : End) (sign : Bool) (k : ℕ) :
    signed sign (valueAt ring rp (segTo ring rp (place rp i) s0 s1 (place rp n)) k) =
      lineAt (time ring rp) (ends ring rp sign s1) i
        (signed sign (segTo ring rp (place rp i) s0 s1 (place rp n)).slope) k := by
  have hne : time ring rp n - time ring rp i ≠ 0 := (sub_pos.mpr (ht i n hin hn)).ne'
  have hslope : (segTo ring rp (place rp i) s0 s1 (place rp n)).slope *
      (time ring rp n - time ring rp i) = row ring rp s0 n - row ring rp s1 i := by
    unfold segTo
    dsimp only
    rw [elapsed_eq ht hin.le hn, div_mul_cancel₀ _ hne]
    rfl
  have hoffset : (segTo ring rp (place rp i) s0 s1 (place rp n)).offset = row ring rp s0 n +
      (segTo ring rp (place rp i) s0 s1 (place rp n)).slope *
        (time ring rp 15 - time ring rp n) := by
    rw [← elapsed_eq ht hn le_rfl, place_newest]
    rfl
  have hvalue : valueAt ring rp (segTo ring rp (place rp i) s0 s1 (place rp n)) k =
      row ring rp s1 i + (segTo ring rp (place rp i) s0 s1 (place rp n)).slope *
        (time ring rp k - time ring rp i) := by
    rw [valueAt, hoffset]
    linarith
  rw [hvalue]
  cases sign with
  | false => rfl
  | true =>
    simp only [lineAt, ends, signed, if_true]
    ring

/-- A line fits when, under either sign, it lies between the rows. -/
theorem fits_iff (sign : Bool) (s : Seg ℚ) :
    Fits ring rp s ↔ ∀ k ≤ 15,
      ends ring rp sign (base sign).other k ≤ signed sign (valueAt ring rp s k) ∧
        signed sign (valueAt ring rp s k) ≤ ends ring rp sign (base sign) k := by
  cases sign with
  | false => rfl
  | true =>
    simp only [Fits, ends, signed, base, End.other, if_true, neg_le_neg_iff]
    exact forall₂_congr fun _ _ => and_comm

/-- A line through the error bars fits between the rows of either pass. -/
theorem Fits.fitsBetween {s : Seg ℚ} (h : Fits ring rp s) (sign : Bool) :
    FitsBetween (time ring rp) (ends ring rp sign (base sign).other) (ends ring rp sign (base sign))
      15 (signed sign s.slope) (signed sign (s.offset - s.slope * time ring rp 15)) := by
  intro k hk
  have hvalue : signed sign s.slope * time ring rp k +
      signed sign (s.offset - s.slope * time ring rp 15) = signed sign (valueAt ring rp s k) := by
    cases sign <;> simp only [signed, valueAt, if_true, Bool.false_eq_true, if_false] <;> ring
  rw [hvalue]
  exact (fits_iff sign s).mp h k hk

/-! ## The scan -/

/-- A scan ends with the least slope. -/
theorem foldl_better_least (j : Fin ringSize) (s0 s1 : End) (sign : Bool) (l : List (Fin ringSize))
    (n : Fin ringSize) {seg : Seg ℚ} {n' : Fin ringSize}
    (h : l.foldl (better ring rp j s0 s1 sign) (some (segTo ring rp j s0 s1 n, n)) =
      some (seg, n')) :
    ∀ k ∈ n :: l, signed sign seg.slope ≤ signed sign (segTo ring rp j s0 s1 k).slope := by
  induction l generalizing n with
  | nil =>
    obtain ⟨rfl, rfl⟩ := Prod.mk.inj (Option.some.inj h)
    intro k hk
    rw [List.mem_singleton.mp hk]
  | cons c l ih =>
    rw [List.foldl_cons] at h
    unfold better at h
    dsimp only at h
    split at h
    · next hbetter =>
      have hc : signed sign (segTo ring rp j s0 s1 c).slope ≤
          signed sign (segTo ring rp j s0 s1 n).slope := by
        cases sign <;> simp [signed] at hbetter ⊢ <;> linarith
      intro k hk
      rcases List.mem_cons.mp hk with rfl | hk
      · exact (ih c h c List.mem_cons_self).trans hc
      · exact ih c h k hk
    · next hbetter =>
      have hn : signed sign (segTo ring rp j s0 s1 n).slope ≤
          signed sign (segTo ring rp j s0 s1 c).slope := by
        cases sign <;> simp [signed] at hbetter ⊢ <;> linarith
      intro k hk
      rcases List.mem_cons.mp hk with rfl | hk
      · exact ih k h k List.mem_cons_self
      · rcases List.mem_cons.mp hk with rfl | hk
        · exact (ih n h n List.mem_cons_self).trans hn
        · exact ih n h k (List.mem_cons_of_mem n hk)

/-- The answer of a scan is a segment to a later place, and with the sign of the scan no other
is less steep. -/
theorem search_least {i : ℕ} (hi : i < 15) {s0 s1 : End} {sign : Bool} {seg : Seg ℚ}
    {n : Fin ringSize} (h : search ring rp (place rp i) s0 s1 sign = some (seg, n)) :
    ∃ m, i < m ∧ m ≤ 15 ∧ n = place rp m ∧ seg = segTo ring rp (place rp i) s0 s1 (place rp m) ∧
      ∀ k, i < k → k ≤ 15 → signed sign seg.slope ≤
        signed sign (segTo ring rp (place rp i) s0 s1 (place rp k)).slope := by
  obtain ⟨m, him, hm, hsearch⟩ := search_some ring rp hi s0 s1 sign
  rw [hsearch] at h
  obtain ⟨rfl, rfl⟩ := Prod.mk.inj (Option.some.inj h)
  refine ⟨m, him, hm, rfl, rfl, fun k hik hk => ?_⟩
  have hplaces := placesUp_cons rp (show i + 1 < 16 by omega)
  rw [search_eq ring rp i hi.le, hplaces, List.foldl_cons] at hsearch
  refine foldl_better_least _ s0 s1 sign _ _ hsearch _ ?_
  rw [← hplaces]
  exact List.mem_map.mpr ⟨k, List.mem_range'_1.mpr ⟨hik, by omega⟩, rfl⟩

/-- The segment of a pass departs from its vertex. -/
theorem departs_of_search (ht : Rising (time ring rp) 15) {i m : ℕ} (hi : i < 15) (hm : m ≤ 15)
    {e : End} {sign : Bool} {seg : Seg ℚ}
    (h : search ring rp (place rp i) e e sign = some (seg, place rp m)) :
    Departs (time ring rp) (ends ring rp sign e) 15 i m (signed sign seg.slope) := by
  obtain ⟨m', him, hm', hplace, rfl, hleast⟩ := search_least hi h
  obtain rfl := place_injective (by omega) (by omega) hplace
  refine ⟨him, hm, segTo_slope ht him hm e e sign, fun k hik hk => ?_⟩
  rw [← segTo_slope ht hik hk]
  exact hleast k hik hk

/-- The check of a pass is the steepest segment to the other row. -/
theorem check_of_search (ht : Rising (time ring rp) 15) {i : ℕ} (hi : i < 15) {e : End}
    {sign : Bool} {check : Seg ℚ} {n : Fin ringSize}
    (h : search ring rp (place rp i) e.other e (! sign) = some (check, n)) :
    ∃ m, i < m ∧ m ≤ 15 ∧ check = segTo ring rp (place rp i) e.other e (place rp m) ∧
      ∀ k, i < k → k ≤ 15 → slopeTo (time ring rp) (ends ring rp sign e)
        (ends ring rp sign e.other) i k ≤ signed sign check.slope := by
  obtain ⟨m, him, hm, -, hcheck, hleast⟩ := search_least hi h
  refine ⟨m, him, hm, hcheck, fun k hik hk => ?_⟩
  rw [← segTo_slope ht hik hk]
  exact signed_not_le.mp (hleast k hik hk)

/-! ## The passes -/

/-- The comparison of a pass. -/
def Inside (sign : Bool) (inside : ℚ → ℚ → ℚ → Bool) : Prop :=
  ∀ check seg last, inside check seg last = true ↔
    signed sign last < signed sign check ∧ signed sign check < signed sign seg

/-- A line through all error bars that goes from the end of one to the opposite end of a later
one and touches the row of the first nowhere else. -/
structure Spans (ring : DRing ℚ) (rp : Fin ringSize) (sign : Bool) (s : Seg ℚ) (j n : ℕ) :
    Prop where
  fits : Fits ring rp s
  lt : j < n
  le : n ≤ 15
  start : row ring rp (base sign) j = valueAt ring rp s j
  finish : row ring rp (base sign).other n = valueAt ring rp s n
  only : ∀ k ≤ 15, k ≠ j → row ring rp (base sign) k ≠ valueAt ring rp s k

namespace Spans

variable {sign : Bool} {s : Seg ℚ} {j n : ℕ}

/-- The line through its vertex is the line. -/
theorem lineAt_eq (h : Spans ring rp sign s j n) (k : ℕ) :
    lineAt (time ring rp) (ends ring rp sign (base sign)) j (signed sign s.slope) k =
      signed sign (valueAt ring rp s k) := by
  rw [lineAt, ends, h.start]
  cases sign <;> simp only [signed, valueAt, if_true, Bool.false_eq_true, if_false] <;> ring

/-- The line touches its row at its vertex alone. -/
theorem touchesOnly (h : Spans ring rp sign s j n) :
    TouchesOnly (time ring rp) (ends ring rp sign (base sign)) 15 j (signed sign s.slope) := by
  intro k hk hkj
  rw [h.lineAt_eq]
  refine lt_of_le_of_ne ((fits_iff sign s).mp h.fits k hk).2 fun heq => ?_
  exact h.only k hk hkj (signed_injective sign heq.symm)

/-- The line is no steeper than the segment to the opposite end. -/
theorem le_slopeTo (ht : Rising (time ring rp) 15) (h : Spans ring rp sign s j n) :
    signed sign s.slope ≤ slopeTo (time ring rp) (ends ring rp sign (base sign))
      (ends ring rp sign (base sign).other) j n := by
  rw [← lineAt_le_iff ht h.lt h.le, h.lineAt_eq, ends, h.finish]

/-- The steepest segment to the other row has the slope of the line. -/
theorem slope_eq (ht : Rising (time ring rp) 15) (h : Spans ring rp sign s j n) {m : ℕ}
    (hjm : j < m) (hm : m ≤ 15) {a : ℚ}
    (ha : a = slopeTo (time ring rp) (ends ring rp sign (base sign))
      (ends ring rp sign (base sign).other) j m)
    (hgreatest : ∀ k, j < k → k ≤ 15 → slopeTo (time ring rp) (ends ring rp sign (base sign))
      (ends ring rp sign (base sign).other) j k ≤ a) : a = signed sign s.slope := by
  apply le_antisymm
  · rw [ha, ← le_lineAt_iff ht hjm hm, h.lineAt_eq]
    exact ((fits_iff sign s).mp h.fits m hm).1
  · exact (h.le_slopeTo ht).trans (hgreatest n h.lt h.le)

/-- No line through the error bars is less steep. -/
theorem least (ht : Rising (time ring rp) 15) (h : Spans ring rp sign s j n) {other : Seg ℚ}
    (hother : Fits ring rp other) : signed sign s.slope ≤ signed sign other.slope :=
  (h.le_slopeTo ht).trans ((hother.fitsBetween sign).slopeTo_le ht h.lt h.le)

end Spans

/-- A line that a pass may keep: it spans the error bars, and from the oldest datum it is steeper
than the slope that the pass begins with. -/
def Kept (ring : DRing ℚ) (rp : Fin ringSize) (sign : Bool) (last : ℚ) (s : Seg ℚ) : Prop :=
  ∃ j n, Spans ring rp sign s j n ∧ (j = 0 → signed sign last < signed sign s.slope)

/-- A check that lies between the slopes of arrival and departure spans the error bars, where a
line runs through them at all. -/
theorem spans_of_crossing (ht : Rising (time ring rp) 15) {sign : Bool} {line : Seg ℚ}
    (hline : Fits ring rp line) {i m n : ℕ} {p w : ℚ} {check : Seg ℚ}
    (hsupports : Supports (time ring rp) (ends ring rp sign (base sign)) 15 i p)
    (hdeparts : Departs (time ring rp) (ends ring rp sign (base sign)) 15 i m w) (hin : i < n)
    (hn : n ≤ 15)
    (hcheck : check = segTo ring rp (place rp i) (base sign).other (base sign) (place rp n))
    (hgreatest : ∀ k, i < k → k ≤ 15 → slopeTo (time ring rp) (ends ring rp sign (base sign))
      (ends ring rp sign (base sign).other) i k ≤ signed sign check.slope)
    (hp : p < signed sign check.slope) (hw : signed sign check.slope < w) :
    Spans ring rp sign check i n := by
  have hslope := segTo_slope ht hin hn (base sign).other (base sign) sign
  have hvalue := valueAt_segTo ht hin hn (base sign).other (base sign) sign
  rw [← hcheck] at hslope
  simp only [← hcheck] at hvalue
  have hcross := (fits_of_crossing ht hsupports hdeparts hin hn hslope hgreatest hp hw
    (hline.fitsBetween sign)).2
  refine ⟨(fits_iff sign check).mpr fun k hk => ?_, hin, hn, ?_, ?_, fun k hk hki heq => ?_⟩
  · rw [hvalue]
    exact hcross k hk
  · apply signed_injective sign
    rw [hvalue, lineAt, sub_self, mul_zero, add_zero]
    rfl
  · apply signed_injective sign
    rw [hvalue]
    apply le_antisymm (hcross n hn).1
    exact (lineAt_le_iff ht hin hn _).mpr hslope.le
  · have htouch := hsupports.touches ht hdeparts hp hw hk hki
    rw [← hvalue, ← heq] at htouch
    exact lt_irrefl _ htouch

/-- What a pass keeps spans the error bars, and a later segment is steeper. -/
theorem pass_kept (ht : Rising (time ring rp) 15) {sign : Bool} {inside : ℚ → ℚ → ℚ → Bool}
    (hinside : Inside sign inside) (first : ℚ) {line : Seg ℚ} (hline : Fits ring rp line) :
    ∃ found, walk ring rp (base sign) sign inside ringSize (nextUp rp) first ⟨[], none⟩ =
        some found ∧
      ∀ s, found.save = some s → Kept ring rp sign first s ∧
        ∃ seg ∈ found.segs, signed sign s.slope < signed sign seg.slope := by
  rw [← place_zero]
  obtain ⟨_, found, hwalk, -, -, hsave⟩ := walk_rule ring rp (base sign) sign inside
    (fun i last found =>
      Supports (time ring rp) (ends ring rp sign (base sign)) 15 i (signed sign last) ∧
        (i = 0 → last = first) ∧
        ∀ s, found.save = some s → Kept ring rp sign first s ∧
          ∃ seg ∈ found.segs, signed sign s.slope < signed sign seg.slope) (by
      intro i last found m seg check n hi him hm hseg hcheck hfound
      obtain ⟨hsupports, hfirst, hkept⟩ := hfound
      have hdeparts := departs_of_search ht hi hm hseg
      refine ⟨hsupports.next ht hdeparts, fun hm => absurd hm (by omega), fun s hs => ?_⟩
      unfold turned at hs ⊢
      dsimp only at hs ⊢
      split at hs
      · next hcond =>
        -- the check crosses at this vertex
        obtain rfl := Option.some.inj hs
        rw [Bool.and_eq_true, hinside] at hcond
        obtain ⟨n', hin, hn, hsegTo, hgreatest⟩ := check_of_search ht hi hcheck
        have hspans := spans_of_crossing ht hline hsupports hdeparts hin hn hsegTo hgreatest
          hcond.1.1 hcond.1.2
        exact ⟨⟨i, n', hspans, fun hi => hfirst hi ▸ hcond.1.1⟩, seg, by simp, hcond.1.2⟩
      · obtain ⟨hspans, seg', hseg', hlt⟩ := hkept s hs
        exact ⟨hspans, seg', List.mem_append_left _ hseg', hlt⟩)
    (by decide) (show 15 - 0 ≤ ringSize by decide) first ⟨[], none⟩ (Nat.le_refl 0)
    ⟨supports_zero _ _ _ _, fun _ => rfl, nofun⟩
  exact ⟨found, hwalk, hsave⟩

/-- Where there is a line that a pass may keep, it keeps one. -/
theorem pass_found (ht : Rising (time ring rp) 15) {sign : Bool} {inside : ℚ → ℚ → ℚ → Bool}
    (hinside : Inside sign inside) {first : ℚ} {s : Seg ℚ} (hkept : Kept ring rp sign first s) :
    ∃ found, walk ring rp (base sign) sign inside ringSize (nextUp rp) first ⟨[], none⟩ =
        some found ∧ found.save.isSome := by
  obtain ⟨j, n, hspans, hfirst⟩ := hkept
  rw [← place_zero]
  obtain ⟨_, found, hwalk, hsave⟩ := walk_rule ring rp (base sign) sign inside
    (fun i last found => found.save.isSome ∨
      i ≤ j ∧ (i = j → signed sign last < signed sign s.slope)) (by
      intro i last found m seg check n' hi him hm hseg hcheck hfound
      have hdeparts := departs_of_search ht hi hm hseg
      unfold turned
      dsimp only
      rcases hfound with hsome | ⟨hij, hlast⟩
      · left
        split
        · rfl
        · exact hsome
      rcases Nat.eq_or_lt_of_le hij with rfl | hij
      · -- the vertex of the line
        left
        obtain ⟨n', hin, hn, hsegTo, hgreatest⟩ := check_of_search ht hi hcheck
        have hslope := segTo_slope ht hin hn (base sign).other (base sign) sign
        rw [← hsegTo] at hslope
        have hcheck := hspans.slope_eq ht hin hn hslope hgreatest
        have hseg : signed sign s.slope < signed sign seg.slope := by
          rw [hdeparts.slope]
          exact hspans.touchesOnly.lt_slopeTo ht him hm
        have hcross : inside check.slope seg.slope last = true := by
          rw [hinside, hcheck]
          exact ⟨hlast rfl, hseg⟩
        rw [hcross]
        cases found.save with
        | none => rfl
        | some _ => split <;> rfl
      · right
        refine ⟨hspans.touchesOnly.next_le ht hdeparts hij, fun _ => ?_⟩
        have hj : j ≤ 15 := hspans.lt.le.trans hspans.le
        exact (hdeparts.least j hij hj).trans_lt (hspans.touchesOnly.slopeTo_lt ht hij hj))
    (by decide) (show 15 - 0 ≤ ringSize by decide) first ⟨[], none⟩ (Nat.le_refl 0)
    (Or.inr ⟨Nat.zero_le j, fun hj => hfirst hj.symm⟩)
  refine ⟨found, hwalk, hsave.resolve_right fun h => ?_⟩
  have hlt := hspans.lt
  have hle := hspans.le
  omega

end Rows

/-! ## Pass 4 -/

/-- With a line of either pass that is less steep than one of its segments, pass 4 gives a
polygon. -/
theorem pass4_some {maxseg minseg : List (Seg ℚ)} (hmaxseg : maxseg.length ≤ 15)
    (hminseg : minseg.length ≤ 15) {saveMin saveMax : Seg ℚ} (hle : saveMin.slope ≤ saveMax.slope)
    (hmax : ∃ seg ∈ maxseg, saveMin.slope < seg.slope)
    (hmin : ∃ seg ∈ minseg, seg.slope < saveMax.slope) :
    ∃ df, pass4 maxseg minseg saveMin saveMax = some (some df) := by
  obtain ⟨r, hr, hbegins⟩ := pass4_room hmaxseg hminseg saveMin saveMax
  have hsome : r.isSome := hbegins (fun _ h => hle.trans_lt h) (fun _ h => h.trans_le hle) hmax hmin
  obtain ⟨df, rfl⟩ := Option.isSome_iff_exists.mp hsome
  exact ⟨df, hr⟩

/-! ## The box -/

/-- Pass 2 compares as its sign says. -/
theorem inside_pass2 :
    Inside false fun check seg last => decide (check < seg) && decide (last < check) := by
  simp [Inside, signed, and_comm]

/-- Pass 3 compares as its sign says. -/
theorem inside_pass3 :
    Inside true fun check seg last => decide (seg < check) && decide (check < last) := by
  simp [Inside, signed, and_comm]

section Decision

variable {ring : DRing ℚ} {rp : Fin ringSize} {freq : ℤ} {d : Decision ℚ}

/-- The slope pass 2 begins with. -/
def minStart : ℚ := Double.lit (-2 * maxCorrect : ℤ)

/-- The slope pass 3 begins with. -/
def maxStart : ℚ := Double.lit (2 * maxCorrect : ℤ)

/-- The lines of the box span the error bars. -/
theorem decideFreq_box (ht : Rising (time ring rp) 15) {line : Seg ℚ} (hline : Fits ring rp line)
    (h : decideFreq ring rp freq = some d) {saveMin saveMax : Seg ℚ} {deltaF : ℚ} {f : ℤ}
    (hbox : d.report = .box saveMin saveMax deltaF f) :
    Kept ring rp false minStart saveMin ∧ Kept ring rp true maxStart saveMax := by
  obtain ⟨upper, hupper, hsaveMin⟩ := pass_kept ht inside_pass2 minStart hline
  obtain ⟨lower, hlower, hsaveMax⟩ := pass_kept ht inside_pass3 maxStart hline
  have hupper : pass2 ring rp = some upper := hupper
  have hlower : pass3 ring rp = some lower := hlower
  unfold decideFreq at h
  rw [hupper, hlower] at h
  dsimp only at h
  split at h
  · next a b ha hb =>
    split at h
    · obtain rfl := Option.some.inj h
      obtain ⟨rfl, rfl, -⟩ := Report.box.inj hbox
      exact ⟨(hsaveMin _ ha).1, (hsaveMax _ hb).1⟩
    · obtain rfl := Option.some.inj h
      cases hbox
    · cases h
  · obtain rfl := Option.some.inj h
    cases hbox

/-- Where both passes may keep a line, there is a box. -/
theorem decideFreq_finds (ht : Rising (time ring rp) 15) (h : decideFreq ring rp freq = some d)
    {lineMin lineMax : Seg ℚ} (hmin : Kept ring rp false minStart lineMin)
    (hmax : Kept ring rp true maxStart lineMax) :
    ∃ saveMin saveMax deltaF f, d.report = .box saveMin saveMax deltaF f := by
  obtain ⟨upper, hupper, hsome⟩ := pass_found ht inside_pass2 hmin
  obtain ⟨lower, hlower, hsome'⟩ := pass_found ht inside_pass3 hmax
  obtain ⟨a, ha⟩ := Option.isSome_iff_exists.mp hsome
  obtain ⟨b, hb⟩ := Option.isSome_iff_exists.mp hsome'
  obtain ⟨_, _, hspans, -⟩ := hmin
  obtain ⟨upper', hupper', hsaveMin⟩ := pass_kept ht inside_pass2 minStart hspans.fits
  obtain ⟨lower', hlower', hsaveMax⟩ := pass_kept ht inside_pass3 maxStart hspans.fits
  obtain rfl := Option.some.inj (hupper'.symm.trans hupper)
  obtain rfl := Option.some.inj (hlower'.symm.trans hlower)
  obtain ⟨_, hupper₂, -, hmaxseg⟩ := walk_segs ring rp (base false) false
    (fun check seg last => decide (check < seg) && decide (last < check)) minStart
  obtain ⟨_, hlower₂, -, hminseg⟩ := walk_segs ring rp (base true) true
    (fun check seg last => decide (seg < check) && decide (check < last)) maxStart
  obtain rfl := Option.some.inj (hupper.symm.trans hupper₂)
  obtain rfl := Option.some.inj (hlower.symm.trans hlower₂)
  have hupper : pass2 ring rp = some upper' := hupper
  have hlower : pass3 ring rp = some lower' := hlower
  obtain ⟨⟨_, _, hspansMin, -⟩, segMin, hsegMin, hltMin⟩ := hsaveMin a ha
  obtain ⟨⟨_, _, hspansMax, -⟩, segMax, hsegMax, hltMax⟩ := hsaveMax b hb
  have hab : a.slope ≤ b.slope := hspansMin.least ht hspansMax.fits
  obtain ⟨df, hdf⟩ := pass4_some hmaxseg hminseg hab ⟨segMin, hsegMin, hltMin⟩
    ⟨segMax, hsegMax, neg_lt_neg_iff.mp hltMax⟩
  unfold decideFreq at h
  rw [hupper, hlower] at h
  dsimp only at h
  rw [ha, hb] at h
  dsimp only at h
  rw [hdf] at h
  obtain rfl := Option.some.inj h
  exact ⟨_, _, _, _, rfl⟩

end Decision

/-- In every run, in exact arithmetic, where the times of the sixteen data rise and some line
runs through their error bars: a box is reported if and only if for either pass there is a line
that it may keep, and then the two lines of the box run through the error bars and the slope of
every line that does so lies between theirs. -/
theorem box_extreme (minDelay : ℚ) (calls : List (Measurement ℚ))
    {ds : List (State ℚ × Decision ℚ)} (hrun : lockRun minDelay start calls = some ds) {i : ℕ}
    (hi : 15 ≤ i) {st : State ℚ} {d : Decision ℚ} (hd : ds[i]? = some (st, d))
    (ht : Rising (time st.ring (nextDn st.rp)) 15) {line : Seg ℚ}
    (hline : Fits st.ring (nextDn st.rp) line) :
    ((∃ saveMin saveMax deltaF f, d.report = .box saveMin saveMax deltaF f) ↔
      (∃ s, Kept st.ring (nextDn st.rp) false minStart s) ∧
        ∃ s, Kept st.ring (nextDn st.rp) true maxStart s) ∧
    ∀ saveMin saveMax deltaF f, d.report = .box saveMin saveMax deltaF f →
      Fits st.ring (nextDn st.rp) saveMin ∧ Fits st.ring (nextDn st.rp) saveMax ∧
        ∀ other, Fits st.ring (nextDn st.rp) other →
          saveMin.slope ≤ other.slope ∧ other.slope ≤ saveMax.slope := by
  obtain ⟨ds', hrun', -, hcollecting⟩ := lockRun_some minDelay calls start (Nat.zero_le 16)
  obtain rfl := Option.some.inj (hrun.symm.trans hrun')
  have hreport : d.report ≠ .collecting := by
    intro hcollect
    have hearly := (hcollecting i _ hd).mp hcollect
    change 0 + i < 15 at hearly
    omega
  obtain ⟨freq, hdecide⟩ := lockRun_full hrun hd hreport
  refine ⟨⟨?_, ?_⟩, ?_⟩
  · rintro ⟨saveMin, saveMax, deltaF, f, hbox⟩
    obtain ⟨hmin, hmax⟩ := decideFreq_box ht hline hdecide hbox
    exact ⟨⟨saveMin, hmin⟩, ⟨saveMax, hmax⟩⟩
  · rintro ⟨⟨lineMin, hmin⟩, ⟨lineMax, hmax⟩⟩
    exact decideFreq_finds ht hdecide hmin hmax
  · intro saveMin saveMax deltaF f hbox
    obtain ⟨⟨_, _, hmin, -⟩, ⟨_, _, hmax, -⟩⟩ := decideFreq_box ht hline hdecide hbox
    exact ⟨hmin.fits, hmax.fits, fun other hother =>
      ⟨hmin.least ht hother, neg_le_neg_iff.mp (hmax.least ht hother)⟩⟩

/-- Sixteen measurements, a minute or so apart, of a clock that is right. -/
def steadyCalls : List (Measurement ℚ) :=
  (List.range 16).map fun k => ⟨UInt32.ofNat (64 * k), 0, 1, 0⟩

/-- The clock that is right has a box. -/
theorem box_extreme_steady :
    ∃ ds st d, lockRun 0 start steadyCalls = some ds ∧ ds[15]? = some (st, d) ∧
      ((∃ saveMin saveMax deltaF f, d.report = .box saveMin saveMax deltaF f) ↔
        (∃ s, Kept st.ring (nextDn st.rp) false minStart s) ∧
          ∃ s, Kept st.ring (nextDn st.rp) true maxStart s) ∧
      ∀ saveMin saveMax deltaF f, d.report = .box saveMin saveMax deltaF f →
        Fits st.ring (nextDn st.rp) saveMin ∧ Fits st.ring (nextDn st.rp) saveMax ∧
          ∀ other, Fits st.ring (nextDn st.rp) other →
            saveMin.slope ≤ other.slope ∧ other.slope ≤ saveMax.slope := by
  have hlast : ((lockRun (0 : ℚ) start steadyCalls).bind (·[15]?)).any
      (fun p : State ℚ × Decision ℚ => decide
        ((∀ k < (16 : ℕ), ∀ i < k,
            time p.1.ring (nextDn p.1.rp) i < time p.1.ring (nextDn p.1.rp) k) ∧
          ∀ k < (16 : ℕ),
            row p.1.ring (nextDn p.1.rp) .min k ≤ valueAt p.1.ring (nextDn p.1.rp) ⟨0, 0⟩ k ∧
            valueAt p.1.ring (nextDn p.1.rp) ⟨0, 0⟩ k ≤ row p.1.ring (nextDn p.1.rp) .max k)) =
        true := by
    decide +kernel
  obtain ⟨⟨st, d⟩, hp, hdata⟩ := (Option.any_eq_true _ _).mp hlast
  obtain ⟨ds, hrun, hd⟩ := Option.bind_eq_some_iff.mp hp
  obtain ⟨hrising, hfits⟩ := of_decide_eq_true hdata
  have hline : Fits st.ring (nextDn st.rp) ⟨0, 0⟩ := fun k hk => hfits k (Nat.lt_succ_of_le hk)
  exact ⟨ds, st, d, hrun, hd, box_extreme 0 steadyCalls hrun le_rfl hd
    (fun i k hik hk => hrising k (Nat.lt_succ_of_le hk) i hik) hline⟩

end Tiger.Analysis.PhaseEnvelope
