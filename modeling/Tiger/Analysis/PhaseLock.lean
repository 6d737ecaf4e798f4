import Tiger.Model.Phaselock
import Mathlib.Data.List.Range

/-!
# The loops of the phase lock

In whatever arithmetic, each loop of `contemplate_data` ends: the places of the ring are counted
from the oldest datum on, a scan goes from the place behind its vertex to the newest, and a
pass gets to a later place with every segment (`walk_rule`). So no segment is read before it is
written and no pass finds more than fifteen of them, which leaves room for the one that pass 4
writes behind them (`pass4_room`), and the new frequency is the old one or lies within the bounds
(`contemplateData_bounded`).
-/

set_option autoImplicit false

namespace Tiger.Analysis.PhaseLock

open Tiger.Model.Phaselock

/-! ## Places -/

/-- The index of a place, counted from the oldest datum. -/
def place (rp : Fin ringSize) (k : ℕ) : Fin ringSize :=
  ⟨(rp.val + 1 + k) % ringSize, Nat.mod_lt _ (by decide)⟩

/-- The sixteenth place is that of the newest datum. -/
theorem place_newest (rp : Fin ringSize) : place rp 15 = rp := by
  have hrp := rp.isLt
  apply Fin.ext
  simp only [place, ringSize] at *
  omega

/-- The next index, and 0 behind the last. -/
theorem nextUp_val (i : Fin ringSize) :
    (nextUp i).val = if i.val + 1 ≥ 16 then 0 else i.val + 1 := by
  unfold nextUp
  split <;> rfl

/-- The index before, and the last one before 0. -/
theorem nextDn_val (i : Fin ringSize) :
    (nextDn i).val = if i.val = 0 then 15 else i.val - 1 := by
  unfold nextDn
  split <;> rfl

/-- The next index is the next place. -/
theorem nextUp_place (rp : Fin ringSize) (k : ℕ) : nextUp (place rp k) = place rp (k + 1) := by
  apply Fin.ext
  rw [nextUp_val]
  show (if (rp.val + 1 + k) % 16 + 1 ≥ 16 then 0 else (rp.val + 1 + k) % 16 + 1) =
    (rp.val + 1 + (k + 1)) % 16
  split_ifs <;> omega

/-- Behind the newest datum the places begin again. -/
theorem nextUp_newest (rp : Fin ringSize) : nextUp rp = place rp 16 := by
  rw [← nextUp_place rp 15, place_newest]

/-- The first place is that of the oldest datum. -/
theorem place_zero (rp : Fin ringSize) : place rp 0 = nextUp rp := by
  rw [nextUp_newest]
  apply Fin.ext
  simp only [place, ringSize]
  omega

/-- The index before is the place before. -/
theorem nextDn_place (rp : Fin ringSize) (k : ℕ) : nextDn (place rp (k + 1)) = place rp k := by
  apply Fin.ext
  rw [nextDn_val]
  show (if (rp.val + 1 + (k + 1)) % 16 = 0 then 15 else (rp.val + 1 + (k + 1)) % 16 - 1) =
    (rp.val + 1 + k) % 16
  split_ifs <;> omega

/-- Different places have different indices. -/
theorem place_injective {rp : Fin ringSize} {i k : ℕ} (hi : i < 16) (hk : k < 16)
    (h : place rp i = place rp k) : i = k := by
  have h := congrArg Fin.val h
  simp only [place, ringSize] at h
  omega

/-- No later place is the oldest one. -/
theorem place_ne_nextUp (rp : Fin ringSize) {k : ℕ} (h0 : 0 < k) (hk : k < 16) :
    place rp k ≠ nextUp rp := by
  rw [← place_zero]
  intro h
  have h := place_injective hk (by omega) h
  omega

section Loops

variable {α : Type} [Add α] [Sub α] [Mul α] [Div α] [LT α] [DecidableLT α] [Double α]

open Double

/-! ## The scan -/

/-- A turn of `search`. -/
def better (ring : DRing α) (rp j : Fin ringSize) (s0 s1 : End) (sign : Bool)
    (best : Option (Seg α × Fin ringSize)) (n : Fin ringSize) : Option (Seg α × Fin ringSize) :=
  match best with
  | none => some (segTo ring rp j s0 s1 n, n)
  | some (answer, nextj) =>
    if decide ((segTo ring rp j s0 s1 n).slope < answer.slope) ^^ sign then
      some (segTo ring rp j s0 s1 n, n)
    else some (answer, nextj)

/-- The indices from a place to the newest. -/
def placesUp (rp : Fin ringSize) (k : ℕ) : List (Fin ringSize) :=
  (List.range' k (16 - k)).map (place rp)

variable (ring : DRing α) (rp : Fin ringSize)

/-- The places from one on are that one and those behind it. -/
theorem placesUp_cons {k : ℕ} (hk : k < 16) :
    placesUp rp k = place rp k :: placesUp rp (k + 1) := by
  unfold placesUp
  rw [show 16 - k = (16 - (k + 1)) + 1 by omega, List.range'_succ, List.map_cons]

/-- The scan is a fold over the places up to the newest. -/
theorem searchLoop_eq (j : Fin ringSize) (s0 s1 : End) (sign : Bool) {k left : ℕ} (h0 : 0 < k)
    (hk : k ≤ 16) (hleft : 17 - k ≤ left) (best : Option (Seg α × Fin ringSize)) :
    searchLoop ring rp j s0 s1 sign left (place rp k) best =
      some ((placesUp rp k).foldl (better ring rp j s0 s1 sign) best) := by
  induction left generalizing k best with
  | zero => omega
  | succ left ih =>
    rcases Nat.eq_or_lt_of_le hk with rfl | hlt
    · rw [searchLoop, if_pos (nextUp_newest rp).symm]
      rfl
    · rw [searchLoop, if_neg (place_ne_nextUp rp h0 hlt), nextUp_place, placesUp_cons rp hlt,
        List.foldl_cons]
      exact ih (by omega) (by omega) (by omega) _

/-- A scan looks at all places behind its vertex. -/
theorem search_eq (i : ℕ) (hi : i ≤ 15) (s0 s1 : End) (sign : Bool) :
    search ring rp (place rp i) s0 s1 sign =
      (placesUp rp (i + 1)).foldl (better ring rp (place rp i) s0 s1 sign) none := by
  unfold search
  rw [nextUp_place, searchLoop_eq ring rp _ s0 s1 sign (by omega) (by omega)
    (by simp only [ringSize]; omega), Option.join_some]

/-- An index among the places is one of them. -/
theorem mem_placesUp {k : ℕ} {n : Fin ringSize} (h : n ∈ placesUp rp k) :
    ∃ m, k ≤ m ∧ m ≤ 15 ∧ n = place rp m := by
  obtain ⟨m, hm, rfl⟩ := List.mem_map.mp h
  rw [List.mem_range'_1] at hm
  exact ⟨m, hm.1, by omega, rfl⟩

/-- A scan with an answer ends with one of its segments. -/
theorem foldl_better (j : Fin ringSize) (s0 s1 : End) (sign : Bool) (l : List (Fin ringSize))
    (n : Fin ringSize) :
    ∃ n' ∈ n :: l, l.foldl (better ring rp j s0 s1 sign) (some (segTo ring rp j s0 s1 n, n)) =
      some (segTo ring rp j s0 s1 n', n') := by
  induction l generalizing n with
  | nil => exact ⟨n, by simp, rfl⟩
  | cons c l ih =>
    rw [List.foldl_cons]
    unfold better
    dsimp only
    split
    · obtain ⟨n', hn', h⟩ := ih c
      exact ⟨n', List.mem_cons_of_mem n hn', h⟩
    · obtain ⟨n', hn', h⟩ := ih n
      refine ⟨n', ?_, h⟩
      rcases List.mem_cons.mp hn' with rfl | hn'
      · exact List.mem_cons_self
      · exact List.mem_cons_of_mem _ (List.mem_cons_of_mem _ hn')

/-- A scan before the newest place has an answer, at a later place. -/
theorem search_some {i : ℕ} (hi : i < 15) (s0 s1 : End) (sign : Bool) :
    ∃ m, i < m ∧ m ≤ 15 ∧ search ring rp (place rp i) s0 s1 sign =
      some (segTo ring rp (place rp i) s0 s1 (place rp m), place rp m) := by
  have hplaces := placesUp_cons rp (show i + 1 < 16 by omega)
  rw [search_eq ring rp i hi.le, hplaces, List.foldl_cons]
  obtain ⟨n', hn', h⟩ := foldl_better ring rp (place rp i) s0 s1 sign (placesUp rp (i + 2))
    (place rp (i + 1))
  rw [← hplaces] at hn'
  obtain ⟨m, hm, hm15, rfl⟩ := mem_placesUp rp hn'
  exact ⟨m, by omega, hm15, h⟩

/-! ## The passes -/

/-- What a pass has found after a turn. -/
def turned (inside : α → α → α → Bool) (last : α) (found : Found α) (seg check : Seg α) : Found α :=
  ⟨found.segs ++ [seg],
    if inside check.slope seg.slope last && found.save.all (decide <| check.slope < ·.slope) then
      some check
    else found.save⟩

/-- A pass ends at the newest place, with what each turn keeps. -/
theorem walk_rule (e : End) (sign : Bool) (inside : α → α → α → Bool)
    (P : ℕ → α → Found α → Prop)
    (hstep : ∀ i last found m seg check n, i < 15 → i < m → m ≤ 15 →
      search ring rp (place rp i) e e sign = some (seg, place rp m) →
      search ring rp (place rp i) e.other e (! sign) = some (check, n) →
      P i last found → P m seg.slope (turned inside last found seg check))
    {i left : ℕ} (hi : i < 15) (hleft : 15 - i ≤ left) (last : α) (found : Found α)
    (hlength : found.segs.length ≤ i) (hstart : P i last found) :
    ∃ last' end', walk ring rp e sign inside left (place rp i) last found = some end' ∧
      P 15 last' end' := by
  induction left generalizing i last found with
  | zero => omega
  | succ left ih =>
    obtain ⟨m, him, hm, hseg⟩ := search_some ring rp hi e e sign
    obtain ⟨n, hin, hn, hcheck⟩ := search_some ring rp hi e.other e (! sign)
    have hnext := hstep i last found m _ _ _ hi him hm hseg hcheck hstart
    have hroom : ¬ found.segs.length + 1 > ringSize := by
      simp only [ringSize]
      omega
    rw [walk, hseg, hcheck]
    dsimp only
    rw [if_neg hroom]
    by_cases hlast : m = 15
    · subst hlast
      rw [if_pos (place_newest rp)]
      exact ⟨_, _, rfl, hnext⟩
    · have hne : place rp m ≠ rp := by
        intro h
        exact hlast (place_injective (by omega) (by omega) (h.trans (place_newest rp).symm))
      rw [if_neg hne]
      refine ih (by omega) (by omega) _ _ ?_ hnext
      rw [List.length_append, List.length_singleton]
      omega

/-- A pass finds between one and fifteen segments. -/
theorem walk_segs (e : End) (sign : Bool) (inside : α → α → α → Bool) (last : α) :
    ∃ found, walk ring rp e sign inside ringSize (nextUp rp) last ⟨[], none⟩ = some found ∧
      1 ≤ found.segs.length ∧ found.segs.length ≤ 15 := by
  rw [← place_zero]
  obtain ⟨_, found, hwalk, hlength, hpos⟩ := walk_rule ring rp e sign inside
    (fun i (_ : α) found => found.segs.length ≤ i ∧ (i = 0 ∨ 1 ≤ found.segs.length)) (by
      intro i last found m seg check n _ him _ _ _ h
      simp only [turned, List.length_append, List.length_singleton]
      omega) (by decide) (show 15 - 0 ≤ ringSize by decide) last ⟨[], none⟩ (Nat.le_refl 0)
    ⟨le_rfl, Or.inl rfl⟩
  exact ⟨found, hwalk, hpos.resolve_left (by decide), hlength⟩

omit [LT α] [DecidableLT α] in
/-- Pass 1 ends. -/
theorem correct_some (freq : ℤ) {k left : ℕ} (hk : k ≤ 15) (hleft : k < left) (cum : α)
    (ring : DRing α) : ∃ ring', correct rp freq left (place rp k) cum ring = some ring' := by
  induction left generalizing k cum ring with
  | zero => omega
  | succ left ih =>
    unfold correct
    dsimp only
    split
    · exact ⟨_, rfl⟩
    · next hne =>
      cases k with
      | zero =>
        refine absurd ?_ hne
        have hdn := nextDn_place rp 15
        rwa [← nextUp_newest, ← place_zero, place_newest] at hdn
      | succ k =>
        rw [nextDn_place]
        exact ih (by omega) (by omega) _ _

/-! ## The decision -/

/-- The new frequency is bounded. -/
theorem clamp_bounds (f : ℤ) : -maxC ≤ clamp f ∧ clamp f ≤ maxC := by
  have hpos : (0 : ℤ) ≤ maxC := by decide
  unfold clamp
  dsimp only
  split_ifs <;> omega

variable [Neg α] [LE α] [DecidableLE α] [BEq α]

omit [Div α] [LE α] [DecidableLE α] [BEq α] [Add α] [Sub α] [Mul α] [LT α] [DecidableLT α]
  [Neg α] in
/-- A write within the array succeeds. -/
@[simp] theorem written_of_le {β : Type} {c : ℕ} (h : c ≤ ringSize) (v : β) :
    written c v = some v := if_neg (Nat.not_lt.mpr h)

omit [Mul α] [LE α] [DecidableLE α] [BEq α] in
/-- A loop of pass 4 that begins at a place with room for the segments and one more writes to no
other place, and it finds a place to begin where a segment opens it. -/
theorem splice_spec {opens closes : Seg α → Bool} {first : ℕ → ℕ}
    (hfirst : ∀ c ≤ ringSize, first c ≤ ringSize) {segs : List (Seg α)} {c : ℕ}
    (hroom : c + segs.length ≤ ringSize) (dinit : Bool) (df : Polygon α) :
    ∃ r, splice opens closes first c segs dinit df = some r ∧
      ((∀ seg, closes seg → opens seg) → (dinit = false ∨ ∃ seg ∈ segs, opens seg) →
        r.1 = false) := by
  induction segs generalizing c dinit df with
  | nil =>
    refine ⟨(dinit, df), written_of_le hroom _, fun _ h => ?_⟩
    simpa using h
  | cons seg segs ih =>
    rw [List.length_cons] at hroom
    have hbegin : (if (dinit && opens seg) = true then written (first c) false
        else some dinit) = some (dinit && ! opens seg) := by
      rw [written_of_le (hfirst c (by omega))]
      cases dinit <;> cases opens seg <;> rfl
    rw [splice, hbegin, Option.bind_some]
    split
    · next hclosed =>
      refine ⟨_, written_of_le (by omega) _, fun hcloses _ => ?_⟩
      simp [hcloses seg hclosed]
    · obtain ⟨r, hr, hbegins⟩ := ih (c := c + 1) (by omega) (dinit && ! opens seg)
        (if (dinit && ! opens seg) = true then df else polygonPoint df seg)
      refine ⟨r, hr, fun hcloses h => hbegins hcloses ?_⟩
      cases hopens : opens seg with
      | true => simp
      | false =>
        rcases h with rfl | ⟨seg', hseg', hopens'⟩
        · simp
        · rcases List.mem_cons.mp hseg' with rfl | hseg'
          · rw [hopens] at hopens'
            cases hopens'
          · exact Or.inr ⟨seg', hseg', hopens'⟩

omit [Mul α] [LE α] [DecidableLE α] [BEq α] in
/-- Pass 4 has room for what it writes behind fifteen segments, and gives a polygon where each of
its loops finds a place to begin. -/
theorem pass4_room {maxseg minseg : List (Seg α)} (hmaxseg : maxseg.length ≤ 15)
    (hminseg : minseg.length ≤ 15) (saveMin saveMax : Seg α) :
    ∃ r, pass4 maxseg minseg saveMin saveMax = some r ∧
      ((∀ seg : Seg α, saveMax.slope < seg.slope → saveMin.slope < seg.slope) →
        (∀ seg : Seg α, seg.slope < saveMin.slope → seg.slope < saveMax.slope) →
        (∃ seg ∈ maxseg, saveMin.slope < seg.slope) →
        (∃ seg ∈ minseg, seg.slope < saveMax.slope) → r.isSome) := by
  have hupperRoom : 1 + maxseg.length ≤ ringSize := by
    simp only [ringSize]
    omega
  have hlowerRoom : 1 + minseg.length ≤ ringSize := by
    simp only [ringSize]
    omega
  let upperOpens : Seg α → Bool := fun seg => decide (saveMin.slope < seg.slope)
  let upperCloses : Seg α → Bool := fun seg => decide (saveMax.slope < seg.slope)
  let lowerOpens : Seg α → Bool := fun seg => decide (seg.slope < saveMax.slope)
  let lowerCloses : Seg α → Bool := fun seg => decide (seg.slope < saveMin.slope)
  obtain ⟨upper, hupper, hbegins⟩ : ∃ r, splice upperOpens upperCloses (fun c => c - 1) 1 maxseg
      true (polygonPoint polygonReset saveMin) = some r ∧ _ :=
    splice_spec (fun c hc => (Nat.sub_le c 1).trans hc) hupperRoom true _
  obtain ⟨lower, hlower, hbegins'⟩ : ∃ r, splice lowerOpens lowerCloses (fun _ => 0) 1 minseg
      true (polygonPoint upper.2 saveMax) = some r ∧ _ :=
    splice_spec (fun _ _ => Nat.zero_le _) hlowerRoom true _
  unfold pass4
  rw [hupper, Option.bind_eq_bind, Option.bind_some, hlower, Option.bind_some]
  refine ⟨_, rfl, fun hcloses hcloses' hmax hmin => ?_⟩
  have hfound : upper.1 = false := by
    refine hbegins ?_ (Or.inr ?_)
    · simpa [upperOpens, upperCloses] using hcloses
    · simpa [upperOpens] using hmax
  have hfound' : lower.1 = false := by
    refine hbegins' ?_ (Or.inr ?_)
    · simpa [lowerOpens, lowerCloses] using hcloses'
    · simpa [lowerOpens] using hmin
  rw [hfound, hfound']
  rfl

/-- A full ring gives a decision: the frequency stays, or a box is reported and the new
frequency lies within the bounds. -/
theorem decideFreq_some (freq : ℤ) : ∃ d, decideFreq ring rp freq = some d ∧
    (d.computedFreq = freq ∨ -maxC ≤ d.computedFreq ∧ d.computedFreq ≤ maxC) ∧
      d.report ≠ .collecting := by
  obtain ⟨upper, hupper, -, hmaxseg⟩ := walk_segs ring rp .max false
    (fun check seg last => decide (check < seg) && decide (last < check))
    (lit (-2 * maxCorrect : ℤ))
  obtain ⟨lower, hlower, -, hminseg⟩ := walk_segs ring rp .min true
    (fun check seg last => decide (seg < check) && decide (check < last))
    (lit (2 * maxCorrect : ℤ))
  unfold decideFreq pass2 pass3
  rw [hupper, hlower]
  dsimp only
  split
  · next saveMin saveMax _ _ =>
    obtain ⟨r, hr, -⟩ := pass4_room hmaxseg hminseg saveMin saveMax
    rw [hr]
    cases r with
    | some df => exact ⟨_, rfl, Or.inr (clamp_bounds _), nofun⟩
    | none => exact ⟨_, rfl, Or.inl rfl, nofun⟩
  · exact ⟨_, rfl, Or.inl rfl, nofun⟩

/-! ## Runs -/

/-- A call of `contemplate_data`. -/
structure Measurement (α : Type) where
  absolute : UInt32
  skew : α
  errorbar : α
  freq : ℤ

/-- A decision keeps the frequency or gives one within the bounds. -/
def Bounded (call : Measurement α) (d : Decision α) : Prop :=
  d.computedFreq = call.freq ∨ -maxC ≤ d.computedFreq ∧ d.computedFreq ≤ maxC

/-- One call. -/
theorem contemplateData_some (minDelay : α) (st : State α) (hvalid : st.valid ≤ 16)
    (call : Measurement α) :
    ∃ st' d, contemplateData minDelay st call.absolute call.skew call.errorbar call.freq =
        some (st', d) ∧ st'.valid = min (st.valid + 1) 16 ∧ Bounded call d ∧
      (d.report = .collecting ↔ st.valid < 15) := by
  have hcount : (if st.valid < ringSize then st.valid + 1 else st.valid) =
      min (st.valid + 1) 16 := by
    simp only [ringSize]
    split <;> omega
  unfold contemplateData
  dsimp only
  rw [hcount]
  split
  · next hfull =>
    simp only [ringSize] at hfull
    obtain ⟨ring, hring⟩ := correct_some st.rp call.freq (le_refl 15) (show 15 < ringSize by decide)
      (lit 0 : α) (record minDelay st call.absolute call.skew call.errorbar call.freq)
    rw [place_newest] at hring
    obtain ⟨d, hd, hbounds, hreport⟩ := decideFreq_some ring st.rp call.freq
    rw [hring]
    simp only [Option.bind_eq_bind, Option.bind_some, hd]
    exact ⟨_, d, rfl, rfl, hbounds, iff_of_false hreport (by omega)⟩
  · next hfull =>
    simp only [ringSize] at hfull
    exact ⟨_, _, rfl, rfl, Or.inl rfl, iff_of_true rfl (by omega)⟩

/-- The states and decisions of a run of calls. -/
def lockRun (minDelay : α) :
    State α → List (Measurement α) → Option (List (State α × Decision α))
  | _, [] => some []
  | st, call :: calls => do
    let (st, d) ← contemplateData minDelay st call.absolute call.skew call.errorbar call.freq
    let ds ← lockRun minDelay st calls
    some ((st, d) :: ds)

/-- A run of calls comes to its decisions, from every state. -/
theorem lockRun_some (minDelay : α) (calls : List (Measurement α)) (st : State α)
    (hvalid : st.valid ≤ 16) :
    ∃ ds, lockRun minDelay st calls = some ds ∧ List.Forall₂ (fun call d => Bounded call d.2)
      calls ds ∧ ∀ i d, ds[i]? = some d → (d.2.report = .collecting ↔ st.valid + i < 15) := by
  induction calls generalizing st with
  | nil => exact ⟨[], rfl, .nil, nofun⟩
  | cons call calls ih =>
    obtain ⟨st', d, hcall, hvalid', hbounds, hreport⟩ :=
      contemplateData_some minDelay st hvalid call
    obtain ⟨ds, hrun, hall, hcollecting⟩ := ih st' (by omega)
    refine ⟨(st', d) :: ds, ?_, .cons hbounds hall, ?_⟩
    · simp only [lockRun, hcall, Option.bind_eq_bind, Option.bind_some, hrun]
    · intro i d' hd'
      cases i with
      | zero =>
        obtain rfl := Option.some.inj hd'
        exact hreport
      | succ i =>
        rw [hcollecting i d' hd']
        omega

/-- In every run from the start, in whatever arithmetic, every call comes to a decision: the
first fifteen only collect, and each keeps the frequency or gives one within the bounds. -/
theorem contemplateData_bounded (minDelay : α) (calls : List (Measurement α)) :
    ∃ ds, lockRun minDelay start calls = some ds ∧
      List.Forall₂ (fun call d => Bounded call d.2) calls ds ∧
      ∀ i d, ds[i]? = some d → (d.2.report = .collecting ↔ i < 15) := by
  obtain ⟨ds, hrun, hall, hcollecting⟩ := lockRun_some minDelay calls start (Nat.zero_le 16)
  refine ⟨ds, hrun, hall, fun i d hd => ?_⟩
  rw [hcollecting i d hd]
  show 0 + i < 15 ↔ i < 15
  rw [Nat.zero_add]

/-- Behind a full ring stands its decision. -/
theorem contemplateData_full {minDelay : α} {st st' : State α} {call : Measurement α}
    {d : Decision α} (h : contemplateData minDelay st call.absolute call.skew call.errorbar
      call.freq = some (st', d)) (hreport : d.report ≠ .collecting) :
    decideFreq st'.ring (nextDn st'.rp) call.freq = some d := by
  have hrp : ∀ rp : Fin ringSize, nextDn ⟨(rp.val + 1) % ringSize, Nat.mod_lt _ (by decide)⟩ =
      rp := by decide
  unfold contemplateData at h
  dsimp only at h
  generalize (if st.valid < ringSize then st.valid + 1 else st.valid) = valid at h
  split at h
  · simp only [Option.bind_eq_bind, Option.bind_eq_some_iff] at h
    obtain ⟨ring, -, d', hd, hst⟩ := h
    obtain ⟨rfl, rfl⟩ := Prod.mk.inj (Option.some.inj hst)
    rw [hrp]
    exact hd
  · obtain ⟨-, rfl⟩ := Prod.mk.inj (Option.some.inj h)
    exact absurd rfl hreport

/-- Every decision of a run behind a full ring is that of its state. -/
theorem lockRun_full {minDelay : α} {calls : List (Measurement α)} {st : State α}
    {ds : List (State α × Decision α)} (hrun : lockRun minDelay st calls = some ds) {i : ℕ}
    {st' : State α} {d : Decision α} (hd : ds[i]? = some (st', d))
    (hreport : d.report ≠ .collecting) :
    ∃ freq, decideFreq st'.ring (nextDn st'.rp) freq = some d := by
  induction calls generalizing st ds i with
  | nil =>
    obtain rfl := Option.some.inj hrun
    simp at hd
  | cons call calls ih =>
    simp only [lockRun, Option.bind_eq_bind, Option.bind_eq_some_iff] at hrun
    obtain ⟨⟨st₁, d₁⟩, hcall, ds', hrun, hds⟩ := hrun
    obtain rfl := Option.some.inj hds
    cases i with
    | zero =>
      obtain ⟨rfl, rfl⟩ := Prod.mk.inj (Option.some.inj hd)
      exact ⟨call.freq, contemplateData_full hcall hreport⟩
    | succ i => exact ih hrun hd

end Loops

end Tiger.Analysis.PhaseLock
