import Mathlib.Data.Rat.Defs

/-!
# The phase lock (`clock/ntpclient/phaselock.c`)

`contemplate_data` keeps the last sixteen measurements in a ring. Once there are sixteen, it
corrects them for the changes of the frequency (pass 1), walks along the lower envelope of the upper
ends of the error bars and along the upper envelope of the lower ends (passes 2 and 3), and
splices the two at the lines of least and of greatest slope that run between them (pass 4).
From the polygon it decides on a new frequency (pass 5).

The doubles are any type with arithmetic, a comparison, the literals of the program and a
conversion to `int`; no law of the arithmetic is assumed. A loop has more turns to go than it
takes, and `none` stands for one that does not end, for a segment that is read before it is
written and for one that is written behind the end of its array. The segments are kept as a list:
of what pass 4 writes back into them only the places count, since it is not read again.
-/

set_option autoImplicit false

namespace Tiger.Model.Phaselock

/-- The conversions to and from `double`. -/
class Double (α : Type) where
  /-- A literal, or an integer. -/
  lit : ℚ → α
  /-- The conversion to `int`. -/
  toInt : α → ℤ

/-- `RING_SIZE`. -/
abbrev ringSize : ℕ := 16

/-- `MAX_CORRECT`. -/
def maxCorrect : ℤ := 250

/-- `MAX_C`. -/
def maxC : ℤ := maxCorrect * 65536

/-- `struct datum`; `min` and `max` are `s.ss[0]` and `s.ss[1]`. -/
structure Datum (α : Type) where
  absolute : UInt32
  skew : α
  errorbar : α
  freq : ℤ
  min : α
  max : α

/-- The index of `s.ss`. -/
inductive End where
  | min
  | max
deriving DecidableEq

/-- The other index. -/
def End.other : End → End
  | min => max
  | max => min

/-- `s.ss[e]`. -/
def Datum.ss {α : Type} (d : Datum α) : End → α
  | .min => d.min
  | .max => d.max

/-- `struct _seg`. -/
structure Seg (α : Type) where
  slope : α
  offset : α

/-- `d_ring`. -/
abbrev DRing (α : Type) := Fin ringSize → Datum α

/-- `next_up`. -/
def nextUp (i : Fin ringSize) : Fin ringSize :=
  if h : i.val + 1 ≥ ringSize then ⟨0, by decide⟩ else ⟨i.val + 1, by omega⟩

/-- `next_dn`. -/
def nextDn (i : Fin ringSize) : Fin ringSize :=
  if i.val = 0 then ⟨ringSize - 1, by decide⟩ else ⟨i.val - 1, by omega⟩

section Arithmetic

variable {α : Type} [Add α] [Sub α] [Mul α] [Div α] [Neg α] [LT α] [DecidableLT α]
  [LE α] [DecidableLE α] [BEq α] [Double α]

open Double

/-- The time between two data, in unsigned arithmetic. -/
def elapsed (ring : DRing α) (n j : Fin ringSize) : α :=
  lit ((ring n).absolute - (ring j).absolute).toNat

/-! ## Pass 1 -/

/-- The loop of pass 1, at `j`. -/
def correct (rp : Fin ringSize) (freq : ℤ) : ℕ → Fin ringSize → α → DRing α → Option (DRing α)
  | 0, _, _, _ => none
  | left + 1, j, cum, ring =>
    let d := ring j
    let ring := Function.update ring j
      { d with max := d.skew - cum + d.errorbar, min := d.skew - cum - d.errorbar }
    if nextDn j = rp then some ring
    else
      correct rp freq left (nextDn j)
        (cum + elapsed ring j (nextDn j) * lit (d.freq - freq : ℤ) / lit 65536) ring

/-! ## Passes 2 and 3 -/

/-- The segment from the end `s1` of `j` to the end `s0` of `n`. -/
def segTo (ring : DRing α) (rp j : Fin ringSize) (s0 s1 : End) (n : Fin ringSize) : Seg α :=
  let slope := ((ring n).ss s0 - (ring j).ss s1) / elapsed ring n j
  { slope := slope
    offset := (ring n).ss s0 + slope * elapsed ring rp n }

/-- The loop of `search`, at `n`; `best` is the answer so far and where it ends. -/
def searchLoop (ring : DRing α) (rp j : Fin ringSize) (s0 s1 : End) (sign : Bool) :
    ℕ → Fin ringSize → Option (Seg α × Fin ringSize) → Option (Option (Seg α × Fin ringSize))
  | 0, _, _ => none
  | left + 1, n, best =>
    if n = nextUp rp then some best
    else
      let seg := segTo ring rp j s0 s1 n
      searchLoop ring rp j s0 s1 sign left (nextUp n) <|
        match best with
        | none => some (seg, n)
        | some (answer, nextj) =>
          if decide (seg.slope < answer.slope) ^^ sign then some (seg, n) else some (answer, nextj)

/-- `search`: the answer and `nextj`. The scan takes the smallest slope for `sign` 0 and the
largest one for `sign` 1, and not the other way round, as its comment has it. -/
def search (ring : DRing α) (rp j : Fin ringSize) (s0 s1 : End) (sign : Bool) :
    Option (Seg α × Fin ringSize) :=
  (searchLoop ring rp j s0 s1 sign ringSize (nextUp j) none).join

/-- What a pass finds: the segments `maxseg[1]`, `maxseg[2]`, .. and `save_min`, where it is
set. -/
structure Found (α : Type) where
  segs : List (Seg α)
  save : Option (Seg α)

/-- A write to place `c` of `maxseg` or `minseg`, which have `RING_SIZE + 1` places. -/
def written {β : Type} (c : ℕ) (v : β) : Option β := if c > ringSize then none else some v

/-- The loop of a pass, at `j`. `inside` compares the slope of `check` with those of the segment
and of the one before it. -/
def walk (ring : DRing α) (rp : Fin ringSize) (e : End) (sign : Bool)
    (inside : α → α → α → Bool) : ℕ → Fin ringSize → α → Found α → Option (Found α)
  | 0, _, _, _ => none
  | left + 1, j, lastSlope, found =>
    match search ring rp j e e sign, search ring rp j e.other e (! sign) with
    | some (seg, nextj), some (check, _) =>
      -- the segment goes to `maxseg[c]`, of an array with `RING_SIZE + 1` places
      if found.segs.length + 1 > ringSize then none else
      let save :=
        if inside check.slope seg.slope lastSlope &&
            found.save.all (decide <| check.slope < ·.slope) then
          some check
        else found.save
      let found : Found α := ⟨found.segs ++ [seg], save⟩
      if nextj = rp then some found
      else walk ring rp e sign inside left nextj seg.slope found
    | _, _ => none

/-- Pass 2: `maxseg` and `save_min`. -/
def pass2 (ring : DRing α) (rp : Fin ringSize) : Option (Found α) :=
  walk ring rp .max false (fun check seg last => decide (check < seg) && decide (last < check))
    ringSize (nextUp rp) (lit (-2 * maxCorrect : ℤ)) ⟨[], none⟩

/-- Pass 3: `minseg` and `save_max`. -/
def pass3 (ring : DRing α) (rp : Fin ringSize) : Option (Found α) :=
  walk ring rp .min true (fun check seg last => decide (seg < check) && decide (check < last))
    ringSize (nextUp rp) (lit (2 * maxCorrect : ℤ)) ⟨[], none⟩

/-! ## Pass 4 -/

/-- `struct _polygon`. -/
structure Polygon (α : Type) where
  lMin : α
  rMin : α

/-- `polygon_reset`; the literal is `MIN_INIT`. -/
def polygonReset : Polygon α := ⟨lit 20, lit 20⟩

/-- `find_shift`. -/
def findShift (slope offset : α) : α :=
  let shift := slope - offset / lit 600
  let shift2 := slope + lit (3 / 10) - offset / lit 6000
  let shift := if shift2 < shift then shift2 else shift
  if shift < lit 0 then lit 0 else shift

/-- `polygon_point`. -/
def polygonPoint (df : Polygon α) (s : Seg α) : Polygon α :=
  let l := findShift (-s.slope) s.offset
  let r := findShift s.slope (-s.offset)
  { lMin := if l < df.lMin then l else df.lMin
    rMin := if r < df.rMin then r else df.rMin }

/-- A loop of pass 4, at place `c`: `opens` sets `dinit` to 0 and writes to place `first c`,
`closes` breaks, and the place the loop ends at is written. The value is `dinit` and the
polygon. -/
def splice (opens closes : Seg α → Bool) (first : ℕ → ℕ) :
    ℕ → List (Seg α) → Bool → Polygon α → Option (Bool × Polygon α)
  | c, [], dinit, df => written c (dinit, df)
  | c, seg :: segs, dinit, df =>
    (if dinit && opens seg then written (first c) false else some dinit).bind fun dinit =>
      if closes seg then written c (dinit, df)
      else splice opens closes first (c + 1) segs dinit (if dinit then df else polygonPoint df seg)

/-- Pass 4: the polygon, unless one of the two loops finds no place to begin. The second loop sets
`max_imin` where it means `min_imin`, and writes to place 0. -/
def pass4 (maxseg minseg : List (Seg α)) (saveMin saveMax : Seg α) :
    Option (Option (Polygon α)) := do
  let upper ← splice (fun seg => saveMin.slope < seg.slope) (fun seg => saveMax.slope < seg.slope)
    (fun c => c - 1) 1 maxseg true (polygonPoint polygonReset saveMin)
  let lower ← splice (fun seg => seg.slope < saveMax.slope) (fun seg => seg.slope < saveMin.slope)
    (fun _ => 0) 1 minseg true (polygonPoint upper.2 saveMax)
  some (if upper.1 || lower.1 then none else some lower.2)

/-! ## Pass 5 -/

/-- `find_df`. -/
def findDf (df : Polygon α) : α :=
  if df.lMin == lit 0 then
    if df.rMin == lit 0 then lit 0 else -df.rMin
  else if df.rMin == lit 0 then df.lMin else lit 0

/-- `find_df_center`. -/
def findDfCenter (min max : Seg α) (grossDf : α) : α :=
  let critTime := lit 1000
  let slope := lit (1 / 2) * (max.slope + min.slope) + grossDf
  let dslope := max.slope - min.slope
  let offset := lit (1 / 2) * (max.offset + min.offset)
  let doffset := max.offset - min.offset
  let delta1 := -offset / lit 600 - slope
  let delta2 := -offset / lit 1800 - slope
  let factor := critTime / (critTime + doffset + dslope * lit 1200)
  let delta := lit 0
  let delta := if offset < lit 0 ∧ lit 0 < delta2 then delta2 else delta
  let delta := if offset < lit 0 ∧ delta1 < lit 0 then delta1 else delta
  let delta := if lit 0 ≤ offset ∧ lit 0 < delta1 then delta1 else delta
  let delta := if lit 0 ≤ offset ∧ delta2 < lit 0 then delta2 else delta
  if max.offset < -critTime ∨ critTime < min.offset then lit 0 else factor * delta

/-- `computed_freq` between `-MAX_C` and `MAX_C`. -/
def clamp (f : ℤ) : ℤ :=
  let f := if f < -maxC then -maxC else f
  if f > maxC then maxC else f

/-- What is printed: nothing while there are fewer than sixteen data, that they are
inconsistent, or the box with `delta_f` and the frequency before it is bounded. -/
inductive Report (α : Type) where
  | collecting
  | inconsistent
  | box (saveMin saveMax : Seg α) (deltaF : α) (computedFreq : ℤ)

/-- The new frequency and what is printed. -/
structure Decision (α : Type) where
  computedFreq : ℤ
  report : Report α

/-- Pass 5. -/
def pass5 (freq : ℤ) (df : Polygon α) (saveMin saveMax : Seg α) : Decision α :=
  let deltaF := findDf df
  let deltaF := deltaF + findDfCenter saveMin saveMax deltaF
  let computedFreq := freq - toInt (deltaF * lit 65536 + lit (1 / 2))
  { computedFreq := clamp computedFreq
    report := .box saveMin saveMax deltaF computedFreq }

/-! ## The lock -/

/-- The static variables. -/
structure State (α : Type) where
  ring : DRing α
  rp : Fin ringSize
  valid : ℕ

/-- The static variables at the start. -/
def start : State α :=
  ⟨fun _ => ⟨0, lit 0, lit 0, 0, lit 0, lit 0⟩, 0, 0⟩

/-- What a full ring gives. -/
def decideFreq (ring : DRing α) (rp : Fin ringSize) (freq : ℤ) : Option (Decision α) :=
  match pass2 ring rp, pass3 ring rp with
  | some upper, some lower =>
    match upper.save, lower.save with
    | some saveMin, some saveMax =>
      match pass4 upper.segs lower.segs saveMin saveMax with
      | some (some df) => some (pass5 freq df saveMin saveMax)
      | some none => some ⟨freq, .inconsistent⟩
      | none => none
    | _, _ => some ⟨freq, .inconsistent⟩
  | _, _ => none

/-- The ring with a new datum in it. -/
def record (minDelay : α) (st : State α) (absolute : UInt32) (skew errorbar : α) (freq : ℤ) :
    DRing α :=
  Function.update st.ring st.rp
    { st.ring st.rp with
      absolute := absolute
      skew := skew
      errorbar := errorbar - minDelay
      freq := freq }

/-- `contemplate_data`. -/
def contemplateData (minDelay : α) (st : State α) (absolute : UInt32) (skew errorbar : α)
    (freq : ℤ) : Option (State α × Decision α) :=
  let ring := record minDelay st absolute skew errorbar freq
  let valid := if st.valid < ringSize then st.valid + 1 else st.valid
  let rp : Fin ringSize := ⟨(st.rp.val + 1) % ringSize, Nat.mod_lt _ (by decide)⟩
  if valid = ringSize then do
    let ring ← correct st.rp freq ringSize st.rp (lit 0) ring
    let decision ← decideFreq ring st.rp freq
    some (⟨ring, rp, valid⟩, decision)
  else some (⟨ring, rp, valid⟩, ⟨freq, .collecting⟩)

end Arithmetic

/-- Exact arithmetic; the conversion to `int` cuts towards zero. -/
instance : Double ℚ where
  lit q := q
  toInt q := q.num.tdiv q.den

end Tiger.Model.Phaselock
