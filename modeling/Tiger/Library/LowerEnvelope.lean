import Mathlib.Algebra.Order.Field.Basic
import Mathlib.Tactic.FieldSimp
import Mathlib.Tactic.Linarith
import Mathlib.Tactic.Ring

/-!
# The lower envelope of points over time

Points `(t k, f k)` at rising times, up to a last one. The lower envelope is walked from vertex to
vertex: from a vertex `i` it goes to a later point to which the slope is least, and
`Supports` says that the line with the slope of arrival stays below all points
(`Supports.next`).

Below the points lies a second row `(t k, g k)`, and a line fits when it runs between the two. The
slope from a vertex to the second row bounds the slopes of all fitting lines, and where it lies
between the slopes of arrival and of departure it is the least of them (`fits_of_crossing`). A
fitting line of least slope that touches one point of the first row alone passes through a
vertex of the walk.
-/

set_option autoImplicit false

namespace Tiger.Library

variable {K : Type} [Field K] [LinearOrder K] [IsStrictOrderedRing K]
variable {t f g : ℕ → K} {N : ℕ}

/-- The times rise up to the last one. -/
def Rising (t : ℕ → K) (N : ℕ) : Prop := ∀ i k, i < k → k ≤ N → t i < t k

/-- The slope from one point to another. -/
def slopeTo (t f g : ℕ → K) (i k : ℕ) : K := (g k - f i) / (t k - t i)

/-- The line through a point, at a time of the others. -/
def lineAt (t f : ℕ → K) (i : ℕ) (a : K) (k : ℕ) : K := f i + a * (t k - t i)

/-- The line through a point with slope `p` stays below the points before it, and below those
behind it unless the point is the first. -/
structure Supports (t f : ℕ → K) (N i : ℕ) (p : K) : Prop where
  before : ∀ k < i, lineAt t f i p k ≤ f k
  behind : i ≠ 0 → ∀ k, i < k → k ≤ N → lineAt t f i p k ≤ f k

/-- The slope from a vertex to its successor is least. -/
structure Departs (t f : ℕ → K) (N i m : ℕ) (w : K) : Prop where
  lt : i < m
  le : m ≤ N
  slope : w = slopeTo t f f i m
  least : ∀ k, i < k → k ≤ N → w ≤ slopeTo t f f i k

/-- A line fits between two rows. -/
def FitsBetween (t g f : ℕ → K) (N : ℕ) (c : K) (b : K) : Prop :=
  ∀ k ≤ N, g k ≤ c * t k + b ∧ c * t k + b ≤ f k

/-- A line lies below a later point exactly when it is no steeper than the line to it. -/
theorem lineAt_le_iff (ht : Rising t N) {i k : ℕ} (hik : i < k) (hk : k ≤ N) (a : K) :
    lineAt t f i a k ≤ g k ↔ a ≤ slopeTo t f g i k := by
  have hpos : 0 < t k - t i := sub_pos.mpr (ht i k hik hk)
  rw [lineAt, slopeTo, le_div_iff₀ hpos]
  constructor <;> intro h <;> linarith

/-- A line lies above a later point exactly when it is no less steep than the line to it. -/
theorem le_lineAt_iff (ht : Rising t N) {i k : ℕ} (hik : i < k) (hk : k ≤ N) (a : K) :
    g k ≤ lineAt t f i a k ↔ slopeTo t f g i k ≤ a := by
  have hpos : 0 < t k - t i := sub_pos.mpr (ht i k hik hk)
  rw [lineAt, slopeTo, div_le_iff₀ hpos]
  constructor <;> intro h <;> linarith

omit [IsStrictOrderedRing K] in
/-- The walk comes to the first point with any slope. -/
theorem supports_zero (t f : ℕ → K) (N : ℕ) (p : K) : Supports t f N 0 p :=
  ⟨fun _ h => absurd h (Nat.not_lt_zero _), fun h => absurd rfl h⟩

/-- The line of a departure goes through the next vertex. -/
theorem Departs.lineAt_eq {i m : ℕ} {w : K} (ht : Rising t N) (h : Departs t f N i m w) (k : ℕ) :
    lineAt t f m w k = lineAt t f i w k := by
  have hne : t m - t i ≠ 0 := (sub_pos.mpr (ht i m h.lt h.le)).ne'
  have hm : w * (t m - t i) = f m - f i := by
    rw [h.slope, slopeTo, div_mul_cancel₀ _ hne]
  unfold lineAt
  linarith

/-- A line that leaves a vertex with the least slope lies below every later point. -/
theorem Departs.below {i m : ℕ} {w : K} (ht : Rising t N) (h : Departs t f N i m w) {k : ℕ}
    (hik : i ≤ k) (hk : k ≤ N) : lineAt t f i w k ≤ f k := by
  rcases Nat.eq_or_lt_of_le hik with rfl | hik
  · simp [lineAt]
  · exact (lineAt_le_iff ht hik hk w).mpr (h.least k hik hk)

/-- The slopes of the walk rise. -/
theorem Supports.le_of_departs {i m : ℕ} {p w : K} (ht : Rising t N) (hp : Supports t f N i p)
    (h : Departs t f N i m w) (hi : i ≠ 0) : p ≤ w := by
  rw [h.slope]
  exact (lineAt_le_iff ht h.lt h.le p).mp (hp.behind hi m h.lt h.le)

/-- A steeper line is lower before its point. -/
theorem lineAt_anti (ht : Rising t N) {i k : ℕ} (hi : i ≤ N) (hk : k < i) {a b : K}
    (hab : a ≤ b) : lineAt t f i b k ≤ lineAt t f i a k := by
  have hneg : t k - t i ≤ 0 := (sub_neg.mpr (ht k i hk hi)).le
  have hmul := mul_le_mul_of_nonpos_right hab hneg
  unfold lineAt
  linarith

/-- In front of its vertex a steeper line lies below. -/
theorem lineAt_strictAnti (ht : Rising t N) {i k : ℕ} (hi : i ≤ N) (hk : k < i) {a b : K}
    (hab : a < b) : lineAt t f i b k < lineAt t f i a k := by
  have hneg : t k - t i < 0 := sub_neg.mpr (ht k i hk hi)
  have hmul := mul_lt_mul_of_neg_right hab hneg
  unfold lineAt
  linarith

/-- Behind its vertex a steeper line lies above. -/
theorem lineAt_strictMono (ht : Rising t N) {i k : ℕ} (hk : k ≤ N) (hik : i < k) {a b : K}
    (hab : a < b) : lineAt t f i a k < lineAt t f i b k := by
  have hpos : 0 < t k - t i := sub_pos.mpr (ht i k hik hk)
  have hmul := mul_lt_mul_of_pos_right hab hpos
  unfold lineAt
  linarith

/-- A step of the walk. -/
theorem Supports.next {i m : ℕ} {p w : K} (ht : Rising t N) (hp : Supports t f N i p)
    (h : Departs t f N i m w) : Supports t f N m w := by
  constructor
  · intro k hk
    rw [h.lineAt_eq ht]
    rcases Nat.lt_or_ge k i with hki | hik
    · have hi : i ≠ 0 := by omega
      have hpw := hp.le_of_departs ht h hi
      exact (lineAt_anti ht (h.lt.le.trans h.le) hki hpw).trans (hp.before k hki)
    · exact h.below ht hik (hk.le.trans h.le)
  · intro _ k hmk hk
    rw [h.lineAt_eq ht]
    exact h.below ht (h.lt.le.trans hmk.le) hk

/-! ## Crossing lines -/

/-- Between the slopes of arrival and departure a line touches the points at its vertex alone. -/
theorem Supports.touches {i m : ℕ} {p w a : K} (ht : Rising t N) (hp : Supports t f N i p)
    (h : Departs t f N i m w) (hpa : p < a) (haw : a < w) {k : ℕ} (hk : k ≤ N) (hki : k ≠ i) :
    lineAt t f i a k < f k := by
  rcases Nat.lt_or_gt_of_ne hki with hlt | hgt
  · exact (lineAt_strictAnti ht (h.lt.le.trans h.le) hlt hpa).trans_le (hp.before k hlt)
  · exact (lineAt_strictMono ht hk hgt haw).trans_le (h.below ht hgt.le hk)

/-- A fitting line is at least as steep as any line from a point of the upper row to a later
one of the lower row. -/
theorem FitsBetween.slopeTo_le {c b : K} (ht : Rising t N) (h : FitsBetween t g f N c b) {i k : ℕ}
    (hik : i < k) (hk : k ≤ N) : slopeTo t f g i k ≤ c := by
  rw [← le_lineAt_iff ht hik hk, lineAt]
  have hi := (h i (hik.le.trans hk)).2
  have hk := (h k hk).1
  linarith

/-- Where a line fits at all, the crossing between the slopes of arrival and departure fits, and
no fitting line is less steep. -/
theorem fits_of_crossing {i m n : ℕ} {p w a c b : K} (ht : Rising t N)
    (hp : Supports t f N i p) (h : Departs t f N i m w) (hin : i < n) (hn : n ≤ N)
    (ha : a = slopeTo t f g i n) (hgreatest : ∀ k, i < k → k ≤ N → slopeTo t f g i k ≤ a)
    (hpa : p < a) (haw : a < w) (hfits : FitsBetween t g f N c b) :
    a ≤ c ∧ ∀ k ≤ N, g k ≤ lineAt t f i a k ∧ lineAt t f i a k ≤ f k := by
  have hac : a ≤ c := ha ▸ hfits.slopeTo_le ht hin hn
  refine ⟨hac, fun k hk => ⟨?_, ?_⟩⟩
  · rcases Nat.lt_trichotomy k i with hki | rfl | hik
    · -- a fitting line is below the vertex and steeper, so it is lower before it
      have hline : g k ≤ lineAt t f i c k := by
        have hk := (hfits k hk).1
        have hi := (hfits i (hin.le.trans hn)).2
        unfold lineAt
        linarith
      exact hline.trans (lineAt_anti ht (hin.le.trans hn) hki hac)
    · have hk := hfits k hk
      simpa [lineAt] using hk.1.trans hk.2
    · exact (le_lineAt_iff ht hik hk a).mpr (hgreatest k hik hk)
  · by_cases hki : k = i
    · simp [hki, lineAt]
    · exact (hp.touches ht h hpa haw hk hki).le

/-! ## A line that touches one point -/

/-- The line through a point with slope `a` lies strictly below all other points. -/
def TouchesOnly (t f : ℕ → K) (N j : ℕ) (a : K) : Prop :=
  ∀ k ≤ N, k ≠ j → lineAt t f j a k < f k

/-- The point is reached less steeply. -/
theorem TouchesOnly.slopeTo_lt {i j : ℕ} {a : K} (ht : Rising t N) (h : TouchesOnly t f N j a)
    (hij : i < j) (hj : j ≤ N) : slopeTo t f f i j < a := by
  have hpos : 0 < t j - t i := sub_pos.mpr (ht i j hij hj)
  have hline := h i (hij.le.trans hj) hij.ne
  rw [slopeTo, div_lt_iff₀ hpos]
  unfold lineAt at hline
  linarith

/-- The point is left more steeply. -/
theorem TouchesOnly.lt_slopeTo {j k : ℕ} {a : K} (ht : Rising t N) (h : TouchesOnly t f N j a)
    (hjk : j < k) (hk : k ≤ N) : a < slopeTo t f f j k := by
  have hpos : 0 < t k - t j := sub_pos.mpr (ht j k hjk hk)
  have hline := h k hk hjk.ne'
  rw [slopeTo, lt_div_iff₀ hpos]
  unfold lineAt at hline
  linarith

/-- A walk does not step over the point. -/
theorem TouchesOnly.next_le {i j m : ℕ} {a w : K} (ht : Rising t N) (h : TouchesOnly t f N j a)
    (hdep : Departs t f N i m w) (hij : i < j) : m ≤ j := by
  by_contra hjm
  have hjm : j < m := Nat.lt_of_not_le hjm
  have hj : j ≤ N := hjm.le.trans hdep.le
  have hless : w < a := (hdep.least j hij hj).trans_lt (h.slopeTo_lt ht hij hj)
  -- the line of the departure is at most as high as the point, and so too low at its end
  have hbelow := hdep.below ht hij.le hj
  have hend := h m hdep.le hjm.ne'
  have hmj : 0 < t m - t j := sub_pos.mpr (ht j m hjm hdep.le)
  have hmul := mul_lt_mul_of_pos_right hless hmj
  have hne : t m - t i ≠ 0 := (sub_pos.mpr (ht i m hdep.lt hdep.le)).ne'
  have hm : w * (t m - t i) = f m - f i := by
    rw [hdep.slope, slopeTo, div_mul_cancel₀ _ hne]
  unfold lineAt at hbelow hend
  linarith

end Tiger.Library
