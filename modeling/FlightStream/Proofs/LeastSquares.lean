import FlightStream.Proofs.Number.Nearest
import FlightStream.Proofs.Trend
import FlightStream.Value.Quantity

/-!
The line through points with whole coordinates, exactly. Both sides of the slope are sums over
pairs of points (`covariance_eq`, `variance_eq`), so neither the order of the points nor where the
axes begin matters; the quotient of the two is the slope over deviations from the means
(`centredSlope_eq`), and what `classify` returns is that quotient, rounded once.
-/

namespace FlightStream.LinearTrend

/-! ## Sums over pairs -/

/-- The sum of `f` over all pairs of points, each pair once. -/
def pairSum (f : Int × Int → Int × Int → Int) : List (Int × Int) → Int
  | [] => 0
  | p :: rest => (rest.map (f p)).sum + pairSum f rest

/-- The products of the differences in both coordinates, over all pairs. -/
def crossDifferences : List (Int × Int) → Int :=
  pairSum fun p q => (p.1 - q.1) * (p.2 - q.2)

/-- The squared differences in the abscissa, over all pairs. -/
def squaredDifferences : List (Int × Int) → Int := pairSum fun p q => (p.1 - q.1) ^ 2

theorem covariance_eq (points : List (Int × Int)) :
    covariance points = crossDifferences points := by
  induction points with
  | nil => simp [covariance, crossDifferences, pairSum]
  | cons p rest ih =>
    rw [covariance_cons, ih, add_comm, crossDifferences, pairSum]
    congr 2
    refine List.map_congr_left fun q _ => ?_
    ring

theorem variance_eq (points : List (Int × Int)) :
    variance points = squaredDifferences points := by
  rw [variance, covariance_eq]
  induction points with
  | nil => rfl
  | cons p rest ih =>
    rw [crossDifferences, squaredDifferences] at ih ⊢
    rw [List.map_cons, pairSum, pairSum, ih, List.map_map]
    congr 2
    refine List.map_congr_left fun q _ => ?_
    simp only [Function.comp_apply]
    ring

/-- Moving all points by one vector changes no difference. -/
theorem covariance_translate (a b : Int) (points : List (Int × Int)) :
    covariance (points.map fun p => (p.1 + a, p.2 + b)) = covariance points := by
  induction points with
  | nil => rfl
  | cons p rest ih =>
    rw [List.map_cons, covariance_cons, covariance_cons, ih, List.map_map]
    simp [Function.comp_def]

theorem variance_translate (a b : Int) (points : List (Int × Int)) :
    variance (points.map fun p => (p.1 + a, p.2 + b)) = variance points := by
  rw [variance, List.map_map]
  have moved := covariance_translate a a (points.map fun p => (p.1, p.1))
  rwa [List.map_map] at moved

theorem covariance_perm {points others : List (Int × Int)} (same : others.Perm points) :
    covariance others = covariance points := by
  simp only [covariance, same.length_eq, (same.map _).sum_eq]

theorem variance_perm {points others : List (Int × Int)} (same : others.Perm points) :
    variance others = variance points := covariance_perm (same.map _)

/-! ## Deviations from the means -/

/-- The mean of whole numbers. -/
def mean (xs : List Int) : ℚ := (xs.sum : ℚ) / xs.length

/-- The slope of the least-squares line, over the deviations of the points from their means. -/
def centredSlope (points : List (Int × Int)) : ℚ :=
  let x := mean (points.map (·.1))
  let y := mean (points.map (·.2))
  (points.map fun p => ((p.1 : ℚ) - x) * (p.2 - y)).sum /
    (points.map fun p => ((p.1 : ℚ) - x) ^ 2).sum

/-- The covariance is the sum of the products of the deviations, as often as there are points. -/
theorem covariance_centred (points : List (Int × Int)) :
    (covariance points : ℚ) = points.length *
      (points.map fun p => ((p.1 : ℚ) - mean (points.map (·.1))) *
        (p.2 - mean (points.map (·.2)))).sum := by
  rcases points with _ | ⟨first, rest⟩
  · simp [covariance]
  generalize hpoints : first :: rest = points
  have count : (points.length : ℚ) ≠ 0 := by simp [← hpoints]; positivity
  have products := sum_differences (points.map fun p => ((p.1 : ℚ), (p.2 : ℚ)))
    (mean (points.map (·.1))) (mean (points.map (·.2)))
  simp only [List.map_map, Function.comp_def, List.length_map] at products
  rw [products]
  unfold covariance mean
  push_cast [Int.cast_list_sum, List.map_map, Function.comp_def, List.length_map]
  field_simp
  ring

/-- The sums over pairs have the quotient of the sums over deviations. -/
theorem centredSlope_eq (points : List (Int × Int)) : centredSlope points = exactSlope points := by
  have squares := covariance_centred (points.map fun p => (p.1, p.1))
  simp only [List.map_map, Function.comp_def, List.length_map, ← pow_two] at squares
  rw [exactSlope, variance, squares, covariance_centred, centredSlope]
  rcases points with _ | ⟨first, rest⟩
  · simp
  · rw [mul_div_mul_left _ _ (by simp; positivity)]

/-! ## What is returned -/

/-- Points as samples of numbers. -/
def samples (points : List (Int × Int)) : List (Number × Number) :=
  points.map fun p => (.int p.1, .int p.2)

theorem ofSamples_samples (points : List (Int × Int)) :
    ofSamples (samples points) = .ok (ofPoints points) := by
  induction points using List.reverseRecOn with
  | nil => rfl
  | append_singleton rest p ih =>
    rw [ofSamples, samples, List.map_append, List.foldlM_append]
    rw [ofSamples, samples] at ih
    rw [ih]
    simp only [bind, Except.bind, List.map_cons, List.map_nil, List.foldlM_cons, List.foldlM_nil]
    rw [accumulate_ofPoints]
    rfl

/-- Numbers that come as values are classified as numbers. -/
theorem classify_numbers (samples : List (Number × Number)) :
    Value.classify (samples.map fun s => (.number s.1, .number s.2)) = classify samples := by
  simp only [Value.classify, classify, ofSamples, List.foldlM_map]
  rfl

/-- Points as samples of values. -/
def readings (points : List (Int × Int)) : List (Value × Value) :=
  (samples points).map fun s => (.number s.1, .number s.2)

/-- What is returned depends on the points only through the two sides of the slope. -/
theorem classify_readings (points : List (Int × Int)) :
    Value.classify (readings points) =
      (if variance points = 0 then .ok Binary64.nan
        else Number.divInt (covariance points) (variance points)).map
          fun slope => (slope, .ofSlope slope) := by
  rw [readings, classify_numbers, classify, ofSamples_samples, ← slope_ofPoints]
  rfl

theorem classify_perm {points others : List (Int × Int)} (same : others.Perm points) :
    Value.classify (readings others) = Value.classify (readings points) := by
  rw [classify_readings, classify_readings, covariance_perm same, variance_perm same]

theorem classify_translate (a b : Int) (points : List (Int × Int)) :
    Value.classify (readings (points.map fun p => (p.1 + a, p.2 + b))) =
      Value.classify (readings points) := by
  rw [classify_readings, classify_readings, covariance_translate, variance_translate]

/-! ## The exact slope, rounded -/

/-- Whether points differ in their abscissas. -/
def Varied (points : List (Int × Int)) : Prop := ∃ p ∈ points, ∃ q ∈ points, p.1 ≠ q.1

instance (points : List (Int × Int)) : Decidable (Varied points) :=
  inferInstanceAs (Decidable (∃ p ∈ points, ∃ q ∈ points, p.1 ≠ q.1))

theorem varied_iff (points : List (Int × Int)) : Varied points ↔ variance points ≠ 0 := by
  rw [ne_eq, variance_eq_zero_iff, Varied]
  push Not
  rfl

/-- A slope that exists is the exact one, correctly rounded. -/
theorem correctlyRounded_divInt {points : List (Int × Int)} {slope : Float}
    (varied : variance points ≠ 0)
    (divided : Number.divInt (covariance points) (variance points) = .ok slope) :
    Binary64.CorrectlyRounded (exactSlope points) slope := by
  have positive : 0 < variance points := (variance_nonneg points).lt_of_ne' varied
  rw [Number.divInt, if_neg varied] at divided
  split at divided
  · rename_i x rounded
    cases divided
    rw [decide_eq_false positive.not_gt, Bool.bne_false] at rounded
    have correct := Binary64.correctlyRounded_ofRatio? (Int.natAbs_pos.mpr varied) (fun below => by
      have := of_decide_eq_true below
      omega) rounded
    have value : Binary64.signed (decide (covariance points < 0))
        ((covariance points).natAbs / (variance points).natAbs) = exactSlope points := by
      rw [exactSlope, Nat.cast_natAbs, Nat.cast_natAbs, abs_of_pos positive]
      by_cases falling : covariance points < 0
      · rw [Binary64.signed, if_pos (decide_eq_true falling), abs_of_neg falling]
        push_cast
        ring
      · rw [Binary64.signed, if_neg (by simpa using falling), abs_of_nonneg (not_lt.mp falling)]
    rwa [value] at correct
  · cases divided

/-- Where the squared differences are not too many, a slope that is not flat is not rounded to a
flat one. -/
theorem le_abs_exactSlope {points : List (Int × Int)} (bounded : variance points < 2 ^ 1000)
    (steep : exactSlope points ≠ 0) : 2 ^ (-1074 : Int) ≤ |exactSlope points| := by
  have sides : covariance points ≠ 0 ∧ variance points ≠ 0 := by
    constructor <;> intro zero <;> simp [exactSlope, zero] at steep
  have positive : (0 : ℚ) < variance points := by
    exact_mod_cast (variance_nonneg points).lt_of_ne' sides.2
  have above : (1 : ℚ) ≤ |(covariance points : ℚ)| := by exact_mod_cast Int.one_le_abs sides.1
  have below : (variance points : ℚ) ≤ 2 ^ (1074 : Int) :=
    calc (variance points : ℚ) ≤ ((2 ^ 1000 : Int) : ℚ) := Int.cast_le.mpr bounded.le
      _ = 2 ^ (1000 : Int) := by rw [Int.cast_pow, Int.cast_ofNat, ← zpow_natCast, Nat.cast_ofNat]
      _ ≤ 2 ^ (1074 : Int) := zpow_le_zpow_right₀ (by norm_num) (by norm_num)
  rw [exactSlope, abs_div, abs_of_pos positive, le_div_iff₀ positive, zpow_neg]
  exact (inv_mul_le_one_of_le₀ below (by positivity)).trans above

/-- The direction of a correctly rounded slope is the sign of the exact one. -/
theorem ofSlope_correctlyRounded {q : ℚ} {slope : Float}
    (rounded : Binary64.CorrectlyRounded q slope)
    (visible : q ≠ 0 → 2 ^ (-1074 : Int) ≤ |q|) :
    VerticalDirection.ofSlope slope =
      if 0 < q then .ascending else if q = 0 then .cruise else .descending := by
  rw [VerticalDirection.ofSlope, if_neg (Bool.eq_false_iff.mp rounded.isNaN_eq_false)]
  simp only [rounded.zero_lt_iff visible, rounded.beq_zero_iff visible]

/-- The direction of points is the sign of their exact slope, unless that is rounded away. -/
theorem ofSlope_iff {points : List (Int × Int)} {slope : Float}
    (rounded : Binary64.CorrectlyRounded (exactSlope points) slope)
    (bounded : variance points < 2 ^ 1000) :
    (VerticalDirection.ofSlope slope = .ascending ↔ 0 < exactSlope points) ∧
      (VerticalDirection.ofSlope slope = .cruise ↔ exactSlope points = 0) ∧
      (VerticalDirection.ofSlope slope = .descending ↔ exactSlope points < 0) := by
  rw [ofSlope_correctlyRounded rounded (le_abs_exactSlope bounded)]
  rcases lt_trichotomy (exactSlope points) 0 with falling | flat | rising
  · simp [falling, falling.not_gt, falling.ne]
  · simp [flat]
  · simp [rising, rising.le, rising.ne']

/-- The least-squares line through whole points is exact up to one rounding. Points without two
different abscissas give NaN and no direction. All others give the correctly rounded quotient of
the sums over pairs, which is the slope over the deviations from the means, and its sign as long as
the squared differences stay below `2 ^ 1000`. Neither the order of the points nor the origin of
the axes makes a difference. -/
theorem classify_leastSquares {points : List (Int × Int)}
    (near : ∀ p ∈ points, ∀ q ∈ points, |p.2 - q.2| < 2 ^ 1023) :
    ∃ slope direction, Value.classify (readings points) = .ok (slope, direction) ∧
      (slope.isNaN = true ∧ direction = .unknown ↔ ¬ Varied points) ∧
      (Varied points →
        ∃ exact : ℚ, exact = crossDifferences points / squaredDifferences points ∧
          exact = centredSlope points ∧
          Binary64.CorrectlyRounded exact slope ∧
          (squaredDifferences points < 2 ^ 1000 →
            (direction = .ascending ↔ 0 < exact) ∧ (direction = .cruise ↔ exact = 0) ∧
              (direction = .descending ↔ exact < 0))) ∧
      (∀ others : List (Int × Int), others.Perm points →
        Value.classify (readings others) = .ok (slope, direction)) ∧
      ∀ a b, Value.classify (readings (points.map fun p => (p.1 + a, p.2 + b))) =
        .ok (slope, direction) := by
  have range : (2 ^ 1023 : Int) ≤ Binary64.greatest := by decide +kernel
  obtain ⟨slope, fitted⟩ := exists_slope fun p one q other => (near q other p one).le.trans range
  have returned : Value.classify (readings points) = .ok (slope, .ofSlope slope) := by
    rw [classify_readings, ← slope_ofPoints, fitted]
    rfl
  rw [slope_ofPoints] at fitted
  refine ⟨slope, .ofSlope slope, returned, ?_, fun varied => ?_,
    fun others same => (classify_perm same).trans returned,
    fun a b => (classify_translate a b points).trans returned⟩
  · by_cases varied : Varied points
    · have steep := (varied_iff points).mp varied
      rw [if_neg steep] at fitted
      have number := (correctlyRounded_divInt steep fitted).isNaN_eq_false
      exact iff_of_false (fun nan => Bool.false_ne_true (number.symm.trans nan.1)) (not_not.mpr varied)
    · rw [if_pos (not_not.mp (mt (varied_iff points).mpr varied))] at fitted
      cases fitted
      exact ⟨fun _ => varied, fun _ => ⟨by decide, by decide⟩⟩
  · have steep := (varied_iff points).mp varied
    rw [if_neg steep] at fitted
    have rounded := correctlyRounded_divInt steep fitted
    refine ⟨exactSlope points, ?_, (centredSlope_eq points).symm, rounded, fun bounded => ?_⟩
    · rw [exactSlope, covariance_eq, variance_eq]
    · exact ofSlope_iff rounded (by rwa [variance_eq])

/-- A climb of two feet a second from an altitude that leaves a float no room for the last digits. -/
def climb : List (Int × Int) := [(0, 2 ^ 80 + 1), (1, 2 ^ 80 + 3), (2, 2 ^ 80 + 5)]

theorem classify_climb :
    (∀ p ∈ climb, ∀ q ∈ climb, |p.2 - q.2| < 2 ^ 1023) ∧
      ∃ slope, Value.classify (readings climb) = .ok (slope, .ascending) ∧
        Binary64.CorrectlyRounded 2 slope := by
  have near : ∀ p ∈ climb, ∀ q ∈ climb, |p.2 - q.2| < 2 ^ 1023 := by decide +kernel
  obtain ⟨slope, direction, returned, -, line, -⟩ := classify_leastSquares near
  have pairs : crossDifferences climb = 12 ∧ squaredDifferences climb = 6 := by decide +kernel
  obtain ⟨exact, quotient, -, rounded, sign⟩ := line (by decide +kernel)
  rw [pairs.1, pairs.2] at quotient
  norm_num at quotient
  subst quotient
  obtain rfl := (sign (by rw [pairs.2]; decide +kernel)).1.mpr (by norm_num)
  exact ⟨near, slope, returned, rounded⟩

end FlightStream.LinearTrend
