import FlightStream.Aggregation
import FlightStream.Proofs.Number.Binary64
import Mathlib.Algebra.BigOperators.Group.List.Basic
import Mathlib.Algebra.Order.BigOperators.Group.List

/-!
The slope through points with whole coordinates. Its two sides are sums over pairs of points, so
the slope is no steeper than the spread of the ordinates, and the division never fails where that
spread is within the range of floats.
-/

namespace FlightStream.LinearTrend

/-! ## Sums over points -/

/-- `n * Σ x y - Σ x * Σ y`, the form of both sides of the slope. -/
def covariance (points : List (Int × Int)) : Int :=
  points.length * (points.map fun p => p.1 * p.2).sum -
    (points.map (·.1)).sum * (points.map (·.2)).sum

/-- The covariance of the abscissas with themselves. -/
def variance (points : List (Int × Int)) : Int := covariance (points.map fun p => (p.1, p.1))

/-- The sums over points. -/
def ofPoints (points : List (Int × Int)) : LinearTrend :=
  ⟨points.length, .int (points.map (·.1)).sum, .int (points.map (·.2)).sum,
    .int (points.map fun p => p.1 * p.1).sum, .int (points.map fun p => p.1 * p.2).sum⟩

theorem sum_differences {R : Type} [CommRing R] (points : List (R × R)) (a b : R) :
    (points.map fun q => (q.1 - a) * (q.2 - b)).sum =
      (points.map fun q => q.1 * q.2).sum - a * (points.map (·.2)).sum -
        b * (points.map (·.1)).sum + points.length * (a * b) := by
  induction points with
  | nil => simp
  | cons q rest ih =>
    simp only [List.map_cons, List.sum_cons, ih, List.length_cons]
    push_cast
    ring

/-- A point adds to the covariance what it has with each of the others. -/
theorem covariance_cons (p : Int × Int) (points : List (Int × Int)) :
    covariance (p :: points) =
      covariance points + (points.map fun q => (q.1 - p.1) * (q.2 - p.2)).sum := by
  rw [sum_differences]
  simp only [covariance, List.map_cons, List.sum_cons, List.length_cons]
  push_cast
  ring

theorem variance_cons (p : Int × Int) (points : List (Int × Int)) :
    variance (p :: points) =
      variance points + (points.map fun q => (q.1 - p.1) * (q.1 - p.1)).sum := by
  unfold variance
  rw [List.map_cons, covariance_cons, List.map_map]
  rfl

/-- What a point has with others is at most their spread times the squares of their distances. -/
theorem abs_sum_differences_le {spread : Int} (p : Int × Int) (points : List (Int × Int))
    (near : ∀ q ∈ points, |q.2 - p.2| ≤ spread) :
    |(points.map fun q => (q.1 - p.1) * (q.2 - p.2)).sum| ≤
      spread * (points.map fun q => (q.1 - p.1) * (q.1 - p.1)).sum := by
  induction points with
  | nil => simp
  | cons q rest ih =>
    have others := ih fun other member => near other (List.mem_cons_of_mem _ member)
    have own : |(q.1 - p.1) * (q.2 - p.2)| ≤ spread * ((q.1 - p.1) * (q.1 - p.1)) := by
      rw [abs_mul, mul_comm spread]
      have square : |q.1 - p.1| ≤ (q.1 - p.1) * (q.1 - p.1) := by
        rw [← abs_mul_abs_self]
        rcases (abs_nonneg (q.1 - p.1)).eq_or_lt with none | some_
        · rw [← none, mul_zero]
        · exact le_mul_of_one_le_right some_.le some_
      exact mul_le_mul square (near q List.mem_cons_self) (abs_nonneg _) (mul_self_nonneg _)
    rw [List.map_cons, List.sum_cons, List.map_cons, List.sum_cons, mul_add]
    exact (abs_add_le _ _).trans (add_le_add own others)

/-- The covariance is at most the spread of the ordinates times the variance. -/
theorem abs_covariance_le {spread : Int} (points : List (Int × Int))
    (near : ∀ p ∈ points, ∀ q ∈ points, |q.2 - p.2| ≤ spread) :
    |covariance points| ≤ spread * variance points := by
  induction points with
  | nil => simp [covariance, variance]
  | cons p rest ih =>
    have others := ih fun p member q other =>
      near p (List.mem_cons_of_mem _ member) q (List.mem_cons_of_mem _ other)
    have own := abs_sum_differences_le p rest fun q member =>
      near p List.mem_cons_self q (List.mem_cons_of_mem _ member)
    rw [covariance_cons, variance_cons, mul_add]
    exact (abs_add_le _ _).trans (add_le_add others own)

theorem squares_nonneg (p : Int × Int) (points : List (Int × Int)) :
    ∀ square ∈ points.map fun q => (q.1 - p.1) * (q.1 - p.1), 0 ≤ square := by
  intro square member
  obtain ⟨q, -, rfl⟩ := List.mem_map.mp member
  exact mul_self_nonneg _

theorem variance_nonneg (points : List (Int × Int)) : 0 ≤ variance points := by
  induction points with
  | nil => simp [variance, covariance]
  | cons p rest ih =>
    rw [variance_cons]
    exact add_nonneg ih (List.sum_nonneg (squares_nonneg p rest))

/-- The variance is zero exactly where all points have one abscissa. -/
theorem variance_eq_zero_iff (points : List (Int × Int)) :
    variance points = 0 ↔ ∀ p ∈ points, ∀ q ∈ points, p.1 = q.1 := by
  induction points with
  | nil => simp [variance, covariance]
  | cons p rest ih =>
    have squares := squares_nonneg p rest
    rw [variance_cons]
    constructor
    · intro flat
      obtain ⟨-, distances⟩ :=
        (add_eq_zero_iff_of_nonneg (variance_nonneg rest) (List.sum_nonneg squares)).mp flat
      have same : ∀ q ∈ p :: rest, q.1 = p.1 := by
        refine List.forall_mem_cons.mpr ⟨rfl, fun q member => ?_⟩
        have least := List.single_le_sum squares _ (List.mem_map_of_mem member)
        rw [distances] at least
        exact sub_eq_zero.mp (mul_self_eq_zero.mp (le_antisymm least (mul_self_nonneg _)))
      exact fun a one b other => (same a one).trans (same b other).symm
    · intro same
      have others : variance rest = 0 := ih.mpr fun a one b other =>
        same a (List.mem_cons_of_mem _ one) b (List.mem_cons_of_mem _ other)
      rw [others, zero_add]
      refine List.sum_eq_zero fun square member => ?_
      obtain ⟨q, present, rfl⟩ := List.mem_map.mp member
      rw [same q (List.mem_cons_of_mem _ present) p List.mem_cons_self, sub_self, mul_zero]

/-! ## The slope -/

/-- The slope before it is rounded, where points differ in their abscissas. -/
def exactSlope (points : List (Int × Int)) : ℚ := covariance points / variance points

/-- The exact slope is at most the spread of the ordinates. -/
theorem abs_exactSlope_le {spread : Int} {points : List (Int × Int)}
    (near : ∀ p ∈ points, ∀ q ∈ points, |q.2 - p.2| ≤ spread) (steep : variance points ≠ 0) :
    |exactSlope points| ≤ spread := by
  unfold exactSlope
  have positive : (0 : ℚ) < variance points := by
    exact_mod_cast (variance_nonneg points).lt_of_ne' steep
  rw [abs_div, abs_of_pos positive, div_le_iff₀ positive]
  exact_mod_cast abs_covariance_le points near

theorem accumulate_ofPoints (points : List (Int × Int)) (p : Int × Int) :
    ((ofPoints points).accumulate (.int p.1) (.int p.2)).result = .ok (ofPoints (points ++ [p])) := by
  simp [ofPoints, accumulate, addTerm, bind, Except.bind]

theorem slope_ofPoints (points : List (Int × Int)) :
    (ofPoints points).slope =
      if variance points = 0 then .ok Binary64.nan
      else Number.divInt (covariance points) (variance points) := by
  have below : spread points.length (.int (points.map fun p => p.1 * p.1).sum)
      (.int (points.map (·.1)).sum) (.int (points.map (·.1)).sum) =
        .ok (.int (variance points)) := by
    simp [spread, variance, covariance, Function.comp_def, bind, Except.bind]
  have above : spread points.length (.int (points.map fun p => p.1 * p.2).sum)
      (.int (points.map (·.1)).sum) (.int (points.map (·.2)).sum) =
        .ok (.int (covariance points)) := by
    simp [spread, covariance, bind, Except.bind]
  have zero : (0 : Number) = .int 0 := rfl
  simp only [slope, ofPoints, below, above, bind, Except.bind, zero]
  by_cases flat : variance points = 0
  · rw [if_pos ((Number.eqv_int_iff _ _).mpr flat), if_pos flat]
    rfl
  · rw [if_neg (mt (Number.eqv_int_iff _ _).mp flat), if_neg flat]
    rfl

/-- The slope through points of bounded spread never fails. -/
theorem exists_slope {points : List (Int × Int)}
    (near : ∀ p ∈ points, ∀ q ∈ points, |q.2 - p.2| ≤ Binary64.greatest) :
    ∃ slope, (ofPoints points).slope = .ok slope := by
  rw [slope_ofPoints]
  by_cases flat : variance points = 0
  · rw [if_pos flat]
    exact ⟨_, rfl⟩
  · rw [if_neg flat]
    have steep := abs_covariance_le points near
    have size : (covariance points).natAbs ≤ Binary64.greatest * (variance points).natAbs := by
      zify
      rwa [abs_of_nonneg (variance_nonneg points)]
    obtain ⟨slope, rounded⟩ := Binary64.isSome_ofRatio?
      (decide (covariance points < 0) != decide (variance points < 0))
      (Int.natAbs_pos.mpr flat) size
    refine ⟨slope, ?_⟩
    rw [Number.divInt, if_neg flat, rounded]

end FlightStream.LinearTrend
