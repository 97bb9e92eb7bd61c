import FlightStream.Number.Word
import FlightStream.Proofs.LeastSquares

/-!
The direction of a flight that only climbs, or only descends. Of two points one of which is later
and higher, the product of the differences is positive, and no pair of points makes up for it, as
none has a negative product; so the sum over all pairs has a sign, whatever the order in which the
points come and however many share a time. The direction is that sign as long as the quotient is not
rounded away, `classify_sign`, and for times and altitudes of 64 bits it never is.
-/

namespace FlightStream.LinearTrend

/-! ## Bounds on sums over pairs -/

section PairSum

variable {f : Int × Int → Int × Int → Int} {points : List (Int × Int)}

theorem pairSum_nonneg (nonneg : ∀ p ∈ points, ∀ q ∈ points, 0 ≤ f p q) : 0 ≤ pairSum f points := by
  induction points with
  | nil => exact le_refl 0
  | cons first rest ih =>
    have own : ∀ term ∈ rest.map (f first), 0 ≤ term := List.forall_mem_map.mpr fun q present =>
      nonneg first List.mem_cons_self q (List.mem_cons_of_mem _ present)
    have others := ih fun p one q other =>
      nonneg p (List.mem_cons_of_mem _ one) q (List.mem_cons_of_mem _ other)
    rw [pairSum]
    exact add_nonneg (List.sum_nonneg own) others

/-- Where no pair takes anything away, each has its part in the sum. A point is in no pair with
itself, so `f` has to be nothing there. -/
theorem le_pairSum (symm : ∀ p q, f p q = f q p) (diag : ∀ p, f p p = 0)
    (nonneg : ∀ p ∈ points, ∀ q ∈ points, 0 ≤ f p q) {p q : Int × Int} (one : p ∈ points)
    (other : q ∈ points) : f p q ≤ pairSum f points := by
  induction points with
  | nil => cases one
  | cons first rest ih =>
    have inRest := fun p one q other =>
      nonneg p (List.mem_cons_of_mem first one) q (List.mem_cons_of_mem first other)
    have others := pairSum_nonneg inRest
    have terms : ∀ term ∈ rest.map (f first), 0 ≤ term := List.forall_mem_map.mpr fun q present =>
      nonneg first List.mem_cons_self q (List.mem_cons_of_mem _ present)
    have own : ∀ q ∈ rest, f first q ≤ (rest.map (f first)).sum := fun q present =>
      List.single_le_sum terms _ (List.mem_map_of_mem present)
    rw [pairSum]
    rcases List.mem_cons.mp one with rfl | earlier
    · rcases List.mem_cons.mp other with rfl | later
      · rw [diag]
        exact add_nonneg (List.sum_nonneg terms) others
      · exact le_add_of_le_of_nonneg (own q later) others
    · rcases List.mem_cons.mp other with rfl | later
      · rw [symm]
        exact le_add_of_le_of_nonneg (own p earlier) others
      · exact le_add_of_nonneg_of_le (List.sum_nonneg terms) (ih inRest earlier later)

/-- There are fewer pairs than the square of the number of points. -/
theorem pairSum_le {bound : Int} (nonneg : 0 ≤ bound)
    (small : ∀ p ∈ points, ∀ q ∈ points, f p q ≤ bound) :
    pairSum f points ≤ points.length ^ 2 * bound := by
  induction points with
  | nil => simp [pairSum]
  | cons first rest ih =>
    have others := ih fun p one q other =>
      small p (List.mem_cons_of_mem _ one) q (List.mem_cons_of_mem _ other)
    have own := List.sum_le_card_nsmul (rest.map (f first)) bound
      (List.forall_mem_map.mpr fun q present =>
        small first List.mem_cons_self q (List.mem_cons_of_mem _ present))
    rw [List.length_map, nsmul_eq_mul] at own
    rw [pairSum, List.length_cons]
    push_cast
    calc (rest.map (f first)).sum + pairSum f rest
        ≤ rest.length * bound + rest.length ^ 2 * bound := add_le_add own others
      _ ≤ (rest.length + 1) ^ 2 * bound := by
        rw [← add_mul]
        apply mul_le_mul_of_nonneg_right _ nonneg
        nlinarith

theorem pairSum_neg : pairSum (fun p q => -f p q) points = -pairSum f points := by
  induction points with
  | nil => rfl
  | cons first rest ih =>
    rw [pairSum, pairSum, ih, neg_add, List.sum_neg, List.map_map]
    rfl

end PairSum

/-! ## The direction as the sign of a sum over pairs -/

variable {points : List (Int × Int)}

/-- The direction of points with different abscissas is the sign of their covariance. -/
theorem classify_sign (near : ∀ p ∈ points, ∀ q ∈ points, |q.2 - p.2| ≤ Binary64.greatest)
    (bounded : variance points < 2 ^ 1000) (varied : Varied points) :
    ∃ slope, Value.classify (readings points) = .ok (slope,
      if 0 < crossDifferences points then .ascending
      else if crossDifferences points = 0 then .cruise else .descending) := by
  have steep := (varied_iff points).mp varied
  obtain ⟨slope, fitted⟩ := exists_slope near
  rw [slope_ofPoints, if_neg steep] at fitted
  have rounded := correctlyRounded_divInt steep fitted
  have positive : (0 : ℚ) < variance points := by
    exact_mod_cast (variance_nonneg points).lt_of_ne' steep
  refine ⟨slope, ?_⟩
  rw [classify_readings, if_neg steep, fitted, ← covariance_eq, Except.map,
    ofSlope_correctlyRounded rounded (le_abs_exactSlope bounded), exactSlope]
  simp only [div_pos_iff_of_pos_right positive, div_eq_zero_iff, positive.ne', or_false,
    Int.cast_pos, Int.cast_eq_zero]

/-! ## Flights in one direction -/

/-- No point is below one that is before it. -/
def NeverFalls (points : List (Int × Int)) : Prop :=
  ∀ p ∈ points, ∀ q ∈ points, p.1 < q.1 → p.2 ≤ q.2

/-- Some point is above one that is before it. -/
def Climbs (points : List (Int × Int)) : Prop :=
  ∃ p ∈ points, ∃ q ∈ points, p.1 < q.1 ∧ p.2 < q.2

/-- No point is above one that is before it. -/
def NeverClimbs (points : List (Int × Int)) : Prop :=
  ∀ p ∈ points, ∀ q ∈ points, p.1 < q.1 → q.2 ≤ p.2

/-- Some point is below one that is before it. -/
def Falls (points : List (Int × Int)) : Prop :=
  ∃ p ∈ points, ∃ q ∈ points, p.1 < q.1 ∧ q.2 < p.2

/-- All points are at one altitude. -/
def Level (points : List (Int × Int)) : Prop := ∀ p ∈ points, ∀ q ∈ points, p.2 = q.2

instance (points : List (Int × Int)) : Decidable (NeverFalls points) :=
  inferInstanceAs (Decidable (∀ p ∈ points, ∀ q ∈ points, p.1 < q.1 → p.2 ≤ q.2))

instance (points : List (Int × Int)) : Decidable (Climbs points) :=
  inferInstanceAs (Decidable (∃ p ∈ points, ∃ q ∈ points, p.1 < q.1 ∧ p.2 < q.2))

instance (points : List (Int × Int)) : Decidable (NeverClimbs points) :=
  inferInstanceAs (Decidable (∀ p ∈ points, ∀ q ∈ points, p.1 < q.1 → q.2 ≤ p.2))

instance (points : List (Int × Int)) : Decidable (Falls points) :=
  inferInstanceAs (Decidable (∃ p ∈ points, ∃ q ∈ points, p.1 < q.1 ∧ q.2 < p.2))

instance (points : List (Int × Int)) : Decidable (Level points) :=
  inferInstanceAs (Decidable (∀ p ∈ points, ∀ q ∈ points, p.2 = q.2))

/-- The points upside down. -/
def mirrored (points : List (Int × Int)) : List (Int × Int) := points.map fun p => (p.1, -p.2)

theorem NeverClimbs.mirrored (falls : NeverClimbs points) : NeverFalls (mirrored points) := by
  simp only [NeverFalls, LinearTrend.mirrored, List.forall_mem_map]
  exact fun p one q other before => neg_le_neg (falls p one q other before)

theorem Falls.mirrored (falls : Falls points) : Climbs (mirrored points) := by
  obtain ⟨p, one, q, other, before, below⟩ := falls
  exact ⟨_, List.mem_map_of_mem one, _, List.mem_map_of_mem other, before, neg_lt_neg below⟩

theorem crossDifferences_pos (rises : NeverFalls points) (climbs : Climbs points) :
    0 < crossDifferences points := by
  obtain ⟨p, one, q, other, before, below⟩ := climbs
  have nonneg : ∀ p ∈ points, ∀ q ∈ points, 0 ≤ (p.1 - q.1) * (p.2 - q.2) := by
    intro p one q other
    rcases lt_trichotomy p.1 q.1 with before | same | after
    · exact mul_nonneg_of_nonpos_of_nonpos (by omega) (sub_nonpos.mpr (rises p one q other before))
    · rw [same, sub_self, zero_mul]
    · exact mul_nonneg (by omega) (sub_nonneg.mpr (rises q other p one after))
  have positive : 0 < (p.1 - q.1) * (p.2 - q.2) := mul_pos_of_neg_of_neg (by omega) (by omega)
  exact positive.trans_le
    (le_pairSum (fun p q => by ring) (fun p => by rw [sub_self, zero_mul]) nonneg one other)

theorem crossDifferences_mirrored (points : List (Int × Int)) :
    crossDifferences (mirrored points) = -crossDifferences points := by
  rw [crossDifferences, ← pairSum_neg]
  induction points with
  | nil => rfl
  | cons first rest ih =>
    rw [mirrored] at ih ⊢
    rw [List.map_cons, pairSum, pairSum, ih, List.map_map]
    congr 2
    refine List.map_congr_left fun q _ => ?_
    simp only [Function.comp_apply]
    ring

theorem crossDifferences_level (level : Level points) : crossDifferences points = 0 := by
  have nothing : ∀ p ∈ points, ∀ q ∈ points, (p.1 - q.1) * (p.2 - q.2) = 0 := by
    intro p one q other
    rw [level p one q other, sub_self, mul_zero]
  apply le_antisymm
  · have above := pairSum_le (le_refl 0) fun p one q other => (nothing p one q other).le
    rwa [mul_zero] at above
  · exact pairSum_nonneg fun p one q other => (nothing p one q other).ge

theorem Climbs.varied (climbs : Climbs points) : Varied points := by
  obtain ⟨p, one, q, other, before, -⟩ := climbs
  exact ⟨p, one, q, other, before.ne⟩

theorem Falls.varied (falls : Falls points) : Varied points := by
  obtain ⟨p, one, q, other, before, -⟩ := falls
  exact ⟨p, one, q, other, before.ne⟩

/-! ## Times and altitudes of 64 bits -/

theorem abs_sub_words {a b : Int} (first : isWord64 a = true) (second : isWord64 b = true) :
    |a - b| < 2 ^ 64 := by
  simp only [isWord64, decide_eq_true_eq] at first second
  rw [abs_lt]
  omega

/-- Fewer than `2 ^ 32` squares of differences below `2 ^ 64` leave a slope far from being rounded
away. -/
theorem variance_words (few : points.length < 2 ^ 32) (words : ∀ p ∈ points, isWord64 p.1 = true) :
    variance points < 2 ^ 1000 := by
  have squares : ∀ p ∈ points, ∀ q ∈ points, (p.1 - q.1) ^ 2 ≤ ((2 : Int) ^ 64) ^ 2 :=
    fun p one q other => sq_le_sq.mpr (by
      rw [abs_of_pos (by positivity : (0 : Int) < 2 ^ 64)]
      exact (abs_sub_words (words p one) (words q other)).le)
  have count : (points.length : Int) ^ 2 ≤ (2 ^ 32) ^ 2 :=
    pow_le_pow_left₀ (Int.natCast_nonneg _) (by exact_mod_cast few.le) 2
  calc variance points = squaredDifferences points := variance_eq points
    _ ≤ points.length ^ 2 * (2 ^ 64) ^ 2 := pairSum_le (by positivity) squares
    _ ≤ (2 ^ 32) ^ 2 * (2 ^ 64) ^ 2 := mul_le_mul_of_nonneg_right count (by positivity)
    _ < 2 ^ 1000 := by
      rw [← pow_mul, ← pow_mul, ← pow_add]
      exact pow_lt_pow_right₀ (by norm_num) (by norm_num)

/-- Monotone flights are classified correctly. Take fewer than `2 ^ 32` points whose times and
altitudes have 64 bits, in any order. If none is below an earlier one, and some is above one, the
direction is up; if none is above an earlier one, and some is below one, it is down; and if all have
one altitude, but not one time, the flight cruises. Points that share a time may differ in
altitude. -/
theorem classify_monotone (few : points.length < 2 ^ 32)
    (words : ∀ p ∈ points, isWord64 p.1 = true ∧ isWord64 p.2 = true) :
    (NeverFalls points → Climbs points →
        ∃ slope, Value.classify (readings points) = .ok (slope, .ascending)) ∧
      (NeverClimbs points → Falls points →
        ∃ slope, Value.classify (readings points) = .ok (slope, .descending)) ∧
      (Level points → Varied points →
        ∃ slope, Value.classify (readings points) = .ok (slope, .cruise)) := by
  have range : (2 ^ 64 : Int) ≤ Binary64.greatest := by decide +kernel
  have sign := classify_sign
    (fun p one q other => (abs_sub_words (words q other).2 (words p one).2).le.trans range)
    (variance_words few fun p member => (words p member).1)
  refine ⟨fun rises climbs => ?_, fun sinks falls => ?_, fun level varied => ?_⟩
  · obtain ⟨slope, returned⟩ := sign climbs.varied
    rw [if_pos (crossDifferences_pos rises climbs)] at returned
    exact ⟨slope, returned⟩
  · have negative := crossDifferences_pos sinks.mirrored falls.mirrored
    rw [crossDifferences_mirrored, neg_pos] at negative
    obtain ⟨slope, returned⟩ := sign falls.varied
    rw [if_neg negative.not_gt, if_neg negative.ne] at returned
    exact ⟨slope, returned⟩
  · obtain ⟨slope, returned⟩ := sign varied
    rw [crossDifferences_level level, if_neg (lt_irrefl 0), if_pos rfl] at returned
    exact ⟨slope, returned⟩

/-- A climb out of order: the last point is the first in time, and two share a time. -/
def scattered : List (Int × Int) := [(20, 1200), (30, 1500), (20, 1400), (-2 ^ 63, 1200)]

/-- The same times at one altitude. -/
def levelled : List (Int × Int) := scattered.map fun p => (p.1, 2500)

theorem classify_monotone_scattered :
    (NeverFalls scattered ∧ Climbs scattered ∧
        ∃ slope, Value.classify (readings scattered) = .ok (slope, .ascending)) ∧
      (NeverClimbs (mirrored scattered) ∧ Falls (mirrored scattered) ∧
        ∃ slope, Value.classify (readings (mirrored scattered)) = .ok (slope, .descending)) ∧
      Level levelled ∧ Varied levelled ∧
        ∃ slope, Value.classify (readings levelled) = .ok (slope, .cruise) := by
  have rises : NeverFalls scattered ∧ Climbs scattered := by decide
  have sinks : NeverClimbs (mirrored scattered) ∧ Falls (mirrored scattered) := by decide
  have level : Level levelled ∧ Varied levelled := by decide
  refine ⟨⟨rises.1, rises.2, (classify_monotone ?_ ?_).1 rises.1 rises.2⟩,
    ⟨sinks.1, sinks.2, (classify_monotone ?_ ?_).2.1 sinks.1 sinks.2⟩,
    level.1, level.2, (classify_monotone ?_ ?_).2.2 level.1 level.2⟩
  all_goals decide

end FlightStream.LinearTrend
