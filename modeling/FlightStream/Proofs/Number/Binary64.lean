import FlightStream.Number.Binary64
import Mathlib.Algebra.Order.Field.Basic
import Mathlib.Algebra.Order.Ring.Rat
import Mathlib.Tactic.FieldSimp
import Mathlib.Tactic.Linarith
import Mathlib.Tactic.Ring

/-!
When a quotient has a nearest float. The unit that `unitExponent` picks leaves the quotient below
`2 ^ 53` of it, and is no more than the quotient's own size allows, so a quotient up to the greatest
float stays below the word of infinity.
-/

namespace FlightStream.Binary64

/-! ## Units -/

/-- The two sides of a quotient in units, as rationals. -/
theorem scaled_spec (num den : Nat) (e : Int) :
    ∃ u : ℚ, 0 < u ∧ ((scaled num den e).1 : ℚ) = num * u ∧
      ((scaled num den e).2 : ℚ) = den * 2 ^ e * u := by
  have exponents : (e.toNat : Int) = e + ((-e).toNat : Int) := by omega
  have powers : (2 : ℚ) ^ e.toNat = 2 ^ e * 2 ^ (-e).toNat := by
    rw [← zpow_natCast, exponents, zpow_add₀ (by norm_num), zpow_natCast]
  refine ⟨2 ^ (-e).toNat, by positivity, ?_, ?_⟩
  · simp only [scaled, Nat.pow_eq]
    push_cast
    rfl
  · simp only [scaled, Nat.pow_eq]
    push_cast
    rw [powers, mul_assoc]

/-- Comparing a quotient in units is comparing it with so many units. -/
theorem scaled_lt_iff (num den k : Nat) (e : Int) :
    (scaled num den e).1 < k * (scaled num den e).2 ↔ (num : ℚ) < k * den * 2 ^ e := by
  obtain ⟨u, positive, above, below⟩ := scaled_spec num den e
  rw [← Nat.cast_lt (α := ℚ), Nat.cast_mul, above, below, ← mul_assoc, ← mul_assoc]
  exact mul_lt_mul_iff_of_pos_right positive

theorem scaled_le_iff (num den k : Nat) (e : Int) :
    (scaled num den e).1 ≤ k * (scaled num den e).2 ↔ (num : ℚ) ≤ k * den * 2 ^ e := by
  obtain ⟨u, positive, above, below⟩ := scaled_spec num den e
  rw [← Nat.cast_le (α := ℚ), Nat.cast_mul, above, below, ← mul_assoc, ← mul_assoc]
  exact mul_le_mul_iff_of_pos_right positive

/-- The size of a quotient by the logarithms of both sides. -/
theorem lt_of_log2 {num den : Nat} (pos : 0 < den) :
    (num : ℚ) < den * 2 ^ ((num.log2 : Int) - den.log2 + 1) := by
  have above : (num : ℚ) < 2 ^ ((num.log2 : Int) + 1) := by
    exact_mod_cast (Nat.lt_log2_self : num < 2 ^ (num.log2 + 1))
  have below : (2 : ℚ) ^ (den.log2 : Int) ≤ den := by
    exact_mod_cast Nat.log2_self_le pos.ne'
  have unit : (0 : ℚ) < 2 ^ ((num.log2 : Int) - den.log2 + 1) := zpow_pos (by norm_num) _
  calc (num : ℚ) < 2 ^ ((num.log2 : Int) + 1) := above
    _ = 2 ^ (den.log2 : Int) * 2 ^ ((num.log2 : Int) - den.log2 + 1) := by
      rw [← zpow_add₀ (by norm_num)]
      congr 1
      omega
    _ ≤ den * 2 ^ ((num.log2 : Int) - den.log2 + 1) := mul_le_mul_of_nonneg_right below unit.le

theorem unitExponent_eq (num den : Nat) {guess : Int}
    (guessed : (num.log2 : Int) - den.log2 - 52 = guess) :
    unitExponent num den = max (-1074)
      (if (scaled num den guess).1 < exponentUnit * (scaled num den guess).2 then guess - 1
        else guess) := by
  subst guessed
  rfl

/-- In the unit that is picked a quotient is below `2 ^ 53`. -/
theorem lt_unitExponent {num den : Nat} (pos : 0 < den) :
    (num : ℚ) < (2 ^ 53 : ℕ) * den * 2 ^ unitExponent num den := by
  have size := @lt_of_log2 num den pos
  have lift : ∀ {e f : Int}, e ≤ f → (num : ℚ) < (2 ^ 53 : ℕ) * den * 2 ^ e →
      (num : ℚ) < (2 ^ 53 : ℕ) * den * 2 ^ f := by
    intro e f least below
    refine below.trans_le (mul_le_mul_of_nonneg_left ?_ (by positivity))
    exact zpow_le_zpow_right₀ (by norm_num) least
  generalize guessed : (num.log2 : Int) - den.log2 - 52 = guess
  rw [unitExponent_eq num den guessed]
  refine lift (le_max_right _ _) ?_
  split
  · rename_i short
    have below := (scaled_lt_iff num den exponentUnit guess).mp short
    have step : (2 : ℚ) ^ guess = 2 ^ (guess - 1) * 2 := by
      rw [← zpow_add_one₀ (by norm_num)]
      congr 1
      omega
    rw [step] at below
    refine below.trans_eq ?_
    have unit : ((2 ^ 53 : ℕ) : ℚ) = (exponentUnit : ℕ) * 2 := by norm_num [exponentUnit]
    rw [unit]
    ring
  · have split : ((2 : ℚ) ^ ((num.log2 : Int) - den.log2 + 1)) = (2 ^ 53 : ℕ) * 2 ^ guess := by
      have exponent : (num.log2 : Int) - den.log2 + 1 = 53 + guess := by omega
      rw [exponent, zpow_add₀ (by norm_num)]
      norm_num
    rw [split] at size
    refine size.trans_eq ?_
    ring

/-- The unit is no more than the size of the quotient allows. -/
theorem unitExponent_le {num den : Nat} (some_ : num ≠ 0) {m : Nat}
    (small : num < 2 ^ m * den) : unitExponent num den ≤ max (-1074) ((m : Int) - 53) := by
  have below : num.log2 ≤ m + den.log2 := by
    have lower : 2 ^ num.log2 ≤ num := Nat.log2_self_le some_
    have upper : den < 2 ^ (den.log2 + 1) := Nat.lt_log2_self
    have bound : 2 ^ num.log2 < 2 ^ (m + (den.log2 + 1)) := by
      rw [Nat.pow_add]
      exact (lower.trans_lt small).trans_le (Nat.mul_le_mul_left _ upper.le)
    have := (Nat.pow_lt_pow_iff_right (by norm_num)).mp bound
    omega
  rw [unitExponent_eq num den rfl]
  refine max_le_max le_rfl ?_
  split
  · omega
  · rename_i full
    -- Were the guess greater, the quotient would have fewer digits in its unit.
    by_contra high
    have guessed : (num.log2 : Int) - den.log2 - 52 = (m : Int) - 52 := by omega
    rw [guessed, scaled_lt_iff, mul_right_comm] at full
    refine full ?_
    have unit : ((exponentUnit : ℕ) : ℚ) * 2 ^ ((m : Int) - 52) = 2 ^ m := by
      rw [zpow_sub₀ (by norm_num), zpow_natCast]
      norm_num [exponentUnit]
      ring
    rw [unit]
    exact_mod_cast small

/-! ## Rounding -/

theorem roundHalfEven_le {num den k : Nat} (pos : 0 < den) (small : num ≤ k * den) :
    roundHalfEven num den ≤ k := by
  have floor : num / den ≤ k := Nat.div_le_of_le_mul (by rwa [Nat.mul_comm])
  have whole := Nat.div_add_mod num den
  simp only [roundHalfEven]
  rcases Nat.lt_or_eq_of_le floor with below | same
  · split
    · exact floor
    · split <;> omega
  · -- Nothing is left over once the whole part is as large as it can be.
    have none : num % den = 0 := by
      rw [same, Nat.mul_comm] at whole
      omega
    rw [none, Nat.mul_zero, if_pos pos]
    exact floor

/-- The greatest float. -/
def greatest : Nat := (2 ^ 53 - 1) * 2 ^ 971

/-- A quotient up to the greatest float has a nearest float. -/
theorem isSome_ofRatio? (negative : Bool) {num den : Nat} (pos : 0 < den)
    (small : num ≤ greatest * den) : ∃ x, ofRatio? negative num den = some x := by
  have word : magnitudeWord num den < infinityWord := by
    unfold magnitudeWord
    by_cases zero : num = 0
    · rw [if_pos zero]
      decide
    · rw [if_neg zero]
      have range : greatest < 2 ^ 1024 := by decide +kernel
      have unit : unitExponent num den ≤ 971 := by
        have := unitExponent_le zero (small.trans_lt (Nat.mul_lt_mul_of_pos_right range pos))
        omega
      have least : -1074 ≤ unitExponent num den := le_max_left _ _
      have digits := (scaled_lt_iff num den (2 ^ 53) _).mpr (lt_unitExponent pos)
      have positive : 0 < (scaled num den (unitExponent num den)).2 := by
        by_contra none
        have nil : (scaled num den (unitExponent num den)).2 = 0 := by omega
        rw [nil] at digits
        omega
      rcases Int.lt_or_eq_of_le unit with lower | same
      · have rounded := roundHalfEven_le positive digits.le
        have exponent : (unitExponent num den + 1074).toNat ≤ 2044 := by omega
        have weight := Nat.mul_le_mul_right exponentUnit exponent
        have total : 2044 * exponentUnit + 2 ^ 53 < infinityWord := by decide
        exact lt_of_le_of_lt (Nat.add_le_add weight rounded) total
      · -- In the greatest unit the quotient is at most the digits of the greatest float.
        rw [same] at positive ⊢
        have all : (scaled num den 971).1 ≤ (2 ^ 53 - 1) * (scaled num den 971).2 := by
          rw [scaled_le_iff, mul_right_comm]
          exact_mod_cast small
        have rounded := roundHalfEven_le positive all
        have total : 2045 * exponentUnit + (2 ^ 53 - 1) < infinityWord := by decide
        exact lt_of_le_of_lt (Nat.add_le_add_left rounded _) total
  refine ⟨ofWord negative (magnitudeWord num den), ?_⟩
  unfold ofRatio?
  simp only [word, if_true]

end FlightStream.Binary64
