import FlightStream.Proofs.Number.Binary64
import FlightStream.Proofs.Number.Words

/-!
That a quotient is rounded correctly. What that means is said of rationals and of the parts of
floats alone (`Parts.Rounds`): no finite float is nearer, one that is equally near has lost to even
digits, and the sign is that of the quotient. A float whose unit is no finer than the one that was
picked is a whole number of these units, so rounding to whole units decides (`roundHalfEven_nearest`);
a float with a finer unit is below all quotients for which it was not picked (`unitExponent_full`).
-/

namespace FlightStream.Binary64

/-! ## Correct rounding -/

/-- A magnitude with a sign. -/
def signed (negative : Bool) (magnitude : ℚ) : ℚ := if negative then -magnitude else magnitude

/-- The rational that a finite float stands for. -/
def Parts.value (p : Parts) : ℚ := signed p.negative (p.significand * 2 ^ p.exponent)

/-- The float with parts `p` is the one that a rational rounds to, to nearest with ties to even. -/
structure Parts.Rounds (p : Parts) (q : ℚ) : Prop where
  nearest : ∀ y r, parts? y = some r → |q - p.value| ≤ |q - r.value|
  even : ∀ y r, parts? y = some r → r.value ≠ p.value → |q - r.value| = |q - p.value| →
    Even p.significand
  sign : p.negative = true ↔ q < 0

/-- A float is the correctly rounded value of a rational. -/
def CorrectlyRounded (q : ℚ) (x : Float) : Prop := ∃ p, parts? x = some p ∧ p.Rounds q

/-! ## Whole units -/

/-- Rounding moves a quotient by at most half a unit, and by half a unit only to an even one. -/
theorem roundHalfEven_half (num : Nat) {den : Nat} (pos : 0 < den) :
    2 * |(num : Int) - roundHalfEven num den * den| ≤ den ∧
      (2 * |(num : Int) - roundHalfEven num den * den| = den → Even (roundHalfEven num den)) := by
  have whole : (num : Int) = (num / den : Nat) * den + (num % den : Nat) := by
    exact_mod_cast (Nat.div_add_mod' num den).symm
  have below := Nat.mod_lt num pos
  have parity := Nat.mod_two_eq_zero_or_one (num / den)
  unfold roundHalfEven
  generalize num / den = floor at whole parity ⊢
  generalize num % den = rest at whole below ⊢
  have here : |(num : Int) - floor * den| = rest := by
    rw [whole, add_sub_cancel_left, Nat.abs_cast]
  have next : |(num : Int) - ((floor + 1 : Nat) : Int) * den| = den - rest := by
    rw [abs_sub_comm, abs_of_nonneg] <;> rw [whole] <;> push_cast <;> linarith
  simp only
  split
  · rw [here]
    omega
  · split
    · rw [next]
      omega
    · rcases parity with even | odd
      · rw [even, Nat.add_zero, here]
        exact ⟨by omega, fun _ => Nat.even_iff.mpr even⟩
      · rw [odd, next]
        exact ⟨by omega, fun _ => Nat.even_iff.mpr (by omega)⟩

/-- Of the multiples of `den`, the rounded one is nearest to `num`, and even where another is as
near. -/
theorem roundHalfEven_nearest {num den : Nat} (pos : 0 < den) {k : Int}
    (other : k ≠ roundHalfEven num den) :
    |(num : Int) - roundHalfEven num den * den| ≤ |(num : Int) - k * den| ∧
      (|(num : Int) - k * den| = |(num : Int) - roundHalfEven num den * den| →
        Even (roundHalfEven num den)) := by
  obtain ⟨half, tie⟩ := roundHalfEven_half num pos
  generalize roundHalfEven num den = rounded at other half tie ⊢
  have apart : (den : Int) ≤ |(num : Int) - k * den| + |(num : Int) - rounded * den| := by
    have unit : 1 ≤ |(rounded : Int) - k| := Int.one_le_abs (sub_ne_zero.mpr (Ne.symm other))
    calc (den : Int) ≤ |(rounded : Int) - k| * den := le_mul_of_one_le_left (by omega) unit
      _ = |((num : Int) - k * den) - (num - rounded * den)| := by
        rw [← Nat.abs_cast den, ← abs_mul, Nat.abs_cast]
        congr 1
        ring
      _ ≤ |(num : Int) - k * den| + |(num : Int) - rounded * den| := abs_sub _ _
  exact ⟨by omega, fun same => tie (by omega)⟩

theorem le_roundHalfEven {num den k : Nat} (pos : 0 < den) (large : k * den ≤ num) :
    k ≤ roundHalfEven num den := by
  have floor : k ≤ num / den := (Nat.le_div_iff_mul_le pos).mpr large
  simp only [roundHalfEven]
  split
  · exact floor
  · split <;> omega

/-! ## The picked unit -/

/-- The digits of a quotient in the unit that is picked for it, rounded to whole units. -/
def roundedDigits (num den : Nat) : Nat :=
  let (n, d) := scaled num den (unitExponent num den)
  roundHalfEven n d

theorem magnitudeWord_eq {num : Nat} (some_ : num ≠ 0) (den : Nat) :
    magnitudeWord num den =
      (unitExponent num den + 1074).toNat * exponentUnit + roundedDigits num den := by
  rw [magnitudeWord, if_neg some_]
  rfl

/-- In a unit above the smallest a quotient has all of its 53 digits. -/
theorem unitExponent_full {num : Nat} (some_ : num ≠ 0) (den : Nat)
    (coarse : -1074 < unitExponent num den) :
    (exponentUnit : ℚ) * den * 2 ^ unitExponent num den ≤ num := by
  generalize guessed : (num.log2 : Int) - den.log2 - 52 = guess
  have picked := unitExponent_eq num den guessed
  split at picked
  · -- The guess was one too high, so the logarithms alone give the bound one unit below.
    have unit : unitExponent num den = (num.log2 : Int) - den.log2 - 53 := by omega
    have above : (2 : ℚ) ^ (num.log2 : Int) ≤ num := by exact_mod_cast Nat.log2_self_le some_
    have below : (den : ℚ) ≤ 2 ^ ((den.log2 : Int) + 1) := by
      exact_mod_cast (Nat.lt_log2_self : den < 2 ^ (den.log2 + 1)).le
    have weight : (exponentUnit : ℚ) = 2 ^ (52 : Int) := by norm_num [exponentUnit]
    calc (exponentUnit : ℚ) * den * 2 ^ unitExponent num den
        ≤ 2 ^ (52 : Int) * 2 ^ ((den.log2 : Int) + 1) * 2 ^ unitExponent num den := by
          rw [weight]
          gcongr
      _ = 2 ^ (num.log2 : Int) := by
          rw [← zpow_add₀ (by norm_num), ← zpow_add₀ (by norm_num), unit]
          congr 1
          omega
      _ ≤ num := above
  · rename_i full
    have unit : unitExponent num den = guess := by omega
    rw [scaled_lt_iff, not_lt] at full
    rwa [unit]

theorem scaled_pos (num : Nat) {den : Nat} (pos : 0 < den) (e : Int) : 0 < (scaled num den e).2 :=
  Nat.mul_pos pos (Nat.pow_pos (by decide))

/-- How far a quotient is from so many units, by its numerator in these units. -/
theorem distance_scaled (num : Nat) {den : Nat} (pos : 0 < den) (e k : Int) :
    |(num : ℚ) / den - k * 2 ^ e| =
      (|((scaled num den e).1 : Int) - k * (scaled num den e).2| : Int) *
        (2 ^ e / (scaled num den e).2) := by
  obtain ⟨u, positive, above, below⟩ := scaled_spec num den e
  have unit : (0 : ℚ) < 2 ^ e := zpow_pos (by norm_num) _
  have den_pos : (0 : ℚ) < den := by exact_mod_cast pos
  have part : (0 : ℚ) < 2 ^ e / (scaled num den e).2 := by
    rw [below]
    positivity
  rw [← abs_of_pos part]
  push_cast
  rw [← abs_mul, above, below]
  congr 1
  field_simp

/-- No number of 53 digits over a unit of floats is nearer to a quotient than its rounded digits
in the unit that is picked, and these are even where another is as near. -/
theorem roundedDigits_nearest {num den : Nat} (some_ : num ≠ 0) (pos : 0 < den) {k f : Int}
    (digits : |k| < 2 ^ 53) (floats : -1074 ≤ f)
    (other : (k : ℚ) * 2 ^ f ≠ roundedDigits num den * 2 ^ unitExponent num den) :
    |(num : ℚ) / den - roundedDigits num den * 2 ^ unitExponent num den| ≤
        |(num : ℚ) / den - k * 2 ^ f| ∧
      (|(num : ℚ) / den - k * 2 ^ f| =
          |(num : ℚ) / den - roundedDigits num den * 2 ^ unitExponent num den| →
        Even (roundedDigits num den)) := by
  generalize picked : unitExponent num den = e at other ⊢
  have unit : (0 : ℚ) < 2 ^ e := zpow_pos (by norm_num) _
  have rounded : roundedDigits num den =
      roundHalfEven (scaled num den e).1 (scaled num den e).2 := by rw [← picked]; rfl
  have part : (0 : ℚ) < 2 ^ e / (scaled num den e).2 :=
    div_pos unit (by exact_mod_cast scaled_pos num pos e)
  -- Among whole numbers of the picked unit, rounding to whole units decides.
  have whole : ∀ j : Int, j ≠ roundedDigits num den →
      |(num : ℚ) / den - roundedDigits num den * 2 ^ e| ≤ |(num : ℚ) / den - j * 2 ^ e| ∧
        (|(num : ℚ) / den - j * 2 ^ e| = |(num : ℚ) / den - roundedDigits num den * 2 ^ e| →
          Even (roundedDigits num den)) := by
    intro j differs
    have near := roundHalfEven_nearest (scaled_pos num pos e) (rounded ▸ differs)
    have own := distance_scaled num pos e (roundedDigits num den)
    rw [Int.cast_natCast] at own
    rw [own, distance_scaled num pos, mul_le_mul_iff_left₀ part, mul_left_inj' part.ne', rounded]
    exact_mod_cast near
  rcases le_or_gt e f with coarser | finer
  · have multiple : (k : ℚ) * 2 ^ f = (k * 2 ^ (f - e).toNat : Int) * 2 ^ e := by
      have exponent : f = (f - e).toNat + e := by omega
      conv_lhs => rw [exponent, zpow_add₀ (by norm_num), zpow_natCast]
      push_cast
      ring
    rw [multiple] at other ⊢
    refine whole _ fun same => other ?_
    rw [same, Int.cast_natCast]
  · -- With a finer unit a float is below `2 ^ 52` of the picked one, and the quotient is not.
    have low : (exponentUnit : ℚ) * 2 ^ e ≤ (num : ℚ) / den := by
      have full := unitExponent_full some_ den (by omega)
      rw [picked] at full
      rw [le_div_iff₀ (by exact_mod_cast pos), mul_right_comm]
      exact full
    have below : (k : ℚ) * 2 ^ f < (exponentUnit : ℚ) * 2 ^ e := by
      have size : (k : ℚ) < 2 ^ 53 := by exact_mod_cast (abs_lt.mp digits).2
      calc (k : ℚ) * 2 ^ f < 2 ^ 53 * 2 ^ f :=
            mul_lt_mul_of_pos_right size (zpow_pos (by norm_num) _)
        _ ≤ 2 ^ 53 * 2 ^ (e - 1) :=
          mul_le_mul_of_nonneg_left (zpow_le_zpow_right₀ (by norm_num) (by omega)) (by norm_num)
        _ = (exponentUnit : ℚ) * 2 ^ e := by
          rw [zpow_sub_one₀ (by norm_num)]
          norm_num [exponentUnit]
          ring
    have nearer : |(num : ℚ) / den - roundedDigits num den * 2 ^ e| ≤
        |(num : ℚ) / den - exponentUnit * 2 ^ e| := by
      by_cases same : (exponentUnit : Int) = roundedDigits num den
      · rw [← Int.cast_natCast exponentUnit, same, Int.cast_natCast]
      · exact_mod_cast (whole exponentUnit same).1
    rw [abs_of_nonneg (sub_nonneg.mpr low)] at nearer
    have farther : |(num : ℚ) / den - k * 2 ^ f| = (num : ℚ) / den - k * 2 ^ f :=
      abs_of_nonneg (by linarith)
    rw [farther]
    exact ⟨by linarith, fun same => absurd same (by linarith)⟩

/-! ## The rounded float -/

/-- The parts of a rounded quotient: its sign, its rounded digits and the picked unit. -/
theorem exists_parts_ofRatio? {negative : Bool} {num den : Nat} {x : Float} (some_ : num ≠ 0)
    (pos : 0 < den) (rounded : ofRatio? negative num den = some x) :
    ∃ p, parts? x = some p ∧ p.negative = negative ∧
      (p.significand : ℚ) * 2 ^ p.exponent = roundedDigits num den * 2 ^ unitExponent num den ∧
      (Even (roundedDigits num den) → Even p.significand) := by
  have unit : 2 ^ 53 = exponentUnit + exponentUnit := by decide
  have word := magnitudeWord_eq some_ den
  have least : -1074 ≤ unitExponent num den := le_max_left _ _
  have digits : roundedDigits num den ≤ 2 ^ 53 :=
    roundHalfEven_le (scaled_pos num pos _) ((scaled_lt_iff num den _ _).mpr (lt_unitExponent pos)).le
  have normal : (unitExponent num den + 1074).toNat = 0 ∨ exponentUnit ≤ roundedDigits num den := by
    rcases least.eq_or_lt with smallest | coarse
    · exact .inl (by omega)
    · have full := not_lt.mpr (unitExponent_full some_ den coarse)
      exact .inr (le_roundHalfEven (scaled_pos num pos _)
        (not_lt.mp (mt (scaled_lt_iff num den exponentUnit _).mp full)))
  have range : magnitudeWord num den < infinityWord ∧ ofWord negative (magnitudeWord num den) = x := by
    simp only [ofRatio?] at rounded
    split at rounded
    · exact ⟨‹_›, Option.some.inj rounded⟩
    · cases rounded
  obtain ⟨range, rfl⟩ := range
  rw [word] at range ⊢
  rcases digits.lt_or_eq with below | carried
  · refine ⟨_, parts?_ofWord negative _ below normal range, rfl, ?_, id⟩
    congr 2
    push_cast
    omega
  · -- Rounding up to `2 ^ 53` units goes on to the least digits of the next unit.
    have next : (unitExponent num den + 1074).toNat * exponentUnit + roundedDigits num den =
        ((unitExponent num den + 1074).toNat + 1) * exponentUnit + exponentUnit := by
      rw [carried, unit]
      ring
    rw [next] at range ⊢
    refine ⟨_, parts?_ofWord negative _ (by omega) (.inr le_rfl) range, rfl, ?_,
      fun _ => (by decide : Even exponentUnit)⟩
    have exponent : (((unitExponent num den + 1074).toNat + 1 : Nat) : Int) - 1074 =
        unitExponent num den + 1 := by omega
    rw [exponent, carried, zpow_add_one₀ (by norm_num)]
    norm_num [exponentUnit]
    ring

theorem signed_signed (negative : Bool) (magnitude : ℚ) :
    signed negative (signed negative magnitude) = magnitude := by
  cases negative <;> simp [signed]

theorem abs_signed_sub (negative : Bool) (a b : ℚ) :
    |signed negative a - signed negative b| = |a - b| := by
  cases negative
  · rfl
  · rw [abs_sub_comm a b]
    congr 1
    simp only [signed, if_true]
    ring

/-- A finite float with a sign put before it stands for 53 digits over its unit. -/
theorem exists_digits {y : Float} {r : Parts} (finite : parts? y = some r) (negative : Bool) :
    ∃ k : Int, |k| < 2 ^ 53 ∧ signed negative r.value = k * 2 ^ r.exponent := by
  have size : |(r.significand : Int)| < 2 ^ 53 := by
    rw [Nat.abs_cast]
    exact_mod_cast (parts?_bounds finite).1
  unfold Parts.value signed
  by_cases same : negative = r.negative
  · refine ⟨r.significand, size, ?_⟩
    subst same
    cases r.negative <;> simp
  · refine ⟨-r.significand, by rwa [abs_neg], ?_⟩
    cases negative <;> cases written : r.negative <;> simp_all

/-- A quotient is rounded correctly; the sign of a float that stands for zero is plus. -/
theorem correctlyRounded_ofRatio? {negative : Bool} {num den : Nat} {x : Float} (pos : 0 < den)
    (sign : negative = true → num ≠ 0) (rounded : ofRatio? negative num den = some x) :
    CorrectlyRounded (signed negative (num / den)) x := by
  rcases Nat.eq_zero_or_pos num with rfl | some_
  · obtain rfl : negative = false := by
      cases negative
      · rfl
      · exact absurd rfl (sign rfl)
    obtain rfl : ofWord false 0 = x := Option.some.inj rounded
    have zero : signed false ((0 : Nat) / (den : ℚ)) = 0 := by simp [signed]
    rw [zero]
    have parts := parts?_ofWord false 0 (by decide : 0 < 2 ^ 53) (.inl rfl) (by decide)
    refine ⟨_, parts, ?_, fun _ _ _ _ _ => Even.zero, by simp⟩
    intro y r _
    simp [Parts.value, signed]
  · obtain ⟨p, parts, own, value, even⟩ := exists_parts_ofRatio? some_.ne' pos rounded
    have positive : (0 : ℚ) < num / den := by positivity
    have written : p.value = signed negative (roundedDigits num den * 2 ^ unitExponent num den) := by
      rw [Parts.value, own, value]
    have near : ∀ y r, parts? y = some r → r.value ≠ p.value →
        |signed negative (num / den) - p.value| ≤ |signed negative (num / den) - r.value| ∧
          (|signed negative (num / den) - r.value| = |signed negative (num / den) - p.value| →
            Even p.significand) := by
      intro y r finite differs
      obtain ⟨k, digits, magnitude⟩ := exists_digits finite negative
      have other := signed_signed negative r.value
      rw [magnitude] at other
      rw [← other, written, abs_signed_sub, abs_signed_sub]
      rw [← other, written] at differs
      obtain ⟨nearest, ties⟩ := roundedDigits_nearest some_.ne' pos digits
        (parts?_bounds finite).2 (mt (congrArg (signed negative)) differs)
      exact ⟨nearest, even ∘ ties⟩
    refine ⟨p, parts, fun y r finite => ?_, fun y r finite differs => (near y r finite differs).2, ?_⟩
    · by_cases same : r.value = p.value
      · rw [same]
      · exact (near y r finite same).1
    · rw [own]
      cases negative <;> simp [signed, positive, positive.le]

/-! ## The sign of what was rounded -/

/-- A rational that is zero or no smaller than the smallest float is not rounded to zero unless it
is zero. -/
theorem Parts.Rounds.significand_eq_zero_iff {p : Parts} {q : ℚ} (rounds : p.Rounds q)
    (visible : q ≠ 0 → 2 ^ (-1074 : Int) ≤ |q|) : p.significand = 0 ↔ q = 0 := by
  have value : p.significand = 0 → p.value = 0 := by
    intro none
    simp [Parts.value, signed, none]
  constructor
  · intro none
    by_contra some_
    have large := visible some_
    -- The smallest float with the sign of `q` would have been nearer.
    have smallest := rounds.nearest _ _ (parts?_ofWord (decide (q < 0)) 0
      (by decide : 1 < 2 ^ 53) (.inl rfl) (by decide))
    have step : (0 : ℚ) < 2 ^ (-1074 : Int) := zpow_pos (by norm_num) _
    rw [value none, sub_zero] at smallest
    simp only [Parts.value, Nat.cast_one, one_mul, Nat.cast_zero, zero_sub] at smallest
    generalize (2 : ℚ) ^ (-1074 : Int) = least at large smallest step
    rcases lt_or_gt_of_ne some_ with below | above
    · rw [signed, decide_eq_true below, if_pos rfl, abs_of_neg below, sub_neg_eq_add] at smallest
      rw [abs_of_neg below] at large
      rw [abs_of_nonpos (by linarith)] at smallest
      linarith
    · rw [signed, decide_eq_false above.not_gt, if_neg Bool.false_ne_true, abs_of_pos above] at smallest
      rw [abs_of_pos above] at large
      rw [abs_of_nonneg (by linarith)] at smallest
      linarith
  · rintro rfl
    have zero := rounds.nearest _ _ (parts?_ofWord false 0
      (by decide : 0 < 2 ^ 53) (.inl rfl) (by decide))
    simp only [Parts.value, signed, Nat.cast_zero, zero_mul, if_neg Bool.false_ne_true, sub_zero,
      abs_zero, zero_sub, abs_neg, abs_nonpos_iff] at zero
    have unit : (2 : ℚ) ^ p.exponent ≠ 0 := zpow_ne_zero _ (by norm_num)
    split at zero <;> simpa [unit] using zero

/-- The rounded float is on the same side of zero. -/
theorem CorrectlyRounded.zero_lt_iff {q : ℚ} {x : Float} (rounded : CorrectlyRounded q x)
    (visible : q ≠ 0 → 2 ^ (-1074 : Int) ≤ |q|) : 0 < x ↔ 0 < q := by
  obtain ⟨p, finite, rounds⟩ := rounded
  have plus : p.negative = false ↔ 0 ≤ q := by
    rw [← not_lt, ← rounds.sign, Bool.not_eq_true]
  rw [Binary64.zero_lt_iff finite, plus, ne_eq, rounds.significand_eq_zero_iff visible]
  exact ⟨fun side => side.1.lt_of_ne' side.2, fun above => ⟨above.le, above.ne'⟩⟩

theorem CorrectlyRounded.beq_zero_iff {q : ℚ} {x : Float} (rounded : CorrectlyRounded q x)
    (visible : q ≠ 0 → 2 ^ (-1074 : Int) ≤ |q|) : (x == 0) = true ↔ q = 0 := by
  obtain ⟨p, finite, rounds⟩ := rounded
  rw [Binary64.beq_zero_iff finite, rounds.significand_eq_zero_iff visible]

theorem CorrectlyRounded.isNaN_eq_false {q : ℚ} {x : Float} (rounded : CorrectlyRounded q x) :
    x.isNaN = false := by
  obtain ⟨p, finite, -⟩ := rounded
  exact Binary64.isNaN_eq_false finite

end FlightStream.Binary64
