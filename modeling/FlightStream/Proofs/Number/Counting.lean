import FlightStream.Proofs.Metrics.Counters
import FlightStream.Proofs.Number.Nearest

/-!
Counting by ones in floats. Below `2 ^ 53` each sum of a whole number and one is a float, so a count
that starts at zero is exact that far (`value_counted`).
-/

namespace FlightStream.Binary64

open Float.Model (Format totalExponent UnpackedFloat)
open Float.Model.UnpackedFloat (ExtendedMantissa Accuracy)

/-! ## Whole numbers as floats -/

/-- The digits of a whole number, moved up to 53 places. -/
def wholeDigits (n : Nat) : Nat := n * 2 ^ (52 - n.log2)

/-- The float of a whole number below `2 ^ 53`. -/
def whole (n : Nat) : Float := ofWord false ((n.log2 + 1022) * exponentUnit + wholeDigits n)

variable {n : Nat}

theorem wholeDigits_bounds (some_ : n ≠ 0) (small : n < 2 ^ 53) :
    n.log2 ≤ 52 ∧ 2 ^ 52 ≤ wholeDigits n ∧ wholeDigits n < 2 ^ 53 := by
  have size : n.log2 ≤ 52 := Nat.le_of_lt_succ ((Nat.log2_lt some_).mpr small)
  have split : 2 ^ n.log2 * 2 ^ (52 - n.log2) = 2 ^ 52 := by rw [← Nat.pow_add, Nat.add_sub_of_le size]
  have above := Nat.mul_lt_mul_of_pos_right (Nat.lt_log2_self (n := n))
    (Nat.two_pow_pos (52 - n.log2))
  rw [Nat.pow_succ, Nat.mul_right_comm, split] at above
  refine ⟨size, ?_, above⟩
  rw [← split]
  exact Nat.mul_le_mul_right _ (Nat.log2_self_le some_)

theorem parts?_whole (some_ : n ≠ 0) (small : n < 2 ^ 53) :
    parts? (whole n) = some ⟨false, wholeDigits n, (n.log2 : Int) - 52⟩ := by
  obtain ⟨size, low, high⟩ := wholeDigits_bounds some_ small
  have range : (n.log2 + 1022) * exponentUnit + wholeDigits n < infinityWord := by
    unfold infinityWord exponentUnit
    omega
  have exponent : ((n.log2 + 1022 : Nat) : Int) - 1074 = (n.log2 : Int) - 52 := by omega
  rw [whole, parts?_ofWord false _ high (.inr low) range, exponent]

theorem unpack_whole (some_ : n ≠ 0) (small : n < 2 ^ 53) (pos : 0 < wholeDigits n) :
    (whole n).toModel.unpack = .finite .positive (wholeDigits n) ((n.log2 : Int) - 52) pos := by
  rw [unpack_eq (parts?_whole some_ small), dif_pos pos]
  rfl

/-! ## Adding one -/

/-- Shifting out zeros is exact. -/
theorem shiftRight_exact (a k : Nat) :
    ExtendedMantissa.ofMantissaAndAccuracy (a * 2 ^ k) .exact >>> k =
      ExtendedMantissa.ofMantissaAndAccuracy a .exact := by
  change Nat.repeat ExtendedMantissa.shiftRightOne k _ = _
  induction k generalizing a with
  | zero => rw [Nat.pow_zero, Nat.mul_one]; rfl
  | succ k ih =>
    rw [Nat.repeat, Nat.pow_succ', ← Nat.mul_assoc, ih]
    simp [ExtendedMantissa.shiftRightOne, ExtendedMantissa.ofMantissaAndAccuracy]

/-- Rounding a whole number that is written with 52 binary places keeps it. -/
theorem round_whole (some_ : n ≠ 0) (small : n < 2 ^ 53) (pos : 0 < wholeDigits n) :
    UnpackedFloat.round Format.binary64 .positive (n * 2 ^ 52) (-52) =
      .finite .positive (wholeDigits n) ((n.log2 : Int) - 52) pos := by
  obtain ⟨size, low, high⟩ := wholeDigits_bounds some_ small
  have written : n * 2 ^ 52 = wholeDigits n * 2 ^ n.log2 := by
    rw [wholeDigits, Nat.mul_assoc, ← Nat.pow_add, Nat.sub_add_cancel size]
  have top : (n * 2 ^ 52).log2 = n.log2 + 52 := by
    refine (Nat.log2_eq_iff (Nat.mul_ne_zero some_ (by decide))).mpr ⟨?_, ?_⟩
    · rw [Nat.pow_add]
      exact Nat.mul_le_mul_right _ (Nat.log2_self_le some_)
    · rw [Nat.add_right_comm, Nat.pow_add]
      exact Nat.mul_lt_mul_of_pos_right Nat.lt_log2_self (by decide)
  have digits : (wholeDigits n).log2 = 52 := (Nat.log2_eq_iff pos.ne').mpr ⟨low, high⟩
  have target : Format.binary64.targetExponent (totalExponent (n * 2 ^ 52) (-52)) =
      (n.log2 : Int) - 52 := by
    simp only [Format.targetExponent, totalExponent, top, Format.mantissaBits, Format.minExponent]
    omega
  have settled : Format.binary64.targetExponent
      (totalExponent (wholeDigits n) ((n.log2 : Int) - 52)) = (n.log2 : Int) - 52 := by
    simp only [Format.targetExponent, totalExponent, digits, Format.mantissaBits, Format.minExponent]
    omega
  have kept : UnpackedFloat.decreaseExponent (n * 2 ^ 52) (-52) ((n.log2 : Int) - 52) =
      (n * 2 ^ 52, -52) := by
    have none : (-52 - ((n.log2 : Int) - 52)).toNat = 0 := by omega
    simp [UnpackedFloat.decreaseExponent, none]
  have first : UnpackedFloat.shiftToTargetExponent Format.binary64 (n * 2 ^ 52) (-52) .exact =
      (ExtendedMantissa.ofMantissaAndAccuracy (wholeDigits n) .exact, (n.log2 : Int) - 52) := by
    have places : ((n.log2 : Int) - 52 - -52).toNat = n.log2 := by omega
    rw [UnpackedFloat.shiftToTargetExponent, target]
    simp only [UnpackedFloat.shiftToExponent, places]
    rw [written, shiftRight_exact]
    exact Prod.ext rfl (Int.add_comm _ _)
  have second : UnpackedFloat.shiftToTargetExponent Format.binary64 (wholeDigits n)
      ((n.log2 : Int) - 52) .exact =
        (ExtendedMantissa.ofMantissaAndAccuracy (wholeDigits n) .exact, (n.log2 : Int) - 52) := by
    rw [UnpackedFloat.shiftToTargetExponent, settled]
    simp only [UnpackedFloat.shiftToExponent, Int.sub_self, Int.toNat_zero]
    exact Prod.ext rfl (Int.add_zero _)
  have exact : (ExtendedMantissa.ofMantissaAndAccuracy (wholeDigits n) .exact).roundedMantissa =
      wholeDigits n := rfl
  rw [UnpackedFloat.round, target]
  simp only [kept]
  rw [UnpackedFloat.roundWithAccuracy, first]
  simp only [exact, second]
  exact dif_neg pos.ne'

theorem whole_add_one (some_ : n ≠ 0) (small : n + 1 < 2 ^ 53) :
    whole n + Registry.one = whole (n + 1) := by
  have pos : 0 < wholeDigits n :=
    lt_of_lt_of_le (by decide) (wholeDigits_bounds some_ (Nat.lt_of_succ_lt small)).2.1
  have next : 0 < wholeDigits (n + 1) :=
    lt_of_lt_of_le (by decide) (wholeDigits_bounds n.succ_ne_zero small).2.1
  have size := (wholeDigits_bounds some_ (Nat.lt_of_succ_lt small)).1
  have one : Registry.one.toModel.unpack = .finite .positive (2 ^ 52) (-52) (by decide) := rfl
  have places : ((n.log2 : Int) - 52 - -52).toNat = n.log2 := by omega
  have lowered : min ((n.log2 : Int) - 52) (-52) = -52 := min_eq_right (by omega)
  have written : wholeDigits n * 2 ^ n.log2 = n * 2 ^ 52 := by
    rw [wholeDigits, Nat.mul_assoc, ← Nat.pow_add, Nat.sub_add_cancel size]
  have sum : UnpackedFloat.add Format.binary64 (whole n).toModel.unpack Registry.one.toModel.unpack =
      (whole (n + 1)).toModel.unpack := by
    rw [unpack_whole some_ (Nat.lt_of_succ_lt small) pos, one, unpack_whole n.succ_ne_zero small next,
      ← round_whole n.succ_ne_zero small next]
    simp only [UnpackedFloat.add, lowered, UnpackedFloat.decreaseExponent, places, Nat.shiftLeft_eq,
      written, UnpackedFloat.Sign.apply]
    have added : ((n * 2 ^ 52 : Nat) : Int) + ((2 ^ 52 * 2 ^ ((-52 : Int) - -52).toNat : Nat) : Int) =
        ((n.succ * 2 ^ 52 : Nat) : Int) := by
      push_cast
      ring
    have positive : compare ((n.succ * 2 ^ 52 : Nat) : Int) 0 = .gt :=
      Int.compare_eq_gt.mpr (by positivity)
    rw [added, UnpackedFloat.normalize, positive]
    rfl
  have packed := Float.Model.UnpackedFloat.pack_unpack_of_valid (whole (n + 1)).toModel.valid
  rw [← Float.toBits_inj, ← UInt64.toBitVec_inj]
  refine Eq.trans ?_ packed
  exact congrArg (UnpackedFloat.pack Format.binary64) sum

/-! ## Counts -/

/-- A count of ones, from zero on. -/
def counted (times : Nat) : Float := (· + Registry.one)^[times] 0

theorem counted_eq (some_ : n ≠ 0) (small : n < 2 ^ 53) : counted n = whole n := by
  induction n with
  | zero => exact absurd rfl some_
  | succ before ih =>
    have next : counted (before + 1) = counted before + Registry.one :=
      Function.iterate_succ_apply' _ _ _
    rcases Nat.eq_zero_or_pos before with rfl | earlier
    · rw [next]
      decide +kernel
    · rw [next, ih earlier.ne' (Nat.lt_of_succ_lt small), whole_add_one earlier.ne' small]

/-- A count below `2 ^ 53` stands for the number of times. -/
theorem value_counted (small : n < 2 ^ 53) : ∃ p, parts? (counted n) = some p ∧ p.value = n := by
  rcases Nat.eq_zero_or_pos n with rfl | some_
  · exact ⟨⟨false, 0, -1074⟩, by decide +kernel, by simp [Parts.value, signed]⟩
  · refine ⟨_, by rw [counted_eq some_.ne' small, parts?_whole some_.ne' small], ?_⟩
    have size := (wholeDigits_bounds some_.ne' small).1
    have exponent : ((n.log2 : Int) - 52) = -((52 - n.log2 : Nat) : Int) := by omega
    rw [Parts.value, signed, if_neg Bool.false_ne_true, exponent, zpow_neg, zpow_natCast]
    simp only [wholeDigits]
    push_cast
    exact mul_inv_cancel_right₀ (by positivity) _

end FlightStream.Binary64
