import FlightStream.Number.Binary64
import Mathlib

/-!
Floats by their parts. A word that is no infinity and no NaN is kept as it is, so the parts of a
float that was put together from a word are those of the word (`parts?_ofWord`); and what a finite
float unpacks to is fixed by its parts (`unpack_eq`), so that they decide how it compares with zero.
-/

namespace FlightStream.Binary64

open Float.Model (Format UnpackedFloat)
open Float.Model.UnpackedFloat (Sign unpack unpackMantissa unpackExponent unpackSign isNaNBits)

/-! ## The fields of a word -/

theorem unpackMantissa_toNat (word : BitVec 64) :
    (@unpackMantissa .binary64 word).toNat = word.toNat % exponentUnit := by
  rw [Float.Model.UnpackedFloat.unpackMantissa_def]
  simp [BitVec.extractLsb'_toNat, exponentUnit]

theorem unpackExponent_toNat (word : BitVec 64) :
    (@unpackExponent .binary64 word).toNat = word.toNat / exponentUnit % 2048 := by
  rw [Float.Model.UnpackedFloat.unpackExponent_def]
  simp [BitVec.extractLsb'_toNat, exponentUnit, Nat.shiftRight_eq_div_pow]

/-- The sign that a sign bit stands for. -/
def signOf (negative : Bool) : Sign := if negative then .negative else .positive

theorem unpackSign_eq (word : BitVec 64) :
    Sign.ofBitVec (@unpackSign .binary64 word) =
      signOf (decide (signUnit ≤ word.toNat)) := by
  have size := word.isLt
  have bit : (@unpackSign .binary64 word).toNat = word.toNat / signUnit := by
    rw [Float.Model.UnpackedFloat.unpackSign_def]
    simp only [BitVec.extractLsb'_toNat, Nat.shiftRight_eq_div_pow]
    simp [signUnit]
    omega
  have zero : @unpackSign .binary64 word = 0#1 ↔ ¬ signUnit ≤ word.toNat := by
    rw [← BitVec.toNat_inj, bit]
    simp [signUnit, Nat.div_eq_zero_iff]
  by_cases negative : signUnit ≤ word.toNat
  · rw [Sign.ofBitVec, if_neg (fun bit => zero.mp bit negative), decide_eq_true negative]
    rfl
  · rw [Sign.ofBitVec, if_pos (zero.mpr negative), decide_eq_false negative]
    rfl

theorem unpackExponent_ne {word : BitVec 64} (finite : word.toNat / exponentUnit % 2048 ≠ 2047) :
    @unpackExponent .binary64 word ≠ -1#_ := by
  intro full
  have field := congrArg BitVec.toNat full
  rw [unpackExponent_toNat] at field
  exact finite field

/-- A float keeps the word that it was made of, unless that is the word of a NaN. -/
theorem toBits_ofBits {word : UInt64} (finite : word.toNat / exponentUnit % 2048 ≠ 2047) :
    (Float.ofBits word).toBits = word := by
  have number : @isNaNBits .binary64 word.toBitVec = false :=
    decide_eq_false fun nan => unpackExponent_ne finite nan.1
  have packed := @Float.Model.UnpackedFloat.pack_unpack .binary64 word.toBitVec (by decide)
  rw [number, if_neg Bool.false_ne_true] at packed
  exact UInt64.toBitVec_inj.mp packed

/-! ## The parts of a float -/

/-- The parts of a finite float are digits of 53 bits over one of the units of floats. -/
theorem parts?_bounds {x : Float} {p : Parts} (finite : parts? x = some p) :
    p.significand < 2 ^ 53 ∧ -1074 ≤ p.exponent := by
  have fraction := Nat.mod_lt x.toBits.toNat (by decide : 0 < exponentUnit)
  have unit : exponentUnit + exponentUnit = 2 ^ 53 := by decide
  unfold parts? Parts.ofWord? at finite
  simp only at finite
  split at finite
  · cases finite
  · split at finite <;> cases finite <;> constructor <;> simp only <;> omega

/-- A number over a unit, taken apart at the unit. -/
theorem div_mod_exponentUnit (whole : Nat) {rest : Nat} (small : rest < exponentUnit) :
    (whole * exponentUnit + rest) / exponentUnit = whole ∧
      (whole * exponentUnit + rest) % exponentUnit = rest := by
  constructor
  · rw [Nat.mul_comm, Nat.mul_add_div (by decide), Nat.div_eq_of_lt small, Nat.add_zero]
  · rw [Nat.mul_comm, Nat.mul_add_mod, Nat.mod_eq_of_lt small]

/-- The parts of a float that was put together from a sign and the two fields of a magnitude. -/
theorem parts?_ofFields (negative : Bool) {field fraction : Nat} (number : field < 2047)
    (small : fraction < exponentUnit) :
    parts? (ofWord negative (field * exponentUnit + fraction)) =
      some (if field = 0 then ⟨negative, fraction, -1074⟩
        else ⟨negative, exponentUnit + fraction, (field : Int) - 1075⟩) := by
  have signs : signUnit = 2048 * exponentUnit := by decide
  obtain ⟨bit, low, sign⟩ : ∃ bit, bit ≤ 1 ∧ (1 ≤ bit ↔ negative = true) ∧
      (if negative then signUnit + (field * exponentUnit + fraction)
        else field * exponentUnit + fraction) = (2048 * bit + field) * exponentUnit + fraction := by
    cases negative
    · exact ⟨0, by decide, by decide, by simp⟩
    · exact ⟨1, by decide, by decide, by rw [if_pos rfl, signs]; ring⟩
  obtain ⟨sign, written⟩ := sign
  obtain ⟨high, rest⟩ := div_mod_exponentUnit (2048 * bit + field) small
  generalize (2048 * bit + field) * exponentUnit + fraction = word at written high rest
  have whole := Nat.div_add_mod word exponentUnit
  have unit : exponentUnit = 2 ^ 52 := by decide
  have fits : word < 2 ^ 64 := by
    rw [high, rest, unit] at whole
    omega
  have kept : (UInt64.ofNat word).toNat = word := UInt64.toNat_ofNat_of_lt fits
  have exponent : word / exponentUnit % 2048 = field := by omega
  have finite : field ≠ 2047 := by omega
  have bits : (ofWord negative (field * exponentUnit + fraction)).toBits.toNat = word := by
    rw [ofWord, written, toBits_ofBits (by rwa [kept, exponent]), kept]
  have signed : decide (signUnit ≤ word) = negative := by
    rw [Bool.eq_iff_iff, decide_eq_true_iff, ← sign, signs, ← Nat.le_div_iff_mul_le (by decide), high]
    omega
  rw [parts?, bits]
  unfold Parts.ofWord?
  simp only [signed, exponent, rest, if_neg finite]
  split <;> rfl

/-- The parts of a float that was put together from a sign, an exponent and digits. -/
theorem parts?_ofWord (negative : Bool) (exponent : Nat) {digits : Nat} (below : digits < 2 ^ 53)
    (normal : exponent = 0 ∨ exponentUnit ≤ digits)
    (range : exponent * exponentUnit + digits < infinityWord) :
    parts? (ofWord negative (exponent * exponentUnit + digits)) =
      some ⟨negative, digits, (exponent : Int) - 1074⟩ := by
  have unit : 2 ^ 53 = exponentUnit + exponentUnit := by decide
  rcases Nat.lt_or_ge digits exponentUnit with subnormal | full
  · obtain rfl : exponent = 0 := normal.resolve_right (Nat.not_le.mpr subnormal)
    rw [parts?_ofFields negative (by decide) subnormal]
    rfl
  · -- The leading digit is counted in the field of the exponent.
    obtain ⟨rest, rfl⟩ := Nat.exists_eq_add_of_le full
    have written : exponent * exponentUnit + (exponentUnit + rest) =
        (exponent + 1) * exponentUnit + rest := by ring
    have number : exponent + 1 < 2047 := by
      rw [written, infinityWord] at range
      exact lt_of_mul_lt_mul_right (Nat.lt_of_add_right_lt range) (Nat.zero_le _)
    rw [written, parts?_ofFields negative number (by omega), if_neg (Nat.succ_ne_zero _)]
    push_cast
    congr 2
    omega

/-! ## Comparing with zero -/

/-- What a finite float unpacks to. -/
theorem unpack_eq {x : Float} {p : Parts} (finite : parts? x = some p) :
    x.toModel.unpack =
      if some_ : 0 < p.significand then .finite (signOf p.negative) p.significand p.exponent some_
      else .zero (signOf p.negative) := by
  have word : unpack Format.binary64 x.toBits.toBitVec = x.toModel.unpack := rfl
  have fraction := unpackMantissa_toNat x.toBits.toBitVec
  have field := unpackExponent_toNat x.toBits.toBitVec
  simp only [UInt64.toNat_toBitVec] at fraction field
  have zeroFraction : @unpackMantissa .binary64 x.toBits.toBitVec = 0#52 ↔
      x.toBits.toNat % exponentUnit = 0 := by
    rw [← BitVec.toNat_inj, fraction]
    rfl
  have zeroField : @unpackExponent .binary64 x.toBits.toBitVec = 0#11 ↔
      x.toBits.toNat / exponentUnit % 2048 = 0 := by
    rw [← BitVec.toNat_inj, field]
    rfl
  unfold parts? Parts.ofWord? at finite
  rw [← word]
  unfold Float.Model.UnpackedFloat.unpack
  simp only [unpackSign_eq, UInt64.toNat_toBitVec] at finite ⊢
  split at finite
  · cases finite
  · rename_i number
    rw [if_neg (unpackExponent_ne number)]
    split at finite
    · rename_i subnormal
      cases finite
      rw [if_pos (zeroField.mpr subnormal)]
      by_cases none : x.toBits.toNat % exponentUnit = 0
      · rw [dif_pos (zeroFraction.mpr none), dif_neg (Nat.not_lt.mpr none.le)]
      · rw [dif_neg (mt zeroFraction.mp none), dif_pos (Nat.pos_of_ne_zero none)]
        congr 1
        rw [field, subnormal]
        rfl
    · rename_i normal
      cases finite
      rw [if_neg (mt zeroField.mp normal), dif_pos (by simp [exponentUnit])]
      congr 1
      · rw [BitVec.toNat_append, ← Nat.shiftLeft_add_eq_or_of_lt (BitVec.isLt _), fraction]
        rfl
      · rw [field]
        rfl

theorem isNaN_eq_false {x : Float} {p : Parts} (finite : parts? x = some p) : x.isNaN = false := by
  have unpacked : x.isNaN = x.toModel.unpack.isNaN := rfl
  rw [unpacked, unpack_eq finite]
  split <;> rfl

/-- A finite float is above zero exactly if it has digits and no minus sign. -/
theorem zero_lt_iff {x : Float} {p : Parts} (finite : parts? x = some p) :
    0 < x ↔ p.negative = false ∧ p.significand ≠ 0 := by
  have order : 0 < x ↔ UnpackedFloat.lt (.zero .positive) x.toModel.unpack = true :=
    decide_eq_true_iff
  rw [order, unpack_eq finite]
  rcases Nat.eq_zero_or_pos p.significand with none | some_
  · simp [none, UnpackedFloat.lt, UnpackedFloat.compare]
  · cases p.negative <;>
      simp [some_, some_.ne', signOf, UnpackedFloat.lt, UnpackedFloat.compare]

/-- A finite float equals zero exactly if it has no digits, whatever its sign. -/
theorem beq_zero_iff {x : Float} {p : Parts} (finite : parts? x = some p) :
    (x == 0) = true ↔ p.significand = 0 := by
  have equal : (x == 0) = UnpackedFloat.beq x.toModel.unpack (.zero .positive) := rfl
  rw [equal, unpack_eq finite]
  rcases Nat.eq_zero_or_pos p.significand with none | some_
  · simp [none, UnpackedFloat.beq, UnpackedFloat.compare]
  · cases p.negative <;>
      simp [some_, some_.ne', signOf, UnpackedFloat.beq, UnpackedFloat.compare]

end FlightStream.Binary64
