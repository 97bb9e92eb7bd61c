import FlightStream.Number

/-!
Decimal text of numbers. A float is written with the fewest digits that read back as the same
float; of several such decimals the one nearest to the float is taken, a tie going to the even
last digit. The search goes through the grids of 1, 2, … 17 digits and looks, on each, only at
the two grid points around the float.
-/

namespace FlightStream

/-- The number `coefficient * 10 ^ exponent`. -/
structure Decimal where
  coefficient : Nat
  exponent : Int
  deriving DecidableEq, Repr

namespace Decimal

/-- The decimal as a quotient of natural numbers. -/
def ratio (x : Decimal) : Nat × Nat :=
  (x.coefficient * Nat.pow 10 x.exponent.toNat, Nat.pow 10 (-x.exponent).toNat)

/-- The word of the float nearest to the decimal. -/
def word (x : Decimal) : Nat := Binary64.magnitudeWord x.ratio.1 x.ratio.2

/-- The float nearest to the decimal under a sign, infinite beyond the greatest float. A
decimal far beyond the range of floats is decided by its order of magnitude alone, which the
count of the coefficient's digits gives. -/
def toFloat (negative : Bool) (x : Decimal) (digits : Nat) : Float :=
  if x.coefficient = 0 ∨ x.exponent + digits < -400 then Binary64.ofWord negative 0
  else if 400 < x.exponent + digits then Binary64.ofWord negative Binary64.infinityWord
  else Binary64.ofRatio negative x.ratio.1 x.ratio.2

/-- The number of decimal digits of a natural number. -/
def digitCount (n : Nat) : Nat := (Nat.toDigits 10 n).length

/-- The integer `k` with `10 ^ (k - 1) ≤ num / den < 10 ^ k`, for a positive quotient. -/
def magnitude (num den : Nat) : Int :=
  if den ≤ num then digitCount (num / den)
  else 1 - (digitCount ((den - 1) / num) : Int)

/-- The quotient `num / den` in units of `10 ^ exponent`. -/
def inUnits (num den : Nat) (exponent : Int) : Nat × Nat :=
  (num * Nat.pow 10 (-exponent).toNat, den * Nat.pow 10 exponent.toNat)

/-- The decimal on the grid of an exponent that reads back as the word, the nearer of the two
around `num / den` if both do. -/
def onGrid? (word num den : Nat) (exponent : Int) : Option Decimal :=
  let (n, d) := inUnits num den exponent
  let below : Decimal := ⟨n / d, exponent⟩
  let above : Decimal := ⟨n / d + 1, exponent⟩
  if below.word = word then
    if above.word = word then some ⟨Binary64.roundHalfEven n d, exponent⟩ else some below
  else if above.word = word then some above
  else none

/-- The shortest decimal for the magnitude word of the positive float `num / den`. -/
def shortest (word num den : Nat) : Decimal :=
  let top := magnitude num den
  let grids := (List.range 17).map fun (i : Nat) => top - (i : Int) - 1
  (grids.findSome? (onGrid? word num den)).getD ⟨Binary64.roundHalfEven num den, 0⟩

end Decimal

/-- A positive decimal as its digits without leading and trailing zeros, and the place of the
point: the value is `0.d₁d₂… * 10 ^ point`. -/
structure Digits where
  digits : List Char
  point : Int
  deriving DecidableEq, Repr

namespace Digits

/-- The digits of a decimal. -/
def ofDecimal (x : Decimal) : Digits :=
  let all := Nat.toDigits 10 x.coefficient
  ⟨(all.reverse.dropWhile (· == '0')).reverse, all.length + x.exponent⟩

/-- The digits of the shortest decimal of a positive finite float. -/
def ofParts (word : Nat) (p : Binary64.Parts) : Digits :=
  ofDecimal (Decimal.shortest (word % Binary64.signUnit) p.ratio.1 p.ratio.2)

/-- At least two digits of an exponent, after its sign. -/
def exponentText (e : Int) : List Char :=
  let body := Nat.toDigits 10 e.natAbs
  (if e < 0 then '-' else '+') :: (if body.length < 2 then '0' :: body else body)

/-- With a point and, if need be, zeros up to it. -/
def positional (x : Digits) : List Char :=
  if x.point ≤ 0 then '0' :: '.' :: List.replicate (-x.point).toNat '0' ++ x.digits
  else
    let whole := x.point.toNat
    if x.digits.length ≤ whole then
      x.digits ++ List.replicate (whole - x.digits.length) '0' ++ ['.', '0']
    else x.digits.take whole ++ '.' :: x.digits.drop whole

/-- With one digit before the point and a power of ten. -/
def scientific (x : Digits) : List Char :=
  match x.digits with
  | [] => ['0']
  | [d] => d :: 'e' :: exponentText (x.point - 1)
  | d :: rest => d :: '.' :: rest ++ 'e' :: exponentText (x.point - 1)

/-- Positional from `10 ^ -4` up to `10 ^ 16`, with a power of ten elsewhere. -/
def text (x : Digits) : List Char :=
  if -4 < x.point ∧ x.point ≤ 16 then x.positional else x.scientific

end Digits

/-- The text of a float's magnitude and sign, from its finite parts. -/
def floatText (x : Float) (finite : Binary64.Parts → List Char) : String :=
  match Binary64.parts? x with
  | some p => String.ofList (if p.negative then '-' :: finite p else finite p)
  | none => if x.isNaN then "nan" else if Binary64.isNegative x then "-inf" else "inf"

/-- The text of a float: the fewest digits that read back, always with a point or a power. -/
def shortestText (x : Float) : String :=
  floatText x fun p =>
    if p.significand = 0 then ['0', '.', '0'] else (Digits.ofParts x.toBits.toNat p).text

/-- The text of a number. -/
def Number.text : Number → String
  | .int i => toString i
  | .float x => shortestText x
  | .minusNan => "nan"

end FlightStream
