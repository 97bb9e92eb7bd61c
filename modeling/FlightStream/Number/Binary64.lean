/-!
Binary floating point of 64 bits, seen as exact rationals. `parts?` takes a word apart, and
`ofRatio?` rounds a quotient of natural numbers to the nearest float, ties to the even
neighbour. Rounding happens in one place (`roundHalfEven`) and once per result.
-/

namespace FlightStream.Binary64

/-! ## Taking a word apart -/

/-- The weight of a word's lowest exponent bit, `2 ^ 52`: the significand is below it. -/
def exponentUnit : Nat := 0x10000000000000

/-- The weight of a word's sign, `2 ^ 63`. -/
def signUnit : Nat := 0x8000000000000000

/-- A finite float: its sign and its magnitude `significand * 2 ^ exponent`. -/
structure Parts where
  negative : Bool
  significand : Nat
  exponent : Int
  deriving DecidableEq, Repr

/-- The sign and the exact magnitude of a word; infinities and NaN have none. -/
def Parts.ofWord? (word : Nat) : Option Parts :=
  let field : Nat := word / exponentUnit % 2048
  let fraction : Nat := word % exponentUnit
  let negative := decide (signUnit ≤ word)
  if field = 2047 then none
  else if field = 0 then some ⟨negative, fraction, -1074⟩
  else some ⟨negative, exponentUnit + fraction, (field : Int) - 1075⟩

/-- The sign and the exact magnitude of a finite float. -/
def parts? (x : Float) : Option Parts := Parts.ofWord? x.toBits.toNat

/-- Whether the sign bit is set, also of a zero, an infinity or NaN. -/
def isNegative (x : Float) : Bool := decide (signUnit ≤ x.toBits.toNat)

/-! ## Rounding a quotient -/

/-- The natural number nearest to `num / den`, a tie going to the even one. -/
def roundHalfEven (num den : Nat) : Nat :=
  let floor := num / den
  let rest := 2 * (num % den)
  if rest < den then floor
  else if den < rest then floor + 1
  else floor + floor % 2

/-- The quotient `num / den` in units of `2 ^ e`, again as a quotient. -/
def scaled (num den : Nat) (e : Int) : Nat × Nat :=
  (num * Nat.pow 2 (-e).toNat, den * Nat.pow 2 e.toNat)

/-- The exponent of the unit in which `num / den` has 53 binary digits, but never below that
of the smallest subnormal. -/
def unitExponent (num den : Nat) : Int :=
  let guess : Int := (num.log2 : Int) - (den.log2 : Int) - 52
  let (n, d) := scaled num den guess
  max (-1074) (if n < exponentUnit * d then guess - 1 else guess)

/-- The word of the float nearest to `num / den`, a tie going to the even neighbour. A
magnitude beyond the greatest float gives a word at or above `infinityWord`. -/
def magnitudeWord (num den : Nat) : Nat :=
  if num = 0 then 0
  else
    let e := unitExponent num den
    let (n, d) := scaled num den e
    (e + 1074).toNat * exponentUnit + roundHalfEven n d

/-- The least word that is no finite magnitude. -/
def infinityWord : Nat := 2047 * exponentUnit

/-- The float with this sign and magnitude word. -/
def ofWord (negative : Bool) (magnitude : Nat) : Float :=
  Float.ofBits (UInt64.ofNat (if negative then signUnit + magnitude else magnitude))

/-- The float nearest to `± num / den`; none if that is beyond the greatest float. -/
def ofRatio? (negative : Bool) (num den : Nat) : Option Float :=
  let word := magnitudeWord num den
  if word < infinityWord then some (ofWord negative word) else none

/-- The float nearest to `± num / den`, infinite beyond the greatest float. -/
def ofRatio (negative : Bool) (num den : Nat) : Float :=
  ofWord negative (min (magnitudeWord num den) infinityWord)

/-- The float nearest to an integer; none if that is beyond the greatest float. -/
def ofInt? (i : Int) : Option Float := ofRatio? (decide (i < 0)) i.natAbs 1

/-- Positive infinity. -/
def infinity : Float := ofWord false infinityWord

/-- Negative infinity. -/
def negInfinity : Float := ofWord true infinityWord

/-- The quiet NaN. -/
def nan : Float := Float.ofBits 0x7ff8000000000000

/-! ## Whole parts -/

/-- The magnitude of a finite float as a quotient. -/
def Parts.ratio (p : Parts) : Nat × Nat := scaled p.significand 1 (-p.exponent)

/-- The whole number toward zero from a finite float. -/
def Parts.truncate (p : Parts) : Int :=
  let (n, d) := p.ratio
  let whole : Int := ((n / d : Nat) : Int)
  if p.negative then -whole else whole

/-- Whether a finite float is a whole number. -/
def Parts.isWhole (p : Parts) : Bool :=
  let (n, d) := p.ratio
  n % d == 0

example : ofRatio? false 1 3 = some (Float.ofBits 0x3fd5555555555555) := by decide
example : ofInt? (2 ^ 53 + 1) = some (Float.ofBits 0x4340000000000000) := by decide +kernel
example : ofInt? (2 ^ 1024) = none := by decide +kernel
example : (parts? (Float.ofBits 0xbff8000000000000)).map Parts.truncate = some (-1) := by
  decide +kernel

end FlightStream.Binary64
