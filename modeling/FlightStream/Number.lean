import FlightStream.Fault
import FlightStream.Number.Binary64

/-!
Numbers as records carry them: whole numbers of any size, or floats. Whole numbers stay exact
as long as they meet only whole numbers; a whole number that meets a float in arithmetic is
rounded to a float first. Comparison is by exact value, so it never rounds, and a NaN is
neither below, nor above, nor equal to anything. A NaN that was written with a minus sign keeps
it, since the sign is seen again when the number is written in bytes.
-/

namespace FlightStream

/-- A whole number of any size, or a float. -/
inductive Number
  | int (value : Int)
  | float (value : Float)
  | minusNan

namespace Number

instance : Inhabited Number := ⟨int 0⟩

instance (n : Nat) : OfNat Number n := ⟨int n⟩

instance : Coe Int Number := ⟨int⟩

/-- Below every other number. -/
def negInfinity : Number := float Binary64.negInfinity

/-- Above every other number. -/
def infinity : Number := float Binary64.infinity

/-! ## Order -/

/-- The exact value of a number that is not NaN: an infinity, or `mantissa * 2 ^ exponent`. -/
inductive Exact
  | negInfinity
  | finite (mantissa exponent : Int)
  | infinity
  deriving DecidableEq, Repr

/-- The exact value of a float; NaN has none. -/
def exactFloat? (x : Float) : Option Exact :=
  match Binary64.parts? x with
  | some p =>
    some (.finite (if p.negative then -(p.significand : Int) else p.significand) p.exponent)
  | none =>
    if x.isNaN then none
    else if Binary64.isNegative x then some .negInfinity
    else some .infinity

/-- The exact value of a number; NaN has none. -/
def toExact? : Number → Option Exact
  | int i => some (.finite i 0)
  | float x => exactFloat? x
  | minusNan => none

/-- Compares `m * 2 ^ e` with `n * 2 ^ f` over the smaller of the two exponents. -/
def compareScaled (m e n f : Int) : Ordering :=
  compare (m * Nat.pow 2 (e - min e f).toNat) (n * Nat.pow 2 (f - min e f).toNat)

/-- The order of exact values. -/
def Exact.compare : Exact → Exact → Ordering
  | negInfinity, negInfinity => .eq
  | negInfinity, _ => .lt
  | _, negInfinity => .gt
  | infinity, infinity => .eq
  | infinity, _ => .gt
  | _, infinity => .lt
  | finite m e, finite n f => compareScaled m e n f

/-- How two numbers compare by exact value; nothing compares with NaN. -/
def compare? (a b : Number) : Option Ordering :=
  match a.toExact?, b.toExact? with
  | some x, some y => some (x.compare y)
  | _, _ => none

/-- Strictly below, by exact value. -/
def lt (a b : Number) : Bool := a.compare? b == some .lt

/-- Below or equal, by exact value. -/
def le (a b : Number) : Bool :=
  match a.compare? b with
  | some .lt | some .eq => true
  | _ => false

/-- Equal, by exact value: `1` and `1.0` are equal, and so are the two zeros. -/
def eqv (a b : Number) : Bool := a.compare? b == some .eq

/-- The later of a known bound and a new one; the new one wins unless the known is above. -/
def later (new known : Number) : Number := if new.lt known then known else new

/-- The smaller of two numbers, the first unless the second is below it. -/
def earlier (first second : Number) : Number := if second.lt first then second else first

/-! ## Conversion -/

/-- The nearest float. -/
def toFloat : Number → Except Fault Float
  | int i =>
    match Binary64.ofInt? i with
    | some x => .ok x
    | none => .error .integerTooLarge
  | float x => .ok x
  | minusNan => .ok Binary64.nan

/-- The whole number toward zero. -/
def truncate : Number → Except Fault Int
  | int i => .ok i
  | float x =>
    match Binary64.parts? x with
    | some p => .ok p.truncate
    | none => .error (if x.isNaN then .nanToInteger else .infinityToInteger)
  | minusNan => .error .nanToInteger

/-- Whether a number is a multiple of two; infinities and NaN are not. -/
def isEven : Number → Bool
  | int i => i % 2 == 0
  | float x =>
    match Binary64.parts? x with
    | some p => p.isWhole && p.truncate % 2 == 0
    | none => false
  | minusNan => false

/-- Whether a number is a NaN with a minus sign. -/
def isMinusNan : Number → Bool
  | minusNan => true
  | _ => false

/-- Whether a number is a float that is infinite or NaN. -/
def isUnbounded : Number → Bool
  | int _ => false
  | float x => (Binary64.parts? x).isNone
  | minusNan => true

/-! ## Arithmetic -/

/-- Applies the exact operation to two whole numbers, and otherwise the float operation to
the two nearest floats. -/
def combine (exact : Int → Int → Int) (rounded : Float → Float → Float) :
    Number → Number → Except Fault Number
  | int a, int b => .ok (int (exact a b))
  | a, b => do
    let x ← a.toFloat
    let y ← b.toFloat
    return float (rounded x y)

/-- Addition. -/
def add : Number → Number → Except Fault Number := combine (· + ·) (· + ·)

/-- Subtraction. -/
def sub : Number → Number → Except Fault Number := combine (· - ·) (· - ·)

/-- Multiplication. -/
def mul : Number → Number → Except Fault Number := combine (· * ·) (· * ·)

/-- Negation. -/
def neg : Number → Number
  | int a => int (-a)
  | float x => float (-x)
  | minusNan => float Binary64.nan

/-- The float nearest to the quotient of two whole numbers. -/
def divInt (a b : Int) : Except Fault Float :=
  if b = 0 then .error .divisionByZero
  else
    match Binary64.ofRatio? (decide (a < 0) != decide (b < 0)) a.natAbs b.natAbs with
    | some x => .ok x
    | none => .error .quotientTooLarge

/-- Division, always into a float. -/
def div : Number → Number → Except Fault Float
  | int a, int b => divInt a b
  | a, b => do
    let x ← a.toFloat
    let y ← b.toFloat
    if y == 0 then throw .floatDivisionByZero
    return x / y

/-- Adds a whole number to a number. -/
def addInt (a : Number) (b : Int) : Except Fault Number := a.add (int b)

/-- Subtracts a whole number from a number. -/
def subInt (a : Number) (b : Int) : Except Fault Number := a.sub (int b)

/-! ## Laws of whole numbers -/

@[simp] theorem add_int (a b : Int) : add (int a) (int b) = .ok (int (a + b)) := rfl

@[simp] theorem sub_int (a b : Int) : sub (int a) (int b) = .ok (int (a - b)) := rfl

@[simp] theorem mul_int (a b : Int) : mul (int a) (int b) = .ok (int (a * b)) := rfl

theorem compare?_int (a b : Int) : compare? (int a) (int b) = some (compare a b) := by
  simp [compare?, toExact?, Exact.compare, compareScaled]

theorem lt_int_iff (a b : Int) : lt (int a) (int b) = true ↔ a < b := by
  simp [lt, compare?_int, Int.compare_eq_lt]

theorem eqv_int_iff (a b : Int) : eqv (int a) (int b) = true ↔ a = b := by
  simp [eqv, compare?_int]

end Number

end FlightStream
