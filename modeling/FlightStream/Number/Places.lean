import FlightStream.Number.Shortest

/-!
Decimal text of floats with a given precision: with so many digits after the point, with so many
digits after the first one and a power of ten, or with so many digits in all, where the size of
the number decides between the two. The exact value is rounded once, a half going to the even
digit.
-/

namespace FlightStream

/-- The three ways to give a float with a precision. -/
inductive PlacesForm
  | fixed | power | general
  deriving DecidableEq, Repr

namespace Places

/-- The digits of a number, with leading zeros up to a width. -/
def digitsOf (width n : Nat) : List Char :=
  let ds := Nat.toDigits 10 n
  List.replicate (width - ds.length) '0' ++ ds

/-- Digits with a point before the last `places` of them. A point at the end is left out unless
it is asked for. -/
def pointed (places : Nat) (keepPoint : Bool) (ds : List Char) : List Char :=
  let whole := ds.length - places
  if places = 0 ∧ !keepPoint then ds else ds.take whole ++ '.' :: ds.drop whole

/-- A magnitude with so many digits after the point. -/
def fixed (places : Nat) (keepPoint : Bool) (p : Binary64.Parts) : List Char :=
  let (n, d) := p.ratio
  pointed places keepPoint
    (digitsOf (places + 1) (Binary64.roundHalfEven (n * Nat.pow 10 places) d))

/-- A magnitude rounded to one digit and so many more: these digits as a number, and the power of
ten of the first. -/
def leading (places : Nat) (p : Binary64.Parts) : Nat × Int :=
  let (n, d) := p.ratio
  if n = 0 then (0, 0)
  else
    let top := Decimal.magnitude n d - 1
    let (n, d) := Decimal.inUnits n d (top - (places : Int))
    let rounded := Binary64.roundHalfEven n d
    if rounded < Nat.pow 10 (places + 1) then (rounded, top) else (rounded / 10, top + 1)

/-- Digits with a point after the first, and a power of ten. -/
def withPower (places : Nat) (keepPoint : Bool) (ds : List Char) (top : Int) : List Char :=
  pointed places keepPoint ds ++ 'e' :: Digits.exponentText top

/-- A magnitude with so many digits after the first one, and a power of ten. -/
def power (places : Nat) (keepPoint : Bool) (p : Binary64.Parts) : List Char :=
  let (n, top) := leading places p
  withPower places keepPoint (digitsOf (places + 1) n) top

/-- Digits without zeros at the end, and the places after the point that are left. -/
def dropZeros (places : Nat) (ds : List Char) : List Char × Nat :=
  let zeros := min places (ds.reverse.takeWhile (· == '0')).length
  (ds.take (ds.length - zeros), places - zeros)

/-- A magnitude with so many digits in all: positional from `10 ^ -4` up to the power of ten that
the digits reach, with a power of ten elsewhere. Zeros at the end are left out unless the point
is kept. -/
def general (count : Nat) (keepPoint : Bool) (p : Binary64.Parts) : List Char :=
  let count := max 1 count
  let (n, top) := leading (count - 1) p
  let ds := digitsOf count n
  let trimmed (places : Nat) (ds : List Char) : List Char × Nat :=
    if keepPoint then (ds, places) else dropZeros places ds
  if -4 ≤ top ∧ top < count then
    let places := ((count : Int) - 1 - top).toNat
    let (ds, places) := trimmed places (digitsOf (places + 1) n)
    pointed places keepPoint ds
  else
    let (ds, places) := trimmed (count - 1) ds
    withPower places keepPoint ds top

/-- The text of a float in a form with a precision. -/
def text (form : PlacesForm) (precision : Nat) (keepPoint : Bool) (x : Float) : String :=
  floatText x fun p =>
    match form with
    | .fixed => fixed precision keepPoint p
    | .power => power precision keepPoint p
    | .general => general precision keepPoint p

end Places

/-- The text of a float with one digit after the point. -/
def oneDigitText (x : Float) : String := Places.text .fixed 1 false x

end FlightStream
