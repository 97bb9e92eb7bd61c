import FlightStream.Number.Binary64

/-!
Remainders of floats. The remainder by a positive float has no sign, as that of whole numbers:
it is found exactly toward zero, and brought up by the divisor, with one rounding, if the number
was negative.
-/

namespace FlightStream.Binary64

/-- The remainder toward zero of two magnitudes over their smaller exponent, as a float. -/
def magnitudeRemainder (p q : Parts) : Float :=
  let low := min p.exponent q.exponent
  let scaleUp (x : Parts) : Nat := x.significand * Nat.pow 2 (x.exponent - low).toNat
  let (n, d) := scaled (scaleUp p % scaleUp q) 1 (-low)
  ofRatio false n d

/-- The remainder of a float by a positive one; NaN if the number is not finite. -/
def remainder (x y : Float) : Float :=
  match parts? x, parts? y with
  | some p, some q =>
    let rest := magnitudeRemainder p q
    if p.negative && rest != 0 then y - rest else rest
  | _, _ => nan

end FlightStream.Binary64
