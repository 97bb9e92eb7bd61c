import FlightStream.Number

/-!
Whether an aircraft climbs, descends or keeps its altitude, read off the slope of its altitude
over time.
-/

namespace FlightStream

/-- The vertical phase of a flight; unknown where the samples show no trend. -/
inductive VerticalDirection
  | ascending | descending | cruise | unknown
  deriving DecidableEq, Repr, Inhabited

namespace VerticalDirection

/-- The name of a direction. -/
def name : VerticalDirection → String
  | ascending => "ASCENDING"
  | descending => "DESCENDING"
  | cruise => "CRUISE"
  | unknown => "UNKNOWN"

/-- The direction of a name. -/
def ofName? : String → Option VerticalDirection
  | "ASCENDING" => some ascending
  | "DESCENDING" => some descending
  | "CRUISE" => some cruise
  | "UNKNOWN" => some unknown
  | _ => none

/-- The direction of a slope: its sign, and unknown where there is no slope. -/
def ofSlope (slope : Float) : VerticalDirection :=
  if slope.isNaN then unknown
  else if 0 < slope then ascending
  else if slope == 0 then cruise
  else descending

/-- The direction of any number taken as a slope; it has to be in the range of floats. -/
def ofNumber (slope : Number) : Except Fault VerticalDirection := slope.toFloat.map ofSlope

end VerticalDirection

end FlightStream
