import FlightStream.VerticalDirection
import FlightStream.Number.Shortest

/-!
What is known of an aircraft: a position report as the feed publishes it, and the same report
classified by airport and vertical direction.
-/

namespace FlightStream

/-- The wake turbulence category of an aircraft. -/
inductive WakeCategory
  | unknown | light | medium | heavy
  deriving DecidableEq, Repr, Inhabited

namespace WakeCategory

/-- The number of a category. -/
def code : WakeCategory → Int
  | unknown => 0
  | light => 1
  | medium => 2
  | heavy => 3

/-- The category of a number; numbers without one count as unknown. -/
def ofCode : Int → WakeCategory
  | 1 => light
  | 2 => medium
  | 3 => heavy
  | _ => unknown

/-- The name of a category. -/
def name : WakeCategory → String
  | unknown => "NONE"
  | light => "LIGHT"
  | medium => "MEDIUM"
  | heavy => "HEAVY"

theorem ofCode_code (c : WakeCategory) : ofCode c.code = c := by cases c <;> rfl

end WakeCategory

/-- One observation of an aircraft: identity, time in epoch milliseconds, place, altitude in
feet, whether it is on the ground, wake category and type designator. -/
structure PositionReport where
  id : Int
  posTime : Int
  lat : Float
  lon : Float
  alt : Int
  onGround : Bool
  wake : WakeCategory
  type : String

namespace PositionReport

/-- Coordinate and altitude of a report that gives none. -/
def missingAltitude : Int := -1

/-- Coordinate of a report that gives none. -/
def missingCoordinate : Float := Float.ofBits 0xbff0000000000000

/-- The fields of a report with their texts, in order. -/
def fieldTexts (r : PositionReport) : List (String × String) :=
  [("id", toString r.id), ("pos_time", toString r.posTime), ("lat", shortestText r.lat),
    ("lon", shortestText r.lon), ("alt", toString r.alt),
    ("gnd", if r.onGround then "True" else "False"),
    ("wtc", s!"<WakeTurbulenceCategory.{r.wake.name}: {r.wake.code}>"),
    ("type", Text.quoted r.type)]

/-- Equality field by field, coordinates by value. -/
def same (r s : PositionReport) : Bool :=
  r.id == s.id && r.posTime == s.posTime && r.lat == s.lat && r.lon == s.lon &&
    r.alt == s.alt && r.onGround == s.onGround && r.wake == s.wake && r.type == s.type

instance : BEq PositionReport := ⟨same⟩

end PositionReport

/-- A report with its airport, if it is near one, and its vertical direction. -/
structure ClassifiedAircraft extends PositionReport where
  airport : Option String
  direction : VerticalDirection

namespace ClassifiedAircraft

/-- The same aircraft with a direction. -/
def withDirection (a : ClassifiedAircraft) (direction : VerticalDirection) :
    ClassifiedAircraft :=
  { a with direction := direction }

/-- The same aircraft with an airport. -/
def withAirport (a : ClassifiedAircraft) (airport : Option String) : ClassifiedAircraft :=
  { a with airport := airport }

/-- The fields with their texts, in order. -/
def fieldTexts (a : ClassifiedAircraft) : List (String × String) :=
  a.toPositionReport.fieldTexts ++
    [("airport", a.airport.elim "None" Text.quoted),
      ("vertical_direction",
        s!"<VerticalDirection.{a.direction.name}: {Text.quoted a.direction.name}>")]

instance : BEq ClassifiedAircraft :=
  ⟨fun a b => a.toPositionReport == b.toPositionReport && a.airport == b.airport &&
    a.direction == b.direction⟩

end ClassifiedAircraft

/-- A report classified by airport, its direction not yet known. -/
def PositionReport.withAirport (r : PositionReport) (airport : Option String) :
    ClassifiedAircraft :=
  { r with airport := airport, direction := .unknown }

/-- An observation that flows through the job: a plain report, or one already classified. -/
inductive Sighting
  | plain (report : PositionReport)
  | classified (aircraft : ClassifiedAircraft)

namespace Sighting

/-- The report in a sighting. -/
def report : Sighting → PositionReport
  | plain r => r
  | classified a => a.toPositionReport

/-- The sighting with an airport; a known direction is kept. -/
def withAirport (s : Sighting) (airport : Option String) : ClassifiedAircraft :=
  match s with
  | plain r => r.withAirport airport
  | classified a => a.withAirport airport

end Sighting

/-- Fields with their texts, joined. -/
def fieldLine (separator : String) (fields : List (String × String)) : String :=
  separator.intercalate (fields.map fun (name, text) => name ++ "=" ++ text)

end FlightStream
