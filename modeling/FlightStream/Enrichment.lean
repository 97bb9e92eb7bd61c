import FlightStream.Reference.Data

/-!
What the job adds to a report: its airport, its noise level and its emission; and how the
reports of one window become one aircraft with a direction.
-/

namespace FlightStream

/-! ## Around an airport -/

/-- A box of longitudes and latitudes, its edges included. -/
structure BoundingBox where
  maxLon : Float
  maxLat : Float
  minLon : Float
  minLat : Float

namespace BoundingBox

/-- Miles to a degree of latitude. -/
def milesPerDegree : Float := 69

/-- Radians to a degree. -/
def radiansPerDegree : Float := Float.ofBits 0x3f91df46a2529d39

/-- The cosine of an angle in degrees; an infinite angle has none. -/
def cosine (degrees : Float) : Except Fault Float :=
  let angle := degrees * radiansPerDegree
  if angle.isInf then .error .outsideDomain else .ok angle.cos

/-- The box around a circle of a radius in miles. No float is an odd multiple of a right angle, so
the cosine is never zero and a degree of longitude never without length. -/
def around (lon lat radius : Float) : Except Fault BoundingBox := do
  let milesPerLon := ((← cosine lat) * milesPerDegree).abs
  let lonDelta := radius / milesPerLon
  let latDelta := radius / milesPerDegree
  return ⟨lon + lonDelta, lat + latDelta, lon - lonDelta, lat - latDelta⟩

/-- Whether a place is in the box. -/
def contains (b : BoundingBox) (lon lat : Float) : Bool :=
  b.minLon ≤ lon && lon ≤ b.maxLon && b.minLat ≤ lat && lat ≤ b.maxLat

end BoundingBox

/-- The first of the airports whose box contains a place. -/
def airportFor (lon lat : Float) (airports : List Airport) (radius : Float) :
    Except Fault (Option String) :=
  match airports with
  | [] => .ok none
  | airport :: rest => do
    let box ← BoundingBox.around airport.lon airport.lat radius
    if box.contains lon lat then return some airport.name
    airportFor lon lat rest radius

/-- The sighting with the airport that it is near; none away from every airport. -/
def assignAirport (reference : ReferenceData) (radius : Float) (s : Sighting) :
    Except Fault (Option ClassifiedAircraft) := do
  let airport ← airportFor s.report.lon s.report.lat reference.airports radius
  return airport.map fun name => s.withAirport (some name)

/-! ## Phases of flight -/

/-- Whether an aircraft is airborne, above altitude zero and below the ceiling. -/
def isLowAltitude (ceiling : Int) (r : PositionReport) : Bool :=
  !r.onGround && decide (0 < r.alt) && decide (r.alt < ceiling)

/-- The report with the greatest position time, the last of those that share it. -/
def latest? {α : Type} (timeOf : α → Int) : List α → Option α
  | [] => none
  | first :: rest =>
    some (rest.foldl (fun kept item => if timeOf item < timeOf kept then kept else item) first)

/-- The latest report of a window, with the direction of the window's altitude slope. -/
def assignVerticalDirection (events : List ClassifiedAircraft) (slope : Number) :
    Except Fault ClassifiedAircraft :=
  match latest? (fun a => a.posTime) events with
  | none => .error .emptySelection
  | some aircraft => (VerticalDirection.ofNumber slope).map aircraft.withDirection

/-! ## Noise and emission -/

/-- The noise level in decibel for the aircraft's phase, category and altitude; 0 where no
table has one. -/
def lookupNoise (reference : ReferenceData) (a : ClassifiedAircraft) : Int :=
  ((reference.noiseTable a.direction a.wake).ceiling? a.alt).getD 0

/-- The emission of the aircraft's type in kilograms; 0 for an unlisted type. -/
def lookupCo2 (reference : ReferenceData) (r : PositionReport) : Float :=
  (reference.co2.find? r.type).getD 0

end FlightStream
