import FlightStream.Enrichment
import FlightStream.Graphite.Metric
import FlightStream.WindowAggregator

/-!
What flows through the flight job, from sightings to the three kinds of results, and the steps
that lead from one to the next.
-/

namespace FlightStream.FlightJob

/-- An aircraft with a noise level, stamped with the end of its window. -/
abbrev NoiseEntry := TimestampedEntry Int ClassifiedAircraft Int

/-- An aircraft with its emission, stamped with the end of its window. -/
abbrev EmissionEntry := TimestampedEntry Int ClassifiedAircraft Float

/-- An element of the flight job: a sighting; a sighting near an airport; the flight of an
aircraft over one window; the flight with its noise level or emission; and per airport the
loudest flight, its level, and the total emission. -/
inductive Element
  | sighting (sighting : Sighting)
  | located (aircraft : ClassifiedAircraft)
  | flight (entry : TimestampedEntry Int Int ClassifiedAircraft)
  | noise (entry : NoiseEntry)
  | emission (entry : EmissionEntry)
  | loudest (entry : TimestampedEntry Int String (Option NoiseEntry))
  | noiseLevel (entry : TimestampedEntry Int String Int)
  | totalEmission (entry : TimestampedEntry Int String Float)

namespace Element

/-- The fault of an element that is not of the kind that an operator is for. -/
def misplaced {ρ : Type} : Except Fault ρ := .error (.typeMismatch "unexpected element")

/-- The report of an observation. -/
def report : Element → Except Fault PositionReport
  | sighting s => .ok s.report
  | located a => .ok a.toPositionReport
  | _ => misplaced

/-- The aircraft near an airport. -/
def aircraft : Element → Except Fault ClassifiedAircraft
  | located a => .ok a
  | _ => misplaced

/-- The flight with its noise level. -/
def withNoise (reference : ReferenceData) : Element → Except Fault (Option Element)
  | flight e => .ok (some (noise ⟨e.timestamp, e.value, lookupNoise reference e.value⟩))
  | _ => misplaced

/-- The flight with its emission. -/
def withEmission (reference : ReferenceData) : Element → Except Fault (Option Element)
  | flight e =>
    .ok (some (emission
      ⟨e.timestamp, e.value, lookupCo2 reference e.value.toPositionReport⟩))
  | _ => misplaced

/-- The airport of an aircraft as part of a key. -/
def airportText (a : ClassifiedAircraft) : String := a.airport.getD "None"

/-- What the keys of noise levels end in. -/
def noiseEnding : String := "_AVG_NOISE"

/-- What the keys of emissions end in. -/
def emissionEnding : String := "_C02_EMISSION"

/-- The level of the loudest flight. -/
def levelOnly : Element → Except Fault (Option Element)
  | loudest e =>
    match e.value with
    | some n => .ok (some (noiseLevel ⟨e.timestamp, e.key, n.value⟩))
    | none => .error (.missingAttribute "'NoneType' object has no attribute 'value'")
  | _ => misplaced

/-- The metric of a result. -/
def metric : Element → Except Fault (Option Metric)
  | flight e => .ok (Metric.ofAircraft e.value)
  | noiseLevel e => do
    let level ← (Number.int e.value).toFloat
    return some (.ofResult e.key e.timestamp level)
  | totalEmission e => .ok (some (.ofResult e.key e.timestamp e.value))
  | _ => misplaced

end Element

end FlightStream.FlightJob
