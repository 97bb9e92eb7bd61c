import FlightStream.Aircraft.Report
import FlightStream.Reference.NoiseTable

/-!
Reference data of the job: the monitored airports, the noise tables by phase of flight and
weight, and the carbon dioxide emitted per landing and take-off cycle by aircraft type.
-/

namespace FlightStream

/-- A monitored airport and its place. -/
structure Airport where
  name : String
  lat : Float
  lon : Float

/-- The noise tables of the two phases of flight that have one, each for heavy aircraft and for
all others. -/
structure NoiseTables where
  heavyClimb : NoiseTable := .empty
  mediumClimb : NoiseTable := .empty
  heavyDescent : NoiseTable := .empty
  mediumDescent : NoiseTable := .empty

namespace NoiseTables

/-- The tables with these levels by altitude. -/
def ofLevels (heavyClimb mediumClimb heavyDescent mediumDescent : List (Int × Int)) :
    NoiseTables :=
  ⟨.ofList heavyClimb, .ofList mediumClimb, .ofList heavyDescent, .ofList mediumDescent⟩

/-- The table for a phase of flight; level flight and unknown phases have an empty one. -/
def table (t : NoiseTables) (direction : VerticalDirection) (heavy : Bool) : NoiseTable :=
  match direction, heavy with
  | .ascending, true => t.heavyClimb
  | .ascending, false => t.mediumClimb
  | .descending, true => t.heavyDescent
  | .descending, false => t.mediumDescent
  | _, _ => .empty

/-- The tables with the phase and weight that they are for. -/
def entries (t : NoiseTables) : List (VerticalDirection × Bool × NoiseTable) :=
  [(.ascending, true, t.heavyClimb), (.ascending, false, t.mediumClimb),
    (.descending, true, t.heavyDescent), (.descending, false, t.mediumDescent)]

end NoiseTables

/-- What the enrichment of aircraft looks up. -/
structure ReferenceData where
  airports : List Airport
  noise : NoiseTables
  co2 : Keyed String Float

namespace ReferenceData

/-- The noise table for an aircraft; categories other than heavy use the medium table. -/
def noiseTable (d : ReferenceData) (direction : VerticalDirection) (wake : WakeCategory) :
    NoiseTable :=
  d.noise.table direction (wake == .heavy)

/-- The airports monitored by default. -/
def defaultAirports : List Airport :=
  [⟨"London", 51.470020, -0.454295⟩, ⟨"Istanbul", 40.982555, 28.820829⟩,
    ⟨"Frankfurt", 50.110924, 8.682127⟩, ⟨"Atlanta", 33.640411, -84.419853⟩,
    ⟨"Paris", 49.0096906, 2.54792450⟩, ⟨"Tokyo", 35.765786, 140.386347⟩,
    ⟨"New York", 40.6441666667, -73.7822222222⟩]

/-- The noise levels used by default. -/
def defaultNoise : NoiseTables :=
  .ofLevels [(500, 96), (1000, 92), (1500, 86), (2000, 82), (3000, 72)]
    [(500, 83), (1000, 81), (1500, 74), (2000, 68), (3000, 61)]
    [(500, 90), (1000, 85), (1500, 79), (2000, 73), (3000, 66)]
    [(500, 80), (1000, 75), (1500, 70), (2000, 64), (3000, 58)]

/-- Average carbon dioxide in kilograms per landing and take-off cycle, by type designator. -/
def defaultCo2 : Keyed String Float :=
  [("A318", 2169), ("A319", 2310), ("A320", 2440), ("A321", 2780), ("A20N", 2250),
    ("A21N", 2560), ("A332", 6670), ("A333", 6820), ("A343", 6920), ("A346", 10540),
    ("A359", 6250), ("A388", 13110), ("B736", 2230), ("B737", 2460), ("B738", 2600),
    ("B739", 2750), ("B38M", 2340), ("B744", 10400), ("B748", 9600), ("B752", 4290),
    ("B763", 5610), ("B772", 7790), ("B77W", 9700), ("B788", 5940), ("B789", 6510),
    ("CRJ9", 1450), ("E190", 1860), ("E195", 1980), ("DH8D", 1000), ("AT76", 830)]

/-- The reference data used by default. -/
def standard : ReferenceData := ⟨defaultAirports, defaultNoise, defaultCo2⟩

end ReferenceData

end FlightStream
