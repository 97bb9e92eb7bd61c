import FlightStream.Dataflow.Draft
import FlightStream.Dataflow.Operators
import FlightStream.FlightJob.Element
import FlightStream.Settings

/-!
The flight job. Low-flying aircraft near an airport are grouped per aircraft into sliding
windows, where the slope of the altitude tells the vertical direction. Each flight is enriched
with its noise level and its emission, and both are aggregated per airport in a second pass
over windows. The flights and both results go to one sink:

    source -> watermarks -> low altitude -> airport -> direction per aircraft
           -> sink
           -> noise level -> loudest per airport -> its level -> sink
           -> emission -> total per airport -> sink
-/

namespace FlightStream.FlightJob

open Dataflow

/-! ## The windowed aggregations -/

/-- The point of a sighting in time and altitude. -/
def altitudePoint (a : ClassifiedAircraft) : Except Fault (Number × Number) :=
  .ok (.int a.posTime, .int a.alt)

/-- The flight of an aircraft: its latest sighting with the direction of its altitude. -/
def flightAggregation :
    Aggregation ClassifiedAircraft (List ClassifiedAircraft × LinearTrend) ClassifiedAircraft :=
  .allOf .toList (.linearTrend altitudePoint) fun events slope =>
    assignVerticalDirection events (.float slope)

/-- The same aggregation over elements made from items, where other elements fail. -/
def onElements {α σ ρ : Type} (a : Aggregation α σ ρ) (item : Element → Except Fault α) :
    Aggregation Element σ ρ where
  create := a.create
  accumulate acc e :=
    match item e with
    | .ok x => a.accumulate acc x
    | .error fault => ⟨acc, .error fault⟩
  finish := a.finish

/-- Flights by aircraft. -/
def flightWindows (window : SlidingWindow) (lateness : Int) :
    WindowAggregator Int Int Element Int (List ClassifiedAircraft × LinearTrend)
      ClassifiedAircraft where
  windowing := window.windowing lateness
  timeOf e := (e.aircraft).map (·.posTime)
  keyOf e := (e.aircraft).map (·.id)
  aggregation := onElements flightAggregation Element.aircraft
  timeText := Writing.whole
  keyText := Writing.whole

/-- The noise entry that an element is. -/
def noiseOf : Element → Except Fault NoiseEntry
  | .noise e => .ok e
  | _ => Element.misplaced

/-- The loudest flight by airport. -/
def noiseWindows (window : SlidingWindow) (lateness : Int) :
    WindowAggregator Int Int Element String (Option NoiseEntry) (Option NoiseEntry) where
  windowing := window.windowing lateness
  timeOf e := (noiseOf e).map (·.timestamp)
  keyOf e := (noiseOf e).map fun n => Element.airportText n.key ++ Element.noiseEnding
  aggregation :=
    onElements (.maxBy fun a b => .ok (decide (b.value < a.value))) noiseOf
  timeText := Writing.whole
  keyText name := .ok (Text.quoted name)

/-- The emission entry that an element is. -/
def emissionOf : Element → Except Fault EmissionEntry
  | .emission e => .ok e
  | _ => Element.misplaced

/-- The total emission by airport. -/
def emissionWindows (window : SlidingWindow) (lateness : Int) :
    WindowAggregator Int Int Element String Float Float where
  windowing := window.windowing lateness
  timeOf e := (emissionOf e).map (·.timestamp)
  keyOf e := (emissionOf e).map fun m => Element.airportText m.key ++ Element.emissionEnding
  aggregation := onElements (.summing fun e => .ok e.value) emissionOf
  timeText := Writing.whole
  keyText name := .ok (Text.quoted name)

/-! ## The pipeline -/

/-- What the job is built from, once its settings are found to be in order. -/
structure Plan where
  reference : ReferenceData
  radius : Float
  ceiling : Int
  window : SlidingWindow
  tracker : WatermarkTracker
  lateness : Int

/-- The plan of settings: the windows are looked at first, then the lateness. -/
def Plan.ofSettings (s : Settings) (reference : ReferenceData) : Except Fault Plan :=
  match SlidingWindow.define? s.windowSizeMs s.windowSlideMs with
  | .error fault => .error fault
  | .ok window =>
    match WatermarkTracker.create? s.allowedLatenessMs with
    | .error fault => .error fault
    | .ok tracker =>
      .ok ⟨reference, s.airportRadiusMiles, s.lowAltitudeCeilingFt, window, tracker,
        s.windowAllowedLatenessMs⟩

namespace Plan

variable (p : Plan)

/-- The origin of watermarks. -/
def watermarks : Operator Element (Operators.Clock Element) :=
  Operators.insertWatermarks "InsertWatermarks"
    (fun _ e => e.report.map fun r => .int r.posTime) p.tracker

/-- Keeps the low-flying aircraft. -/
def lowAltitude : Operator Element Unit :=
  Operators.filter "LowAltitudeFilter" fun e => e.report.map (isLowAltitude p.ceiling)

/-- The element for a sighting near an airport. -/
def locate : Element → Except Fault (Option Element)
  | .sighting s => (assignAirport p.reference p.radius s).map fun a => a.map .located
  | _ => Element.misplaced

/-- Keeps the aircraft near an airport. -/
def airport : Operator Element Unit := Operators.map "AssignAirport" p.locate

/-- The vertical direction of each aircraft. -/
def direction : Operator Element (OpenWindows Int Int (List ClassifiedAircraft × LinearTrend)) :=
  Operators.window "VerticalDirection" (flightWindows p.window p.lateness) .flight

/-- The noise level of each flight. -/
def noise : Operator Element Unit :=
  Operators.map "EnrichNoise" (Element.withNoise p.reference)

/-- The loudest flight of each airport. -/
def loudest : Operator Element (OpenWindows Int String (Option NoiseEntry)) :=
  Operators.window "MaxNoise" (noiseWindows p.window p.lateness) .loudest

/-- The level of the loudest flight. -/
def level : Operator Element Unit := Operators.map "NoiseLevel" Element.levelOnly

/-- The emission of each flight. -/
def emission : Operator Element Unit :=
  Operators.map "EnrichCO2" (Element.withEmission p.reference)

/-- The total emission of each airport. -/
def total : Operator Element (OpenWindows Int String Float) :=
  Operators.window "TotalCO2" (emissionWindows p.window p.lateness) .totalEmission

/-- The job from a source to a sink. -/
def build {σ : Type} (name : String) (script : Script Element) (sink : Operator Element σ)
    (capacity : Nat) : Draft Element :=
  let flights :=
    (((Draft.empty.readFrom name script).attach p.watermarks).attach p.lowAltitude).attach
      p.airport |>.attach p.direction
  let levels := ((flights.attach p.noise).attach p.loudest).attach level
  let totals := (levels.draft.attach flights.place p.emission).attach p.total
  let target := totals.draft.addOperator sink capacity
  [flights.place, totals.place, levels.place].foldl
    (fun d place => d.connect place target.place) target.draft

end Plan

/-! ## Results -/

/-- The three groups of results. -/
inductive Group
  | flights | co2 | noise
  deriving DecidableEq, Repr

/-- The group of a result by the name of its metric. -/
def Group.ofName (name : String) : Group :=
  let ends (ending : String) := ending.toList.reverse.isPrefixOf name.toList.reverse
  if ends Element.emissionEnding then co2
  else if ends Element.noiseEnding then noise
  else flights

/-- The name on a printed line: what stands before its last two words. Of fewer words it is the
first. -/
def Group.nameOnLine (line : String) : String :=
  let words := line.toList.splitOn ' '
  String.ofList ([' '].intercalate (words.take (max 1 (words.length - 2))))

/-- The lines of a group in a printed text. A line feed inside of a name ends a line too; lines with
nothing on them are left out. -/
def Group.linesIn (group : Group) (printed : String) : List String :=
  (printed.splitOn "\n").filter fun line =>
    !line.isEmpty && Group.ofName (Group.nameOnLine line) = group

end FlightStream.FlightJob
