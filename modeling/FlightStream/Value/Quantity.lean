import FlightStream.EventTime.Watermark
import FlightStream.Graphite.Metric
import FlightStream.Reference.NoiseTable
import FlightStream.Value.Recipe

/-!
What is asked of numbers, asked of values of any kind: the watermark after a time, the line
through points, the noise at an altitude, the metric of a time and a value. Truth values count
as zero and one; a value of another kind is a fault, and leaves everything as it was.
-/

namespace FlightStream.Value

/-- The event time that a value is. What is no number cannot be compared with the latest time. -/
def eventTime (v latest : Value) : Except Fault Number :=
  match v.number? with
  | some time => .ok time
  | Option.none => v.incomparable latest

/-- A watermark tracker, and the latest time as it was given. -/
structure Tracked where
  tracker : WatermarkTracker
  latest : Value

/-- A tracker that has seen no event. -/
def Tracked.create? (lateness : Int) : Except Fault Tracked :=
  (WatermarkTracker.create? lateness).map fun tracker => ⟨tracker, number tracker.latest⟩

/-- The watermark now. -/
def Tracked.current (t : Tracked) : Except Fault Number := t.tracker.current

/-- The tracker after an event, and the watermark or what is wrong with the event's time. -/
def Tracked.observe (t : Tracked) (v : Value) : Tracked × Except Fault Number :=
  match v.eventTime t.latest with
  | .error fault => (t, .error fault)
  | .ok time =>
    let next : Tracked :=
      ⟨t.tracker.observe time, if t.tracker.latest.lt time then v else t.latest⟩
    (next, next.current)

/-- The slope of the line through samples, and the direction it stands for. -/
def classify (samples : List (Value × Value)) : Except Fault (Float × VerticalDirection) := do
  let step (t : LinearTrend) (sample : Value × Value) : Except Fault LinearTrend :=
    (Recipe.addSample t sample.1 sample.2).result
  let slope ← (← samples.foldlM step .empty).slope
  return (slope, .ofSlope slope)

/-- The noise level at an altitude. Where there are levels, what is no number cannot be compared
with their altitudes. -/
def noiseAt (table : NoiseTable) (altitude : Value) : Except Fault (Option Int) :=
  match altitude.number? with
  | some n => .ok (table.ceiling? n)
  | Option.none =>
    if table.levels.isEmpty then .ok Option.none
    else mismatch s!"'<' not supported between instances of 'int' and '{altitude.kindName}'"

/-- A metric from a time and a value. -/
def metricAt (name : String) (timestamp value : Value) : Except Fault Metric := do
  match timestamp.number? with
  | some time =>
    let _ ← time.truncate
    Metric.ofNumbers name time (← value.toNumber)
  | Option.none =>
    mismatch ("int() argument must be a string, a bytes-like object or a real number, not " ++
      s!"'{timestamp.kindName}'")

end FlightStream.Value
