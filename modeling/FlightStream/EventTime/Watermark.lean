import FlightStream.Number

/-!
The watermark of a stream whose events may arrive out of order by a bounded lateness: the
greatest event time seen so far, less that lateness. It never moves back.
-/

namespace FlightStream

/-- The greatest event time seen, and how late events may be. -/
structure WatermarkTracker where
  lateness : Int
  latest : Number
  lateness_nonneg : 0 ≤ lateness

namespace WatermarkTracker

/-- A tracker that has seen no event. -/
def create? (lateness : Int) : Except Fault WatermarkTracker :=
  if nonneg : 0 ≤ lateness then .ok ⟨lateness, Number.negInfinity, nonneg⟩
  else .error .negativeLateness

/-- The watermark now. -/
def current (t : WatermarkTracker) : Except Fault Number := t.latest.subInt t.lateness

/-- The tracker after an event: only a greater time than all before it changes anything. -/
def observe (t : WatermarkTracker) (time : Number) : WatermarkTracker :=
  if t.latest.lt time then { t with latest := time } else t

end WatermarkTracker

end FlightStream
