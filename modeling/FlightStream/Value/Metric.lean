import FlightStream.Graphite.Metric
import FlightStream.Value

/-!
Metrics of entries whose key and value may be of any kind.
-/

namespace FlightStream.Value

/-- The metric of an entry: of an aircraft its sign of presence, of any other value its float
under the text of the key. -/
def metric (timestamp : Int) (key value : Value) : Except Fault (Option Metric) :=
  match value with
  | aircraft a => .ok (Metric.ofAircraft a)
  | other => do
    let name ← key.written Value.bare
    let number ← other.toNumber
    let m := Metric.ofResult name timestamp (← number.toFloat)
    return some { m with minusNan := number.isMinusNan }

end FlightStream.Value
