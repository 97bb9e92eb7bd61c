import FlightStream.Aircraft.Report
import FlightStream.Number.Reading

/-!
Metrics for the metrics store: a name, a time in epoch seconds and a value. A classified
aircraft is a sign of presence at its airport; every other result is named after its key and
stamped with the end of its window.
-/

namespace FlightStream

/-- What is written to the metrics store. If the value is NaN, it may have a minus sign, which
is seen in bytes only. -/
structure Metric where
  name : String
  timestamp : Int
  value : Float
  minusNan : Bool

namespace Metric

/-- A metric from a time and a value that may be any numbers. -/
def ofNumbers (name : String) (timestamp value : Number) : Except Fault Metric := do
  let timestamp ← timestamp.truncate
  return ⟨name, timestamp, ← value.toFloat, value.isMinusNan⟩

/-- The word of the value. -/
def word (m : Metric) : Nat :=
  if m.minusNan then Binary64.signUnit + Binary64.nan.toBits.toNat else m.value.toBits.toNat

/-- A metric's name has underscores for spaces. -/
def nameOf (text : String) : String :=
  String.ofList (text.toList.map fun c => if c = ' ' then '_' else c)

/-- Epoch seconds from epoch milliseconds, rounded down. -/
def seconds (millis : Int) : Int := millis / 1000

/-- The sign of presence of an aircraft; away from every airport there is none. -/
def ofAircraft (a : ClassifiedAircraft) : Option Metric :=
  a.airport.map fun airport =>
    ⟨nameOf airport ++ "." ++ a.direction.name, seconds a.posTime, 1, false⟩

/-- The metric of a result under a key. -/
def ofResult (key : String) (timestamp : Int) (value : Float) : Metric :=
  ⟨nameOf key, seconds timestamp, value, false⟩

/-- The line that shows a metric, after some leading text. -/
def line (m : Metric) (lead : String) : String :=
  lead ++ m.name ++ " " ++ shortestText m.value ++ " " ++ toString m.timestamp

end Metric

end FlightStream
