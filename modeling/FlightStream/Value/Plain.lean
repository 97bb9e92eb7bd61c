import FlightStream.Json.Value
import FlightStream.Value

/-!
Values that are written plainly, as JSON: nothing, truth values, numbers and texts. Arrays and
objects are no such values, and cannot be keys.
-/

namespace FlightStream.Value

/-- The value that a piece of JSON stands for as a key. -/
def key : Json → Except Fault Value
  | .null => .ok .none
  | .bool b => .ok (.bool b)
  | .number n => .ok (.number n)
  | .text s => .ok (.text s)
  | other => mismatch s!"unhashable type: '{other.kindName}'"

/-- The elements among pieces of JSON that a value can be equal to. -/
def plainElements (items : List Json) : List Value :=
  items.filterMap fun item => (key item).toOption

end FlightStream.Value
