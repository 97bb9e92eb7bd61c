import FlightStream.Aircraft.Report
import FlightStream.Validation

/-!
Reading a position report from a raw record of the feed. A field may come under the feed's name
or under the report's own; null counts as absent; identity and time are required, and every
other field has a default. All flaws of a record are reported together, in field order.
-/

namespace FlightStream

namespace Record

/-- The fields of a record that are not null. -/
def present (fields : Keyed String Json) : Keyed String Json :=
  fields.filter fun
    | (_, .null) => false
    | _ => true

/-- The value of a field under the feed's name or, without that, under its own. -/
def lookup (fields : Keyed String Json) (feedName ownName : String) : Option Json :=
  (fields.find? feedName).or (fields.find? ownName)

/-- The values read so far, or the flaws found so far. -/
abbrev Checked (α : Type) := Except (List Flaw) α

/-- Puts two checks together; flaws of both are kept. -/
def both {α β : Type} (a : Checked α) (b : Checked β) : Checked (α × β) :=
  match a, b with
  | .ok x, .ok y => .ok (x, y)
  | .ok _, .error flaws => .error flaws
  | .error flaws, .ok _ => .error flaws
  | .error flaws, .error more => .error (flaws ++ more)

/-- A required or defaulted field, read by a rule; a flaw names the feed's field. -/
def check {α : Type} (fields : Keyed String Json) (feedName ownName : String)
    (rule : Json → Except Issue α) (default : Option α) : Checked α :=
  match lookup fields feedName ownName with
  | some value => (rule value).mapError fun issue => [⟨feedName, issue⟩]
  | none =>
    match default with
    | some value => .ok value
    | none => .error [⟨feedName, .missing⟩]

/-- The wake category of a raw value: whatever is no category counts as unknown, only an
infinite number is refused. -/
def wake : Json → Except Fault WakeCategory
  | .bool b => .ok (.ofCode (if b then 1 else 0))
  | .number n =>
    match n.truncate with
    | .ok i => .ok (.ofCode i)
    | .error .infinityToInteger => .error .infinityToInteger
    | .error _ => .ok .unknown
  | .text s => .ok ((Reading.int? s).elim .unknown .ofCode)
  | _ => .ok .unknown

/-- The report of an object's fields, or their flaws. -/
def ofFields (fields : Keyed String Json) (category : WakeCategory) : Checked PositionReport :=
  let checked :=
    both (check fields "Id" "id" Validation.integer none)
    (both (check fields "PosTime" "pos_time" Validation.integer none)
    (both (check fields "Lat" "lat" Validation.float (some PositionReport.missingCoordinate))
    (both (check fields "Long" "lon" Validation.float (some PositionReport.missingCoordinate))
    (both (check fields "Alt" "alt" Validation.integer (some PositionReport.missingAltitude))
    (both (check fields "Gnd" "gnd" Validation.truth (some false))
    (check fields "Type" "type" Validation.text (some "")))))))
  checked.map fun (id, posTime, lat, lon, alt, onGround, type) =>
    ⟨id, posTime, lat, lon, alt, onGround, category, type⟩

/-- The report of a raw value, or its flaws; an infinite wake category fails at once. -/
def toReport (raw : Json) : Except Fault (Checked PositionReport) :=
  match raw.fields? with
  | none => .ok (.error [⟨"", .notARecord⟩])
  | some all =>
    let fields := present all
    match lookup fields "WTC" "wtc" with
    | none => .ok (ofFields fields .unknown)
    | some value => (wake value).map (ofFields fields)

/-- The identity of a raw record as it stands. -/
def identity? (raw : Json) : Option Json := raw.fields?.bind (Keyed.find? · "Id")

/-- What warnings call a raw record: its identity as it stands, or a question mark. The label is
that of a record that was read: no whole number in it has more digits than are written. -/
def label (raw : Json) : String :=
  match identity? raw with
  | some id => id.bare
  | none => "?"

/-- The warning about a record that was read and has flaws. -/
def warning (raw : Json) (flaws : List Flaw) : String :=
  s!"Dropping malformed aircraft record {label raw}: {flaws.length} error(s)"

end Record

end FlightStream
