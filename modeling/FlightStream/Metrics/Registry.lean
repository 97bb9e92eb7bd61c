import FlightStream.Json.Value
import FlightStream.Keyed
import FlightStream.Number
import FlightStream.Text.Quoted

/-!
The job's meters: counters that only grow and gauges that take any value, under names and,
where a meter has label names, under label values. A meter without labels has its one sample
from the start; a meter with labels has a sample for each set of values that was used.
-/

namespace FlightStream

/-- The two kinds of meter. -/
inductive MeterKind
  | counter | gauge
  deriving DecidableEq, Repr

/-- The name of a kind. -/
def MeterKind.name : MeterKind → String
  | counter => "counter"
  | gauge => "gauge"

/-- A meter: its kind, its label names, and its samples under label values. -/
structure Meter where
  kind : MeterKind
  labels : List String
  samples : Keyed (List String) Float

/-- The value of the sample under label values, zero if it was not used yet. -/
def Meter.current (meter : Meter) (values : List String) : Float :=
  (meter.samples.find? values).getD 0

/-- A published value: the name it is published under, its labels, and the value. -/
structure Sample where
  name : String
  labels : Keyed String String
  value : Float

/-- The labels in ascending order of name. -/
def Sample.sortedLabels (s : Sample) : Keyed String String :=
  s.labels.mergeSort fun a b => decide (a.1 ≤ b.1)

/-- The key of a sample in an overview: its name and, in braces, its labels. -/
def Sample.key (s : Sample) : String :=
  let labels := s.sortedLabels.map fun (name, value) => name ++ "=" ++ value
  let joined := ",".intercalate labels
  if joined.isEmpty then s.name else s.name ++ "\x7b" ++ joined ++ "\x7d"

/-- Metrics under the names that they were asked for, in order of creation. -/
abbrev Registry := Keyed String Meter

namespace Registry

/-- What every published name starts with. -/
def lead : String := "flight_telemetry_"

/-- The ending of the samples of a counter. -/
def totalEnding : String := "_total"

/-- The ending of the samples that tell when a counter was created. -/
def createdEnding : String := "_created"

/-- A text without an ending, if it has it. -/
def dropEnding (text ending : String) : String :=
  if ending.toList.reverse.isPrefixOf text.toList.reverse then
    String.ofList (text.toList.take (text.length - ending.length))
  else text

/-- The published name of a meter, which for a counter lacks the ending of its samples. -/
def familyName (name : String) (kind : MeterKind) : String :=
  match kind with
  | .counter => dropEnding (lead ++ name) totalEnding
  | .gauge => lead ++ name

/-- The name of the samples of a meter. -/
def sampleName (name : String) (kind : MeterKind) : String :=
  match kind with
  | .counter => familyName name kind ++ totalEnding
  | .gauge => familyName name kind

/-- The names that a meter occupies. -/
def occupied (name : String) (kind : MeterKind) : List String :=
  let family := familyName name kind
  match kind with
  | .counter => [family, family ++ totalEnding, family ++ createdEnding]
  | .gauge => [family]

/-! ## Creation -/

/-- A meter that was not used yet. -/
def newMeter (kind : MeterKind) (labels : List String) : Meter :=
  ⟨kind, labels, if labels.isEmpty then [([], 0)] else []⟩

/-- The names of a new meter that another meter occupies. -/
def clashes (r : Registry) (name : String) (kind : MeterKind) : List String :=
  let taken := r.flatMap fun (other, meter) => occupied other meter.kind
  (occupied name kind).filter taken.contains

/-- Whether a label name is kept for internal use: it begins with two underscores and is of one
line, which a line end may follow. -/
def isReserved (label : String) : Bool :=
  match label.toList with
  | '_' :: '_' :: rest =>
    let line := rest.takeWhile (· != '\n')
    rest == line || rest == line ++ ['\n']
  | _ => false

/-- Makes sure that a meter exists. A name that is known keeps its meter, whatever the kind. -/
def create (r : Registry) (name : String) (kind : MeterKind) (labels : List String) :
    Except Fault Registry :=
  if (r.find? name).isSome then .ok r
  else
    match labels.find? isReserved, clashes r name kind with
    | some label, _ => .error (.metricMisuse ("Reserved label metric name: " ++ label))
    | none, [] => .ok (r.set name (newMeter kind labels))
    | none, names =>
      .error (.duplicateMetric ("Duplicated timeseries in CollectorRegistry: \x7b" ++
        ", ".intercalate (names.map Text.quoted) ++ "\x7d"))

/-! ## Use -/

/-- A change of one sample. -/
inductive Change
  | touch
  | increase (amount : Number)
  | decrease (amount : Number)
  | assign (value : Number)

/-- The value of a sample after a change. -/
def Change.apply (kind : MeterKind) (change : Change) (old : Float) : Except Fault Float :=
  match change, kind with
  | touch, _ => .ok old
  | increase amount, .counter =>
    if amount.lt 0 then .error .negativeIncrement else amount.toFloat.map (old + ·)
  | increase amount, .gauge => amount.toFloat.map (old + ·)
  | decrease amount, .gauge => amount.neg.toFloat.map (old + ·)
  | assign value, .gauge => value.toFloat
  | decrease _, .counter =>
    .error (.missingAttribute "'Counter' object has no attribute 'dec'")
  | assign _, .counter =>
    .error (.missingAttribute "'Counter' object has no attribute 'set'")

/-- What can be asked of a meter: to add an amount, to take it away, or to take it over. -/
inductive Verb
  | increase | decrease | assign
  deriving DecidableEq, Repr

/-- The change that is asked for, if the amount is a number; truth values count as zero and one. -/
def Verb.change (verb : Verb) (kind : MeterKind) (amount : Json) : Except Fault Change :=
  match amount.number?, verb, kind with
  | some n, increase, _ => .ok (.increase n)
  | some n, decrease, _ => .ok (.decrease n)
  | some n, assign, _ => .ok (.assign n)
  | none, increase, .counter => .error (.typeMismatch
      s!"'<' not supported between instances of '{amount.kindName}' and 'int'")
  | none, increase, .gauge => .error (.typeMismatch
      s!"unsupported operand type(s) for +=: 'float' and '{amount.kindName}'")
  | none, decrease, .gauge =>
    .error (.typeMismatch s!"bad operand type for unary -: '{amount.kindName}'")
  | none, assign, .gauge => .error (.typeMismatch
      s!"float() argument must be a string or a real number, not '{amount.kindName}'")
  | none, decrease, .counter => .ok (.decrease 0)
  | none, assign, .counter => .ok (.assign 0)

/-- The name that no label can be given under, since it stands for the meter. -/
def meterLabel : String := "self"

/-- The values of a meter's labels, in the order of its label names. A value that is no text is
written as one. -/
def labelValues (name : String) (meter : Meter) (labels : Keyed String Json) :
    Except Fault (List String) :=
  if (labels.find? meterLabel).isSome then
    .error (.typeMismatch
      s!"MetricWrapperBase.labels() got multiple values for argument '{meterLabel}'")
  else if labels.isEmpty then
    if meter.labels.isEmpty then .ok []
    else .error (.metricMisuse (meter.kind.name ++ " metric is missing label values"))
  else if meter.labels.isEmpty then
    .error (.metricMisuse ("No label names were set when constructing " ++
      s!"{meter.kind.name}:{familyName name meter.kind}"))
  else if labels.length = meter.labels.length then
    match meter.labels.mapM labels.find? with
    | some values => .ok (values.map Json.bare)
    | none => .error (.metricMisuse "Incorrect label names")
  else .error (.metricMisuse "Incorrect label names")

/-- Changes the sample of a meter under label values. A sample comes into being when it is
used, also if the change then fails. -/
def change (r : Registry) (name : String) (values : List String) (change : Change) :
    Registry × Except Fault Unit :=
  match r.find? name with
  | none => (r, .error (.unknownKey name))
  | some meter =>
    let put (value : Float) : Registry :=
      r.set name { meter with samples := meter.samples.set values value }
    match change.apply meter.kind (meter.current values) with
    | .ok value => (put value, .ok ())
    | .error fault => (put (meter.current values), .error fault)

/-! ## Reading -/

/-- Every published value, in order of creation and first use. -/
def samples (r : Registry) : List Sample :=
  r.flatMap fun (name, meter) =>
    meter.samples.map fun (values, value) =>
      ⟨sampleName name meter.kind, meter.labels.zip values, value⟩

/-- Whether the labels of a sample are the asked ones, which have to be texts. -/
def sameLabels (present : Keyed String String) (asked : Keyed String Json) : Bool :=
  present.length == asked.length && present.all fun (name, value) =>
    match asked.find? name with
    | some (.text other) => value == other
    | _ => false

/-- The value of the first of some samples with a name and labels. -/
def sampleValue? (samples : List Sample) (name : String) (labels : Keyed String Json) :
    Option Float :=
  (samples.find? fun s => s.name == name && sameLabels s.labels labels).map (·.value)

/-- The published value of a name and labels. -/
def sample? (r : Registry) (name : String) (labels : Keyed String Json) : Option Float :=
  sampleValue? r.samples name labels

/-- The name under which the samples of a meter are looked up: it is taken to end like the samples
of its kind. -/
def lookedUp (r : Registry) (name : String) : String :=
  let ending := match (r.find? name).map (·.kind) with
    | some .counter => totalEnding
    | _ => ""
  lead ++ name ++ ending

/-- The value of a meter, zero if there is none. -/
def value (r : Registry) (name : String) (labels : Keyed String Json) : Float :=
  (r.sample? (r.lookedUp name) labels).getD 0

/-- Changes the sample of a meter under labels and reads its value. -/
def use (r : Registry) (name : String) (labels : Keyed String Json) (verb : Verb) (amount : Json) :
    Registry × Except Fault Float :=
  match r.find? name with
  | none => (r, .error (.unknownKey name))
  | some meter =>
    match labelValues name meter labels, verb.change meter.kind amount with
    | .error fault, _ => (r, .error fault)
    | .ok values, .error fault => ((r.change name values .touch).1, .error fault)
    | .ok values, .ok change =>
      let (r, answer) := r.change name values change
      (r, answer.map fun _ => r.value name labels)

/-- The known names in ascending order. -/
def names (r : Registry) : List String := r.keys.mergeSort fun a b => decide (a ≤ b)

/-- Every value under its key, without those that tell a time of creation. -/
def valuesByKey (samples : List Sample) : Keyed String Float :=
  Keyed.ofList ((samples.filter fun s => dropEnding s.name createdEnding == s.name).map
    fun s => (s.key, s.value))

/-- Every published value under its key. -/
def overview (r : Registry) : Keyed String Float := valuesByKey r.samples

end Registry

end FlightStream
