import FlightStream.Aircraft.Report
import FlightStream.Number.Reading
import FlightStream.WindowAggregator

/-!
Values of any kind, for pipelines whose elements are not fixed beforehand: the operations on
them say at run time which kinds they accept.
-/

namespace FlightStream

/-- A value of some kind. -/
inductive Value
  | none
  | bool (value : Bool)
  | number (value : Number)
  | text (value : String)
  | tuple (items : List Value)
  | list (items : List Value)
  | report (report : PositionReport)
  | aircraft (aircraft : ClassifiedAircraft)
  | entry (timestamp : Number) (key value : Value)
  deriving Inhabited

namespace Value

/-- The name of a value's kind in messages. -/
def kindName : Value → String
  | none => "NoneType"
  | bool _ => "bool"
  | number (.int _) => "int"
  | number (.float _) | number .minusNan => "float"
  | text _ => "str"
  | tuple _ => "tuple"
  | list _ => "list"
  | report _ => "PositionReport"
  | aircraft _ => "ClassifiedAircraft"
  | entry _ _ _ => "TimestampedEntry"

/-- The number that a value is, if it is one; truth values count as zero and one. -/
def number? : Value → Option Number
  | number n => some n
  | bool b => some (if b then 1 else 0)
  | _ => Option.none

/-! ## Equality and text -/

mutual

/-- Equality by value: numbers by exact value, whatever their form. -/
def same : Value → Value → Bool
  | none, none => true
  | text a, text b => a == b
  | tuple as, tuple bs => sameAll as bs
  | list as, list bs => sameAll as bs
  | report a, report b => a == b
  | aircraft a, aircraft b => a == b
  | entry t k v, entry u l w => t.eqv u && same k l && same v w
  | a, b =>
    match a.number?, b.number? with
    | some x, some y => x.eqv y
    | _, _ => false

/-- Equality of values one by one. -/
def sameAll : List Value → List Value → Bool
  | [], [] => true
  | a :: as, b :: bs => same a b && sameAll as bs
  | _, _ => false

end

instance : BEq Value := ⟨same⟩

/-- The text of a tuple's items; a single item is followed by a comma. -/
def tupleText : List String → String
  | [one] => "(" ++ one ++ ",)"
  | items => "(" ++ ", ".intercalate items ++ ")"

mutual

/-- A value inside a message, texts in quotes. -/
def shown : Value → String
  | none => "None"
  | bool b => if b then "True" else "False"
  | number n => n.text
  | text s => Text.quoted s
  | tuple items => tupleText (shownItems items)
  | list items => "[" ++ ", ".intercalate (shownItems items) ++ "]"
  | report r => "PositionReport(" ++ fieldLine ", " r.fieldTexts ++ ")"
  | aircraft a => "ClassifiedAircraft(" ++ fieldLine ", " a.fieldTexts ++ ")"
  | entry t k v => s!"TimestampedEntry(timestamp={t.text}, key={shown k}, value={shown v})"

/-- The items of a value inside a message. -/
def shownItems : List Value → List String
  | [] => []
  | item :: rest => shown item :: shownItems rest

end

/-- A value on its own in a message: a text without quotes, a record as its fields. -/
def bare : Value → String
  | text s => s
  | report r => fieldLine " " r.fieldTexts
  | aircraft a => fieldLine " " a.fieldTexts
  | value => value.shown

mutual

/-- Whether no whole number in a value is too long to be written. -/
def writable : Value → Bool
  | number n => numberWritable n
  | tuple items | list items => writableItems items
  | report r => reportWritable r
  | aircraft a => reportWritable a.toPositionReport
  | entry t k v => numberWritable t && writable k && writable v
  | none | bool _ | text _ => true
where
  /-- Whether a number is not too long to be written. -/
  numberWritable : Number → Bool
    | .int i => Writing.fits i
    | .float _ | .minusNan => true
  /-- Whether no field of a report is too long to be written. -/
  reportWritable (r : PositionReport) : Bool :=
    Writing.fits r.id && Writing.fits r.posTime && Writing.fits r.alt

/-- Whether no whole number in some values is too long to be written. -/
def writableItems : List Value → Bool
  | [] => true
  | item :: rest => writable item && writableItems rest

end

/-- What a value is written as, unless something in it is too long. -/
def written (text : Value → String) (v : Value) : Except Fault String :=
  if v.writable then .ok (text v) else .error .writeLimit

/-! ## Operations -/

/-- The fault of an operation that a value's kind does not have. -/
def mismatch {ρ : Type} (detail : String) : Except Fault ρ := .error (.typeMismatch detail)

/-- The fault of an operator between two kinds that do not have it. -/
def unsupported {ρ : Type} (operator : String) (a b : Value) : Except Fault ρ :=
  mismatch s!"unsupported operand type(s) for {operator}: '{a.kindName}' and '{b.kindName}'"

/-- The fault of asking whether one value is above another of a kind that it does not compare
with. -/
def incomparable {ρ : Type} (a b : Value) : Except Fault ρ :=
  mismatch s!"'>' not supported between instances of '{a.kindName}' and '{b.kindName}'"

/-- The item of a tuple at an index. -/
def item (v : Value) (index : Int) : Except Fault Value :=
  let pick (items : List Value) (container : String) : Except Fault Value :=
    let place := if index < 0 then index + items.length else index
    if place < 0 then .error (.indexOutOfRange container)
    else
      match items[place.toNat]? with
      | some found => .ok found
      | Option.none => .error (.indexOutOfRange container)
  match v with
  | tuple items => pick items "tuple"
  | list items => pick items "list"
  | text s => pick (s.toList.map fun c => text (String.singleton c)) "string"
  | other => mismatch s!"'{other.kindName}' object is not subscriptable"

/-- The number that a value stands for; texts are read as floats. -/
def toNumber (v : Value) : Except Fault Number :=
  match v with
  | text s => Reading.number s
  | other =>
    match other.number? with
    | some n => .ok n
    | Option.none =>
      mismatch ("float() argument must be a string or a real number, not " ++
        s!"'{other.kindName}'")

/-- The float that a value stands for. -/
def toFloat (v : Value) : Except Fault Float := v.toNumber >>= Number.toFloat

/-- Whether a list of values exceeds another, the first difference deciding. -/
def exceedsItems (above : Value → Value → Except Fault Bool) :
    List Value → List Value → Except Fault Bool
  | [], _ => .ok false
  | _ :: _, [] => .ok true
  | a :: as, b :: bs => if same a b then exceedsItems above as bs else above a b

/-- Whether one value is above another; only values of comparable kinds can be. The fuel
bounds the nesting of tuples. -/
def exceedsWithin : Nat → Value → Value → Except Fault Bool
  | 0, _, _ => .ok false
  | fuel + 1, a, b =>
    match a, b with
    | text s, text t => .ok (decide (t < s))
    | tuple as, tuple bs | list as, list bs => exceedsItems (exceedsWithin fuel) as bs
    | a, b =>
      match a.number?, b.number? with
      | some x, some y => .ok (y.lt x)
      | _, _ =>
        incomparable a b

mutual

/-- How deeply tuples and lists are nested in a value. -/
def depth : Value → Nat
  | tuple items | list items => depthItems items + 1
  | _ => 0

/-- The greatest depth of some values. -/
def depthItems : List Value → Nat
  | [] => 0
  | item :: rest => max (depth item) (depthItems rest)

end

/-- Whether one value is above another. -/
def exceeds (a b : Value) : Except Fault Bool := exceedsWithin (depth a + 1) a b

/-- A stamped entry as a value. -/
def ofEntry (e : TimestampedEntry Number Value Value) : Value := .entry e.timestamp e.key e.value

end Value

end FlightStream
