import FlightStream.Enrichment
import FlightStream.Value.Windowing

/-!
Aggregations of values, described as data. A recipe names the fold and the indices at which it
looks into tuples; `Recipe.aggregation` is the fold that it describes, and `Recipe.view` shows
its accumulators.
-/

namespace FlightStream

/-- A described aggregation. -/
inductive Recipe
  | toList
  | linearTrend (x y : Int)
  | maxBy (index : Int)
  | summing (index : Int)
  | allOf (first second : Recipe)
  | direction
  deriving DecidableEq, Repr, Inhabited

namespace Recipe

/-- The name of the kind of a recipe. -/
def kindName : Recipe → String
  | toList => "to_list"
  | linearTrend _ _ => "linear_trend"
  | maxBy _ => "max_by"
  | summing _ => "summing"
  | allOf _ _ | direction => "all_of"

/-- The accumulators of a recipe. -/
@[reducible] def Acc : Recipe → Type
  | toList => List Value
  | linearTrend _ _ => LinearTrend
  | maxBy _ => Option Value
  | summing _ => Float
  | allOf first second => Acc first × Acc second
  | direction => List Value × LinearTrend

/-! ## Trends of values -/

/-- The fault of adding a value that is no number to a sum. -/
def badTerm (sum : Number) (v : Value) : Fault :=
  .typeMismatch ("unsupported operand type(s) for +=: " ++
    s!"'{(Value.number sum).kindName}' and '{v.kindName}'")

/-- Adds a sample to a trend. A coordinate that is no number stops the update at its sum. -/
def addSample (t : LinearTrend) (x y : Value) : Folded LinearTrend :=
  match x.number?, y.number? with
  | some x, some y => t.accumulate x y
  | none, _ =>
    let t := { t with count := t.count + 1 }
    ⟨t, .error (badTerm t.sumX x)⟩
  | some x, none =>
    let t := { t with count := t.count + 1 }
    t.addTerm (t.sumX.add x) fun sumX =>
      let t := { t with sumX := sumX }
      ⟨t, .error (badTerm t.sumY y)⟩

/-- The trend of points that are read off each value. -/
def trendOf (point : Value → Except Fault (Value × Value)) :
    Aggregation Value LinearTrend Float where
  create := .empty
  accumulate acc item :=
    match point item with
    | .ok (x, y) => addSample acc x y
    | .error fault => ⟨acc, .error fault⟩
  finish acc := acc.slope

/-- The values at two indices. -/
def pointAt (x y : Int) (v : Value) : Except Fault (Value × Value) := do
  return (← v.item x, ← v.item y)

/-! ## Aircraft among values -/

/-- The fault of a value without a field. -/
def missingField {ρ : Type} (v : Value) (field : String) : Except Fault ρ :=
  .error (.missingAttribute s!"'{v.kindName}' object has no attribute '{field}'")

/-- The report that a value is. -/
def reportOf (v : Value) (field : String) : Except Fault PositionReport :=
  match v with
  | .report r => .ok r
  | .aircraft a => .ok a.toPositionReport
  | other => missingField other field

/-- Time and altitude of a report. -/
def altitudePoint (v : Value) : Except Fault (Value × Value) := do
  let r ← reportOf v "pos_time"
  return (.number (.int r.posTime), .number (.int r.alt))

/-- The direction of a value taken as a slope, which has to be a number. -/
def directionOf (slope : Value) : Except Fault VerticalDirection :=
  match slope.number? with
  | some n => VerticalDirection.ofNumber n
  | none => .error (.typeMismatch s!"must be real number, not {slope.kindName}")

/-- The latest report, with the direction of a slope; it has to be classified already. -/
def latestWithDirection (events : List Value) (slope : Value) : Except Fault Value := do
  let timed ← events.mapM fun v => (reportOf v "pos_time").map fun r => (r.posTime, v)
  match latest? (·.1) timed with
  | none => throw .emptySelection
  | some (_, .aircraft a) => return .aircraft (a.withDirection (← directionOf slope))
  | some (_, other) => missingField other "with_direction"

/-! ## The folds -/

/-- The fold with its results as values. -/
def withResult {σ ρ : Type} (a : Aggregation Value σ ρ) (wrap : ρ → Value) :
    Aggregation Value σ Value :=
  { a with finish := fun acc => (a.finish acc).map wrap }

/-- The item at an index of one value exceeds that of another. -/
def exceedsAt (index : Int) (a b : Value) : Except Fault Bool := do
  (← a.item index).exceeds (← b.item index)

/-- The greatest item; nothing counts as no item at all. -/
def greatest (index : Int) : Aggregation Value (Option Value) Value :=
  let base := Aggregation.maxBy (exceedsAt index)
  { create := base.create
    accumulate := fun acc item =>
      base.accumulate (acc.filter fun v => match v with | .none => false | _ => true) item
    finish := fun acc => .ok (acc.getD .none) }

/-- The fold that a recipe describes. -/
def aggregation : (r : Recipe) → Aggregation Value (Acc r) Value
  | toList => withResult .toList .list
  | linearTrend x y => withResult (trendOf (pointAt x y)) fun slope => .number (.float slope)
  | maxBy index => greatest index
  | summing index =>
    withResult (.summing fun v => v.item index >>= Value.toFloat) fun sum => .number (.float sum)
  | allOf first second =>
    .allOf (aggregation first) (aggregation second) fun a b => .ok (.tuple [a, b])
  | direction =>
    .allOf .toList (trendOf altitudePoint) fun events slope =>
      latestWithDirection events (.number (.float slope))

/-! ## Showing accumulators -/

/-- An accumulator as it can be shown. -/
inductive AccView
  | items (items : List Value)
  | trend (trend : LinearTrend)
  | item (item : Option Value)
  | sum (sum : Float)
  | pair (first second : AccView)

/-- The view of an accumulator. -/
def view : (r : Recipe) → Acc r → AccView
  | toList, acc => .items acc
  | linearTrend _ _, acc => .trend acc
  | maxBy _, acc => .item acc
  | summing _, acc => .sum acc
  | allOf first second, acc => .pair (view first acc.1) (view second acc.2)
  | direction, acc => .pair (.items acc.1) (.trend acc.2)

/-! ## Over windows -/

/-- The time of an item for a recipe: of a report its own, otherwise what stands first. -/
def timeOf (r : Recipe) (v : Value) : Except Fault Value :=
  match r with
  | direction => (reportOf v "pos_time").map fun report => .number (.int report.posTime)
  | _ => v.item 0

/-- The key of an item for a recipe: of a report its identity, otherwise what stands second. -/
def keyOf (r : Recipe) (v : Value) : Except Fault Value :=
  match r with
  | direction => (reportOf v "id").map fun report => .number (.int report.id)
  | _ => v.item 1

/-- The windowed aggregation of a recipe. -/
def overWindows (r : Recipe) (window : SlidingWindow) (lateness : Int) :
    WindowAggregator Value Number Value Value (Acc r) Value where
  windowing := window.valueWindowing lateness
  timeOf := r.timeOf
  keyOf := r.keyOf
  aggregation := r.aggregation
  timeText := Value.written Value.bare
  keyText := Value.written Value.shown

end Recipe

end FlightStream
