import FlightStream.Dataflow.Draft
import FlightStream.Dataflow.Operators
import FlightStream.Value.Functions
import FlightStream.Value.Quantity

/-!
Pipelines over values, described as data: sources with what they emit, stages after a source
or another stage, and sinks at the end of one or several of them.
-/

namespace FlightStream.Blueprint

open Dataflow

/-- What an operator does. -/
inductive Task
  | map (f : Value.Function)
  | filter (f : Value.Function)
  | insertWatermarks (lateness : Int) (fromTuples : Bool)
  | window (size slide : Int) (recipe : Recipe) (lateness : Int) (keyed : Bool)
  | record (failAt : List Number) (failAtEnd : Bool) (failOn : List Value)

/-- The name of an operator that is given none. -/
def Task.defaultName : Task → String
  | map _ => "Map"
  | filter _ => "Filter"
  | insertWatermarks _ _ => "InsertWatermarks"
  | window _ _ _ _ _ => "WindowAggregator"
  | record _ _ _ => "Recorder"

/-- The name of an operator: the given one, unless it is empty. -/
def Task.nameOr (task : Task) (given : String) : String :=
  if given.isEmpty then task.defaultName else given

/-- An operator with its state hidden. -/
structure AnyOperator : Type 1 where
  {State : Type}
  operator : Operator Value State

/-- The failures of a recorder that refuses certain elements and watermarks. -/
def recorderFailures (failAt : List Number) (failAtEnd : Bool) (failOn : List Value) :
    Operators.Failures Value where
  element v :=
    if failOn.any (·.same v) then some (.rejectedElement ("bad element " ++ v.bare)) else none
  watermark time :=
    if failAt.any (·.eqv time) then some (.handlerFailed ("cannot handle " ++ time.text))
    else none
  finish := if failAtEnd then some (.handlerFailed "cannot flush") else none

/-- The event time of a value: the value itself, or the first of a tuple. What is no number
cannot be compared with the time of the latest value. -/
def eventTime (fromTuples : Bool) (latest : Option Value) (v : Value) :
    Except Fault Number := do
  let timeOf (v : Value) : Except Fault Value := if fromTuples then v.item 0 else .ok v
  let time ← timeOf v
  time.eventTime ((latest.bind fun v => (timeOf v).toOption).getD (.number .negInfinity))

/-- The operator of a task under a name. -/
def Task.operator (given : String) (task : Task) : Except Fault AnyOperator :=
  let name := task.nameOr given
  match task with
  | map f => .ok ⟨Operators.map name f.mapping⟩
  | filter f => .ok ⟨Operators.filter name f.filtering⟩
  | insertWatermarks lateness fromTuples =>
    match WatermarkTracker.create? lateness with
    | .error fault => .error fault
    | .ok tracker => .ok ⟨Operators.insertWatermarks name (eventTime fromTuples) tracker⟩
  | window size slide recipe lateness keyed =>
    match SlidingWindow.define? size slide with
    | .error fault => .error fault
    | .ok windows =>
      if keyed then
        .ok ⟨Operators.window name (recipe.overWindows windows lateness) Value.ofEntry⟩
      else .error .missingKey
  | record failAt failAtEnd failOn =>
    .ok ⟨Operators.recorder name (recorderFailures failAt failAtEnd failOn)⟩

/-- A source: what it emits, before which index it fails, and after how many elements it asks
every source to stop. -/
structure SourcePlan where
  name : String
  data : List Value
  failAfter : Option Nat
  stopAfter : Option Nat

/-- The turns for the elements from an index on. -/
def SourcePlan.turnsFrom (p : SourcePlan) (index : Nat) : List Value → List (Turn Value)
  | [] => []
  | v :: rest =>
    if p.failAfter = some index then []
    else
      let stop : List (Turn Value) :=
        if p.stopAfter = some (index + 1) then [{ outputs := [], effects := [.stopRequested] }]
        else []
      { outputs := [v] } :: stop ++ turnsFrom p (index + 1) rest

/-- The script of a source. -/
def SourcePlan.script (p : SourcePlan) : Script Value where
  turns := p.turnsFrom 0 p.data
  failure :=
    match p.failAfter with
    | some index =>
      if index < p.data.length then some (.handlerFailed "feed unavailable") else none
    | none => none

/-- A stage: what it is called by others, what it comes after, its task and its name. -/
structure StagePlan where
  id : String
  sender : String
  task : Task
  name : Option String

/-- A sink: its name, what it comes after, whether it is attached to each of those on its own,
and the elements that it refuses. -/
structure SinkPlan where
  name : String
  senders : List String
  oneByOne : Bool
  failOn : List Value

/-- A described pipeline. -/
structure Plan where
  sources : List SourcePlan
  stages : List StagePlan
  sinks : List SinkPlan

/-- A pipeline under construction, with the places of what was named so far. -/
structure Building : Type 1 where
  draft : Draft Value
  places : Keyed String Nat
  sinks : List Nat

/-- Adds a source. -/
def Building.addSource (b : Building) (p : SourcePlan) : Building :=
  let stage := b.draft.readFrom p.name p.script
  { b with draft := stage.draft, places := b.places.set p.name stage.place }

/-- Adds a stage. -/
def Building.addStage (b : Building) (p : StagePlan) : Except Fault Building :=
  match p.task.operator (p.name.getD "") with
  | .error fault => .error fault
  | .ok any =>
    let stage := b.draft.attach ((b.places.find? p.sender).getD 0) any.operator
    .ok { b with draft := stage.draft, places := b.places.set p.id stage.place }

/-- Adds a sink. -/
def Building.addSink (b : Building) (p : SinkPlan) : Except Fault Building :=
  let failures := recorderFailures [] false p.failOn
  let name := Task.nameOr (.record [] false []) p.name
  let stage := b.draft.addOperator (Operators.recorder name failures)
  let senders := p.senders.filterMap b.places.find?
  let connected :=
    if p.oneByOne then
      .ok (senders.foldl (fun d sender => d.connect sender stage.place) stage.draft)
    else stage.draft.writeTo stage.place senders
  match connected with
  | .error fault => .error fault
  | .ok draft => .ok { b with draft := draft, sinks := b.sinks ++ [stage.place] }

/-- Adds all of a list, up to the first failure. -/
def Building.addAll {ρ : Type} (add : Building → ρ → Except Fault Building) (b : Building) :
    List ρ → Except Fault Building
  | [] => .ok b
  | item :: rest =>
    match add b item with
    | .error fault => .error fault
    | .ok b => addAll add b rest

/-- Builds a described pipeline. -/
def Plan.build (p : Plan) : Except Fault Building :=
  let b := p.sources.foldl Building.addSource ⟨.empty, [], []⟩
  match b.addAll Building.addStage p.stages with
  | .error fault => .error fault
  | .ok b => b.addAll Building.addSink p.sinks

end FlightStream.Blueprint
