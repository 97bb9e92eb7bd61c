import FlightStream.Keyed
import FlightStream.Dataflow.Effect

/-!
Operators and the workers that run them. A worker takes its operator's messages one at a time.
It keeps the watermark of the operator, which is the least of its inputs' watermarks: nothing
before every input has sent one, and an input that has ended no longer holds it back. Once all
inputs have ended, the operator has its last say and the end is sent on. A failure while
handling a message is logged and counted, and the worker goes on.
-/

namespace FlightStream.Dataflow

/-- What handling a message comes to. -/
structure Reaction (α σ : Type) where
  state : σ
  outputs : List (Output α) := []
  effects : List (Effect α) := []
  failure : Option Fault := none

/-- What an operator does with its state: for an element, once its watermark has advanced, and
at the end. Each is told the operator's watermark. -/
structure Behaviour (α σ : Type) where
  element : Number → σ → α → Reaction α σ
  advanced : Number → σ → Reaction α σ
  finish : Number → σ → Reaction α σ

/-- Nothing happens. -/
def Reaction.none {α σ : Type} (state : σ) : Reaction α σ := { state := state }

/-- A value in an operator's figures. -/
inductive Figure
  | count (value : Nat)
  | flag (value : Bool)
  deriving DecidableEq, Repr

/-- An operator: its name, what it does, its state at the start and the metrics that exist from
then on, its figures for the admin view, and, where it is itself the origin of event time, how
its state tells its watermark. An origin of event time ignores the watermarks of its inputs. -/
structure Operator (α σ : Type) where
  name : String
  behaviour : Behaviour α σ
  start : σ
  instruments : List Instrument := []
  figures : σ → List (String × Figure) := fun _ => []
  ownClock : Option (σ → Number) := none

/-- The number of waiting messages after which an operator's senders have to wait. -/
def defaultCapacity : Nat := 100

/-- The state of a worker: the number of inputs, the latest watermark of each input that has
sent one or ended, the inputs that have ended, the combined watermark, the operator's state,
and whether all is over. -/
structure Worker (σ : Type) where
  inputs : Nat
  heard : Keyed Origin Number
  ended : List Origin
  watermark : Number
  state : σ
  finished : Bool

/-- What a worker does in one step. -/
structure Move (α σ : Type) where
  worker : Worker σ
  outputs : List (Output α)
  effects : List (Effect α)

namespace Worker

variable {α σ : Type}

/-- A worker of an operator with some inputs; without any it waits for one. -/
def start (operator : Operator α σ) (inputs : Nat) : Worker σ :=
  ⟨max 1 inputs, [], [], .negInfinity, operator.start, false⟩

/-- The watermark of the operator. -/
def current (operator : Operator α σ) (w : Worker σ) : Number :=
  match operator.ownClock with
  | some clock => clock w.state
  | none => w.watermark

/-- The log line and the count of a failure. -/
def failureEffects (operator : Operator α σ) (context : String) :
    Option Fault → List (Effect α)
  | none => []
  | some fault =>
    [.measured .operatorErrors [operator.name] (.increase 1),
      .warned operator.name (context ++ ": " ++ fault.shown)]

/-- Takes over a reaction; a failure in it is logged and counted. -/
def react (operator : Operator α σ) (context : String) (w : Worker σ)
    (r : Reaction α σ) : Move α σ :=
  ⟨{ w with state := r.state }, r.outputs,
    r.effects ++ failureEffects operator context r.failure⟩

/-- The least of the watermarks heard. -/
def leastHeard : Keyed Origin Number → Option Number
  | [] => none
  | (_, first) :: rest => some (rest.foldl (fun least entry => least.earlier entry.2) first)

/-- The watermark that the inputs allow, once every input has been heard. -/
def combined? (w : Worker σ) : Option Number :=
  if w.heard.length < w.inputs then none else leastHeard w.heard

/-- Brings the watermark up to what the inputs allow. If it advances, the operator is told
first, and the watermark is sent on after what the operator sends. -/
def advance (operator : Operator α σ) (w : Worker σ) : Move α σ :=
  match operator.ownClock, w.combined? with
  | none, some time =>
    if time.le w.watermark then ⟨w, [], []⟩
    else
      let w := { w with watermark := time }
      let move := w.react operator s!"on_watermark failed in {operator.name}"
        (operator.behaviour.advanced time w.state)
      { move with outputs := move.outputs ++ [.watermark time] }
  | _, _ => ⟨w, [], []⟩

/-- Notes a watermark of an input; it counts unless a later one was heard. -/
def hear (w : Worker σ) (time : Number) (origin : Origin) : Worker σ :=
  let known := (w.heard.find? origin).getD .negInfinity
  { w with heard := w.heard.set origin (Number.later time known) }

/-- Handles the end of an input. -/
def endInput (operator : Operator α σ) (w : Worker σ) (origin : Origin) : Move α σ :=
  let ended := if w.ended.contains origin then w.ended else w.ended ++ [origin]
  let w := { w with ended := ended }
  if w.inputs ≤ ended.length then
    let move := w.react operator s!"on_end failed in {operator.name}"
      (operator.behaviour.finish (w.current operator) w.state)
    { move with
      worker := { move.worker with finished := true }
      outputs := move.outputs ++ [.ended] }
  else { w with heard := w.heard.set origin .infinity }.advance operator

/-- Handles one message. -/
def step (operator : Operator α σ) (w : Worker σ) : Message α → Move α σ
  | .element value =>
    w.react operator s!"Skipping element in {operator.name} after error"
      (operator.behaviour.element (w.current operator) w.state value)
  | .watermark time origin => (w.hear time origin).advance operator
  | .ended origin => w.endInput operator origin

/-- Handles messages in order, up to the end of all inputs. -/
def run (operator : Operator α σ) (w : Worker σ) : List (Message α) → Move α σ
  | [] => ⟨w, [], []⟩
  | message :: rest =>
    if w.finished then ⟨w, [], []⟩
    else
      let first := w.step operator message
      let others := first.worker.run operator rest
      ⟨others.worker, first.outputs ++ others.outputs, first.effects ++ others.effects⟩

end Worker

end FlightStream.Dataflow
