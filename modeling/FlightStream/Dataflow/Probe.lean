import FlightStream.Dataflow.Draft
import FlightStream.Dataflow.Operators
import FlightStream.Dataflow.Runner
import FlightStream.Dataflow.Snapshot

/-!
An operator driven by hand: one message at a time is offered to it, and a recorder after it
tells what it sent.
-/

namespace FlightStream.Dataflow

/-- An operator between two messages: its worker, the recorder after it, and what it did
outside. -/
structure Probe (α σ : Type) where
  worker : Worker σ
  watcher : Worker Unit
  journal : Journal α

/-- What a message came to: what the recorder after the operator noted, and what the operator
noted itself. -/
structure Response (α : Type) where
  sent : List (Output α)
  noted : List (Output α)

namespace Probe

variable {α σ : Type}

/-- The recorder. -/
def recorder : Operator α Unit := Operators.recorder "Recorder" .never

/-- An operator with some inputs before the first message. -/
def start (operator : Operator α σ) (inputs : Nat) : Probe α σ where
  worker := .start operator inputs
  watcher := .start (recorder : Operator α Unit) 1
  journal := (Run.start (Draft.empty.addOperator operator).draft.network).journal

/-- Offers a message; none if the operator has finished. -/
def offer? (operator : Operator α σ) (p : Probe α σ) (message : Message α) :
    Option (Probe α σ × Response α) :=
  if p.worker.finished then none
  else
    let move := p.worker.step operator message
    let seen := p.watcher.run recorder (move.outputs.map (Output.from (some 0)))
    some (⟨move.worker, seen.worker, move.effects.foldl (Journal.record 0) p.journal⟩,
      ⟨Effect.notes seen.effects, Effect.notes move.effects⟩)

/-- The operator from outside. -/
def view (operator : Operator α σ) (p : Probe α σ) : OperatorView :=
  ⟨operator.name, p.worker.current operator, 0, operator.figures p.worker.state⟩

end Probe

end FlightStream.Dataflow
