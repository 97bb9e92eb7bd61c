import FlightStream.Dataflow.Effect

/-!
Sources, which start the stream. What a source would emit is laid out as a script of turns;
before each turn it looks whether it was asked to stop. However a source ends, finished,
stopped or failed, it sends the end of the stream.
-/

namespace FlightStream.Dataflow

/-- One turn of a source: the elements that it emits, what else it does, and whether it then
waits for the others. -/
structure Turn (α : Type) where
  outputs : List α := []
  effects : List (Effect α) := []
  pause : Bool := false

/-- All that a source would do: its turns, and the failure that ends them, if one does. -/
structure Script (α : Type) where
  turns : List (Turn α)
  failure : Option Fault

/-- A source at some point of its script. -/
structure Source (α : Type) where
  name : String
  script : Script α
  started : Bool := false
  running : Bool := false
  resting : Bool := false
  finished : Bool := false
  raised : Option Fault := none

namespace Source

variable {α : Type}

/-- A source before its start. -/
def ofScript (name : String) (script : Script α) : Source α := { name := name, script := script }

/-- The source once its script is over or broken off. -/
def finish (s : Source α) (raised : Option Fault) : Source α :=
  { s with running := false, finished := true, raised := raised }

/-- Whether the source has something to do now. -/
def canStep (s : Source α) : Bool := !s.finished && !s.resting

/-- The next thing that a source does, with what it sends and does: it starts, takes a turn, or
ends. -/
def step (s : Source α) : Source α × List (Output α) × List (Effect α) :=
  if !s.started then ({ s with started := true, running := true }, [], [])
  else if !s.running then (s.finish none, [.ended], [])
  else
    match s.script.turns with
    | [] => (s.finish s.script.failure, [.ended], [])
    | turn :: rest =>
      let counts := turn.outputs.map fun _ =>
        Effect.measured .recordsEmitted [s.name] (.increase 1)
      ({ s with script := { s.script with turns := rest }, resting := turn.pause },
        turn.outputs.map .element, counts ++ turn.effects)

/-- The source asked to stop; it stops before its next turn. -/
def stop (s : Source α) : Source α := { s with running := false }

/-- The source after its rest. -/
def wake (s : Source α) : Source α := { s with resting := false }

end Source

end FlightStream.Dataflow
