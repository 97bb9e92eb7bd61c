import FlightStream.Metrics.Instrument

/-!
What passes between the operators of a pipeline, and what they do to the world outside it.
-/

namespace FlightStream.Dataflow

/-- Where a marker comes from: an operator by its number, or from outside the pipeline. -/
abbrev Origin := Option Nat

/-- What an operator receives: an element, a promise that no earlier event will come, or the
end of one of its inputs. -/
inductive Message (α : Type)
  | element (value : α)
  | watermark (time : Number) (origin : Origin)
  | ended (origin : Origin)

/-- What an operator sends to every operator after it. -/
inductive Output (α : Type)
  | element (value : α)
  | watermark (time : Number)
  | ended

/-- An output as a message from an operator. -/
def Output.from {α : Type} (origin : Origin) : Output α → Message α
  | element value => .element value
  | watermark time => .watermark time origin
  | ended => .ended origin

namespace Output

variable {α : Type}

/-- The element, if the output is one. -/
def element? : Output α → Option α
  | element value => some value
  | _ => none

/-- Whether the output is the end. -/
def isEnd : Output α → Bool
  | ended => true
  | _ => false

/-- The elements among outputs. -/
def elements (outputs : List (Output α)) : List α := outputs.filterMap element?

end Output

/-- Something done to a connection, as the other side sees it. -/
inductive Traffic
  | attempted (host : String) (port : Int)
  | written (frame : List UInt8)
  | closed
  deriving DecidableEq, Repr

namespace Traffic

/-- The receivers that were tried. -/
def attempts (traffic : List Traffic) : List (String × Int) :=
  traffic.filterMap fun
    | attempted host port => some (host, port)
    | _ => none

/-- The frames that were written. -/
def frames (traffic : List Traffic) : List (List UInt8) :=
  traffic.filterMap fun
    | written frame => some frame
    | _ => none

/-- How many connections were closed. -/
def closings (traffic : List Traffic) : Nat := traffic.count closed

end Traffic

/-- What an operator does to the world outside the pipeline. -/
inductive Effect (α : Type)
  | warned (logger message : String)
  | measured (instrument : Instrument) (values : List String) (change : Registry.Change)
  | printed (text : String)
  | noted (output : Output α)
  | carried (traffic : Traffic)
  | stopRequested

namespace Effect

variable {α : Type}

/-- What was noted among effects. -/
def notes (effects : List (Effect α)) : List (Output α) :=
  effects.filterMap fun
    | noted output => some output
    | _ => none

/-- The messages among effects. -/
def messages (effects : List (Effect α)) : List String :=
  effects.filterMap fun
    | warned _ message => some message
    | _ => none

end Effect

end FlightStream.Dataflow
