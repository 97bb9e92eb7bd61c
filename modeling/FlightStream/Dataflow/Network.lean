import FlightStream.Dataflow.Operator
import FlightStream.Dataflow.Source
import FlightStream.Dataflow.Wiring

/-!
A running pipeline: sources and workers, each with an inbox that may be bounded, connected by a
wiring. One step belongs to one of them. It either delivers the first message that it still has to send,
for which the receiver needs room, or, once all is delivered, takes the next thing to do. Which
of those that can step does so next is not laid down here.
-/

namespace FlightStream.Dataflow

/-- What runs at a place of the network. -/
inductive Role (α : Type) : Type 1
  | source (source : Source α)
  | worker {σ : Type} (operator : Operator α σ) (worker : Worker σ)

/-- What taking the next thing to do comes to. -/
structure Act (α : Type) : Type 1 where
  role : Role α
  inbox : List (Message α)
  outputs : List (Output α)
  effects : List (Effect α)

namespace Role

variable {α : Type}

/-- Whether there is something to do, given what waits in the inbox. -/
def canAct (inbox : List (Message α)) : Role α → Bool
  | source s => s.canStep
  | worker _ w => !w.finished && !inbox.isEmpty

/-- Takes the next thing to do. -/
def act? (inbox : List (Message α)) : Role α → Option (Act α)
  | source s =>
    if s.canStep then
      let (s, outputs, effects) := s.step
      some ⟨source s, inbox, outputs, effects⟩
    else none
  | worker operator w =>
    match w.finished, inbox with
    | false, message :: rest =>
      let move := w.step operator message
      some ⟨worker operator move.worker, rest, move.outputs, move.effects⟩
    | _, _ => none

/-- The name of what runs here. -/
def name : Role α → String
  | source s => s.name
  | worker operator _ => operator.name

/-- The watermark of what runs here; a source has none. -/
def watermark : Role α → Number
  | source _ => .negInfinity
  | worker operator w => w.current operator

/-- The figures of what runs here. -/
def figures : Role α → List (String × Figure)
  | source _ => []
  | worker operator w => operator.figures w.state

/-- Whether everything is done here. -/
def isFinished : Role α → Bool
  | source s => s.finished
  | worker _ w => w.finished

/-- The failure that a source ended with. -/
def raised? : Role α → Option Fault
  | source s => s.raised
  | worker _ _ => none

/-- Changes a source and leaves a worker alone. -/
def mapSource (f : Source α → Source α) : Role α → Role α
  | source s => source (f s)
  | worker operator w => worker operator w

/-- The metrics that exist from the start, with their label values. -/
def instruments : Role α → List (Instrument × List String)
  | source s => [(.recordsEmitted, [s.name])]
  | worker operator _ =>
    operator.instruments.map fun instrument =>
      (instrument, if instrument.labels.isEmpty then [] else [operator.name])

end Role

/-- A place of a network of `n`: what runs there, the messages that wait for it and how many
may wait, where zero sets no bound, and the messages that it still has to deliver. -/
structure Cell (n : Nat) (α : Type) : Type 1 where
  role : Role α
  inbox : List (Message α)
  capacity : Nat
  outbox : List (Fin n × Message α)

/-- Whether another message may wait. -/
def Cell.hasRoom {n : Nat} {α : Type} (c : Cell n α) : Bool :=
  c.capacity == 0 || c.inbox.length < c.capacity

/-- Connected places. -/
structure Network (n : Nat) (α : Type) : Type 1 where
  wiring : Wiring n
  cells : Vector (Cell n α) n

/-- A network after a step, and what the step did outside it. -/
structure Progress (n : Nat) (α : Type) : Type 1 where
  network : Network n α
  effects : List (Effect α)

namespace Network

variable {n : Nat} {α : Type}

/-- The place with a number. -/
def cell (net : Network n α) (i : Fin n) : Cell n α := net.cells[i]

/-- The network with another place under a number. -/
def put (net : Network n α) (i : Fin n) (c : Cell n α) : Network n α :=
  { net with cells := net.cells.set i c }

/-- The messages that outputs come to: each goes to every receiver before the next one. -/
def messages (net : Network n α) (i : Fin n) (outputs : List (Output α)) :
    List (Fin n × Message α) :=
  outputs.flatMap fun output =>
    (net.wiring.downstream i).map fun j => (j, output.from (some i))

/-- Puts a message into an inbox. -/
def deliver (net : Network n α) (j : Fin n) (message : Message α) : Network n α :=
  let target := net.cell j
  net.put j { target with inbox := target.inbox ++ [message] }

/-- Whether a place can step. -/
def canStep (net : Network n α) (i : Fin n) : Bool :=
  match (net.cell i).outbox with
  | (j, _) :: _ => (net.cell j).hasRoom
  | [] => (net.cell i).role.canAct (net.cell i).inbox

/-- The step of a place, if it can step. -/
def step? (net : Network n α) (i : Fin n) : Option (Progress n α) :=
  let c := net.cell i
  match c.outbox with
  | (j, message) :: rest =>
    if (net.cell j).hasRoom then
      some ⟨(net.put i { c with outbox := rest }).deliver j message, []⟩
    else none
  | [] =>
    match c.role.act? c.inbox with
    | none => none
    | some act =>
      let c := { c with
        role := act.role, inbox := act.inbox, outbox := net.messages i act.outputs }
      some ⟨net.put i c, act.effects⟩

/-- The network with every source changed. -/
def mapSources (f : Source α → Source α) (net : Network n α) : Network n α :=
  { net with cells := net.cells.map fun c => { c with role := c.role.mapSource f } }

/-- The network with every source asked to stop. -/
def stop (net : Network n α) : Network n α := net.mapSources Source.stop

/-- The numbers of the places that the sources reach, depth first. -/
def order (net : Network n α) : List (Fin n) := net.wiring.preorder

/-- What runs at the places that the sources reach, depth first. -/
def roles (net : Network n α) : List (Role α) := net.order.map fun i => (net.cell i).role

end Network

end FlightStream.Dataflow
