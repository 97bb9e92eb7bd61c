import FlightStream.Dataflow.Network

/-!
Pipelines under construction: places are added one after the other and connected in the order
in which the connections are asked for.
-/

namespace FlightStream.Dataflow

/-- A source or an operator that is to run at a place. -/
inductive Part (α : Type) : Type 1
  | source (name : String) (script : Script α)
  | operator {σ : Type} (operator : Operator α σ) (capacity : Nat)

namespace Part

variable {α : Type}

/-- What runs at the place, given how many connections lead to it. -/
def role (inputs : Nat) : Part α → Role α
  | source name script => .source (.ofScript name script)
  | operator op _ => .worker op (.start op inputs)

/-- How many messages may wait at the place; zero sets no bound. -/
def capacity : Part α → Nat
  | source _ _ => defaultCapacity
  | operator _ capacity => capacity

end Part

/-- Places and the connections between them, by number. -/
structure Draft (α : Type) : Type 1 where
  parts : List (Part α)
  links : List (Nat × Nat)
  sources : List Nat

/-- A draft with the number of the place that was added last. -/
structure Stage (α : Type) : Type 1 where
  draft : Draft α
  place : Nat

namespace Draft

variable {α : Type}

/-- No places. -/
def empty : Draft α := ⟨[], [], []⟩

/-- Adds a place. -/
def add (d : Draft α) (part : Part α) : Stage α :=
  ⟨{ d with parts := d.parts ++ [part] }, d.parts.length⟩

/-- Connects two places. -/
def connect (d : Draft α) (sender receiver : Nat) : Draft α :=
  { d with links := d.links ++ [(sender, receiver)] }

/-- Adds a source. -/
def readFrom (d : Draft α) (name : String) (script : Script α) : Stage α :=
  let stage := d.add (.source name script)
  { stage with draft := { stage.draft with sources := stage.draft.sources ++ [stage.place] } }

/-- Adds an operator without connecting it. -/
def addOperator {σ : Type} (d : Draft α) (operator : Operator α σ)
    (capacity : Nat := defaultCapacity) : Stage α :=
  d.add (.operator operator capacity)

/-- Adds an operator after a place. -/
def attach {σ : Type} (d : Draft α) (sender : Nat) (operator : Operator α σ)
    (capacity : Nat := defaultCapacity) : Stage α :=
  let stage := d.addOperator operator capacity
  { stage with draft := stage.draft.connect sender stage.place }

/-- Connects several places to one; at least one is needed. -/
def writeTo (d : Draft α) (sink : Nat) (stages : List Nat) : Except Fault (Draft α) :=
  if stages.isEmpty then .error .noStages
  else .ok (stages.foldl (fun d stage => d.connect stage sink) d)

/-- The numbers among `numbers` that are places. -/
def places (d : Draft α) (numbers : List Nat) : List (Fin d.parts.length) :=
  numbers.filterMap fun i => if h : i < d.parts.length then some ⟨i, h⟩ else none

/-- The connections of a draft. -/
def wiring (d : Draft α) : Wiring d.parts.length where
  downstream i := d.places ((d.links.filter fun link => link.1 == i.val).map (·.2))
  sources := d.places d.sources

/-- The network of a draft, before its start. -/
def network (d : Draft α) : Network d.parts.length α where
  wiring := d.wiring
  cells := Vector.ofFn fun i =>
    let part := d.parts[i]
    ⟨part.role (d.wiring.inputs i), [], part.capacity, []⟩

end Draft

namespace Stage

variable {α : Type}

/-- Adds an operator after the last place. -/
def attach {σ : Type} (s : Stage α) (operator : Operator α σ)
    (capacity : Nat := defaultCapacity) : Stage α :=
  s.draft.attach s.place operator capacity

end Stage

end FlightStream.Dataflow
