import FlightStream.Dataflow.Network

/-!
Running a pipeline to its end. Of all orders in which the places of a network may step, the
runner takes one: places that can step wait in a line, the first of them steps for as long as
it can, and a place that becomes able to step joins the end of the line. Sources that rest are
woken once nothing else can step.
-/

namespace FlightStream.Dataflow

/-- The logger of the runner. -/
def runnerName : String := "Runner"

/-- What a run did outside its network: the metrics, the log lines with their loggers, the
printed lines, what was noted at which place, and the traffic of its connection. -/
structure Journal (α : Type) where
  registry : Registry := []
  warnings : Array (String × String) := #[]
  printed : Array String := #[]
  notes : Array (Nat × Output α) := #[]
  traffic : Array Traffic := #[]

namespace Journal

variable {α : Type}

/-- Enters an effect of a place. -/
def record (place : Nat) (j : Journal α) : Effect α → Journal α
  | .warned logger message => { j with warnings := j.warnings.push (logger, message) }
  | .measured instrument values change =>
    { j with registry := j.registry.measure instrument values change }
  | .printed text => { j with printed := j.printed.push text }
  | .noted output => { j with notes := j.notes.push (place, output) }
  | .carried traffic => { j with traffic := j.traffic.push traffic }
  | .stopRequested => j

/-- What was noted at a place, in order. -/
def notesAt (j : Journal α) (place : Nat) : List (Output α) :=
  (j.notes.toList.filter fun note => note.1 == place).map (·.2)

/-- The messages of each logger that has any, in order. -/
def byLogger (j : Journal α) : Keyed String (List String) :=
  j.warnings.foldl
    (fun (m : Keyed String (List String)) entry =>
      m.set entry.1 ((m.find? entry.1).getD [] ++ [entry.2])) []

end Journal

/-- Whether an effect asks every source to stop. -/
def Effect.isStop {α : Type} : Effect α → Bool
  | stopRequested => true
  | _ => false

/-- A network and what it has done so far. -/
structure Run (n : Nat) (α : Type) : Type 1 where
  network : Network n α
  journal : Journal α

namespace Run

variable {n : Nat} {α : Type}

/-- A network before its start; the metrics that exist from the start are there. -/
def start (network : Network n α) : Run n α where
  network := network
  journal :=
    { registry := network.cells.foldl
        (fun registry c =>
          c.role.instruments.foldl
            (fun registry entry => registry.measure entry.1 entry.2 .touch) registry) [] }

/-- Takes over a step of a place. -/
def take (r : Run n α) (i : Fin n) (p : Progress n α) : Run n α where
  network := if p.effects.any Effect.isStop then p.network.stop else p.network
  journal := p.effects.foldl (Journal.record i) r.journal

/-- The places of a line and, after them, those that can step as well. -/
def joinLine (network : Network n α) (line : List (Fin n)) : List (Fin n) :=
  line ++ (List.finRange n).filter fun i => network.canStep i && !line.contains i

/-- The sources that rest. -/
def resting (network : Network n α) : List (Fin n) :=
  (List.finRange n).filter fun i =>
    match (network.cell i).role with
    | .source s => s.resting
    | .worker _ _ => false

/-- Steps in the order of the line. The fuel bounds the number of steps. -/
def go : Nat → Run n α → List (Fin n) → Run n α
  | 0, r, _ => r
  | fuel + 1, r, [] =>
    match resting r.network with
    | [] => r
    | sources => go fuel { r with network := r.network.mapSources Source.wake } sources
  | fuel + 1, r, i :: line =>
    match r.network.step? i with
    | none => go fuel r line
    | some p =>
      let r := r.take i p
      go fuel r (joinLine r.network (i :: line))

/-- More steps than any run takes. -/
def patience : Nat := 1000000000000000000

/-- Runs a network to its end. -/
def toEnd (r : Run n α) : Run n α := go patience r (joinLine r.network [])

/-- The failure of the first source that failed, in the order of the operators. -/
def raised? (r : Run n α) : Option Fault := r.network.roles.findSome? Role.raised?

/-- Runs a network to its end; the failure of a source is logged. -/
def complete (network : Network n α) (before : List (String × String)) : Run n α :=
  let r := (start network).toEnd
  let failed := r.raised?.toList.map fun fault =>
    (runnerName, "Source failed: " ++ fault.shown)
  { r with journal := { r.journal with
      warnings := r.journal.warnings ++ (before ++ failed).toArray } }

end Run

end FlightStream.Dataflow
