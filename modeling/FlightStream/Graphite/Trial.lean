import FlightStream.Dataflow.Draft
import FlightStream.Dataflow.Operators
import FlightStream.Dataflow.Runner
import FlightStream.Dataflow.Snapshot
import FlightStream.Graphite.Simulation

/-!
A delivery driven by hand over a simulated network: metrics are sent one at a time, and the
counts and warnings of each step are kept as a running sink would keep them.
-/

namespace FlightStream.Graphite

open Dataflow

/-- A delivery between two steps, its network, and what it counted and warned of. -/
structure Trial where
  delivery : Delivery Float
  network : Simulation
  journal : Journal Unit

namespace Trial

variable (name : String) (config : Config Float)

/-- The sink whose delivery is tried. -/
def sink : Operator Unit (Operators.Delivering Simulation Float) :=
  Operators.graphite name config (Simulation.link config.host config.port) {}
    Simulation.observe fun _ => .ok none

/-- Before the first step. -/
def start : Trial where
  delivery := .initial config
  network := {}
  journal := (Run.start (Draft.empty.addOperator (sink name config)).draft.network).journal

/-- The trial without the traffic and the warnings so far. -/
def settled (t : Trial) : Trial :=
  { t with
    network := { t.network with traffic := [] }
    journal := { t.journal with warnings := #[] } }

/-- Takes over a step, and tells the failure that escaped from it. -/
def take (t : Trial) (step : Step Simulation Float) : Trial × Option Fault :=
  let effects : List (Effect Unit) :=
    step.incidents.flatMap (Operators.incidentEffects name config)
  (⟨step.delivery, step.link, effects.foldl (Journal.record 0) t.journal⟩, step.failure)

/-- Sends what an entry comes to: a metric, nothing, or a fault that changes nothing. -/
def send (t : Trial) : Except Fault (Option Metric) → Trial × Option Fault
  | .error fault => (t, some fault)
  | .ok none => (t, none)
  | .ok (some metric) =>
    t.take name config
      (t.delivery.send config (Simulation.link config.host config.port) t.network metric)

/-- Ends the delivery. -/
def finish (t : Trial) : Trial × Option Fault :=
  t.take name config
    (t.delivery.finish config (Simulation.link config.host config.port) t.network)

/-- The sink from outside. -/
def view (t : Trial) : OperatorView :=
  ⟨name, .negInfinity, 0, (sink name config).figures ⟨t.delivery, t.network⟩⟩

end Trial

end FlightStream.Graphite
