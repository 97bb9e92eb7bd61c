import FlightStream.Dataflow.Runner

/-!
What a pipeline looks like from outside: for each operator its name, its watermark, how many
messages wait for it, and its figures.
-/

namespace FlightStream.Dataflow

/-- One operator from outside. -/
structure OperatorView where
  name : String
  watermark : Number
  queued : Nat
  figures : List (String × Figure)

namespace Network

variable {n : Nat} {α : Type}

/-- The view of a place. -/
def view (net : Network n α) (i : Fin n) : OperatorView :=
  let c := net.cell i
  ⟨c.role.name, c.role.watermark, c.inbox.length, c.role.figures⟩

/-- The views of all operators that the sources reach, depth first. -/
def views (net : Network n α) : List OperatorView := net.order.map net.view

/-- The view of the first operator of a name. -/
def find? (net : Network n α) (name : String) : Option OperatorView :=
  net.views.find? fun view => view.name == name

end Network

/-- The watermark as far as plain numbers can tell it: none while it is not finite. -/
def OperatorView.plainWatermark (v : OperatorView) : Option Number :=
  if v.watermark.isUnbounded then none else some v.watermark

end FlightStream.Dataflow
