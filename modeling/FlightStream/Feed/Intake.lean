import FlightStream.Aircraft.Record
import FlightStream.Dataflow.Effect

/-!
Taking raw records in: a record with flaws is dropped, counted and warned of, and never stops
the feed. Only a failure while reading it does.
-/

namespace FlightStream.Feed

open Dataflow

/-- What a raw record comes to: a report or nothing, and what is said about it. -/
structure Intake (α : Type) where
  report : Option PositionReport
  effects : List (Effect α)

/-- Takes in a raw record. -/
def Intake.ofRecord {α : Type} (raw : Json) : Except Fault (Intake α) :=
  (Record.toReport raw).map fun
    | .ok report => ⟨some report, []⟩
    | .error flaws =>
      ⟨none, [.measured .malformedRecords [] (.increase 1),
        .warned "adsb" (Record.warning raw flaws)]⟩

end FlightStream.Feed
