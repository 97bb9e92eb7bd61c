import FlightStream.Dataflow.Source
import FlightStream.Feed.Intake
import FlightStream.Json.Reader
import FlightStream.Text.Lines
import FlightStream.Text.Utf8

/-!
Replaying a recorded feed: a file with one raw record to a line. Blank lines are skipped, lines
that are no JSON are skipped with a warning that tells their number, and records with flaws are
dropped.
-/

namespace FlightStream.Feed.Replay

open Dataflow

/-- What is at a path. -/
inductive Place
  | missing
  | directory
  | file (bytes : List UInt8)

/-- The name of the source that replays a path. -/
def sourceName (path : String) : String := "ReplayFileSource(" ++ path ++ ")"

/-- The warning about a line that is no JSON. -/
def skipWarning (path : String) (number : Nat) : String :=
  s!"Skipping unparseable line {number} of {path}"

variable {α : Type}

/-- The turn for a line of a file, if it is worth one. A record that was read, also one that
was dropped, is followed by a pause if there is to be a delay. -/
def turn (path : String) (wrap : PositionReport → α) (delayed : Bool) (number : Nat)
    (line : List Char) : Except Fault (Option (Turn α)) :=
  let text := Text.trimLine line
  if text.isEmpty then .ok none
  else
    match Json.read text with
    | .error refusal =>
      match refusal.fault? with
      | some fault => .error fault
      | none =>
        .ok (some
          { outputs := [], effects := [.warned (sourceName path) (skipWarning path number)] })
    | .ok raw =>
      (Intake.ofRecord raw).map fun (intake : Intake α) =>
        some
          { outputs := (intake.report.map wrap).toList
            effects := intake.effects
            pause := delayed }

/-- The script for the lines of a file from a number on. -/
def scriptFrom (path : String) (wrap : PositionReport → α) (delayed : Bool) (number : Nat) :
    List (List Char) → Script α
  | [] => ⟨[], none⟩
  | line :: rest =>
    match turn path wrap delayed number line with
    | .error fault => ⟨[], some fault⟩
    | .ok now =>
      let later := scriptFrom path wrap delayed (number + 1) rest
      { later with turns := now.toList ++ later.turns }

/-- The script for what is at a path. -/
def script (path : String) (wrap : PositionReport → α) (delayed : Bool) : Place → Script α
  | .missing =>
    ⟨[{ outputs := [], effects := [.warned (sourceName path) ("File not found: " ++ path)] }],
      some (.fileMissing path)⟩
  | .directory => ⟨[], some (.pathIsDirectory path)⟩
  | .file bytes => scriptFrom path wrap delayed 1 (Text.lines (Utf8.decodeLossy bytes))

end FlightStream.Feed.Replay
