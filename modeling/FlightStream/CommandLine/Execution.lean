import FlightStream.CommandLine.Arguments
import FlightStream.Dataflow.Snapshot
import FlightStream.Feed.Address
import FlightStream.Feed.Poll
import FlightStream.Feed.Replay
import FlightStream.FlightJob.Pipeline
import FlightStream.Graphite.Simulation
import FlightStream.Number.Places

/-!
What the commands do, given the world around them: the files, the pages of the feed and the
network of the metrics store.
-/

namespace FlightStream.CommandLine

open Dataflow

/-- The delivery that settings and a receiver ask for. -/
def deliveryConfig (s : Settings) (host : String) (port : Int) : Graphite.Config Float where
  host := host
  port := port
  noTimeToConnect := s.graphiteConnectTimeoutS ≤ 0
  initialDelay := s.sinkReconnectBackoffS
  maxDelay := s.sinkReconnectMaxBackoffS
  capacity := s.sinkBufferSize.toNat
  delayText := oneDigitText

/-- What is around the program. -/
structure World where
  place : String → Feed.Replay.Place
  pages : List Feed.Poll.Page
  network : Graphite.Simulation

/-- What a job that was run to its end comes to. -/
structure JobReport where
  raised : Option Fault
  printed : List String
  warnings : Keyed String (List String)
  traffic : List Traffic
  urls : List String

/-- What a command comes to: unusable arguments, a text and an exit code, or a job. -/
inductive Outcome
  | unusable
  | text (output : String) (exitCode : Nat)
  | job (report : JobReport)

/-- Runs a pipeline to its end. -/
def runDraft (urls : List String) (draft : Draft FlightJob.Element) : JobReport :=
  let r := Run.complete draft.network []
  ⟨r.raised?, r.journal.printed.toList, r.journal.byLogger, r.journal.traffic.toList, urls⟩

/-- Runs the flight job from a source to a destination. -/
def runJob (s : Settings) (world : World) (name : String) (script : Script FlightJob.Element)
    (destination : Destination) (urls : List String) : Except Fault JobReport :=
  match FlightJob.Plan.ofSettings s .standard with
  | .error fault => .error fault
  | .ok plan =>
    match destination with
    | .console =>
      let sink := Operators.console "ConsoleSink" "" FlightJob.Element.metric
      .ok (runDraft urls (plan.build name script sink defaultCapacity))
    | .graphite host port =>
      let sink := Operators.graphite "GraphiteSink" (deliveryConfig s host port)
        (Graphite.Simulation.link host port) world.network Graphite.Simulation.observe
        FlightJob.Element.metric
      .ok (runDraft urls (plan.build name script sink s.sinkQueueSize.toNat))

/-- A failed job. -/
def failed (fault : Fault) : JobReport := ⟨some fault, [], [], [], []⟩

/-- The element for a report. -/
def sighting (r : PositionReport) : FlightJob.Element := .sighting (.plain r)

/-- Whether a path is too long to be looked up: as a whole, or in a part that is looked up in a
directory. -/
def isTooLong (world : World) (path : String) : Bool :=
  pathLimit < path.utf8ByteSize ||
    match parentOfLongPart? path with
    | some parent =>
      match world.place parent with
      | .directory => true
      | _ => false
    | none => false

/-- Carries out a command. -/
def execute (s : Settings) (world : World) : Command → Outcome
  | .encode name timestamp value =>
    match Metric.ofNumbers name (.int timestamp) value with
    | .ok metric => .text (Text.hexOfBytes (Frame.encode metric) ++ "\n") 0
    | .error fault => .job (failed fault)
  | .replay given delay destination =>
    let path := normalPath given
    if isTooLong world path then .job (failed (.pathTooLong path))
    else match world.place path with
    | .missing => .text s!"Error: File {path} does not exist.\n" 1
    | place =>
      let script := Feed.Replay.script path sighting (0 < delay) place
      match runJob s world (Feed.Replay.sourceName path) script destination [] with
      | .ok report => .job report
      | .error fault => .job (failed fault)
  | .run url interval destination _ =>
    let (script, urls) := match Feed.Address.read url with
      | .error fault => (⟨[], some fault⟩, [])
      | .ok address =>
        let polling := Feed.Poll.pollAll sighting address.fault interval [] world.pages
        (polling.script, List.replicate polling.requests address.text)
    match runJob s world Feed.Poll.sourceName script destination urls with
    | .ok report => .job report
    | .error fault => .job (failed fault)

/-- Does what arguments ask for. -/
def run (s : Settings) (world : World) (arguments : List String) : Outcome :=
  match command? s arguments with
  | none => .unusable
  | some command => execute s world command

end FlightStream.CommandLine
