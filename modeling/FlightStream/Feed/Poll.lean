import FlightStream.Dataflow.Source
import FlightStream.Feed.Intake
import FlightStream.Json.Bytes

/-!
Polling a live feed. Each answer is a snapshot of all aircraft; of each aircraft only reports
newer than what the previous snapshot and this one had so far are passed on. The latest times
are remembered from snapshot to snapshot, so an aircraft that is no longer listed is forgotten.
An answer that is no snapshot changes nothing.
-/

namespace FlightStream.Feed.Poll

open Dataflow

/-- How a request fails before there is an answer. -/
inductive RequestFault
  | connect | timeout | protocol
  deriving DecidableEq, Repr

/-- The name of a request failure. -/
def RequestFault.name : RequestFault → String
  | connect => "ConnectError"
  | timeout => "ReadTimeout"
  | protocol => "RemoteProtocolError"

/-- What a request comes to. -/
inductive Response
  | answered (status : Int) (body : List UInt8)
  | failed (fault : RequestFault) (text : String)

/-- The latest time of each aircraft in the last snapshot. -/
abbrev Memory := Keyed Int Int

/-- What a poll comes to: the reports that are new, the memory after it, what is said about
records and answers, and a failure while reading a record. After a failure nothing is new and
the memory is as before. -/
structure Polled (α : Type) where
  reports : List PositionReport
  memory : Memory
  effects : List (Effect α)
  failure : Option Fault

/-- The name of the source. -/
def sourceName : String := "ADSBExchangeSource"

variable {α : Type}

/-! ## One snapshot -/

/-- Reads the records of a snapshot in order, given the memory of the last snapshot and what
this one had so far. -/
def readRecords (last listed : Memory) : List Json → Polled α
  | [] => ⟨[], listed, [], none⟩
  | raw :: rest =>
    match Intake.ofRecord raw with
    | .error fault => ⟨[], last, [], some fault⟩
    | .ok ⟨none, effects⟩ =>
      let others := readRecords last listed rest
      { others with effects := effects ++ others.effects }
    | .ok ⟨some report, effects⟩ =>
      let known := max ((last.find? report.id).getD (-1)) ((listed.find? report.id).getD (-1))
      let others := readRecords last (listed.set report.id (max report.posTime known)) rest
      { others with
        reports := if known < report.posTime then report :: others.reports else others.reports
        effects := effects ++ others.effects }

/-- The new reports of a snapshot. -/
def freshReports (last : Memory) (records : List Json) : Polled α :=
  let polled := readRecords last [] records
  match polled.failure with
  | some _ => { polled with reports := [], memory := last }
  | none => polled

/-! ## One poll -/

/-- Nothing but a warning comes of a poll. -/
def nothing (last : Memory) (warning : String) : Polled α :=
  ⟨[], last, [.warned sourceName warning], none⟩

/-- What a poll makes of a payload. -/
def ofPayload (last : Memory) (payload : Json) : Polled α :=
  match payload.fields? with
  | none => nothing last ("Unexpected feed payload of type " ++ payload.kindName)
  | some fields =>
    match (fields.find? "acList").getD .null with
    | .array records => freshReports last records
    | other => nothing last s!"Feed acList is {other.kindName}, skipping poll"

/-- A poll that fails, after which nothing is new. -/
def failing (last : Memory) (fault : Fault) : Polled α := ⟨[], last, [], some fault⟩

/-- What a poll makes of an answer. -/
def ofAnswer (last : Memory) (status : Int) (body : List UInt8) : Polled α :=
  if status < 200 ∨ 299 < status then nothing last s!"Feed returned HTTP {status}"
  else
    match Json.readBytes body with
    | .error (.tooDeep inside) => ⟨[], last, [], (Json.Refusal.tooDeep inside).fault?⟩
    | .error _ => nothing last "Failed to parse feed JSON"
    | .ok payload => ofPayload last payload

/-- What a poll makes of a response, given the fault of every answer, if there is one. -/
def poll (fault : Option Fault) (last : Memory) : Response → Polled α
  | .failed fault text =>
    nothing last s!"Feed request failed: {fault.name}({Text.quoted text})"
  | .answered status body => fault.elim (ofAnswer last status body) (failing last)

/-! ## Polling on and on -/

/-- A response, and whether the source is asked to stop while it is served. -/
structure Page where
  response : Response
  stop : Bool

/-- What polling comes to: the script of the source, the memory at the end, and the number of
requests. -/
structure Polling (α : Type) where
  script : Script α
  memory : Memory
  requests : Nat

/-- The time between two polls in seconds, given in milliseconds. It has to be within the range of
floats. -/
def seconds (interval : Int) : Except Fault Float := Number.divInt interval 1000

/-- Polls until the pages are used up, a stop is asked for, a record fails or the time to the next
poll is out of range. What a poll found before a stop is still emitted. -/
def pollAll (wrap : PositionReport → α) (fault : Option Fault) (interval : Int) (last : Memory) :
    List Page → Polling α
  | [] => ⟨⟨[], none⟩, last, 0⟩
  | page :: rest =>
    let polled := poll fault last page.response
    let turn : Turn α := { outputs := polled.reports.map wrap, effects := polled.effects }
    let ended (failure : Option Fault) : Polling α := ⟨⟨[turn], failure⟩, polled.memory, 1⟩
    match polled.failure, seconds interval with
    | some failure, _ => ended (some failure)
    | none, .error failure => ended (if rest.isEmpty then none else some failure)
    | none, .ok _ =>
      if page.stop then ended none
      else
        let later := pollAll wrap fault interval polled.memory rest
        let turn := { turn with pause := !rest.isEmpty }
        ⟨{ later.script with turns := turn :: later.script.turns }, later.memory,
          later.requests + 1⟩

/-- The first `count` pages that a server has to offer, the last of them over and over; at
least one request is made. -/
def served (pages : List Page) (count : Nat) : List Page :=
  (List.range (max 1 count)).filterMap fun i => pages[min i (pages.length - 1)]?

end FlightStream.Feed.Poll
