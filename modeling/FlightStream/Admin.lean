import FlightStream.Metrics.Exposition
import FlightStream.Dataflow.Snapshot
import FlightStream.Settings
import FlightStream.Url

/-!
The admin view of a job over HTTP: whether it runs, its operators, and its metrics.
-/

namespace FlightStream.Admin

open Dataflow

/-- What a job shows: whether it runs, its operators in order, and its metrics. -/
structure JobView where
  running : Bool
  operators : List OperatorView
  registry : Registry

/-- Where the view is served, and the level from which its server logs. -/
structure Endpoint where
  host : String
  port : Int
  logLevel : String
  deriving DecidableEq, Repr

/-- The endpoint that settings ask for; it is open to every host. -/
def Endpoint.ofSettings (s : Settings) : Endpoint := ⟨"0.0.0.0", s.adminPort, "warning"⟩

/-- The log line about a server that could not be started. The job goes on without it. -/
def startFailure (fault : Fault) : String × String :=
  (runnerName, "Failed to start Admin API: " ++ fault.shown)

/-- The body of an answer. -/
inductive Body
  | health (status state : String)
  | operators (views : List OperatorView)
  | operator (view : OperatorView)
  | metrics (lines : List String)
  | detail (text : String)
  | page
  | nothing

/-- An answer: its status and its body. -/
structure Answer where
  status : Nat
  body : Body

/-! ## Paths -/

/-- The address that request targets are relative to. -/
def base : Url := { scheme := "http".toList, host := "localhost".toList }

/-- The path of a request target. -/
def pathOf (target : String) : Except Fault (List Char) := do
  let asked := base.resolve (← Url.read target)
  asked.checkHost
  return Url.unescape asked.path

/-- What is left of a text after a start. -/
def after? (start : String) (cs : List Char) : Option (List Char) :=
  if start.toList.isPrefixOf cs then some (cs.drop start.length) else none

/-- Whether a path is the given one, which a line end may follow. -/
def isPath (expected : String) (path : List Char) : Bool :=
  path == expected.toList || path == expected.toList ++ ['\n']

/-- The name of the operator that a path asks for, if it asks for one. -/
def operatorName? (path : List Char) : Option (List Char) :=
  (after? "/stats/" path).filter fun name => !name.isEmpty && !name.contains '/'

/-! ## Answers -/

/-- The answer to a request for a path, if there is anything there. -/
def answer? (job : JobView) (path : List Char) : Option Answer :=
  if isPath "/health" path then
    some ⟨200, if job.running then .health "ok" "running" else .health "stopped" "stopped"⟩
  else if isPath "/stats" path then some ⟨200, .operators job.operators⟩
  else if isPath "/metrics" path then some ⟨200, .metrics (Exposition.lines job.registry)⟩
  else
    (operatorName? path).map fun cs =>
      let name := String.ofList cs
      match job.operators.find? fun view => view.name == name with
      | some view => ⟨200, .operator view⟩
      | none => ⟨404, .detail ("No operator named " ++ name)⟩

/-- The pages that describe the view to people. -/
def pages : List String := ["/docs", "/docs/oauth2-redirect", "/redoc"]

/-- Whether there is something at a path. -/
def isKnown (job : JobView) (path : List Char) : Bool :=
  (answer? job path).isSome || pages.any (isPath · path)

/-- The path without the slashes at its end, if there are any. -/
def withoutSlashes? (path : List Char) : Option (List Char) :=
  if path.getLast? = some '/' then some (path.reverse.dropWhile (· == '/')).reverse else none

/-- The answer to a request. A path with slashes at its end is only told the one without them, if
there is something there. -/
def respond (job : JobView) (target : String) : Except Fault Answer := do
  let path ← pathOf target
  match answer? job path with
  | some answer => return answer
  | none =>
    if pages.any (isPath · path) then return ⟨200, .page⟩
    else if (withoutSlashes? path).any (isKnown job) then return ⟨307, .nothing⟩
    else return ⟨404, .detail "Not Found"⟩

/-- The answer to a request as JSON: a page is none, nor is nothing at all, and of the metrics only
those at their very own address are taken as lines of text. -/
def respondPlainly (job : JobView) (target : String) : Except Fault Answer := do
  let answer ← respond job target
  match answer.body with
  | .page => throw (.valueExpected 2 5 5)
  | .nothing => throw (.valueExpected 1 1 0)
  | .metrics _ => if target = "/metrics" then return answer else throw (.valueExpected 1 1 0)
  | _ => return answer

end FlightStream.Admin
