import FlightStream.EventTime.Calendar
import FlightStream.Json.Writer
import FlightStream.Number.Shortest
import FlightStream.Template

/-!
Log lines, in two forms: an object of JSON for machines and a line of text for people.
-/

namespace FlightStream.Log

/-- A message to be logged: when, where, how severe, and what; perhaps with the failure that
it is about and the calls that led to it, which count only if there is something in them. -/
structure Event where
  created : Number
  level : String
  logger : String
  template : String
  arguments : List Json
  module : String
  line : Number
  failure : Option String
  stack : Option String

namespace Event

/-- The message. A template without values stands as it is. -/
def message (e : Event) : Except Fault String :=
  match e.arguments with
  | [] => .ok e.template
  | values => Template.fill e.template values

/-- The text of the failure, with its kind. -/
def failureText (e : Event) : Option String :=
  (e.failure.filter fun text => !text.isEmpty).map ("RuntimeError: " ++ ·)

/-- The stack, unless there is nothing in it. -/
def stackText (e : Event) : Option String :=
  e.stack.filter fun text => !text.isEmpty

/-- The event as an object. -/
def toJson (e : Event) : Except Fault String := do
  let moment ← Calendar.moment e.created
  let message ← e.message
  let text (name value : String) := (name, Json.quotedText value)
  return Json.writeObject <|
    [text "timestamp" moment.full, text "level" e.level, text "logger" e.logger,
      text "message" message, text "module" e.module, ("line", e.line.text)] ++
    (e.failureText.map (text "exception")).toList ++
    (e.stackText.map (text "stack_trace")).toList

/-- The event as a line, and the failure on the lines after it. -/
def toText (e : Event) : Except Fault String := do
  let moment ← Calendar.localMoment e.created
  let message ← e.message
  let line := s!"{moment.toSecond} [{e.level}] [{e.logger}] {message}"
  return (e.failureText.map ("\n" ++ ·)).elim line (line ++ ·)

end Event

end FlightStream.Log
