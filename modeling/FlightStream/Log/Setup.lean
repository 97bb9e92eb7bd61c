import FlightStream.Fault
import FlightStream.Text.LetterCase

/-!
Setting up logging: the level of everything, the form of the lines, and a higher level for
libraries that log much. A level that is not known changes nothing.
-/

namespace FlightStream.Log

/-- The number of a level. -/
def level? : String → Option Nat
  | "CRITICAL" | "FATAL" => some 50
  | "ERROR" => some 40
  | "WARNING" | "WARN" => some 30
  | "INFO" => some 20
  | "DEBUG" => some 10
  | "NOTSET" => some 0
  | _ => none

/-- The two forms of log lines. -/
inductive Form
  | json | text
  deriving DecidableEq, Repr

/-- The form of a name: JSON if it says so in any case, and text otherwise. -/
def Form.ofName (name : String) : Form :=
  if String.ofList (Text.lower name.toList) = "json" then json else text

/-- The name of the component that writes a form. -/
def Form.writerName : Form → String
  | json => "JSONFormatter"
  | text => "ConsoleFormatter"

/-- What is logged and how: the level of everything, the forms that are written, and the level
of the HTTP client. -/
structure Setup where
  root : Nat
  forms : List Form
  httpClient : Nat
  deriving DecidableEq, Repr

/-- Before anything is set up. -/
def Setup.initial : Setup := ⟨30, [], 0⟩

/-- Sets up logging at a level, or at the default level if none or an empty one is given. -/
def Setup.configure (setup : Setup) (level : Option String) (defaultLevel form : String) :
    Setup × Except Fault Unit :=
  let chosen := (level.filter fun name => !name.isEmpty).getD defaultLevel
  let name := String.ofList (Text.upper chosen.toList)
  match level? name with
  | some number => (⟨number, [Form.ofName form], 30⟩, .ok ())
  | none => (setup, .error (.unknownLevel name))

/-- The logger of a component. -/
def loggerName (component : String) : String := "flight_telemetry." ++ component

end FlightStream.Log
