import FlightStream.Number.Loose
import FlightStream.Settings

/-!
Reading the arguments of the command line. Options may stand anywhere among the arguments until
two dashes end them; a value may be joined to its option by an equals sign; of an option that
is given twice the later value counts.
-/

namespace FlightStream.CommandLine

/-- What an option takes: a value, or nothing, since it switches something on or off. -/
inductive Form
  | value
  | switch (on : Bool)
  deriving DecidableEq, Repr

/-- An option: how it is written, what it sets and what it takes. -/
structure Flag where
  written : String
  target : String
  form : Form
  deriving DecidableEq, Repr

/-- What was set to what. -/
inductive Setting
  | text (value : String)
  | truth (value : Bool)
  deriving DecidableEq, Repr

/-- The arguments taken apart: those that are no options, in order, and what was set. -/
structure Parsed where
  arguments : List String
  settings : Keyed String Setting

namespace Parsed

/-- An argument before the others. -/
def withArgument (p : Parsed) (argument : String) : Parsed :=
  { p with arguments := argument :: p.arguments }

/-- A setting before the others, which counts unless it is set again. -/
def withSetting (p : Parsed) (target : String) (setting : Setting) : Parsed :=
  { p with settings :=
      if (p.settings.find? target).isSome then p.settings else p.settings.set target setting }

/-- The text that was set. -/
def text? (p : Parsed) (target : String) : Option String :=
  match p.settings.find? target with
  | some (.text value) => some value
  | _ => none

/-- The truth value that was set. -/
def truth? (p : Parsed) (target : String) : Option Bool :=
  match p.settings.find? target with
  | some (.truth value) => some value
  | _ => none

end Parsed

/-- An argument divided at its first equals sign, if it has one. -/
def divide (argument : String) : String × Option String :=
  let cs := argument.toList
  let name := String.ofList (cs.takeWhile (· ≠ '='))
  match cs.dropWhile (· ≠ '=') with
  | [] => (name, none)
  | _ :: value => (name, some (String.ofList value))

/-- Whether an argument is meant as an option. -/
def isOption (argument : String) : Bool :=
  match argument.toList with
  | '-' :: _ :: _ => true
  | _ => false

/-- Takes the arguments apart; an option that is not known, that lacks its value or that has
one too many makes them unusable. -/
def parse (flags : List Flag) : List String → Option Parsed
  | [] => some ⟨[], []⟩
  | "--" :: rest => some ⟨rest, []⟩
  | argument :: rest =>
    if isOption argument then
      let (name, joined) := divide argument
      match flags.find? fun flag => flag.written == name with
      | none => none
      | some flag =>
        match flag.form, joined with
        | .switch on, none => (parse flags rest).map (·.withSetting flag.target (.truth on))
        | .switch _, some _ => none
        | .value, some value => (parse flags rest).map (·.withSetting flag.target (.text value))
        | .value, none =>
          match rest with
          | [] => none
          | value :: rest => (parse flags rest).map (·.withSetting flag.target (.text value))
    else (parse flags rest).map (·.withArgument argument)

/-! ## Commands -/

/-- Where metrics go: to standard output, or to a receiver. -/
inductive Destination
  | console
  | graphite (host : String) (port : Int)
  deriving DecidableEq, Repr

/-- What the program can be asked to do. -/
inductive Command
  | encode (name : String) (timestamp : Int) (value : Number)
  | replay (path : String) (delay : Float) (destination : Destination)
  | run (url : String) (intervalMs : Int) (destination : Destination) (admin : Bool)

/-- An option with a value. -/
def valued (target : String) : Flag := ⟨"--" ++ target, target, .value⟩

/-- The two options that switch something on and off. -/
def switches (target : String) : List Flag :=
  [⟨"--" ++ target, target, .switch true⟩, ⟨"--no-" ++ target, target, .switch false⟩]

/-- The options for where metrics go. -/
def destinationFlags : List Flag :=
  [valued "graphite-host", valued "graphite-port"] ++ switches "dry-run"

/-- A value that may be set, read by a rule; none if it is set and cannot be read. -/
def readOr {α : Type} (p : Parsed) (target : String) (default : α)
    (rule : String → Option α) : Option α :=
  match p.text? target with
  | none => some default
  | some text => rule text

/-- The whole number that a loosely written text holds. -/
def int? (text : String) : Option Int := (Loose.int text).toOption

/-- Where metrics go. -/
def destination? (s : Settings) (p : Parsed) : Option Destination := do
  let port ← readOr p "graphite-port" s.graphitePort int?
  let host := (p.text? "graphite-host").getD s.graphiteHost
  return if (p.truth? "dry-run").getD false then .console else .graphite host port

/-- The arguments of the command that prints a frame. -/
def encode? (arguments : List String) : Option Command := do
  let p ← parse [] arguments
  match p.arguments with
  | [name, timestamp, value] => return .encode name (← int? timestamp) (← Loose.number? value)
  | _ => none

/-- The arguments of the command that replays a file. No path holds a null character. -/
def replay? (s : Settings) (arguments : List String) : Option Command := do
  let p ← parse (valued "delay" :: destinationFlags) arguments
  let delay ← readOr p "delay" 0 Loose.float?
  let destination ← destination? s p
  match p.arguments with
  | [path] => if path.contains '\x00' then none else return .replay path delay destination
  | _ => none

/-- The arguments of the command that polls the live feed. -/
def run? (s : Settings) (arguments : List String) : Option Command := do
  let flags := [valued "url", valued "poll-interval-ms"] ++ destinationFlags ++ switches "admin"
  let p ← parse flags arguments
  let interval ← readOr p "poll-interval-ms" s.pollIntervalMs int?
  let destination ← destination? s p
  match p.arguments with
  | [] =>
    return .run ((p.text? "url").getD s.feedUrl) interval destination
      ((p.truth? "admin").getD s.adminEnabled)
  | _ => none

/-- The command that arguments ask for; none if they are unusable. -/
def command? (s : Settings) : List String → Option Command
  | "--" :: name :: rest | name :: rest =>
    match name with
    | "encode" => encode? rest
    | "replay" => replay? s rest
    | "run" => run? s rest
    | _ => none
  | [] => none

/-! ## Paths -/

/-- The parts of a path between slashes. -/
def pathParts (path : String) : List (List Char) :=
  (path.toList.splitOn '/').filter fun part => !part.isEmpty && part != ['.']

/-- The start of a path from the root: two slashes stand for a root of their own, and more of
them for the same as one. -/
def rootOf (path : String) : String :=
  match (path.toList.takeWhile (· == '/')).length with
  | 0 => ""
  | 2 => "//"
  | _ => "/"

/-- The path of some parts under a root. -/
def joinParts (root : String) (parts : List (List Char)) : String :=
  let written := root ++ String.ofList (['/'].intercalate parts)
  if written.isEmpty then "." else written

/-- A path without needless slashes and dots. -/
def normalPath (path : String) : String := joinParts (rootOf path) (pathParts path)

/-- The greatest number of bytes in a part of a path. -/
def partLimit : Nat := 255

/-- The greatest number of bytes in a path. -/
def pathLimit : Nat := 4095

/-- The path to the first part that is too long, if there is one. -/
def parentOfLongPart? (path : String) : Option String :=
  let parts := pathParts path
  let short := parts.takeWhile fun part => (String.ofList part).utf8ByteSize ≤ partLimit
  if short.length = parts.length then none else some (joinParts (rootOf path) short)

end FlightStream.CommandLine
