import FlightStream.CommandLine.Execution

/-!
The program itself. Settings come from the environment; printed metrics go to standard output,
warnings and failures to standard error, and the exit code tells how it went. Files are read
from here, but nothing is reached over a network: the feed and the metrics store are as though
nobody answered.
-/

namespace FlightStream.CommandLine

/-- The variables of the environment that hold settings. -/
def environment : IO (Keyed String String) := do
  let names := Settings.fields.flatMap fun field =>
    [String.ofList (Text.lower field.name.toList), field.name]
  let found ← names.mapM fun name => return (name, ← IO.getEnv name)
  return found.filterMap fun (name, value) => value.map ((name, ·))

/-- What is at a path. -/
def look (path : String) : IO Feed.Replay.Place :=
  try return .file (← IO.FS.readBinFile path).toList
  catch
    | .noFileOrDirectory .. => return .missing
    | .inappropriateType .. => return .directory
    | other => throw other

/-- What a request for the feed comes to where nobody answers. -/
def noFeed : Feed.Poll.Page := ⟨.failed .connect "no network", true⟩

/-- A network on which nobody answers. -/
def noNetwork : Graphite.Simulation := { connect := some ⟨.refused, "no network"⟩ }

/-- The world as far as a command needs it. -/
def surroundings : Option Command → IO World
  | some (.replay path _ _) => do
    let place ← look (normalPath path)
    return ⟨fun _ => place, [], noNetwork⟩
  | _ => return ⟨fun _ => .missing, [noFeed], noNetwork⟩

/-- Tells what a command came to, and gives the exit code. -/
def tell : Outcome → IO UInt32
  | .unusable => do
    IO.eprintln "Usage: encode NAME TIMESTAMP VALUE | replay PATH [OPTIONS] | run [OPTIONS]"
    return 2
  | .text output exitCode => do
    IO.print output
    return exitCode.toUInt32
  | .job report => do
    for line in report.printed do
      IO.println line
    for (_, messages) in report.warnings do
      for message in messages do
        IO.eprintln message
    match report.raised with
    | none => return 0
    | some fault => do
      IO.eprintln (fault.kind ++ ": " ++ fault.message)
      return 1

end FlightStream.CommandLine

open FlightStream in
/-- Does what the arguments ask for. -/
def main (arguments : List String) : IO UInt32 := do
  match Settings.load (← CommandLine.environment) [] with
  | .error flaws =>
    for flaw in flaws do
      IO.eprintln (flaw.field ++ ": " ++ flaw.issue.name)
    return 1
  | .ok settings =>
    let world ← CommandLine.surroundings (CommandLine.command? settings arguments)
    CommandLine.tell (CommandLine.run settings world arguments)
