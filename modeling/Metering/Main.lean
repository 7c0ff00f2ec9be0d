import Metering.CommandLine.Execute
import Std.Time.DateTime.Timestamp

/-!
The program: reads its command line, its environment and its configuration, and prints what the
command comes to.
-/
namespace Metering.Main

open CommandLine

/-- The environment variables that stand in for options, as far as they are set. -/
def readEnvironment : IO (List (String × String)) :=
  (sharedParameters.filterMap Parameter.fallback).filterMapM fun name => do
    return (← IO.getEnv name).map fun value => (name, value)

def readFile (path : String) : IO Config.FileContent := do
  match ← (IO.FS.readFile path).toBaseIO with
  | .ok content => return .text content
  | .error (.noFileOrDirectory ..) => return .missing
  | .error _ => return .unreadable

def readClock : IO Instant := do
  return ⟨(← Std.Time.Timestamp.now).toNanosecondsSinceUnixEpoch.val⟩

def usage : List String :=
  ["Usage metering engine", "", "Usage: meterhouse [OPTIONS] [COMMAND]", "", "Commands:",
    "  serve          Run the maintenance daemon (default command)",
    "  query          Query a meter and print the rows as JSON",
    "  subjects       List the subjects that reported usage for a meter",
    "  backfill-step  Advance one meter's numeric table backfill",
    "  help           Print this message or the help of the given subcommand(s)", "", "Options:"] ++
  programGrammar.parameters.map fun p => "      --" ++ p.name

def versionText : String := "meterhouse 0.3.0"

/-- Says why the command line is not carried out. -/
def refuse (e : UsageError) : IO UInt32 := do
  match e with
  | .helpAsked =>
    for line in usage do IO.println line
    return 0
  | .versionAsked =>
    IO.println versionText
    return 0
  | e =>
    IO.eprintln ("error: " ++ e.message)
    return 2

def fail (e : Failure) : IO UInt32 := do
  IO.eprintln ("\nError: " ++ e.message ++ "\n")
  return 1

/-- Does rounds of maintenance, one after each interval. -/
def serve (c : Config) (d : Deployment Float) : IO UInt32 := do
  let mut d := d
  repeat
    let (_, next) := (Command.serve.execute c (← readClock)).run d
    d := next
    IO.sleep (min (c.maintenance.intervalSeconds * 1000) 4294967295).toUInt32
  return 0

def execute (c : Config) (d : Deployment Float) (command : Command) : IO UInt32 := do
  match ((command.execute c (← readClock)).run d).1 with
  | .error e => fail e
  | .ok lines =>
    for line in lines do IO.println line
    return 0

def launch (i : Invocation) : IO UInt32 := do
  let content ← readFile (i.overrides.config.getD Config.defaultPath)
  match Config.load i.overrides fun _ => content with
  | .error e => fail (.config e)
  | .ok c =>
    match Deployment.launch c, i.command with
    | .error e, _ => fail e
    | .ok d, none => serve c d
    | .ok d, some .serve => serve c d
    | .ok d, some command => execute c d command

end Metering.Main

def main (args : List String) : IO UInt32 := do
  let environment ← Metering.Main.readEnvironment
  match Metering.CommandLine.Invocation.read (fun name => environment.lookup name) args with
  | .ok i => Metering.Main.launch i
  | .error e => Metering.Main.refuse e
