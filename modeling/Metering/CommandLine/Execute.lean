import Metering.CommandLine.Invocation
import Metering.Config.Load
import Metering.Deployment
import Metering.Json.Writer

/-!
Carrying out commands. The meters of the configuration are put into the registry first; a command then
comes to lines of text or to a failure.
-/
namespace Metering

/-- Why the program ends without having done what it was asked to. -/
inductive Failure where
  | config (e : ConfigError)
  | seeding (slug : String) (e : StoreError)
  | loading (e : StoreError)
  | request (e : Error)

def Failure.message : Failure → String
  | config e => e.message
  | seeding slug _ => "Failed to seed meter '" ++ slug ++ "'"
  | loading _ => "Failed to load meter definitions"
  | request e => e.message

namespace Deployment

/-- Puts meters into the registry one after another. -/
def seed : List Meter → Running Float (Except Failure Unit)
  | [] => return .ok ()
  | m :: ms => do
    match ← answerRegistry (.put m) with
    | .ok () => seed ms
    | .error e => return .error (.seeding m.slug e)

/-- A new deployment with the meters of a configuration. -/
def launch (c : Config) : Except Failure (Deployment Float) :=
  let (outcome, d) := ((do
    match ← seed c.meters with
    | .error e => return .error e
    | .ok () =>
      match ← refresh with
      | .ok _ => return .ok ()
      | .error e => return .error (.loading e)) : Running Float (Except Failure Unit)).run
    (ofRegistry (.table []))
  outcome.map fun () => d

end Deployment

def Config.service (c : Config) : Service := ⟨⟨c.analytics, c.maxFilterDepth⟩, c.cache⟩

namespace StepAction

def periodText (p : Period) : String :=
  "Period \x7b from: " ++ p.start.toText ++ ", to: " ++ p.stop.toText ++ " \x7d"

/-- An action as a text. -/
def text : StepAction → String
  | initialized cutover => "Initialized \x7b cutover: " ++ cutover.toText ++ " \x7d"
  | planned earliest chunks =>
    "Planned \x7b min_time: " ++ earliest.toText ++ ", chunks: " ++ toString chunks ++ " \x7d"
  | imported chunk => "Imported \x7b chunk: " ++ periodText chunk ++ " \x7d"
  | ready => "Ready"
  | waiting time => "Waiting \x7b until: " ++ time.toText ++ " \x7d"
  | outOfBudget => "OutOfBudget"
  | busy => "Busy"
  | unsupported => "Unsupported"

end StepAction

def StepOutcome.text (o : StepOutcome) : String :=
  "consumed=" ++ toString o.consumed ++ " done=" ++ toString o.done ++ " last=" ++ o.action.text

namespace CommandLine.Command

open Deployment

/-- What a command comes to at an instant; to serve is to do one round of maintenance. -/
def execute (c : Config) (now : Instant) :
    Command → Running Float (Except Failure (List String))
  | .serve => do
    if c.maintenance.enabled then
      let _ ← tick c.backfill c.maintenance.stepsPerTick now
      return .ok []
    else return .ok []
  | .query space meter q => do
    match ← Deployment.query c.service space meter q now with
    | .ok rows => return .ok [(Json.Value.array (rows.map Row.toValue)).indentedText]
    | .error e => return .error (.request e)
  | .subjects space meter start stop => do
    match ← Deployment.subjects space meter start stop with
    | .ok names => return .ok names
    | .error e => return .error (.request e)
  | .backfillStep space meter budget => do
    match ← (Snapshot.resolve space meter).run answerMeters with
    | .error e => return .error (.request e)
    | .ok m =>
      match ← backfill c.backfill space meter budget now with
      | .ok o => return .ok [m.slug ++ ": " ++ o.text]
      | .error e => return .error (.request e)

end CommandLine.Command

end Metering
