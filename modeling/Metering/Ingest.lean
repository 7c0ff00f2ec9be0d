import Metering.Meter.Extract
import Metering.Registry.Snapshot
import Metering.Retry

/-!
Live ingestion: the entries that stored events make in the table of numbers, written in one batch. A
meter takes part from its cutover on; events stored before it are left to the import. A write that
fails for a passing reason is repeated.
-/
namespace Metering

/-- Whether live ingestion writes the entry of an event. -/
def Meter.streams (m : Meter) (e : Event) : Bool :=
  m.aggregation.isNumeric &&
    (m.progress.bind Progress.cutover).any fun cutover => cutover ≤ e.storedAt

/-- The entries of one event, in the order of the meters. -/
def Snapshot.entriesOf (s : Snapshot) (e : Event) : List (Entry Float) :=
  (s.forEvents e.space e.type).filterMap fun m => if m.streams e then m.measure? e else none

def Snapshot.entries (s : Snapshot) (events : List Event) : List (Entry Float) :=
  events.flatMap s.entriesOf

inductive IngestRequest where
  | insert (entries : List (Entry Float))
  /-- A pause, in nanoseconds. -/
  | pause (length : Nat)

def IngestRequest.Answer : IngestRequest → Type
  | insert _ => Except StoreError Unit
  | pause _ => Unit

namespace Ingest

/-- Three attempts, the first pause a tenth of a second. -/
def defaultPolicy : RetryPolicy := .make 3 100000000

/-- Writes a batch of entries, if there are any. -/
def write (policy : RetryPolicy) (entries : List (Entry Float)) :
    Program IngestRequest IngestRequest.Answer (Except Error Nat) :=
  if entries.isEmpty then .done (.ok 0)
  else
    (policy.retry StoreError.isTransient (fun length => .request (IngestRequest.pause length))
        (.request (IngestRequest.insert entries))).bind fun
      | (.ok (), _) => .done (.ok entries.length)
      | (.error e, _) => .done (.error (.store e))

/-- Writes the entries of stored events and answers with their number. -/
def ingest (policy : RetryPolicy) (s : Snapshot) (events : List Event) :
    Program IngestRequest IngestRequest.Answer (Except Error Nat) :=
  write policy (s.entries events)

end Ingest

end Metering
