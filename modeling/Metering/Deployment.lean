import Metering.Backfill.Tick
import Metering.Database.Store
import Metering.Registry.Memory
import Metering.Registry.Table
import Metering.Service

/-!
All parts together: a registry, the snapshot of it, an analytics database, and which meters are being
imported. Every request of the components is answered from this state.
-/
namespace Metering

inductive Registry where
  | memory (meters : MemoryRegistry)
  | table (records : RegistryTable)

def Registry.answer : Registry → (r : RegistryRequest) → r.Answer × Registry
  | memory meters, r =>
    let (a, meters) := MemoryRegistry.answer meters r
    (a, memory meters)
  | table records, r =>
    let (a, records) := RegistryTable.answer records r
    (a, table records)

structure Deployment (Q : Type) where
  registry : Registry
  snapshot : Snapshot
  /-- The meters that a step of the import has taken. -/
  claims : List (String × String)
  database : Database Q

namespace Deployment

variable {Q : Type} [Quantity Q]

def ofRegistry (registry : Registry) : Deployment Q := ⟨registry, [], [], .empty⟩

abbrev Running (Q : Type) := StateM (Deployment Q)

def answerRegistry (r : RegistryRequest) : Running Q r.Answer :=
  modifyGet fun s =>
    let (a, registry) := s.registry.answer r
    (a, { s with registry := registry })

def answerMeters : (r : MeterRequest) → Running Q r.Answer
  | .registry r => answerRegistry r
  | .snapshot => do return (← get).snapshot
  | .replace loaded => modify fun s => { s with snapshot := s.snapshot.replaced loaded }
  | .apply space id p =>
    modify fun s => { s with snapshot := Snapshot.setProgress space id p s.snapshot }

def useDatabase {α : Type} (f : Database Q → α × Database Q) : Running Q α :=
  modifyGet fun s =>
    let (a, db) := f s.database
    (a, { s with database := db })

/-- Takes a meter unless it has been taken. -/
def claim (space id : String) : Running Q Bool :=
  modifyGet fun s =>
    if s.claims.contains (space, id) then (false, s)
    else (true, { s with claims := (space, id) :: s.claims })

def release (space id : String) : Running Q Unit :=
  modify fun s => { s with claims := s.claims.filter fun c => c ≠ (space, id) }

def answerBackfill : (r : BackfillRequest) → Running Q r.Answer
  | .claim space id => claim space id
  | .release space id => release space id
  | .stored space id => answerRegistry (.get space id)
  | .earliest s => do return (← get).database.earliestStored s
  | .copy i => useDatabase fun db => db.importChunk i
  | .save space id p => answerRegistry (.setProgress space id p)

def answerTick : (r : TickRequest) → Running Q r.Answer
  | .meters r => answerMeters r
  | .backfill r => answerBackfill r

def answerService : (r : ServiceRequest Q) → Running Q r.Answer
  | .meters r => answerMeters r
  | .fetch r => do return (← get).database.fetch r
  | .lookup space hash range => do return (← get).database.lookup space hash range
  | .store space hash rows => useDatabase fun db => db.store space hash rows

def answerIngest : (r : IngestRequest) → Running Float r.Answer
  | .insert entries => useDatabase fun db => db.insertNumbers entries
  | .pause _ => return ()

def storeEvents (events : List Event) : Running Q (Except StoreError Unit) :=
  useDatabase fun db => db.insertEvents events

/-- Counts events for the meters of the snapshot. -/
def ingest (policy : RetryPolicy) (events : List Event) : Running Float (Except Error Nat) := do
  (Ingest.ingest policy (← get).snapshot events).run answerIngest

def refresh : Running Q (Except StoreError Nat) := Snapshot.refresh.run answerMeters

def query (service : Service) (space name : String) (q : Query) (now : Instant) :
    Running Q (Except Error (List (Row Q))) :=
  (service.query space name q now).run answerService

/-- The rows of a query over one of the tables, past the stored ones. -/
def queryFrom (c : Compiler) (source : Source) (space name : String) (q : Query) :
    Running Q (Except Error (List (Row Q))) := do
  match ← (Snapshot.resolve space name).run answerMeters with
  | .error e => return .error e
  | .ok m =>
    match c.planFrom source m q with
    | .error e => return .error e
    | .ok plan =>
      match (← get).database.fetch (.rows plan) with
      | .error e => return .error (.store e)
      | .ok rows => return .ok ((Scanner.ofQuery q plan.columns).scan rows)

def subjects (space name : String) (start stop : Option Instant) :
    Running Q (Except Error (List String)) :=
  (Service.subjects space name start stop : Service.Serving Q (List String)).run answerService

/-- Steps of one meter, whose progress the snapshot then takes. -/
def backfill (s : BackfillSettings) (space name : String) (budget : Nat) (now : Instant) :
    Running Q (Except Error StepOutcome) := do
  match ← (Snapshot.resolve space name).run answerMeters with
  | .error e => return .error e
  | .ok m =>
    let (m, outcome) ← (Backfill.run s m budget now).run answerBackfill
    match outcome, m.progress with
    | .ok _, some p => answerMeters (.apply m.space m.id p)
    | _, _ => pure ()
    return outcome

def tick (s : BackfillSettings) (stepsPerTick : Nat) (now : Instant) : Running Q TickSummary :=
  (Backfill.tick s stepsPerTick now).run answerTick

end Deployment

end Metering
