import Metering.Proofs.Backfill.Chunks
import Metering.Proofs.Backfill.Engine
import Metering.Proofs.Ingest.Live

/-!
An engine in its surroundings: a clock that never goes back, events that are stored as they come and
then passed to live ingestion, refreshes of the snapshot that ingestion reads, and a database that every
step of the engine may fail to reach.

Storing an event and passing it on are two moves, and so are reading the registry and putting what was
read in the snapshot's place; anything may happen in between.
-/
namespace Metering

namespace Backfill

/-- The first instant of the year 2262. -/
def horizon : Instant := .ofSeconds 9214646400

structure World where
  clock : Instant
  snapshot : Snapshot
  /-- What refreshes have read and not yet put in the snapshot's place. -/
  loads : List (List Meter)
  database : Database Float
  /-- Events that are stored but not yet passed on. -/
  waiting : List Event
  /-- Events that have been passed on, each with the cutover that the snapshot held then. -/
  passed : List (Event × Option Instant)

namespace World

/-- All events stored so far, each with the cutover that the snapshot held when it was passed on. -/
def readings (w : World) : List (Event × Option Instant) :=
  w.passed ++ w.waiting.map fun e => (e, none)

def events (w : World) : List Event := w.readings.map Prod.fst

/-- The rows that live ingestion has left for a meter. -/
def streamed (w : World) (m : Meter) : List (Entry Float) :=
  w.passed.filterMap fun r => m.streamed? r.2 r.1

/-- The world with one more event, which waits to be passed on. -/
def store (w : World) (e : Event) : World :=
  { w with database := (w.database.insertEvents [e]).2, waiting := w.waiting ++ [e] }

/-- The world after one of the waiting events has been passed to live ingestion. -/
def pass (w : World) (m : Meter) (policy : RetryPolicy) (i : Nat) (e : Event) : World :=
  { w with
    database :=
      ((Ingest.ingest policy w.snapshot [e]).run Database.answerIngest w.database).2
    waiting := w.waiting.eraseIdx i
    passed := w.passed ++ [(e, w.snapshot.cutover? m)] }

/-- The world after a refresh has put what it had read in the snapshot's place. -/
def refresh (w : World) (i : Nat) (loaded : List Meter) : World :=
  { w with snapshot := w.snapshot.replaced loaded, loads := w.loads.eraseIdx i }

end World

structure Site where
  engine : Engine
  world : World

namespace Site

/-- The stored progress of a meter. -/
def progress (σ : Site) (m : Meter) : Progress := σ.engine.progress (keyOf m)

end Site

/--
How a database may answer a step. A failure may come before the writing or after it.
-/
def MayAnswer (db : Database Float) :
    (r : BackfillRequest) → r.Answer → Database Float → Prop
  | .earliest s, answer, after =>
    after = db ∧ (answer = db.earliestStored s ∨ ∃ e, answer = .error e)
  | .copy i, answer, after =>
    (after = (db.importChunk i).2 ∧ (answer = (db.importChunk i).1 ∨ ∃ e, answer = .error e)) ∨
      (after = db ∧ ∃ e, answer = .error e)
  | .claim .., _, after => after = db
  | .release .., _, after => after = db
  | .stored .., _, after => after = db
  | .save .., _, after => after = db

namespace Site

/-- One move around a meter. Other meters may take their steps as well. -/
inductive Next (s : BackfillSettings) (m : Meter) (σ : Site) : Site → Prop
  | wait {later : Instant} (after : σ.world.clock ≤ later) (inTime : later < horizon) :
      Next s m σ { σ with world := { σ.world with clock := later } }
  | store {e : Event} (stamped : e.storedAt = σ.world.clock) :
      Next s m σ { σ with world := σ.world.store e }
  | pass (policy : RetryPolicy) {i : Nat} {e : Event} (found : σ.world.waiting[i]? = some e) :
      Next s m σ { σ with world := σ.world.pass m policy i e }
  | load {loaded : List Meter} (listed : loaded.filter (Snapshot.isNamed m.space m.id) =
        [{ m with progress := σ.engine.stored (keyOf m) }]) :
      Next s m σ { σ with world := { σ.world with loads := σ.world.loads ++ [loaded] } }
  | refresh {i : Nat} {loaded : List Meter} (found : σ.world.loads[i]? = some loaded) :
      Next s m σ { σ with world := σ.world.refresh i loaded }
  | step (n : Meter) (budget : Nat) (same : keyOf n = keyOf m → SameDefinition m n) :
      Next s m σ { σ with engine := { σ.engine with
        tasks := σ.engine.tasks ++
          [⟨n, σ.world.clock, .outside, step s n budget σ.world.clock⟩] } }
  | run (n : Meter) (budget : Nat) (same : keyOf n = keyOf m → SameDefinition m n) :
      Next s m σ { σ with engine := { σ.engine with
        tasks := σ.engine.tasks ++
          [⟨n, σ.world.clock, .outside, run s n budget σ.world.clock⟩] } }
  | answer {i : Nat} {t : Task} {r : BackfillRequest}
      {next : r.Answer → Backfilling (Meter × Except Error StepOutcome)} {a : r.Answer}
      {engine : Engine} {database : Database Float} (found : σ.engine.tasks[i]? = some t)
      (asks : t.rest = .ask r next) (answers : σ.engine.Answers r a engine)
      (may : MayAnswer σ.world.database r a database) :
      Next s m σ {
        engine := { engine with
          tasks := σ.engine.tasks.set i ⟨t.meter, t.now, t.standing.after r a, next a⟩ }
        world := { σ.world with database := database } }

def Reaches (s : BackfillSettings) (m : Meter) : Site → Site → Prop :=
  Relation.ReflTransGen (Next s m)

/-- Where a run begins: without progress, without rows of the meter, with or without events. -/
structure Fresh (m : Meter) (σ : Site) : Prop where
  idle : σ.engine.Idle
  history : σ.engine.history (keyOf m) = []
  clock : .epoch ≤ σ.world.clock ∧ σ.world.clock < horizon
  isOpen : σ.world.database.isOpen = true
  numbers : σ.world.database.tables.numbersOf m = []
  stored : σ.world.database.tables.events.Perm (σ.world.events.map Tables.keepEvent)
  times : ∀ e ∈ σ.world.events, .epoch ≤ e.storedAt ∧ e.storedAt ≤ σ.world.clock
  snapshot : σ.world.snapshot.ListsOnce m ∧ σ.world.snapshot.cutover? m = none
  loads : σ.world.loads = []
  passed : ∀ r ∈ σ.world.passed, r.2 = none

end Site

end Backfill

end Metering
