import Metering.Backfill.Chunks
import Metering.Program
import Metering.Query.Plan

/-!
Moving a meter onto the table of numbers, one transition at a time. First the cutover is fixed a little
ahead; then the chunks from the earliest stored event up to the cutover are planned; then they are
imported one by one, each after it has ended; some time after the cutover the table is ready.

A step starts from the stored progress, does one transition and stores what came of it. Work is never
done twice at the same time: a step claims its meter first and gives way when another has it. A step
that fails leaves the stored progress as it was.
-/
namespace Metering

structure BackfillSettings where
  /-- How far ahead the cutover is fixed. -/
  cutoverDelay : Span
  /-- How long after the cutover the table is taken to be complete. -/
  settleDelay : Span
deriving DecidableEq, Repr

namespace BackfillSettings

def default : BackfillSettings := ⟨Span.seconds 60, Span.seconds 600⟩

/-- How far back the import reaches when nothing is stored yet. -/
def fallback : Span := Span.hours 24

def cutover (s : BackfillSettings) (now : Instant) : Instant :=
  (now + s.cutoverDelay).truncateToSecond

/-- The start of the import when nothing is stored yet. -/
def fallbackStart (cutover now : Instant) : Instant :=
  (min (cutover - fallback) (now - fallback)).truncateToSecond

end BackfillSettings

inductive StepAction where
  | initialized (cutover : Instant)
  | planned (earliest : Instant) (chunks : Nat)
  | imported (chunk : Period)
  | ready
  | waiting (time : Instant)
  | outOfBudget
  | busy
  | unsupported
deriving DecidableEq, Repr

structure StepOutcome where
  /-- The number of transitions made. -/
  consumed : Nat
  /-- No further steps are needed. -/
  done : Bool
  action : StepAction
deriving DecidableEq, Repr

/-- What a step needs from the registry, from the database and from other steps. -/
inductive BackfillRequest where
  /-- Whether the meter was free; it is taken then. -/
  | claim (space id : String)
  | release (space id : String)
  /-- The meter as the registry has it. -/
  | stored (space id : String)
  /-- The earliest instant at which a selected event was stored. -/
  | earliest (selection : Selection)
  /-- Replaces a chunk of the table of numbers. -/
  | copy (chunk : ChunkImport)
  | save (space id : String) (progress : Progress)

def BackfillRequest.Answer : BackfillRequest → Type
  | claim .. => Bool
  | release .. => Unit
  | stored .. => Except StoreError Meter
  | earliest _ => Except StoreError (Option Instant)
  | copy _ => Except StoreError Unit
  | save .. => Except StoreError Unit

abbrev Backfilling (α : Type) := Program BackfillRequest BackfillRequest.Answer α

namespace Progress

def withCutover (p : Progress) (cutover : Instant) : Progress := { p with cutover := some cutover }

def withPlan (p : Progress) (earliest : Instant) (chunks : List Period) : Progress :=
  { p with earliest := some earliest, pending := chunks }

def withoutFirstChunk (p : Progress) : Progress := { p with pending := p.pending.drop 1 }

def complete (p : Progress) : Progress := { p with ready := true }

end Progress

/-- What one step comes to: a transition to new progress, or none. -/
inductive StepResult where
  | moved (progress : Progress) (action : StepAction)
  | stayed (action : StepAction) (done : Bool)

namespace Backfill

/-- The transition that fits the stored progress. -/
def transition (s : BackfillSettings) (m : Meter) (p : Progress) (now : Instant) :
    Backfilling (Except Error StepResult) :=
  match p.cutover, p.earliest, p.pending with
  | none, _, _ =>
    let cutover := s.cutover now
    .done (.ok (.moved (p.withCutover cutover) (.initialized cutover)))
  | some cutover, none, _ =>
    .ask (.earliest m.events) fun
      | .error e => .done (.error (.store e))
      | .ok found =>
        let earliest := found.getD (BackfillSettings.fallbackStart cutover now)
        let chunks := dailyChunks earliest.startOfDay cutover
        .done (.ok (.moved (p.withPlan earliest chunks) (.planned earliest chunks.length)))
  | some cutover, some _, chunk :: _ =>
    if now < chunk.stop then .done (.ok (.stayed (.waiting chunk.stop) false))
    else
      match ChunkImport.make m chunk cutover with
      | .error e => .done (.error e)
      | .ok chunkImport => .ask (.copy chunkImport) fun
        | .error e => .done (.error (.store e))
        | .ok () => .done (.ok (.moved p.withoutFirstChunk (.imported chunk)))
  | some cutover, some _, [] =>
    let settled := cutover + s.settleDelay
    if now < settled then .done (.ok (.stayed (.waiting settled) false))
    else .done (.ok (.moved p.complete .ready))

/-- Stores what a transition came to. -/
def settle (m : Meter) : Except Error StepResult → Backfilling (Meter × Except Error StepOutcome)
  | .error e => .done (m, .error e)
  | .ok (.stayed action done) => .done (m, .ok ⟨0, done, action⟩)
  | .ok (.moved p action) => .ask (.save m.space m.id p) fun
    | .error e => .done (m, .error (.store e))
    | .ok () => .done ({ m with progress := some p }, .ok ⟨1, p.ready, action⟩)

/-- A step of a meter that has been claimed. -/
def advance (s : BackfillSettings) (m : Meter) (now : Instant) :
    Backfilling (Meter × Except Error StepOutcome) :=
  .ask (.stored m.space m.id) fun
    | .error e => .done (m, .error (.store e))
    | .ok stored =>
      let m := { m with progress := stored.progress }
      let p := m.progress.getD .initial
      if p.ready then .done (m, .ok ⟨0, true, .ready⟩)
      else (transition s m p now).bind (settle m)

/--
At most one transition. The definition that the step is given comes back with the progress found in the
registry, or with the new one. That a table is ready stays true, so it is believed without asking.
-/
def step (s : BackfillSettings) (m : Meter) (budget : Nat) (now : Instant) :
    Backfilling (Meter × Except Error StepOutcome) :=
  if ¬ m.aggregation.isNumeric then .done (m, .ok ⟨0, true, .unsupported⟩)
  else if m.progress.any Progress.ready then .done (m, .ok ⟨0, true, .ready⟩)
  else if budget = 0 then .done (m, .ok ⟨0, false, .outOfBudget⟩)
  else .ask (.claim m.space m.id) fun
    | false => .done (m, .ok ⟨0, false, .busy⟩)
    | true => (advance s m now).bind fun result =>
        .ask (.release m.space m.id) fun _ => .done result

/-- Steps until the budget is used up, the table is ready, or there is something to wait for. -/
def runFrom (s : BackfillSettings) (now : Instant) (consumed : Nat) :
    Nat → Meter → Backfilling (Meter × Except Error StepOutcome)
  | 0, m => (step s m 0 now).bind fun
    | (m, .error e) => .done (m, .error e)
    | (m, .ok outcome) => .done (m, .ok { outcome with consumed := consumed + outcome.consumed })
  | budget + 1, m => (step s m (budget + 1) now).bind fun
    | (m, .error e) => .done (m, .error e)
    | (m, .ok outcome) =>
      if outcome.done ∨ outcome.consumed = 0 then
        .done (m, .ok { outcome with consumed := consumed + outcome.consumed })
      else runFrom s now (consumed + 1) budget m

def run (s : BackfillSettings) (m : Meter) (budget : Nat) (now : Instant) :
    Backfilling (Meter × Except Error StepOutcome) :=
  runFrom s now 0 budget m

end Backfill

end Metering
