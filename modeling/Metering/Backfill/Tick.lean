import Metering.Backfill.Step
import Metering.Registry.Snapshot

/-!
The regular pass over all meters of the snapshot. Each gets the same number of steps. New progress is
applied to the snapshot at once; a meter that fails is left for the next pass.
-/
namespace Metering

structure TickSummary where
  meters : Nat
  /-- Transitions made. -/
  steps : Nat
  /-- Meters whose table of numbers answers queries. -/
  ready : Nat
  failed : Nat
deriving DecidableEq, Repr

inductive TickRequest where
  | meters (request : MeterRequest)
  | backfill (request : BackfillRequest)

def TickRequest.Answer : TickRequest → Type
  | meters request => request.Answer
  | backfill request => request.Answer

abbrev Ticking (α : Type) := Program TickRequest TickRequest.Answer α

namespace TickSummary

def empty : TickSummary := ⟨0, 0, 0, 0⟩

/-- The summary with the pass over one meter added. -/
def add (s : TickSummary) : Meter × Except Error StepOutcome → TickSummary
  | (_, .error _) => { s with meters := s.meters + 1, failed := s.failed + 1 }
  | (m, .ok outcome) =>
    ⟨s.meters + 1, s.steps + outcome.consumed, s.ready + (if m.usesNumbers then 1 else 0), s.failed⟩

end TickSummary

namespace Backfill

/-- Applies the progress of a meter to the snapshot if it has changed. -/
def publish (before : Option Progress) : Meter × Except Error StepOutcome → Ticking Unit
  | (_, .error _) => .done ()
  | (m, .ok _) =>
    match m.progress with
    | some p =>
      if m.progress = before then .done ()
      else .ask (.meters (.apply m.space m.id p)) .done
    | none => .done ()

def tickEach (s : BackfillSettings) (stepsPerTick : Nat) (now : Instant) :
    TickSummary → List Meter → Ticking TickSummary
  | summary, [] => .done summary
  | summary, m :: meters =>
    ((run s m stepsPerTick now).via fun r => .ask (.backfill r) .done).bind fun result =>
      (publish m.progress result).bind fun _ =>
        tickEach s stepsPerTick now (summary.add result) meters

/-- One pass over the meters that the snapshot holds when it begins. -/
def tick (s : BackfillSettings) (stepsPerTick : Nat) (now : Instant) : Ticking TickSummary :=
  .ask (.meters .snapshot) fun meters => tickEach s stepsPerTick now .empty meters

end Backfill

end Metering
