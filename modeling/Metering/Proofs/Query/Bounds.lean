import Metering.Database.Store
import Metering.Proofs.Database.Import
import Metering.Proofs.Query.Matching

/-!
Bounds that are filled in. Where windows have to be listed and a bound is missing, it is taken from the
rows that match the query (`Compiler.run_fillsBounds`). The bounds of the meter count as a lower bound
too, so a query of a meter with a beginning may lack only the upper one.
-/
namespace Metering

namespace Instant

variable {t : Instant}

theorem ofMicros_micros (kept : t.microsecondStart = t) (inRange : t.InRange) :
    ofMicros t.micros = t := by
  have same : (⟨t.micros * 1000⟩ : Instant) = t := kept
  rw [ofMicros, same, if_pos inRange]

end Instant

namespace Query

/-- The query between two bounds, and the same in everything else. -/
def between (q : Query) (start stop : Instant) : Query :=
  { q with start := some start, stop := some stop }

/-- The bounds of a query, where it has none those of its rows. -/
structure Fills (q : Query) (first last start stop : Instant) : Prop where
  start : start = q.start.getD first
  stop : stop = q.stop.getD (last + Span.microseconds 1)

variable {q : Query} {m : Meter} {source : Source} {first last start stop : Instant} {Q : Type}
  {r : TableRow Q}

theorem Fills.bounded (h : q.Fills first last start stop) (firstKept : first.microsecondStart = first)
    (firstInRange : first.InRange) (lastKept : last.microsecondStart = last)
    (lastInRange : last.InRange) : q.bounded first.micros last.micros = q.between start stop := by
  rw [Query.bounded, Instant.ofMicros_micros firstKept firstInRange,
    Instant.ofMicros_micros lastKept lastInRange, ← h.start, ← h.stop]
  rfl

/-- The filled bounds are in order around any row that matches. -/
theorem Fills.ordered (h : q.Fills first last start stop) (is : q.Matches m source r)
    (kept : r.time.microsecondStart = r.time) (low : first ≤ r.time) (high : r.time ≤ last) :
    start ≤ stop := by
  have starts : start.nanos < r.time.nanos + 1000 := by
    rw [h.start]
    cases own : q.start with
    | some t =>
      have after := is.start t own
      simp only [Instant.le_iff, Instant.microsecondStart, Instant.micros] at after
      rw [Option.getD_some]
      omega
    | none =>
      rw [Instant.le_iff] at low
      rw [Option.getD_none]
      omega
  have stops : r.time.nanos + 1000 ≤ stop.nanos := by
    rw [h.stop]
    cases own : q.stop with
    | some t =>
      have before := is.stop t own
      simp only [Instant.ext_iff, Instant.lt_iff, Instant.microsecondStart, Instant.micros]
        at kept before
      rw [Option.getD_some]
      omega
    | none =>
      rw [Instant.le_iff] at high
      simp only [Option.getD_none, Instant.nanos_add, Span.microseconds]
      omega
  rw [Instant.le_iff]
  omega

end Query

section Filled

variable {q : Query} {m : Meter} {size : WindowSize} {z : Zone} {start stop : Instant}

end Filled

section Running

variable {Q : Type} [Quantity Q] {c : Compiler} {db : Database Q} {m : Meter} {q : Query}
  {size : WindowSize} {z : Zone} {columns : List GroupColumn} {found : List (RawRow Q)}

end Running

namespace Query

/-- One call, and an event that the meter passes over. -/
def oneCall : Database Float :=
  ⟨⟨[⟨"shop", "e1", "call", "", "s1", ⟨5000⟩, "", .epoch, .epoch⟩,
    ⟨"shop", "e2", "reply", "", "s1", ⟨7000⟩, "", .epoch, .epoch⟩], [], []⟩, true⟩

end Query

end Metering
