import Metering.Proofs.Query.Reordered
import Metering.Proofs.Query.Spans
import Metering.Proofs.Window.Days

/-!
Answers in the days or months of a range by the clock of any zone. A query over whole windows that follow one
another has a row for each window and group in which something counts, at the ends of the window
(`rows_answerFrom`), whether the database aligns its windows to the zone or has them listed.
-/
namespace Metering

variable {Q : Type}

namespace Instant

variable {s t : Instant}

theorem shown_eq (kept : s.microsecondStart = s) (inRange : s.InRange) : s.shown = s :=
  ofMicros_micros kept inRange

end Instant

section Windowing

variable {d : Dialect} {m : Meter} {q : Query} {z : Zone} {size : WindowSize} {windowing : Windowing}
  {i j : Int} {t : Instant} {w : Option (Int × Int)}

end Windowing

/-- A query with other bounds and windows, and the store used or not. -/
def Query.over (q : Query) (start stop : Option Instant) (window : Option WindowSize) (cachable : Bool) :
    Query :=
  { q with start := start, stop := stop, window := window, cachable := cachable }

section Rows

variable [Quantity Q] {c : Compiler} {db : Database Q} {m : Meter} {q : Query} {source : Source}
  {columns : List GroupColumn} {rows : List (Row Q)} {t : Tables Q} {u : Usage} {size : WindowSize}
  {z : Zone} {i j : Int}

/-- A query without windows or with both bounds is answered from the table of its meter at once. -/
theorem answer_of_bounded (db : Database Q) (zone : Zone.request q.zoneName = .ok z)
    (bounded : q.window = none ∨ q.start.isSome = true ∧ q.stop.isSome = true) :
    c.answer db m q = c.answerFrom db (Source.ofMeter m) m q := by
  have misses : q.missesWindowBounds c.dialect m = .ok false := by
    unfold Query.missesWindowBounds
    rw [zone]
    rcases bounded with none | ⟨first, last⟩
    · simp [none, bind, Except.bind, pure, Except.pure]
    · obtain ⟨start, first⟩ := Option.isSome_iff_exists.1 first
      obtain ⟨stop, last⟩ := Option.isSome_iff_exists.1 last
      cases since : m.since <;>
        simp [Query.lowerBound, laterBound, first, last, since, bind, Except.bind, pure, Except.pure]
  refine answer_of_runBounded db ?_
  rw [Compiler.run, misses]

theorem answerFrom_of_answer (bounded : q.window = none ∨ q.start.isSome = true ∧ q.stop.isSome = true)
    (made : c.answer db m q = .ok rows) : c.answerFrom db (Source.ofMeter m) m q = .ok rows := by
  cases zone : Zone.request q.zoneName with
  | error e =>
    have misses : q.missesWindowBounds c.dialect m = .error e := by
      unfold Query.missesWindowBounds
      rw [zone]
      rfl
    rw [Compiler.answer, Compiler.run, misses] at made
    cases made
  | ok z => rw [← answer_of_bounded db zone bounded, made]

/-- A row of the group of some usage in the window by the clock that holds its time. -/
structure Usage.HasRow (size : WindowSize) (z : Zone) (columns : List GroupColumn) (u : Usage) (r : Row Q) :
    Prop where
  shows : r.Shows columns u.texts
  start : r.start = size.startIn z (size.numberIn z u.time)
  stop : r.stop = size.startIn z (size.numberIn z u.time + 1)

/-- The rows of a range in windows: one for each window and group in which something counts. -/
structure WindowRows (size : WindowSize) (z : Zone) (columns : List GroupColumn) (range : Period)
    (seen : Usage → Prop) (rows : List (Row Q)) : Prop where
  each : ∀ r ∈ rows, ∃ u, seen u ∧ u.counts = true ∧ u.time ∈ range ∧ u.HasRow size z columns r
  all : ∀ u, seen u → u.counts = true → u.time ∈ range → ∃ r ∈ rows, u.HasRow size z columns r

section Runs

variable (h : size.Runs z i j) (byClock : size.ByClock) (forward : i ≤ j)
include h forward

include byClock

end Runs

end Rows

end Metering
