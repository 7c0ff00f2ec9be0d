import Metering.Calendar.Date

/-!
Instants as a count of nanoseconds from 1 January 1970 UTC, lengths of time, and half-open periods.
The count is unbounded; `Instant.InRange` says which instants the calendar of years -262143 to
262142 holds, and only those are read from texts.
-/
namespace Metering

/-- A signed length of time in nanoseconds. -/
structure Span where
  nanos : Int
deriving DecidableEq, Repr

namespace Span

def microseconds (n : Int) : Span := ⟨n * 1000⟩
def seconds (n : Int) : Span := ⟨n * 1000000000⟩
def minutes (n : Int) : Span := seconds (n * 60)
def hours (n : Int) : Span := seconds (n * 3600)
def days (n : Int) : Span := seconds (n * 86400)

/-- The most whole seconds in a span whose milliseconds fit 64 bits. -/
def maxSeconds : Int := 9223372036854775

/-- A span of whole seconds, unless it is longer than any that is allowed. -/
def seconds? (n : Int) : Option Span :=
  if -maxSeconds ≤ n ∧ n ≤ maxSeconds then some (seconds n) else none

/-- Whole seconds, toward zero. -/
def wholeSeconds (s : Span) : Int := s.nanos.tdiv 1000000000

instance : LE Span := ⟨fun a b => a.nanos ≤ b.nanos⟩
instance : LT Span := ⟨fun a b => a.nanos < b.nanos⟩
instance (a b : Span) : Decidable (a ≤ b) := inferInstanceAs (Decidable (a.nanos ≤ b.nanos))
instance (a b : Span) : Decidable (a < b) := inferInstanceAs (Decidable (a.nanos < b.nanos))

theorem le_iff {a b : Span} : a ≤ b ↔ a.nanos ≤ b.nanos := Iff.rfl
theorem lt_iff {a b : Span} : a < b ↔ a.nanos < b.nanos := Iff.rfl

end Span

@[ext] structure Instant where
  nanos : Int
deriving DecidableEq, Repr, Inhabited

namespace Instant

instance : LE Instant := ⟨fun a b => a.nanos ≤ b.nanos⟩
instance : LT Instant := ⟨fun a b => a.nanos < b.nanos⟩
instance (a b : Instant) : Decidable (a ≤ b) := inferInstanceAs (Decidable (a.nanos ≤ b.nanos))
instance (a b : Instant) : Decidable (a < b) := inferInstanceAs (Decidable (a.nanos < b.nanos))
instance : Min Instant := ⟨fun a b => if a ≤ b then a else b⟩
instance : Max Instant := ⟨fun a b => if a ≤ b then b else a⟩
instance : HAdd Instant Span Instant := ⟨fun t d => ⟨t.nanos + d.nanos⟩⟩
instance : HSub Instant Span Instant := ⟨fun t d => ⟨t.nanos - d.nanos⟩⟩

theorem le_iff {a b : Instant} : a ≤ b ↔ a.nanos ≤ b.nanos := Iff.rfl
theorem lt_iff {a b : Instant} : a < b ↔ a.nanos < b.nanos := Iff.rfl
@[simp] theorem nanos_add (t : Instant) (d : Span) : (t + d).nanos = t.nanos + d.nanos := rfl
@[simp] theorem nanos_sub (t : Instant) (d : Span) : (t - d).nanos = t.nanos - d.nanos := rfl

def epoch : Instant := ⟨0⟩

def ofSeconds (s : Int) : Instant := ⟨s * 1000000000⟩

/-- The second that holds an instant. -/
def second (t : Instant) : Int := t.nanos / 1000000000

/-- The microsecond that holds an instant. -/
def micros (t : Instant) : Int := t.nanos / 1000

/-- The start of the microsecond that holds an instant. -/
def microsecondStart (t : Instant) : Instant := ⟨t.micros * 1000⟩

/-- The first second of the year −9999, and the first one after the year 9999. -/
def rowYears : Instant × Instant := (ofSeconds (-377705116800), ofSeconds 253402300800)

/-- An instant as a database server is sent it: to the microsecond, and 1 January 1970 for years that
four digits cannot tell. -/
def rowInstant (t : Instant) : Instant :=
  let m := t.microsecondStart
  if rowYears.1 ≤ m ∧ m < rowYears.2 then m else epoch

/-- The day, counted from 1 January 1970, that holds an instant in UTC. -/
def dayNumber (t : Instant) : Int := t.nanos / 86400000000000

def ofDayNumber (n : Int) : Instant := ⟨n * 86400000000000⟩

/-- Midnight UTC of the day that holds an instant. -/
def startOfDay (t : Instant) : Instant := ofDayNumber t.dayNumber

/-- The first instant of the calendar. -/
def first : Instant := ofDayNumber (Calendar.yearStart (-262143))

/-- The first instant after the calendar. -/
def afterLast : Instant := ofDayNumber (Calendar.yearStart 262143)

def InRange (t : Instant) : Prop := first ≤ t ∧ t < afterLast

instance (t : Instant) : Decidable t.InRange := inferInstanceAs (Decidable (_ ∧ _))

/-- The instant of a count of microseconds, or 1 January 1970 where the calendar does not hold it. -/
def ofMicros (n : Int) : Instant :=
  if (⟨n * 1000⟩ : Instant).InRange then ⟨n * 1000⟩ else epoch

/--
The start of the second that holds an instant. An instant whose count of nanoseconds does not fit
64 bits is left as it is.
-/
def truncateToSecond (t : Instant) : Instant :=
  if -9223372036854775808 ≤ t.nanos ∧ t.nanos ≤ 9223372036854775807 then
    ofSeconds t.second
  else t

end Instant

/-- The half-open range of time from `start` up to `stop`. -/
structure Period where
  start : Instant
  stop : Instant
deriving DecidableEq, Repr

namespace Period

instance : Membership Instant Period := ⟨fun p t => p.start ≤ t ∧ t < p.stop⟩

instance (t : Instant) (p : Period) : Decidable (t ∈ p) :=
  inferInstanceAs (Decidable (p.start ≤ t ∧ t < p.stop))

end Period

end Metering
