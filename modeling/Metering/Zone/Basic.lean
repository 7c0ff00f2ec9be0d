import Metering.Calendar.Instant

/-!
A time zone is an offset from UTC that changes at a list of seconds. `Zone.wall` reads the local
clock at an instant, `Zone.earliest?` finds the first instant at which the clock shows a given time;
in a gap there is none, in a repeated hour there are two. Nothing here assumes how often, by how much
or in which direction a zone changes.
-/
namespace Metering

/-- From the second `second` on, the local clock is `offset` seconds ahead of UTC. -/
structure Zone.Change where
  second : Int
  offset : Int
deriving DecidableEq, Repr

structure Zone where
  name : String
  /-- The offset before the first change. -/
  initial : Int
  /-- In the order of time. -/
  changes : List Zone.Change
deriving DecidableEq, Repr

/-- A reading of a local clock, in nanoseconds from 1 January 1970 on that clock. -/
structure WallTime where
  nanos : Int
deriving DecidableEq, Repr

namespace WallTime

def ofDayNumber (n : Int) : WallTime := ⟨n * 86400000000000⟩

def dayNumber (w : WallTime) : Int := w.nanos / 86400000000000

def date (w : WallTime) : Calendar.Date := Calendar.Date.ofDayNumber w.dayNumber

def ofDate (d : Calendar.Date) : WallTime := ofDayNumber d.dayNumber

/-- The reading with its last `unit` nanoseconds cleared. -/
def floorTo (unit : Int) (w : WallTime) : WallTime := ⟨w.nanos / unit * unit⟩

end WallTime

namespace Zone

/-- The offset in force at a second, given the offset before the changes. -/
def offsetFrom (offset : Int) : List Change → Int → Int
  | [], _ => offset
  | c :: rest, second => if second < c.second then offset else offsetFrom c.offset rest second

def offsetAt (z : Zone) (t : Instant) : Int :=
  offsetFrom z.initial z.changes t.second

/-- What the local clock shows. -/
def wall (z : Zone) (t : Instant) : WallTime :=
  ⟨t.nanos + z.offsetAt t * 1000000000⟩

/-- The instant at which a clock `offset` seconds ahead of UTC shows a time. -/
def shifted (w : WallTime) (offset : Int) : Instant :=
  ⟨w.nanos - offset * 1000000000⟩

/-- The first span of constant offset in which the clock shows the time. -/
def earliestFrom (w : WallTime) (offset : Int) : List Change → Option Instant
  | [] => some (shifted w offset)
  | c :: rest =>
    if (shifted w offset).second < c.second then some (shifted w offset)
    else earliestAfter w c.second c.offset rest
where
  /-- As `earliestFrom`, for a span that starts at `start`. -/
  earliestAfter (w : WallTime) (start offset : Int) : List Change → Option Instant
    | [] => if start ≤ (shifted w offset).second then some (shifted w offset) else none
    | c :: rest =>
      if start ≤ (shifted w offset).second ∧ (shifted w offset).second < c.second then
        some (shifted w offset)
      else earliestAfter w c.second c.offset rest

/-- The first instant at which the local clock shows a time. -/
def earliest? (z : Zone) (w : WallTime) : Option Instant :=
  earliestFrom w z.initial z.changes

/-- The number of half hours that are tried to leave a gap. -/
def gapSteps : Nat := 4

/--
The first instant at which the clock shows the time, or shows it after a gap: up to `steps` times, a
time that is skipped is moved on by half an hour. When all of them are skipped the reading is taken
as UTC.
-/
def resolveWithin (z : Zone) (fallback : WallTime) : Nat → WallTime → Instant
  | 0, _ => ⟨fallback.nanos⟩
  | steps + 1, w =>
    match z.earliest? w with
    | some t => t
    | none => resolveWithin z fallback steps ⟨w.nanos + (Span.minutes 30).nanos⟩

def resolve (z : Zone) (w : WallTime) : Instant :=
  z.resolveWithin w gapSteps w

def utc : Zone := ⟨"UTC", 0, []⟩

end Zone

end Metering
