import Metering.Zone.Named

/-!
Tumbling windows of a minute, an hour, a day or a month, aligned to the local clock of a zone. A
window starts where the clock shows its first moment (`truncate`). Minutes and hours have a fixed
length; a day or a month ends where the clock shows midnight of the next one (`next`).
-/
namespace Metering

inductive WindowSize where
  | minute
  | hour
  | day
  | month
deriving DecidableEq, Repr

namespace WindowSize

def all : List WindowSize := [.minute, .hour, .day, .month]

def name : WindowSize → String
  | .minute => "MINUTE"
  | .hour => "HOUR"
  | .day => "DAY"
  | .month => "MONTH"

/-- The reading of the clock at the start of the window that holds a reading. -/
def floorWall : WindowSize → WallTime → WallTime
  | .minute, w => w.floorTo 60000000000
  | .hour, w => w.floorTo 3600000000000
  | .day, w => w.floorTo 86400000000000
  | .month, w => WallTime.ofDate { w.date with day := 1 }

/-- The start of the window that holds an instant. -/
def truncate (size : WindowSize) (z : Zone) (t : Instant) : Instant :=
  min (z.resolve (size.floorWall (z.wall t))) t

/-- The start of the window after the one that starts at an instant. -/
def next (size : WindowSize) (z : Zone) (start : Instant) : Instant :=
  match size with
  | .minute => start + Span.minutes 1
  | .hour => start + Span.hours 1
  | .day => z.resolve (WallTime.ofDayNumber ((z.wall start).dayNumber + 1))
  | .month => z.resolve (WallTime.ofDate (z.wall start).date.nextMonth)

/-- The first window boundary at or after an instant. -/
def ceil (size : WindowSize) (z : Zone) (t : Instant) : Instant :=
  let start := size.truncate z t
  if start = t then t else size.next z start

/-- The windows from `start` on that start before `stop`, put in front of `acc` in reverse. -/
def windowsFrom (size : WindowSize) (z : Zone) (start stop : Instant) (acc : List Period) :
    List Period :=
  let after := size.next z start
  if _h : start < stop ∧ start < after then windowsFrom size z after stop (⟨start, after⟩ :: acc)
  else acc
termination_by (stop.nanos - start.nanos).toNat
decreasing_by
  have h1 : start.nanos < stop.nanos := _h.1
  have h2 : start.nanos < (size.next z start).nanos := _h.2
  omega

/-- The windows that overlap the range from `start` up to `stop`, as far as each ends after it starts. -/
def windows (size : WindowSize) (z : Zone) (start stop : Instant) : List Period :=
  (windowsFrom size z (size.truncate z start) stop []).reverse

/-- The name read without regard to the case of ASCII letters. -/
def ofName? (s : String) : Option WindowSize :=
  all.find? fun size => size.name.map Char.toLower == s.map Char.toLower

end WindowSize

end Metering
