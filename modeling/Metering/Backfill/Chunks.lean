import Metering.Calendar.Instant

/-!
The chunks of an import: half-open periods of a day each, the last one cut at the end of the range.
-/
namespace Metering

/-- Days from an instant on that cover everything up to another. -/
def dailyChunks (start stop : Instant) : List Period :=
  if _h : start < stop then
    ⟨start, min (start + Span.days 1) stop⟩ :: dailyChunks (min (start + Span.days 1) stop) stop
  else []
termination_by (stop.nanos - start.nanos).toNat
decreasing_by
  have h1 : start.nanos < stop.nanos := _h
  have h2 : start.nanos < (min (start + Span.days 1) stop).nanos := by
    show start.nanos < (if start + Span.days 1 ≤ stop then start + Span.days 1 else stop).nanos
    split
    · simp only [Instant.nanos_add, Span.days, Span.seconds]
      omega
    · exact h1
  omega

end Metering
