import Metering.Cache.Group
import Metering.Window

/-!
Windows without rows. A window without usage has no row, which would look like a window that was never
computed; a placeholder tells them apart. The first and the last window of a range may be cut by its
ends and get none. What still has to be computed of a range are the windows at which no stored row
starts, those that touch taken together. A window past the end of the range is cut there.
-/
namespace Metering

variable {Q : Type} [Quantity Q]

/-- The row that marks a window of a group as computed. -/
def Row.placeholder (template : Row Q) (w : Period) : Row Q :=
  { template with value := Quantity.undefined, start := w.start, stop := w.stop }

/-- The group of rows without subject, customer and dimensions. -/
def Row.ungrouped : Row Q := ⟨Quantity.undefined, .epoch, .epoch, none, none, ∅⟩

/-- The windows of a range but the first and the last. -/
def WindowSize.interior (size : WindowSize) (z : Zone) (range : Period) : List Period :=
  ((size.windows z range.start range.stop).drop 1).dropLast

/-- Placeholders for the windows in which no row of a group starts. -/
def groupGaps (windows : List Period) (template : Row Q) (rows : List (Row Q)) : List (Row Q) :=
  (windows.filter fun w => ¬ rows.any fun r => r.start = w.start).map template.placeholder

/-- Placeholders for the empty windows of every group; without rows there is one group of nothing. -/
def gaps (size : WindowSize) (z : Zone) (range : Period) (rows : List (Row Q)) : List (Row Q) :=
  let windows := size.interior z range
  if rows.isEmpty then groupGaps windows .ungrouped []
  else (Row.byGroup rows).toList.flatMap fun
    | (_, []) => []
    | (_, template :: rest) => groupGaps windows template (template :: rest)

/-- Periods of which each ends where the next one starts are one period. -/
def joinAdjacent : List Period → List Period
  | [] => []
  | p :: ps =>
    match joinAdjacent ps with
    | [] => [p]
    | q :: qs => if p.stop = q.start then ⟨p.start, q.stop⟩ :: qs else p :: q :: qs

/-- The periods of a range whose windows start at none of some instants. -/
def uncovered (size : WindowSize) (z : Zone) (range : Period) (covered : List Instant) :
    List Period :=
  let missing := (size.windows z range.start range.stop).filter fun w =>
    w.start ∈ range ∧ w.start ∉ covered
  joinAdjacent (missing.map fun w => ⟨w.start, min w.stop range.stop⟩)

end Metering
