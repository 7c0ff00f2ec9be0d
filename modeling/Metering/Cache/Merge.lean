import Metering.Cache.Group
import Metering.Meter.Aggregation
import Metering.Window

/-!
One answer from the rows of its parts. With windows the parts cover different windows and stand side
by side. Without, the rows of each group are combined into one that spans the whole query.
-/
namespace Metering

variable {Q : Type} [Quantity Q]

/-- The entries of both maps; where both have a key, those of the first. -/
def KeyMap.union {α : Type} (m n : KeyMap α) : KeyMap α :=
  n.toList.foldl (fun acc e => if acc.contains e.1 then acc else acc.insert e.1 e.2) m

namespace Row

/-- A row with a later one of its group. Where values cannot be combined the later one stands. -/
def combine (a : Aggregation) (r s : Row Q) : Row Q :=
  { r with
    value := (a.combine? r.value s.value).getD s.value
    start := min r.start s.start
    stop := max r.stop s.stop
    groups := r.groups.union s.groups }

def combineAll? (a : Aggregation) : List (Row Q) → Option (Row Q)
  | [] => none
  | r :: rows => some (rows.foldl (combine a) r)

def sortByStart (rows : List (Row Q)) : List (Row Q) :=
  rows.mergeSort fun r s => r.start ≤ s.start

/-- The row with the bounds of its query, as far as the query has them. -/
def withBounds (start stop : Option Instant) (r : Row Q) : Row Q :=
  { r with start := start.getD r.start, stop := stop.getD r.stop }

end Row

def merge (a : Aggregation) (window : Option WindowSize) (start stop : Option Instant)
    (parts : List (Row Q)) : List (Row Q) :=
  let rows := parts.filter fun r => ¬ r.isPlaceholder
  match window with
  | some _ => Row.sortByStart rows
  | none =>
    Row.sortByStart ((Row.byGroup rows).toList.filterMap fun g =>
      (Row.combineAll? a g.2).map (Row.withBounds start stop))

end Metering
