import Metering.Meter.Row
import Metering.Query.Plan

/-!
Rows of a database read as rows of an answer. A row without a finite value or without both ends of its
window says nothing and is dropped; the others keep their order, sorted by the start of their windows.
-/
namespace Metering

/-- What the columns of a query's rows mean. -/
structure Scanner where
  window : Option WindowSize
  start : Option Instant
  stop : Option Instant
  columns : List GroupColumn

namespace Scanner

variable {Q : Type}

def ofQuery (q : Query) (columns : List GroupColumn) : Scanner :=
  ⟨q.window, q.start, q.stop, columns⟩

/-- A value put where its column says. -/
def place (r : Row Q) (column : GroupColumn) (value : Option String) : Row Q :=
  match column with
  | .subject => { r with subject := value }
  | .customer => { r with customer := value }
  | .dimension name => { r with groups := r.groups.insert name value }

/-- The values put under the columns; columns without a value get none. -/
def placeAll (r : Row Q) : List GroupColumn → List (Option String) → Row Q
  | [], _ => r
  | c :: columns, [] => placeAll (place r c none) columns []
  | c :: columns, v :: values => placeAll (place r c v) columns values

def scanRow? [Quantity Q] (s : Scanner) (raw : RawRow Q) : Option (Row Q) := do
  let value ← raw.value
  if ¬ Quantity.isFinite value then none
  let start := Instant.ofMicros (← raw.start)
  let stop := Instant.ofMicros (← raw.stop)
  let (start, stop) := match s.window with
    | some _ => (start, stop)
    | none => (s.start.getD start, s.stop.getD stop)
  return placeAll ⟨value, start, stop, none, none, ∅⟩ s.columns raw.groups

def scan [Quantity Q] (s : Scanner) (rows : List (RawRow Q)) : List (Row Q) :=
  (rows.filterMap s.scanRow?).mergeSort fun a b => a.start ≤ b.start

end Scanner

end Metering
