import Metering.Database.Tables
import Metering.Meter.Row

/-!
Plans run over tables. The selected rows are put into windows and groups, and the values of each group
are aggregated. A group of rows without any value has no result, and only counting counts such rows.
-/
namespace Metering

variable {Q : Type} [Quantity Q]

/-- What one row gives to an aggregate. -/
inductive Contribution (Q : Type) where
  | number (x : Q)
  | text (s : String)

def Contribution.number? : Contribution Q → Option Q
  | .number x => some x
  | .text _ => none

def Contribution.text? : Contribution Q → Option String
  | .number _ => none
  | .text s => some s

namespace TableRow

/-- The value of a row for a meter; every event counts as one for a meter without a value. -/
def contribution? (m : Meter) (r : TableRow Q) : Option (Contribution Q) :=
  match r.number with
  | some x => some (.number x)
  | none =>
    match m.aggregation, m.valuePath with
    | .count, _ => some (.number (Quantity.ofNat 1))
    | _, none => some (.number (Quantity.ofNat 1))
    | .uniqueCount, some path => (r.text "" (Condition.selectors path)).map .text
    | _, some path => do
      let s ← r.text "" (Condition.selectors path)
      (Quantity.read? (Text.trimBlanks s.toList)).map .number

end TableRow

/-- The value with the greatest time, the first of several. -/
def latestOf : List (Instant × Q) → Option Q
  | [] => none
  | first :: rest =>
    some (rest.foldl (fun latest v => if latest.1 < v.1 then v else latest) first).2

/-- The value of a group, given its rows with what each contributes. -/
def Aggregation.result? (a : Aggregation) (rows : List (Instant × Option (Contribution Q))) :
    Option Q :=
  let numbers := rows.filterMap fun r => r.2.bind Contribution.number?
  let some? (x : Q) : Option Q := if numbers.isEmpty then none else some x
  let sum := numbers.foldl Quantity.add (Quantity.ofNat 0)
  match a with
  | .sum => some? sum
  | .average => some? (Quantity.share sum numbers.length)
  | .minimum => numbers.head?.map fun x => (numbers.drop 1).foldl Quantity.least x
  | .maximum => numbers.head?.map fun x => (numbers.drop 1).foldl Quantity.greatest x
  | .count => if rows.isEmpty then none else some (Quantity.ofNat rows.length)
  | .uniqueCount =>
    let texts := (rows.filterMap fun r => r.2.bind Contribution.text?).eraseDups
    if texts.isEmpty then none else some (Quantity.ofNat texts.length)
  | .latest => latestOf (rows.filterMap fun r =>
      (r.2.bind Contribution.number?).map fun x => (r.1, x))

/-- The windows in which a time counts, in microseconds; without windows it counts once. -/
def Windowing.windowsOf (t : Instant) : Windowing → List (Option (Int × Int))
  | .whole => [none]
  | .aligned size z =>
    let start := size.truncate z t
    [some (start.micros, (size.next z start).micros)]
  | .listed windows => (windows.filter fun w => w.1 ≤ t.micros ∧ t.micros < w.2).map some

/-- The customer of a subject: the first one that has it. -/
def customerOf? (customers : List Customer) (subject : String) : Option String :=
  (customers.find? fun c => c.subjects.contains subject).map Customer.id

/-- Items under the same key put together, in the order in which keys come up. -/
def collect {κ α : Type} [BEq κ] (items : List (κ × α)) : List (κ × List α) :=
  (items.map (·.1)).eraseDups.map fun key =>
    (key, (items.filter fun i => i.1 == key).map (·.2))

def earliestOf : List Instant → Option Instant
  | [] => none
  | t :: ts => some (ts.foldl min t)

def latestInstant : List Instant → Option Instant
  | [] => none
  | t :: ts => some (ts.foldl max t)

/-- The start of the minute of the first time and the end of the minute of the last, in microseconds. -/
def minuteSpan (times : List Instant) : Option Int × Option Int :=
  let minute (t : Instant) : Instant := WindowSize.minute.truncate .utc t
  ((earliestOf times).map fun t => (minute t).micros,
    (latestInstant times).map fun t => (minute t + Span.minutes 1).micros)

namespace Plan

/-- The text of a row in a group column. -/
def groupText (p : Plan) (r : TableRow Q) : GroupColumn → Option String
  | .subject => nonEmpty (some r.subject)
  | .customer => customerOf? p.customers r.subject
  | .dimension name =>
    (p.meter.dimensions.get? name).bind fun path => r.text name (Condition.selectors path)

def groupTexts (p : Plan) (r : TableRow Q) : List (Option String) := p.columns.map (p.groupText r)

/-- The window and the groups of each selected row. -/
def keyedRows (p : Plan) (rows : List (TableRow Q)) :
    List ((Option (Int × Int) × List (Option String)) × TableRow Q) :=
  rows.flatMap fun r => (p.windowing.windowsOf r.time).map fun w => ((w, p.groupTexts r), r)

/-- The groups of the selected rows; without windows and columns there is one group of all of them. -/
def groups (p : Plan) (rows : List (TableRow Q)) :
    List ((Option (Int × Int) × List (Option String)) × List (TableRow Q)) :=
  match p.windowing, p.columns with
  | .whole, [] => [((none, []), rows)]
  | _, _ => collect (p.keyedRows rows)

def rawRow (p : Plan)
    (group : (Option (Int × Int) × List (Option String)) × List (TableRow Q)) : RawRow Q :=
  let times := group.2.map TableRow.time
  let span := match group.1.1 with
    | some w => (some w.1, some w.2)
    | none => minuteSpan times
  ⟨span.1, span.2,
    p.meter.aggregation.result? (group.2.map fun r => (r.time, r.contribution? p.meter)),
    group.1.2⟩

/-- The rows of a plan over tables in which all data can be read. -/
def evaluate (p : Plan) (t : Tables Q) : List (RawRow Q) :=
  (p.groups (p.selection.rows t)).map p.rawRow

end Plan

/-- The time span of the selected rows as one row, with their number as its value. -/
def Selection.span (s : Selection) (t : Tables Q) : RawRow Q :=
  let rows := s.rows t
  let times := rows.map TableRow.time
  ⟨(earliestOf times).map Instant.micros, (latestInstant times).map Instant.micros,
    some (Quantity.ofNat rows.length), []⟩

def Selection.subjects (s : Selection) (t : Tables Q) : List String :=
  sortedUnique ((s.rows t).map TableRow.subject)

/-- The earliest instant at which a selected row was stored. -/
def Selection.earliestStored (s : Selection) (t : Tables Q) : Option Instant :=
  earliestOf ((s.rows t).map TableRow.storedAt)

end Metering
