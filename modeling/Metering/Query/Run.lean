import Metering.Program
import Metering.Query.Scan

/-!
Running a query: it is planned, its rows are fetched and read. Where windows would have to be listed
and a bound is missing, the time span of the matching events is fetched first and fills it in.
-/
namespace Metering

/-- What answering queries needs from an analytics database. -/
inductive Fetch where
  | rows (plan : Plan)
  /-- One row with the earliest and the latest time as its window. -/
  | timeSpan (selection : Selection)
  | subjects (selection : Selection)

def Fetch.Answer (Q : Type) : Fetch → Type
  | rows _ => Except StoreError (List (RawRow Q))
  | timeSpan _ => Except StoreError (List (RawRow Q))
  | subjects _ => Except StoreError (List String)

abbrev Fetching (Q α : Type) := Program Fetch (Fetch.Answer Q) (Except Error α)

namespace Query

/-- The bounds of a query that are missing, taken from the first and last time of its events. -/
def bounded (q : Query) (first last : Int) : Query :=
  { q with
    start := some (q.start.getD (Instant.ofMicros first))
    stop := some (q.stop.getD (Instant.ofMicros last + Span.microseconds 1)) }

/-- The query with the bounds found in the rows of its time span; without events there are none. -/
def boundedBy? {Q : Type} (q : Query) (rows : List (RawRow Q)) : Option Query := do
  let row ← rows.head?
  return q.bounded (← row.start) (← row.stop)

end Query

namespace Compiler

variable {Q : Type} [Quantity Q]

/-- A query whose windows need no further bounds. -/
def runBounded (c : Compiler) (m : Meter) (q : Query) : Fetching Q (List (Row Q)) :=
  match c.plan m q with
  | .error e => .done (.error e)
  | .ok plan => .ask (.rows plan) fun
    | .error e => .done (.error (.store e))
    | .ok rows => .done (.ok ((Scanner.ofQuery q plan.columns).scan rows))

/-- The rows of a query. It has none when no event bounds its windows. -/
def run (c : Compiler) (m : Meter) (q : Query) : Fetching Q (List (Row Q)) :=
  match q.missesWindowBounds c.dialect m with
  | .error e => .done (.error e)
  | .ok false => c.runBounded m q
  | .ok true =>
    match q.selection m with
    | .error e => .done (.error e)
    | .ok selection => .ask (.timeSpan selection) fun
      | .error e => .done (.error (.store e))
      | .ok rows =>
        match q.boundedBy? rows with
        | none => .done (.ok [])
        | some q => c.runBounded m q

end Compiler

/-- The subjects of a meter's events in a range. -/
def Meter.subjects {Q : Type} (m : Meter) (start stop : Option Instant) :
    Fetching Q (List String) :=
  match m.eventsWithin start stop with
  | .error e => .done (.error e)
  | .ok selection => .ask (.subjects selection) fun
    | .error e => .done (.error (.store e))
    | .ok subjects => .done (.ok subjects)

end Metering
