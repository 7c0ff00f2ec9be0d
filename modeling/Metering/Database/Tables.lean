import Metering.Cache.Table
import Metering.Database.Document
import Metering.Filter.Admit
import Metering.Meter.Event
import Metering.Query.Plan

/-!
The tables of an analytics database: events, numbers and stored answers. Instants are kept to the
microsecond. `TableRow` is what a plan sees of a row of either of the first two tables.
-/
namespace Metering

structure Tables (Q : Type) where
  events : List Event
  numbers : List (Entry Q)
  cached : CacheTable Q

namespace Tables

variable {Q : Type}

def empty : Tables Q := ⟨[], [], []⟩

def keepEvent (e : Event) : Event :=
  { e with
    time := e.time.microsecondStart
    ingestedAt := e.ingestedAt.microsecondStart
    storedAt := e.storedAt.microsecondStart }

def keepEntry (e : Entry Q) : Entry Q :=
  { e with time := e.time.microsecondStart, storedAt := e.storedAt.microsecondStart }

def keepRow (r : Row Q) : Row Q :=
  { r with start := r.start.microsecondStart, stop := r.stop.microsecondStart }

def insertEvents (t : Tables Q) (events : List Event) : Tables Q :=
  { t with events := t.events ++ events.map keepEvent }

def insertNumbers (t : Tables Q) (entries : List (Entry Q)) : Tables Q :=
  { t with numbers := t.numbers ++ entries.map keepEntry }

def storeRows (t : Tables Q) (space hash : String) (rows : List (Row Q)) : Tables Q :=
  { t with cached := t.cached.store space hash (rows.map keepRow) }

def lookupRows (t : Tables Q) (space hash : String) (range : Period) : List (Row Q) :=
  t.cached.lookup space hash ⟨range.start.microsecondStart, range.stop.microsecondStart⟩

end Tables

/-- An empty text counts as missing. -/
def nonEmpty (s : Option String) : Option String := s.filter fun s => s ≠ ""

structure TableRow (Q : Type) where
  space : String
  /-- The type of an event, the meter of a number. -/
  owner : String
  subject : String
  time : Instant
  storedAt : Instant
  /-- The number itself, in the table of numbers. -/
  number : Option Q
  /-- The text of a dimension by its name and its path, if it is not empty. -/
  text : String → List Document.Selector → Option String
  /-- Whether the data can be read at all. -/
  isReadable : Bool

namespace TableRow

variable {Q : Type}

def ofEvent (e : Event) : TableRow Q :=
  let data := Json.Tree.read? e.data
  ⟨e.space, e.type, e.subject, e.time, e.storedAt, none,
    fun _ path => nonEmpty (data.bind fun t => Document.textAt? t path), data.isSome⟩

def ofEntry (e : Entry Q) : TableRow Q :=
  ⟨e.space, e.meterId, e.subject, e.time, e.storedAt, some e.value,
    fun name _ => nonEmpty (e.dimensions.get? name), true⟩

end TableRow

def Tables.rows {Q : Type} (t : Tables Q) : Source → List (TableRow Q)
  | .events => t.events.map TableRow.ofEvent
  | .numbers => t.numbers.map TableRow.ofEntry

namespace Condition

variable {Q : Type}

/-- Whether the condition looks into the data of an event. -/
def readsData : Condition → Bool
  | .dimension .. => true
  | _ => false

/-- The selectors of a path; a text that is no path has none. -/
def selectors (path : String) : List Document.Selector :=
  (Document.selectors? path).getD []

def holds (r : TableRow Q) : Condition → Bool
  | .space name => r.space == name
  | .eventType name => r.owner == name
  | .meterId id => r.owner == id
  | .notBefore t => t.microsecondStart ≤ r.time
  | .before t => r.time < t.microsecondStart
  | .subjectIn subjects => subjects.contains r.subject
  | .never => false
  | .dimension name path filter => filter.admits (r.text name (selectors path))

end Condition

namespace Selection

variable {Q : Type}

def holds (s : Selection) (r : TableRow Q) : Bool := s.conditions.all (Condition.holds r)

def rows (s : Selection) (t : Tables Q) : List (TableRow Q) :=
  (t.rows s.source).filter s.holds

/-- The rows for which the data of events is looked into. -/
def candidates (s : Selection) (t : Tables Q) : List (TableRow Q) :=
  (t.rows s.source).filter fun r =>
    (s.conditions.filter fun c => ¬ c.readsData).all (Condition.holds r)

end Selection

end Metering
