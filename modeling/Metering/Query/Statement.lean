import Metering.Filter.Sql
import Metering.Query.Plan
import Metering.Query.Scan

/-!
Plans written in SQL, and the other statements about a meter: the span of the events that match a
query, the subjects of a meter, its earliest event, and the import of a chunk into the table of
numbers. The columns of a query are the start and the end of the window, the value, and the groups
`g0`, `g1` and so on.
-/
namespace Metering

open Sql

def Source.table : Source → String
  | .events => "events"
  | .numbers => "meter_events"

namespace Dialect

/-- A comparison of a column with a text. -/
def columnIs (column value : String) : Sql :=
  plain (column ++ " = ") ++ Sql.bind (.text value)

def instantBound (d : Dialect) (column operator : String) (t : Instant) : Sql :=
  plain (column ++ " " ++ operator ++ " ") ++ d.bindInstant (.integer t.micros)

/-- The value that a row contributes, null when it has none. -/
def value (d : Dialect) (source : Source) (m : Meter) : Sql :=
  match source, m.aggregation, m.valuePath with
  | .numbers, _, _ => "value"
  | .events, .count, _ => d.constantOne
  | .events, _, none => d.constantOne
  | .events, .uniqueCount, some path => d.emptyAsNull (d.jsonText "data" path)
  | .events, _, some path => d.finiteNumber (d.jsonText "data" path)

/-- The text of a dimension, null when it is missing or empty. -/
def dimension (d : Dialect) (source : Source) (name path : String) : Sql :=
  match source with
  | .events => d.emptyAsNull (d.jsonText "data" path)
  | .numbers => d.emptyAsNull (d.mapValue "group_by" name)

def customerBranch (c : Customer) : Sql :=
  "WHEN subject IN (" ++ bindTexts c.subjects ++ ") THEN CAST(" ++ Sql.bind (.text c.id) ++
    " AS VARCHAR)"

/-- The customer of a row's subject: the first one that has it. -/
def customer (d : Dialect) (customers : List Customer) : Sql :=
  let branches := (customers.filter fun c => ¬ c.subjects.isEmpty).map customerBranch
  if branches.isEmpty then d.nullText
  else "CASE " ++ join " " branches ++ " ELSE " ++ d.nullText ++ " END"

def group (d : Dialect) (p : Plan) : GroupColumn → Sql
  | .subject => d.emptyAsNull "subject"
  | .customer => d.customer p.customers
  | .dimension name =>
    match p.meter.dimensions.get? name with
    | some path => d.dimension p.selection.source name path
    | none => d.nullText

/-- A condition in SQL; a filter that constrains nothing has none. -/
def condition? (d : Dialect) (source : Source) : Condition → Option Sql
  | .space name => some (columnIs "namespace" name)
  | .eventType name => some (columnIs "type" name)
  | .meterId id => some (columnIs "meter_id" id)
  | .notBefore t => some (d.instantBound "time" ">=" t)
  | .before t => some (d.instantBound "time" "<" t)
  | .subjectIn subjects => some ("subject IN (" ++ bindTexts subjects ++ ")")
  | .never => some Filter.never
  | .dimension name path filter => filter.condition? d (d.dimension source name path)

def allConditions (d : Dialect) (s : Selection) : Sql :=
  join " AND " (s.conditions.filterMap (d.condition? s.source))

def windowColumns (d : Dialect) : Windowing → List Sql
  | .whole => [d.firstMinute "time" ++ " AS window_start", d.lastMinuteEnd "time" ++ " AS window_end"]
  | .aligned size zone =>
    [d.windowStart "time" size zone.name ++ " AS window_start",
      d.windowEnd "time" size zone.name ++ " AS window_end"]
  | .listed _ => ["w.ws AS window_start", "w.we AS window_end"]

def groupAlias (i : Nat) : String := "g" ++ toString i

def groupColumns (d : Dialect) (p : Plan) : List Sql :=
  p.columns.zipIdx.map fun c => d.group p c.1 ++ plain (" AS " ++ groupAlias c.2)

/-- The names by which rows are grouped. -/
def groupNames (p : Plan) : List String :=
  let windows := match p.windowing with
    | .whole => []
    | _ => ["window_start", "window_end"]
  windows ++ (List.range p.columns.length).map groupAlias

/-- The query without the dialect's own shape of rows. -/
def innerQuery (d : Dialect) (p : Plan) : Sql :=
  let columns := d.windowColumns p.windowing ++
    [d.aggregate p.meter.aggregation (d.value p.selection.source p.meter) "time" ++ " AS meter_value"] ++
    d.groupColumns p
  let windows : Sql := match p.windowing with
    | .listed windows => " " ++ d.windowJoin "time" windows
    | _ => []
  let grouping : Sql :=
    if (groupNames p).isEmpty then []
    else plain (" GROUP BY " ++ ", ".intercalate (groupNames p))
  "SELECT " ++ list columns ++ plain (" FROM " ++ p.selection.source.table) ++ windows ++ " WHERE " ++
    d.allConditions p.selection ++ grouping

def query (d : Dialect) (p : Plan) : Sql :=
  d.wrapQuery (d.innerQuery p) p.columns.length

/-- The earliest and the latest time of the selected rows, as the window of one row. -/
def timeSpan (d : Dialect) (s : Selection) : Sql :=
  "SELECT " ++ d.micros "min(time)" ++ " AS window_start, " ++ d.micros "max(time)" ++
    plain (" AS window_end, CAST(count(*) AS DOUBLE) AS meter_value FROM " ++ s.source.table ++
      " WHERE ") ++ d.allConditions s

/-- The subjects of the selected rows, in order. -/
def subjects (d : Dialect) (s : Selection) : Sql :=
  plain ("SELECT DISTINCT subject FROM " ++ s.source.table ++ " WHERE ") ++ d.allConditions s ++
    " ORDER BY subject"

/-- The number of selected rows and the earliest instant at which one was stored. -/
def earliestStored (d : Dialect) (s : Selection) : Sql :=
  "SELECT count(*) AS cnt, " ++ d.micros "min(stored_at)" ++
    plain (" AS min_stored_at FROM " ++ s.source.table ++ " WHERE ") ++ d.allConditions s

/-- Storing times inside a chunk. -/
def storedIn (d : Dialect) (chunk : Period) : Sql :=
  d.instantBound "stored_at" ">=" chunk.start ++ " AND " ++
    d.instantBound "stored_at" "<" chunk.stop

/-- The numbers of a meter whose events were stored inside a chunk, to be deleted. -/
def chunkDelete (d : Dialect) (i : ChunkImport) : Sql :=
  d.deleteRows Source.numbers.table
    (columnIs "namespace" i.meter.space ++ " AND " ++ columnIs "meter_id" i.meter.id ++ " AND " ++
      d.storedIn i.chunk)

/--
The numbers of the events that were stored inside a chunk and before the cutover. Events without a
usable value are passed over.
-/
def chunkInsert (d : Dialect) (i : ChunkImport) : Sql :=
  let m := i.meter
  let entries := m.dimensions.toList.map fun e => (e.1, d.jsonText "data" e.2)
  plain ("INSERT INTO " ++ Source.numbers.table ++
    " (namespace, meter_id, subject, time, stored_at, value, group_by) " ++
    "SELECT namespace, meter_id, subject, time, stored_at, ") ++ d.assumeNotNull "v" ++
    ", g FROM (SELECT namespace, CAST(" ++ Sql.bind (.text m.id) ++
    " AS VARCHAR) AS meter_id, subject, time, stored_at, " ++ d.value .events m ++ " AS v, " ++
    d.buildMap entries ++ plain (" AS g FROM " ++ Source.events.table ++ " WHERE ") ++
    columnIs "namespace" m.space ++ " AND " ++ columnIs "type" m.eventType ++ " AND " ++
    d.storedIn i.chunk ++ " AND " ++ d.instantBound "stored_at" "<" i.cutover ++
    ") WHERE v IS NOT NULL"

end Dialect

/-- A query ready to be sent, and how to read its rows. -/
structure Compiled where
  plan : Plan
  statement : Statement
  scanner : Scanner

namespace Compiler

def compileFrom (c : Compiler) (source : Source) (m : Meter) (q : Query) : Except Error Compiled := do
  let plan ← c.planFrom source m q
  return ⟨plan, c.dialect.statement (c.dialect.query plan), Scanner.ofQuery q plan.columns⟩

def compile (c : Compiler) (m : Meter) (q : Query) : Except Error Compiled :=
  c.compileFrom (Source.ofMeter m) m q

end Compiler

end Metering
