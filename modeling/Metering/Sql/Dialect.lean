import Metering.Meter.Aggregation
import Metering.Sql.Basic
import Metering.Window

/-!
The two dialects in which queries are written. Instants enter a database and leave it as microseconds
since 1 January 1970, so no answer depends on a database's own time types. Each operation is a fragment
built from the fragments of its operands; a dialect spells literals in its own way.
-/
namespace Metering

inductive Dialect where
  | duckdb
  | clickhouse
deriving DecidableEq, Repr

namespace Dialect

open Sql

def name : Dialect → String
  | .duckdb => "duckdb"
  | .clickhouse => "clickhouse"

/-- One character inside a literal. A question mark in a literal of the second dialect is doubled,
because its client binds parameters before the server reads literals. -/
def literalChar : Dialect → Char → List Char
  | .duckdb, c => if c = '\'' then ['\'', '\''] else [c]
  | .clickhouse, c =>
    if c = '\\' then ['\\', '\\']
    else if c = '\'' then ['\\', '\'']
    else if c = '?' then ['?', '?']
    else [c]

def quote (d : Dialect) (value : String) : String :=
  String.ofList ('\'' :: value.toList.flatMap d.literalChar ++ ['\''])

def spell (d : Dialect) : Piece → String
  | .plain s => s
  | .literal value => d.quote value
  | .slot _ => "?"

def render (d : Dialect) (q : Sql) : String :=
  String.join (q.map d.spell)

def statement (d : Dialect) (q : Sql) : Statement :=
  ⟨d.render q, q.params⟩

def call (function : String) (args : List Sql) : Sql :=
  plain (function ++ "(") ++ list args ++ plain ")"

def cast (e : Sql) (type : String) : Sql :=
  "CAST(" ++ e ++ (" AS " ++ type ++ ")" : String)

/-- An instant bound as microseconds. -/
def bindInstant : Dialect → Param → Sql
  | .duckdb, p => call "make_timestamp" [bind p]
  | .clickhouse, p => call "fromUnixTimestamp64Micro" [bind p]

/-- A time column as microseconds. -/
def micros : Dialect → Sql → Sql
  | .duckdb, e => call "epoch_us" [e]
  | .clickhouse, e => call "toInt64" [call "toUnixTimestamp64Micro" [e]]

/-- The scalar at a path of a JSON column, as text. -/
def jsonText : Dialect → Sql → String → Sql
  | .duckdb, column, path => call "json_extract_string" [column, literal path]
  | .clickhouse, column, path => call "JSON_VALUE" [column, literal path]

/-- A text as a finite number, or null. -/
def finiteNumber : Dialect → Sql → Sql
  | .duckdb, e =>
    let parsed := call "TRY_CAST" [e ++ plain " AS DOUBLE"]
    "CASE WHEN " ++ call "isfinite" [parsed] ++ " THEN " ++ parsed ++ " END"
  | .clickhouse, e =>
    let parsed := call "toFloat64OrNull" [e]
    call "if" [call "isFinite" [call "ifNull" [parsed, "nan"]], parsed, "NULL"]

def emptyAsNull : Dialect → Sql → Sql
  | .duckdb, e => call "NULLIF" [e, literal ""]
  | .clickhouse, e => call "nullIf" [e, literal ""]

def nullText : Dialect → Sql
  | .duckdb => "CAST(NULL AS VARCHAR)"
  | .clickhouse => "CAST(NULL AS Nullable(String))"

def unit : WindowSize → String
  | .minute => "minute"
  | .hour => "hour"
  | .day => "day"
  | .month => "month"

def interval : Dialect → WindowSize → Sql
  | .duckdb, .minute => "INTERVAL 1 MINUTE"
  | .duckdb, .hour => "INTERVAL 1 HOUR"
  | .duckdb, .day => "INTERVAL 1 DAY"
  | .duckdb, .month => "INTERVAL 1 MONTH"
  | .clickhouse, .minute => "toIntervalMinute(1)"
  | .clickhouse, .hour => "toIntervalHour(1)"
  | .clickhouse, .day => "toIntervalDay(1)"
  | .clickhouse, .month => "toIntervalMonth(1)"

/-- A time of whole seconds as microseconds. -/
def secondsAsMicros (e : Sql) : Sql :=
  call "toInt64" [call "toUnixTimestamp" [e]] ++ plain " * 1000000"

/-- The start of the window that holds a time. -/
def windowStart : Dialect → Sql → WindowSize → String → Sql
  | .duckdb, time, size, _ => call "epoch_us" [call "date_trunc" [literal (unit size), time]]
  | .clickhouse, time, size, zone =>
    secondsAsMicros (call "toStartOfInterval" [time, interval .clickhouse size, literal zone])

def windowEnd : Dialect → Sql → WindowSize → String → Sql
  | .duckdb, time, size, _ =>
    call "epoch_us"
      [call "date_trunc" [literal (unit size), time] ++ " + " ++ interval .duckdb size]
  | .clickhouse, time, size, zone =>
    secondsAsMicros (call "toStartOfInterval" [time, interval .clickhouse size, literal zone] ++
      " + " ++ interval .clickhouse size)

/-- The start of the minute of the earliest time. -/
def firstMinute : Dialect → Sql → Sql
  | .duckdb, time => call "epoch_us" [call "date_trunc" [literal "minute", call "min" [time]]]
  | .clickhouse, time => secondsAsMicros (call "toStartOfMinute" [call "min" [time]])

/-- The end of the minute of the latest time. -/
def lastMinuteEnd : Dialect → Sql → Sql
  | .duckdb, time =>
    call "epoch_us" [call "date_trunc" [literal "minute", call "max" [time]] ++
      " + INTERVAL 1 MINUTE"]
  | .clickhouse, time =>
    secondsAsMicros (call "toStartOfMinute" [call "max" [time]] ++ " + toIntervalMinute(1)")

/-- An aggregate as a float, null when nothing contributed. -/
def aggregate : Dialect → Aggregation → Sql → Sql → Sql
  | .duckdb, a, value, time =>
    let e : Sql := match a with
      | .sum => call "sum" [value]
      | .average => call "avg" [value]
      | .minimum => call "min" [value]
      | .maximum => call "max" [value]
      | .count => "NULLIF(count(*), 0)"
      | .uniqueCount => call "NULLIF" [call "approx_count_distinct" [value], "0"]
      | .latest =>
        call "arg_max" [value, time] ++ " FILTER (WHERE " ++ value ++ " IS NOT NULL)"
    cast e "DOUBLE"
  | .clickhouse, a, value, time =>
    let e : Sql := match a with
      | .sum => call "sum" [value]
      | .average => call "avg" [value]
      | .minimum => call "min" [value]
      | .maximum => call "max" [value]
      | .count => "nullIf(toFloat64(count()), 0)"
      | .uniqueCount => call "nullIf" [call "toFloat64" [call "uniq" [value]], "0"]
      | .latest => call "argMaxIf" [value, time, call "isNotNull" [value]]
    cast e "Nullable(Float64)"

/-- The value of a key in a column of maps; the first dialect keeps maps as JSON objects. -/
def mapValue : Dialect → Sql → String → Sql
  | .duckdb, column, key => jsonText .duckdb column ("$." ++ key)
  | .clickhouse, column, key => column ++ "[" ++ literal key ++ "]"

def buildMap (d : Dialect) (entries : List (String × Sql)) : Sql :=
  let args := entries.flatMap fun e => [literal e.1, e.2]
  match d, entries with
  | .duckdb, [] => literal "\x7b\x7d"
  | .duckdb, _ => cast (call "json_object" args) "VARCHAR"
  | .clickhouse, [] => "CAST(map(), " ++ literal "Map(String, String)" ++ ")"
  | .clickhouse, _ => call "map" args

def constantOne : Dialect → Sql
  | .duckdb => "CAST(1 AS DOUBLE)"
  | .clickhouse => "toFloat64(1)"

/-- An expression that is known not to be null. -/
def assumeNotNull : Dialect → Sql → Sql
  | .duckdb, e => e
  | .clickhouse, e => call "assumeNotNull" [e]

/-- A query with the group columns `g0`, `g1` and so on, in the shape that its rows are read in. -/
def wrapQuery (d : Dialect) (query : Sql) (groupColumns : Nat) : Sql :=
  match d with
  | .duckdb => query
  | .clickhouse =>
    let aliases := ", ".intercalate ((List.range groupColumns).map fun i => "g" ++ toString i)
    ("SELECT CAST(window_start AS Nullable(Int64)) AS start_micros, " ++
      "CAST(window_end AS Nullable(Int64)) AS end_micros, meter_value, CAST([" ++ aliases ++
      "] AS Array(Nullable(String))) AS group_values FROM (" : String) ++ query ++ ")"

/-- The statement that deletes rows; the second dialect waits for it to finish. -/
def deleteRows (d : Dialect) (table : String) (condition : Sql) : Sql :=
  match d with
  | .duckdb => ("DELETE FROM " ++ table ++ " WHERE " : String) ++ condition
  | .clickhouse =>
    ("ALTER TABLE " ++ table ++ " DELETE WHERE " : String) ++ condition ++
      " SETTINGS mutations_sync = 2"

/-- Names of zones that never leave UTC. -/
def utcNames : List String :=
  ["UTC", "Etc/UTC", "Etc/UCT", "UCT", "Etc/Universal", "Universal", "Etc/Zulu", "Zulu", "GMT",
    "Etc/GMT", "Etc/GMT0", "Etc/GMT+0", "Etc/GMT-0", "Etc/Greenwich", "Greenwich"]

/-- Whether windows in a zone are aligned by the database; otherwise they are listed in the query. -/
def alignsZone : Dialect → String → Bool
  | .duckdb, zone => utcNames.contains zone
  | .clickhouse, _ => true

/-- Listed windows, in microseconds, joined to the rows whose time they hold. -/
def windowJoin (d : Dialect) (time : Sql) (windows : List (Int × Int)) : Sql :=
  let rows := windows.map fun w =>
    plain ("(" ++ toString w.1 ++ ", " ++ toString w.2 ++ ")")
  "JOIN (VALUES " ++ list rows ++ ") AS w(ws, we) ON " ++ d.micros time ++ " >= w.ws AND " ++
    d.micros time ++ " < w.we"

end Dialect

end Metering
