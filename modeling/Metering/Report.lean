import Metering.Backfill.Tick
import Metering.Meter.Json
import Metering.Sql.Basic

/-!
What callers are told, as JSON: rows, statements, meters and their progress, steps of the import, and
failures. A float is told by its 64 bits, so that nothing of it is lost. A failure comes with its
message unless the message is in the words of a database or of a reader of texts.
-/
namespace Metering.Report

open Json

def nat (n : Nat) : Value := .ofInt n

def decimal (n : Int) : Value := .string (toString n)

/-- Sixteen hexadecimal digits, or `NaN`. -/
def float (x : Float) : Value :=
  if x.isNaN then .string "NaN" else .string (String.ofList (Text.hexDigits 16 x.toBits.toNat))

def time (t : Instant) : Value := .string t.toText

def period (p : Period) : Value := .array [time p.start, time p.stop]

def texts (xs : List String) : Value := .array (xs.map .string)

def param : Param → Value
  | .text s => .object [("s", .string s)]
  | .integer n => .object [("i", decimal n)]
  | .number x => .object [("f", float x)]

def params (ps : List Param) : Value := .array (ps.map param)

def statementFields (s : Statement) : List (String × Value) :=
  [("sql", .string s.text), ("params", params s.params),
    ("placeholders", nat (Statement.placeholderCount s.text))]

def statement (s : Statement) : Value := .object (statementFields s)

def row (r : Row Float) : Value :=
  .object [("value", float r.value), ("start", time r.start), ("end", time r.stop),
    ("subject", .ofOption .string r.subject), ("customer_id", .ofOption .string r.customer),
    ("group_by", Row.groupsValue r.groups)]

def rows (rs : List (Row Float)) : Value := .array (rs.map row)

def entry (e : Entry Float) : Value :=
  .object [("namespace", .string e.space), ("meter_id", .string e.meterId),
    ("subject", .string e.subject), ("time", time e.time), ("stored_at", time e.storedAt),
    ("value", float e.value), ("group_by", textMapValue e.dimensions)]

def progress : Option Progress → Value
  | none => .null
  | some p => .object [("cutover", .ofOption time p.cutover), ("min_time", .ofOption time p.earliest),
      ("chunks", .array (p.pending.map period)), ("ready", .bool p.ready)]

def meter (m : Meter) : Value :=
  .object [("namespace", .string m.space), ("id", .string m.id), ("slug", .string m.slug),
    ("aggregation", .string m.aggregation.name), ("event_type", .string m.eventType),
    ("value_property", .ofOption .string m.valuePath), ("group_by", textMapValue m.dimensions),
    ("event_from", .ofOption time m.since), ("state", progress m.progress)]

/-- Meters by their names and their progress. -/
def meterList (ms : List Meter) : Value :=
  .array (ms.map fun m =>
    .array [.string m.space, .string m.id, .string m.slug, progress m.progress])

/-- The name of an action and what it was done with. -/
def action : StepAction → String × Value
  | .initialized cutover => ("Initialized", .object [("cutover", time cutover)])
  | .planned earliest chunks =>
    ("Planned", .object [("min_time", time earliest), ("chunks", nat chunks)])
  | .imported chunk => ("Imported", .object [("chunk", period chunk)])
  | .ready => ("Ready", .null)
  | .waiting t => ("Waiting", .object [("until", time t)])
  | .outOfBudget => ("OutOfBudget", .null)
  | .busy => ("Busy", .null)
  | .unsupported => ("Unsupported", .null)

def outcome (o : StepOutcome) : Value :=
  .object [("consumed", nat o.consumed), ("done", .bool o.done),
    ("action", .string (action o.action).1), ("detail", (action o.action).2)]

def tick (s : TickSummary) : Value :=
  .object [("meters", nat s.meters), ("steps", nat s.steps), ("ready", nat s.ready),
    ("failed", nat s.failed)]

/-- The message of a failure in words of our own. -/
def message? (e : StoreError) : Option String :=
  match e with
  | .sqlite _ | .duckdb _ | .clickhouse _ | .io => none
  | .invalidData data =>
    if StoreError.holdsWord "group_by: ".toList data.toList ||
        "Malformed".toList.isPrefixOf data.toList then none
    else some e.message
  | _ => some e.message

def failure (kind : String) (message : Option String) : List (String × Value) :=
  ("error", .string kind) :: optionalField "message" .string message

def storeError (e : StoreError) : Value := .object (failure e.kind (message? e))

def error (e : Error) : Value :=
  let message := match e with
    | .store e => message? e
    | e => some e.message
  .object (failure e.kind message ++
    [("configuration", .bool e.isConfiguration), ("not_found", .bool e.isNotFound),
      ("transient", .bool e.isTransient)])

/-- A result or the failure in its place. -/
def result {α : Type} (report : α → Value) : Except Error α → Value
  | .ok a => report a
  | .error e => error e

def storeResult {α : Type} (report : α → Value) : Except StoreError α → Value
  | .ok a => report a
  | .error e => storeError e

end Metering.Report
