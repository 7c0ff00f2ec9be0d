import Metering.Backfill.Step
import Metering.Cache.Answer
import Metering.Database.Import
import Metering.Ingest
import Metering.Query.Run

/-!
A database that answers the requests of queries, of the cache, of ingestion and of the import. It fails
once it has been closed, and where it is asked to look into data that is no JSON text or along a path
that it does not understand.
-/
namespace Metering

structure Database (Q : Type) where
  tables : Tables Q
  isOpen : Bool

namespace Database

variable {Q : Type} [Quantity Q]

def empty : Database Q := ⟨.empty, true⟩

def close (db : Database Q) : Database Q := { db with isOpen := false }

/-- The failure of a statement, in the words that stand for the database's own. -/
def unreadable : StoreError := .duckdb "malformed JSON or path"

/-- An answer of an open database. -/
def whenOpen {α : Type} (db : Database Q) (answer : Except StoreError α) : Except StoreError α :=
  if db.isOpen then answer else .error .closedDatabase

def arePaths (paths : List String) : Bool :=
  paths.all fun path => (Document.selectors? path).isSome

/-- The paths that a condition follows. -/
def conditionPaths : Condition → List String
  | .dimension _ path _ => [path]
  | _ => []

/-- The path of the value, if it is read from the data. -/
def valuePaths (m : Meter) : List String :=
  if m.aggregation.needsValue then m.valuePath.toList else []

def columnPaths (m : Meter) : GroupColumn → List String
  | .dimension name => (m.dimensions.get? name).toList
  | _ => []

/-- All paths into the data of events that a plan follows. -/
def planPaths (p : Plan) : List String :=
  match p.selection.source with
  | .numbers => []
  | .events => valuePaths p.meter ++ p.columns.flatMap (columnPaths p.meter) ++
      p.selection.conditions.flatMap conditionPaths

def selectionPaths (s : Selection) : List String :=
  match s.source with
  | .numbers => []
  | .events => s.conditions.flatMap conditionPaths

/-- Whether all rows can be read along some paths. -/
def canRead (paths : List String) (rows : List (TableRow Q)) : Bool :=
  paths.isEmpty || (arePaths paths && rows.all TableRow.isReadable)

def answerIf {α : Type} (db : Database Q) (readable : Bool) (answer : α) : Except StoreError α :=
  db.whenOpen (if readable then .ok answer else .error unreadable)

def fetch (db : Database Q) : (r : Fetch) → r.Answer Q
  | .rows plan =>
    db.answerIf (canRead (planPaths plan) (plan.selection.candidates db.tables))
      (plan.evaluate db.tables)
  | .timeSpan s =>
    db.answerIf (canRead (selectionPaths s) (s.candidates db.tables)) [s.span db.tables]
  | .subjects s =>
    db.answerIf (canRead (selectionPaths s) (s.candidates db.tables)) (s.subjects db.tables)

def earliestStored (db : Database Q) (s : Selection) : Except StoreError (Option Instant) :=
  db.whenOpen (.ok (s.earliestStored db.tables))

/-- The tables after a write, unless the database is closed. -/
def write (db : Database Q) (tables : Tables Q) : Except StoreError Unit × Database Q :=
  if db.isOpen then (.ok (), { db with tables := tables }) else (.error .closedDatabase, db)

def insertEvents (db : Database Q) (events : List Event) : Except StoreError Unit × Database Q :=
  db.write (db.tables.insertEvents events)

def insertNumbers (db : Database Q) (entries : List (Entry Q)) :
    Except StoreError Unit × Database Q :=
  db.write (db.tables.insertNumbers entries)

/-- Whether the events of a chunk can be read. -/
def canImport (db : Database Q) (i : ChunkImport) : Bool :=
  canRead (valuePaths i.meter ++ i.meter.dimensions.toList.map (·.2))
    ((db.tables.events.filter i.selects).map (fun e => (TableRow.ofEvent e : TableRow Q)))

def importChunk (db : Database Q) (i : ChunkImport) : Except StoreError Unit × Database Q :=
  if db.isOpen ∧ ¬ db.canImport i then (.error unreadable, db)
  else db.write (i.apply db.tables)

def lookup (db : Database Q) (space hash : String) (range : Period) :
    Except StoreError (List (Row Q)) :=
  db.whenOpen (.ok (db.tables.lookupRows space hash range))

def store (db : Database Q) (space hash : String) (rows : List (Row Q)) :
    Except StoreError Unit × Database Q :=
  db.write (db.tables.storeRows space hash rows)

end Database

end Metering
