import Metering.Meter.Progress

/-!
Failures of storage, by cause. `StoreError.isTransient` says which are worth another attempt.
-/
namespace Metering

inductive Backend where
  | duckdb
  | clickhouse
  | sqlite
deriving DecidableEq, Repr

def Backend.name : Backend → String
  | .duckdb => "duckdb"
  | .clickhouse => "clickhouse"
  | .sqlite => "sqlite"

/-- How a pooled database failed. -/
inductive PoolFailure where
  | timedOut
  | closed
  | io
  | rowNotFound
  | constraint
deriving DecidableEq, Repr

inductive StoreError where
  | sqlite (failure : PoolFailure)
  | duckdb (text : String)
  | clickhouse (text : String)
  | migrationFailed (backend : Backend) (version : Int) (name error : String)
  | config (text : String)
  | io
  | timeout (backend : Backend) (seconds : Nat)
  | notFound (entity id : String)
  | invalidData (text : String)
deriving DecidableEq, Repr

namespace StoreError

def message : StoreError → String
  | sqlite _ => "SQLite error"
  | duckdb text => "DuckDB error: " ++ text
  | clickhouse text => "ClickHouse error: " ++ text
  | migrationFailed backend version name error =>
    "Migration " ++ toString version ++ " (" ++ name ++ ") failed on " ++ backend.name ++ ": " ++
      error
  | config text => "Configuration error: " ++ text
  | io => "IO error"
  | timeout backend seconds =>
    "Query timeout after " ++ toString seconds ++ "s on " ++ backend.name
  | notFound entity id => entity ++ " not found: " ++ id
  | invalidData text => "Invalid stored data: " ++ text

/-- A word for the kind of failure. -/
def kind : StoreError → String
  | sqlite _ => "Sqlite"
  | duckdb _ => "Duckdb"
  | clickhouse _ => "Clickhouse"
  | migrationFailed .. => "MigrationFailed"
  | config _ => "Config"
  | io => "Io"
  | timeout .. => "Timeout"
  | notFound .. => "NotFound"
  | invalidData _ => "InvalidData"

/-- The database that failed, where one is known. -/
def backend? : StoreError → Option Backend
  | sqlite _ => some .sqlite
  | duckdb _ => some .duckdb
  | clickhouse _ => some .clickhouse
  | migrationFailed backend .. => some backend
  | timeout backend _ => some backend
  | config _ | io | notFound .. | invalidData _ => none

def backendName (e : StoreError) : String := (e.backend?.map Backend.name).getD "unknown"

/-- Whether a word stands anywhere in a text. -/
def holdsWord (word : List Char) : List Char → Bool
  | [] => word.isEmpty
  | c :: cs => word.isPrefixOf (c :: cs) || holdsWord word cs

/-- Failures of a connection, which may pass; failures of the first analytics database never do. -/
def isTransient : StoreError → Bool
  | timeout .. => true
  | sqlite failure =>
    match failure with
    | .timedOut | .closed | .io => true
    | .rowNotFound | .constraint => false
  | clickhouse text => ["connection", "timeout", "network"].any fun word => holdsWord word.toList text.toList
  | _ => false

def isNotFound : StoreError → Bool
  | notFound .. => true
  | _ => false

/-- The failure of a database that has been closed. -/
def closedDatabase : StoreError := config "DuckDB connection already closed"

def ofDecodeError (e : Progress.DecodeError) : StoreError := invalidData e.message

end StoreError

end Metering
