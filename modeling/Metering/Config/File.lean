import Metering.Config.Basic
import Metering.Meter.Json

/-!
Settings as they are given: by the command line or the environment (`Overrides`), and by a file
(`ConfigFile`). Anything may be left out. The file is a JSON object; a section that is known holds
only what its settings allow, and one that is not may hold any value.
-/
namespace Metering

open Json

/-- Which databases to use. -/
structure Places where
  analytics : Option Dialect
  duckdbPath : Option String
  metadataPath : Option String
  clickhouseUrl : Option String
  clickhouseDatabase : Option String
  clickhouseUser : Option String
  clickhousePassword : Option String
deriving DecidableEq

namespace Places

def none : Places :=
  ⟨Option.none, Option.none, Option.none, Option.none, Option.none, Option.none, Option.none⟩

/-- The settings of the first, completed from the second. -/
def completedBy (p q : Places) : Places where
  analytics := p.analytics <|> q.analytics
  duckdbPath := p.duckdbPath <|> q.duckdbPath
  metadataPath := p.metadataPath <|> q.metadataPath
  clickhouseUrl := p.clickhouseUrl <|> q.clickhouseUrl
  clickhouseDatabase := p.clickhouseDatabase <|> q.clickhouseDatabase
  clickhouseUser := p.clickhouseUser <|> q.clickhouseUser
  clickhousePassword := p.clickhousePassword <|> q.clickhousePassword

end Places

/-- The settings that win over those of a file. -/
structure Overrides where
  /-- The path of the file. -/
  config : Option String
  places : Places
deriving DecidableEq

structure ConfigFile where
  places : Places
  clickhouseTimeout : Option Nat
  clickhouseCompression : Option Bool
  cacheEnabled : Option Bool
  queryAgeHours : Option Int
  usageAgeHours : Option Int
  backfillEnabled : Option Bool
  intervalSeconds : Option Nat
  stepsPerTick : Option Nat
  cutoverSeconds : Option Nat
  settleSeconds : Option Nat
  refreshSeconds : Option Nat
  maxFilterDepth : Option Nat
  meters : Option (List Meter)

def Dialect.ofTree? : Tree → Option Dialect := Tree.named? [.duckdb, .clickhouse] Dialect.name

namespace ConfigFile

/-- The fields of a section, of which there are none when it is missing or null. -/
def section? (r : Record) (name : String) (names : List String) : Option Record :=
  (r.optional name (Tree.fullRecord? names)).map fun s => s.getD []

def sectionNames : List String :=
  ["database", "query_cache", "backfill", "meter_cache", "filter", "meters"]

def places? (database duckdb clickhouse : Record) : Option Places := do
  return {
    analytics := ← database.optional "analytics" Dialect.ofTree?
    duckdbPath := ← duckdb.optional "path" Tree.string?
    metadataPath := ← database.optional "metadata_path" Tree.string?
    clickhouseUrl := ← clickhouse.optional "url" Tree.string?
    clickhouseDatabase := ← clickhouse.optional "database" Tree.string?
    clickhouseUser := ← clickhouse.optional "user" Tree.string?
    clickhousePassword := ← clickhouse.optional "password" Tree.string? }

def ofRecord? (r : Record) : Option ConfigFile := do
  let database ← section? r "database" ["analytics", "duckdb", "clickhouse", "metadata_path"]
  let duckdb ← section? database "duckdb" ["path"]
  let clickhouse ← section? database "clickhouse"
    ["url", "database", "user", "password", "timeout_secs", "compression"]
  let cache ← section? r "query_cache"
    ["enabled", "minimum_cacheable_query_period_hours", "minimum_cacheable_usage_age_hours"]
  let backfill ← section? r "backfill"
    ["enabled", "interval_secs", "steps_per_tick", "stream_start_offset_secs",
      "cutover_settle_delay_secs"]
  let snapshot ← section? r "meter_cache" ["refresh_interval_secs"]
  let filter ← section? r "filter" ["max_depth"]
  return {
    places := ← places? database duckdb clickhouse
    clickhouseTimeout := ← clickhouse.optional "timeout_secs" (Tree.unsigned? 64)
    clickhouseCompression := ← clickhouse.optional "compression" Tree.bool?
    cacheEnabled := ← cache.optional "enabled" Tree.bool?
    queryAgeHours := ← cache.optional "minimum_cacheable_query_period_hours" Tree.int64?
    usageAgeHours := ← cache.optional "minimum_cacheable_usage_age_hours" Tree.int64?
    backfillEnabled := ← backfill.optional "enabled" Tree.bool?
    intervalSeconds := ← backfill.optional "interval_secs" (Tree.unsigned? 64)
    stepsPerTick := ← backfill.optional "steps_per_tick" (Tree.unsigned? 32)
    cutoverSeconds := ← backfill.optional "stream_start_offset_secs" (Tree.unsigned? 64)
    settleSeconds := ← backfill.optional "cutover_settle_delay_secs" (Tree.unsigned? 64)
    refreshSeconds := ← snapshot.optional "refresh_interval_secs" (Tree.unsigned? 64)
    maxFilterDepth := ← filter.optional "max_depth" (Tree.unsigned? 64)
    meters := ← r.optional "meters" (Tree.array? Meter.ofTree?) }

/-- A file without settings. -/
def empty : ConfigFile :=
  ⟨.none, none, none, none, none, none, none, none, none, none, none, none, none, none⟩

def isKnown (field : Option String × Tree) : Bool := sectionNames.any fun name => field.1 == name

def ofTree? : Tree → Option ConfigFile
  | .object fields => do
    let r ← Record.ofFields sectionNames fields
    let _ ← Tree.fieldValues? (fields.filter fun f => ¬ isKnown f)
    ofRecord? r
  | _ => none

def read? (s : String) : Option ConfigFile := (Tree.read? s).bind ofTree?

end ConfigFile

end Metering
