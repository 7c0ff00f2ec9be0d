import Metering.CommandLine.Invocation
import Metering.Config.Load
import Metering.Report

/-!
How the program was started and configured, as JSON.
-/
namespace Metering.Report

open Json CommandLine

def text? : Option String → Value := .ofOption .string

def dialect (d : Dialect) : Value := .string d.name

def serverAccess (a : ServerAccess) : Value :=
  .object [("url", .string a.url), ("database", .string a.database), ("user", text? a.user),
    ("password", text? a.password), ("timeout_secs", nat a.timeoutSeconds),
    ("compression", .bool a.compression)]

def config (c : Config) : Value :=
  .object [("analytics", dialect c.analytics), ("duckdb_path", .string c.duckdbPath),
    ("metadata_path", .string c.metadataPath),
    ("clickhouse", .ofOption serverAccess c.clickhouse), ("cache_enabled", .bool c.cache.enabled),
    ("cache_period_secs", .ofInt c.cache.minQueryAge.wholeSeconds),
    ("cache_age_secs", .ofInt c.cache.minUsageAge.wholeSeconds),
    ("stream_start_offset_secs", .ofInt c.backfill.cutoverDelay.wholeSeconds),
    ("cutover_settle_delay_secs", .ofInt c.backfill.settleDelay.wholeSeconds),
    ("backfill_enabled", .bool c.maintenance.enabled),
    ("backfill_interval_secs", nat c.maintenance.intervalSeconds),
    ("steps_per_tick", nat c.maintenance.stepsPerTick),
    ("meter_cache_refresh_secs", nat c.refreshSeconds),
    ("filter_max_depth", nat c.maxFilterDepth), ("meters", .array (c.meters.map meter))]

def configError (e : ConfigError) : Value :=
  .object (failure "Config" (some e.message) ++
    optionalField "cause" (fun cause : Error => .string cause.message) e.cause?)

def command : Command → Value
  | .serve => .object [("name", .string "serve")]
  | .query space meter q =>
    .object [("name", .string "query"), ("meter", .string meter), ("namespace", .string space),
      ("from", .ofOption time q.start), ("to", .ofOption time q.stop),
      ("window_size", .ofOption Query.windowValue q.window),
      ("window_time_zone", text? q.zoneName), ("subjects", texts q.subjects),
      ("group_by", texts q.groupBy), ("cachable", .bool q.cachable)]
  | .subjects space meter start stop =>
    .object [("name", .string "subjects"), ("meter", .string meter), ("namespace", .string space),
      ("from", .ofOption time start), ("to", .ofOption time stop)]
  | .backfillStep space meter budget =>
    .object [("name", .string "backfill-step"), ("meter", .string meter),
      ("namespace", .string space), ("budget", nat budget)]

def invocation (i : Invocation) : Value :=
  let p := i.overrides.places
  .object [("command", .ofOption command i.command), ("config", text? i.overrides.config),
    ("analytics_backend", .ofOption dialect p.analytics), ("duckdb_path", text? p.duckdbPath),
    ("metadata_path", text? p.metadataPath), ("clickhouse_url", text? p.clickhouseUrl),
    ("clickhouse_database", text? p.clickhouseDatabase),
    ("clickhouse_user", text? p.clickhouseUser),
    ("clickhouse_password", text? p.clickhousePassword)]

def usageError (e : UsageError) : Value :=
  .object [("error", .string "Cli"), ("kind", .string e.kind)]

end Metering.Report
