import Metering.Backfill.Step
import Metering.Cache.Answer

/-!
The configuration of a running program: where its data is and how its parts behave. `Config.fault?`
says what is wrong with one that must not be used.
-/
namespace Metering

/-- How to reach a database server. -/
structure ServerAccess where
  url : String
  database : String
  user : Option String
  password : Option String
  timeoutSeconds : Nat
  compression : Bool
deriving DecidableEq

/-- The loop that brings meters onto the table of numbers. -/
structure Maintenance where
  enabled : Bool
  intervalSeconds : Nat
  stepsPerTick : Nat
deriving DecidableEq

structure Config where
  /-- The dialect of the analytics database. -/
  analytics : Dialect
  duckdbPath : String
  metadataPath : String
  clickhouse : Option ServerAccess
  cache : CacheSettings
  backfill : BackfillSettings
  maintenance : Maintenance
  /-- How often the snapshot of the registry is read anew. -/
  refreshSeconds : Nat
  maxFilterDepth : Nat
  /-- Meters put into the registry at the start. -/
  meters : List Meter

/-- Why there is no configuration. -/
inductive ConfigError where
  | missingFile (path : String)
  | unreadableFile (path : String)
  | malformedFile (path : String)
  /-- A length of time longer than any span. -/
  | spanTooLong
  | missingUrl
  | notPositive (setting : String)
  | cutoverTooEarly
  | negativePeriod
  | invalidMeter (slug space : String) (cause : Error)
deriving DecidableEq

namespace ConfigError

/-- What is wrong with the settings themselves. -/
def reason : ConfigError → String
  | missingUrl => "database.clickhouse.url is required when database.analytics is 'clickhouse'"
  | notPositive setting => setting ++ " must be greater than 0"
  | cutoverTooEarly =>
    "backfill.stream_start_offset_secs must be greater than meter_cache.refresh_interval_secs"
  | negativePeriod => "query_cache periods must not be negative"
  | spanTooLong => "a length of time is out of range"
  | invalidMeter slug space _ => "invalid meter '" ++ slug ++ "' in namespace '" ++ space ++ "'"
  | missingFile path | unreadableFile path | malformedFile path => path

def message : ConfigError → String
  | missingFile path => "Config file not found: " ++ path
  | unreadableFile path => "Failed to read config file: " ++ path
  | malformedFile path => "Failed to parse config file: " ++ path
  | e => "Configuration error: " ++ e.reason

/-- The failure behind this one. -/
def cause? : ConfigError → Option Error
  | invalidMeter _ _ cause => some cause
  | _ => none

end ConfigError

namespace Config

def meterFault? (m : Meter) : Option ConfigError :=
  m.fault?.map fun fault => .invalidMeter m.slug m.space (.definition m.slug fault)

/-- The first fault. Ingestion sees a cutover with the next refresh of the snapshot, so the cutover
must be fixed further ahead than the time from one refresh to the next. -/
def fault? (c : Config) : Option ConfigError :=
  if c.analytics = .clickhouse ∧ c.clickhouse.isNone then some .missingUrl
  else if c.maintenance.intervalSeconds = 0 then some (.notPositive "backfill.interval_secs")
  else if c.maintenance.stepsPerTick = 0 then some (.notPositive "backfill.steps_per_tick")
  else if c.refreshSeconds = 0 then some (.notPositive "meter_cache.refresh_interval_secs")
  else if ¬ Span.seconds c.refreshSeconds < c.backfill.cutoverDelay then some .cutoverTooEarly
  else if c.maxFilterDepth = 0 then some (.notPositive "filter.max_depth")
  else if c.cache.minQueryAge < Span.seconds 0 ∨ c.cache.minUsageAge < Span.seconds 0 then
    some .negativePeriod
  else c.meters.findSome? meterFault?

end Config

end Metering
