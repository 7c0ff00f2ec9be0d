import Metering.Config.File

/-!
The configuration from its layers: what is built in, over that the file, over that the command line
and the environment. Hours and seconds of a file become spans of exactly that length, counts of
seconds being taken as signed numbers of 64 bits.
-/
namespace Metering

/-- What stands at a path. -/
inductive Config.FileContent where
  | missing
  | unreadable
  | text (content : String)

namespace Config

/-- The file that is read when no other is named, if it exists. -/
def defaultPath : String := "meterhouse.json"

def spanOf (seconds : Int) : Except ConfigError Span :=
  match Span.seconds? seconds with
  | some s => .ok s
  | none => .error .spanTooLong

def hours (n : Option Int) (default : Int) : Except ConfigError Span :=
  spanOf (n.getD default * 3600)

def signed64 (n : Nat) : Int := (n : Int).bmod 18446744073709551616

def seconds (n : Option Nat) (default : Nat) : Except ConfigError Span :=
  spanOf (signed64 (n.getD default))

/-- Access to the server, if a URL is given that is not empty. -/
def serverAccess? (p : Places) (f : ConfigFile) : Option ServerAccess :=
  (p.clickhouseUrl.filter fun url => url ≠ "").map fun url =>
    ⟨url, p.clickhouseDatabase.getD "meterhouse", p.clickhouseUser, p.clickhousePassword,
      f.clickhouseTimeout.getD 30, f.clickhouseCompression.getD true⟩

/-- The settings of a file and of what wins over it, the rest built in. -/
def ofLayers (overrides : Places) (f : ConfigFile) : Except ConfigError Config := do
  let p := overrides.completedBy f.places
  return {
    analytics := p.analytics.getD .duckdb
    duckdbPath := p.duckdbPath.getD "meterhouse.duckdb"
    metadataPath := p.metadataPath.getD "meterhouse.db"
    clickhouse := serverAccess? p f
    cache := ⟨f.cacheEnabled.getD true, ← hours f.queryAgeHours 72, ← hours f.usageAgeHours 24⟩
    backfill := ⟨← seconds f.cutoverSeconds 60, ← seconds f.settleSeconds 600⟩
    maintenance :=
      ⟨f.backfillEnabled.getD true, f.intervalSeconds.getD 10, f.stepsPerTick.getD 4⟩
    refreshSeconds := f.refreshSeconds.getD 30
    maxFilterDepth := f.maxFilterDepth.getD 8
    meters := f.meters.getD [] }

def checked (c : Config) : Except ConfigError Config :=
  match c.fault? with
  | some e => .error e
  | none => .ok c

def fileOf (path : String) : FileContent → Except ConfigError ConfigFile
  | .missing => .error (.missingFile path)
  | .unreadable => .error (.unreadableFile path)
  | .text content =>
    match ConfigFile.read? content with
    | some f => .ok f
    | none => .error (.malformedFile path)

/-- The settings of the named file, or of the default one if it exists. -/
def fileSettings (path : Option String) (files : String → FileContent) :
    Except ConfigError ConfigFile :=
  match path, files defaultPath with
  | some path, _ => fileOf path (files path)
  | none, .missing => .ok .empty
  | none, content => fileOf defaultPath content

def load (o : Overrides) (files : String → FileContent) : Except ConfigError Config := do
  let f ← fileSettings o.config files
  let c ← ofLayers o.places f
  c.checked

end Config

end Metering
