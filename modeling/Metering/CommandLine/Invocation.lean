import Metering.CommandLine.Grammar
import Metering.Config.File
import Metering.Query.Basic

/-!
The command line of the program. Options that say which databases to use may stand before or after the
name of the command; each can be given by an environment variable as well.
-/
namespace Metering.CommandLine

/-- What the program is asked to do. -/
inductive Command where
  /-- Keeps bringing meters onto the table of numbers. -/
  | serve
  | query (space meter : String) (query : Query)
  | subjects (space meter : String) (start stop : Option Instant)
  /-- Lets one meter take some steps of its import. -/
  | backfillStep (space meter : String) (budget : Nat)

structure Invocation where
  command : Option Command
  overrides : Overrides

/-- A letter without its case, where that makes it an ASCII letter: the sign of the kelvin is a k. -/
def lowerCase (c : Char) : Char := if c = '\u212a' then 'k' else c.toLower

def readDialect? (s : String) : Option Dialect :=
  [Dialect.duckdb, .clickhouse].find? fun d => d.name = s.map lowerCase

/-- A number of 32 bits with an optional sign. -/
def readCount? (s : String) : Option Nat :=
  let (isNegative, digits) := match s.toList with
    | '-' :: cs => (true, cs)
    | '+' :: cs => (false, cs)
    | cs => (false, cs)
  let n := Text.readDigits digits
  if digits ≠ [] ∧ digits.all Char.isDigit ∧ n < 4294967296 ∧ (isNegative → n = 0) then some n else none

def anyText (_ : String) : Bool := true

/-- The options that any command takes. -/
def sharedParameters : List Parameter := [
  ⟨"config", some 'c', .path, some "METERHOUSE_CONFIG"⟩,
  ⟨"analytics-backend", none, .value fun s => (readDialect? s).isSome,
    some "METERHOUSE_ANALYTICS_BACKEND"⟩,
  ⟨"duckdb-path", none, .path, some "METERHOUSE_DUCKDB_PATH"⟩,
  ⟨"metadata-path", none, .path, some "METERHOUSE_METADATA_PATH"⟩,
  ⟨"clickhouse-url", none, .value anyText, some "METERHOUSE_CLICKHOUSE_URL"⟩,
  ⟨"clickhouse-database", none, .value anyText, some "METERHOUSE_CLICKHOUSE_DATABASE"⟩,
  ⟨"clickhouse-user", none, .value anyText, some "METERHOUSE_CLICKHOUSE_USER"⟩,
  ⟨"clickhouse-password", none, .value anyText, some "METERHOUSE_CLICKHOUSE_PASSWORD"⟩]

def help : Parameter := ⟨"help", some 'h', .help, none⟩

def version : Parameter := ⟨"version", some 'V', .version, none⟩

def instantParameter (name : String) : Parameter :=
  ⟨name, none, .value fun s => (Instant.readStrict? s).isSome, none⟩

/-- The options of a command about a meter. -/
def meterGrammar (parameters : List Parameter) : Grammar :=
  ⟨⟨"namespace", some 'n', .value anyText, none⟩ :: parameters ++ help :: sharedParameters,
    some "METER", []⟩

def rangeParameters : List Parameter := [instantParameter "from", instantParameter "to"]

def queryParameters : List Parameter := rangeParameters ++ [
  ⟨"window-size", none, .value fun s => (WindowSize.ofName? s).isSome, none⟩,
  ⟨"window-time-zone", none, .value anyText, none⟩,
  ⟨"subject", none, .values, none⟩,
  ⟨"group-by", none, .values, none⟩,
  ⟨"cachable", none, .flag, none⟩]

def commandGrammars : List (String × Grammar) := [
  ("serve", ⟨help :: sharedParameters, none, []⟩),
  ("query", meterGrammar queryParameters),
  ("subjects", meterGrammar rangeParameters),
  ("backfill-step",
    meterGrammar [⟨"budget", none, .value fun s => (readCount? s).isSome, none⟩])]

def helpCommand : String := "help"

def programGrammar : Grammar :=
  ⟨sharedParameters ++ [help, version], none, commandGrammars.map (·.1) ++ [helpCommand]⟩

/-- Help may be asked for the program, for a command, or for help itself. -/
def helpFor : List String → UsageError
  | [] => .helpAsked
  | [name] => if name ∈ programGrammar.commands then .helpAsked else .unknownCommand name
  | name :: other :: _ =>
    .unknownCommand (if name ∈ programGrammar.commands then other else name)

namespace Arguments

def space (a : Arguments) : String := (a.value? "namespace").getD "default"

def meter (a : Arguments) : String := a.operand.getD ""

def instant? (a : Arguments) (name : String) : Option Instant :=
  (a.value? name).bind Instant.readStrict?

def query (a : Arguments) : Query :=
  { Query.any with
    start := a.instant? "from"
    stop := a.instant? "to"
    window := (a.value? "window-size").bind WindowSize.ofName?
    zoneName := a.value? "window-time-zone"
    subjects := a.given.all "subject"
    groupBy := a.given.all "group-by"
    cachable := a.given.has "cachable" }

def command (a : Arguments) : String → Command
  | "query" => .query a.space a.meter a.query
  | "subjects" => .subjects a.space a.meter (a.instant? "from") (a.instant? "to")
  | "backfill-step" =>
    .backfillStep a.space a.meter (((a.value? "budget").bind readCount?).getD 1)
  | _ => .serve

def overrides (a : Arguments) : Overrides where
  config := a.value? "config"
  places := {
    analytics := (a.value? "analytics-backend").bind readDialect?
    duckdbPath := a.value? "duckdb-path"
    metadataPath := a.value? "metadata-path"
    clickhouseUrl := a.value? "clickhouse-url"
    clickhouseDatabase := a.value? "clickhouse-database"
    clickhouseUser := a.value? "clickhouse-user"
    clickhousePassword := a.value? "clickhouse-password" }

/-- What was given after the name of a command, completed from what was given before it. -/
def after (inner outer : Arguments) : Arguments :=
  { inner with given := inner.given ++ outer.given }

end Arguments

/-- Reads the words of a command line in an environment. A variable that cannot be used is a mistake
for the program and for the command, unless the option is given to both. -/
def Invocation.read (environment : String → Option String) (words : List String) :
    Except UsageError Invocation := do
  let (r, rest) ← programGrammar.scan false .start words
  match rest with
  | none =>
    let a ← programGrammar.finish environment r
    return ⟨none, a.overrides⟩
  | some (name, words) =>
    match commandGrammars.lookup name with
    | none => .error (helpFor words)
    | some g =>
      let (inner, _) ← g.scan false .start words
      let inner ← g.finish environment inner
      let outer ← programGrammar.finish environment r
      return ⟨some (inner.command name), (inner.after outer).overrides⟩

end Metering.CommandLine
