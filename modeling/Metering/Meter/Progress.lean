import Metering.Json.Decode
import Metering.Json.Writer

/-!
How far a meter has moved onto the table of numbers. Progress only grows: first the cutover is fixed,
then the chunks to import are planned, then they are imported one by one, then the table is ready.
`Progress.isBehind` compares two records by these stages.

The record is kept as a versioned JSON document. A reader takes the version first and refuses a
version that it does not know, whatever else the document holds.
-/
namespace Metering

open Json

structure Progress where
  /-- Events stored from this instant on are written by live ingestion. -/
  cutover : Option Instant
  /-- The earliest storing time that the import covers. -/
  earliest : Option Instant
  /-- The chunks still to import, in order. -/
  pending : List Period
  /-- The table is complete and may answer queries. -/
  ready : Bool
deriving DecidableEq, Repr

namespace Progress

def initial : Progress := ⟨none, none, [], false⟩

def version : Nat := 1

/-- Whether live ingestion writes to the table. -/
def isOperational (p : Progress) : Bool := p.cutover.isSome

def rank (b : Bool) : Nat := if b then 1 else 0

/-- Whether the other record is further along: ready, then a cutover, then a plan, then fewer chunks. -/
def isBehind (p q : Progress) : Bool :=
  let stages (x : Progress) := [rank x.ready, rank x.cutover.isSome, rank x.earliest.isSome]
  if stages p = stages q then decide (q.pending.length < p.pending.length)
  else decide (stages p < stages q)

def periodValue (p : Period) : Value :=
  .object [("from", .string p.start.toText), ("to", .string p.stop.toText)]

def instantValue (t : Instant) : Value := .string t.toText

def fields (p : Progress) : List (String × Value) :=
  [("stream_cutover_at", .ofOption instantValue p.cutover),
    ("backfill_min_time", .ofOption instantValue p.earliest),
    ("import_chunks", .array (p.pending.map periodValue)),
    ("ready", .bool p.ready)]

def toValue (p : Progress) : Value := .object p.fields

def encode (p : Progress) : String :=
  (Value.object (("version", .ofInt version) :: p.fields)).text

inductive DecodeError where
  | malformed
  | unsupportedVersion (found : Nat)
deriving DecidableEq, Repr

def DecodeError.message : DecodeError → String
  | .malformed => "Malformed engine state: not a document of this form"
  | .unsupportedVersion found =>
    "Unsupported engine state version " ++ toString found ++ " (expected " ++ toString version ++ ")"

end Progress

def Period.ofTree? (t : Tree) : Option Period := do
  let r ← t.record? ["from", "to"]
  return ⟨← r.required "from" Tree.instant?, ← r.required "to" Tree.instant?⟩

namespace Progress

def fieldNames : List String := ["stream_cutover_at", "backfill_min_time", "import_chunks", "ready"]

def ofRecord? (r : Record) : Option Progress := do
  return {
    cutover := ← r.optional "stream_cutover_at" Tree.instant?
    earliest := ← r.optional "backfill_min_time" Tree.instant?
    pending := ← r.withDefault "import_chunks" [] (Tree.array? Period.ofTree?)
    ready := ← r.withDefault "ready" false Tree.bool? }

def ofTree? (t : Tree) : Option Progress :=
  (t.record? fieldNames).bind ofRecord?

/-- The version alone; all other fields are passed over. -/
def versionOf? (t : Tree) : Option Nat := do
  let r ← t.record? ["version"]
  r.required "version" (Tree.unsigned? 32)

/-- The document with its version; every other field must hold a value. -/
def ofDocument? : Tree → Option Progress
  | .object fields => do
    let r ← Record.ofFields ("version" :: fieldNames) fields
    let others := fields.filter fun f => f.1 ≠ some "version"
    let _ ← Tree.fieldValues? others
    ofRecord? r
  | _ => none

def decode (raw : String) : Except DecodeError Progress :=
  match Tree.read? raw with
  | none => .error .malformed
  | some t =>
    match versionOf? t with
    | none => .error .malformed
    | some found =>
      if found = version then
        match ofDocument? t with
        | some p => .ok p
        | none => .error .malformed
      else .error (.unsupportedVersion found)

end Progress

end Metering
