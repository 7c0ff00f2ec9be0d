import Metering.Meter.Json
import Metering.Registry.Basic

/-!
A registry kept as a database table, in which the aggregation, the dimensions and the progress of a
meter are texts. A row is decoded when it is read, and a text that is not what it should be fails the
reading of its row. A slug is not empty and belongs to one meter of a namespace.
-/
namespace Metering

open Json

structure MeterRecord where
  space : String
  id : String
  slug : String
  aggregation : String
  eventType : String
  valuePath : Option String
  /-- A JSON object. -/
  dimensions : String
  /-- Microseconds since 1 January 1970. -/
  since : Option Int
  /-- A versioned JSON document. -/
  progress : Option String
deriving DecidableEq, Repr

namespace MeterRecord

def ofMeter (m : Meter) : MeterRecord where
  space := m.space
  id := m.id
  slug := m.slug
  aggregation := m.aggregation.name
  eventType := m.eventType
  valuePath := m.valuePath
  dimensions := (textMapValue m.dimensions).text
  since := m.since.map Instant.micros
  progress := m.progress.map Progress.encode

def readAggregation (r : MeterRecord) : Except StoreError Aggregation :=
  match Aggregation.ofName? r.aggregation with
  | some a => .ok a
  | none => .error (.invalidData ("meter " ++ r.id ++ ": aggregation " ++ r.aggregation))

def readDimensions (r : MeterRecord) : Except StoreError (KeyMap String) :=
  match (Tree.read? r.dimensions).bind (Tree.map? Tree.string?) with
  | some ds => .ok ds
  | none => .error (.invalidData ("meter " ++ r.id ++ ": group_by: not an object of texts"))

def readProgress (r : MeterRecord) : Except StoreError (Option Progress) :=
  match r.progress with
  | none => .ok none
  | some raw =>
    match Progress.decode raw with
    | .ok p => .ok (some p)
    | .error e => .error (.ofDecodeError e)

/-- The meter of a row; the first text that cannot be read fails it. -/
def toMeter (r : MeterRecord) : Except StoreError Meter := do
  let aggregation ← r.readAggregation
  let dimensions ← r.readDimensions
  let progress ← r.readProgress
  return ⟨r.space, r.id, r.slug, aggregation, r.eventType, r.valuePath, dimensions,
    r.since.map Instant.ofMicros, progress⟩

def HasKey (r : MeterRecord) (space id : String) : Prop := r.space = space ∧ r.id = id

instance (r : MeterRecord) (space id : String) : Decidable (r.HasKey space id) :=
  inferInstanceAs (Decidable (_ ∧ _))

/-- The order of namespaces, then of slugs. -/
def before (r s : MeterRecord) : Bool :=
  r.space < s.space ∨ (r.space = s.space ∧ r.slug ≤ s.slug)

/-- A text counts as empty when it is, or when it starts with the character that ends texts. -/
def isEmptyText (s : String) : Bool :=
  match s.toList with
  | [] => true
  | c :: _ => c == '\x00'

end MeterRecord

abbrev RegistryTable := List MeterRecord

namespace RegistryTable

def list (t : RegistryTable) (space : Option String) : Except StoreError (List Meter) :=
  ((t.filter fun r => space.all fun s => r.space = s).mergeSort MeterRecord.before).mapM
    MeterRecord.toMeter

def find? (t : RegistryTable) (space name : String) : Option MeterRecord :=
  List.find? (fun r => r.HasKey space name) t <|>
    List.find? (fun r => r.space = space ∧ r.slug = name) t

def setProgress? (t : RegistryTable) (space id : String) (p : Progress) : Option RegistryTable :=
  if t.any fun r => r.HasKey space id then
    some (t.map fun r => if r.HasKey space id then { r with progress := some p.encode } else r)
  else none

/-- Whether a definition would break a rule of the table. -/
def rejects (t : RegistryTable) (m : Meter) : Bool :=
  MeterRecord.isEmptyText m.slug ||
    t.any fun r => r.space = m.space ∧ r.slug = m.slug ∧ r.id ≠ m.id

/-- The definition in place of the one stored, whose progress stays unless the new one has its own. -/
def put (t : RegistryTable) (m : Meter) : RegistryTable :=
  let record := MeterRecord.ofMeter m
  if t.any fun r => r.HasKey m.space m.id then
    t.map fun r =>
      if r.HasKey m.space m.id then { record with progress := record.progress <|> r.progress }
      else r
  else t ++ [record]

/-- The answer to a request, and the table afterwards. -/
def answer (t : RegistryTable) : (q : RegistryRequest) → q.Answer × RegistryTable
  | .list space => (t.list space, t)
  | .get space name =>
    match t.find? space name with
    | some r => (r.toMeter, t)
    | none => (.error (.noMeter name), t)
  | .setProgress space id p =>
    match t.setProgress? space id p with
    | some t => (.ok (), t)
    | none => (.error (.noMeter id), t)
  | .put m => if t.rejects m then (.error (.sqlite .constraint), t) else (.ok (), t.put m)

end RegistryTable

end Metering
