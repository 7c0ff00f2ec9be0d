import Metering.Json.Decode
import Metering.Json.Writer
import Metering.Meter.Basic
import Metering.Meter.Event
import Metering.Meter.Row

/-!
Meters, events and rows as JSON objects. What is optional in a meter or a row is left out when it is
unset.
-/
namespace Metering

open Json

def optionalField {α : Type} (name : String) (write : α → Value) : Option α → List (String × Value)
  | none => []
  | some v => [(name, write v)]

def instantValue (t : Instant) : Value := .string t.toText

def Aggregation.ofTree? : Tree → Option Aggregation := Tree.named? Aggregation.all Aggregation.name

def textMapValue (m : KeyMap String) : Value :=
  .object (m.toList.map fun e => (e.1, .string e.2))

namespace Meter

def fieldNames : List String :=
  ["namespace", "id", "slug", "aggregation", "event_type", "value_property", "group_by",
    "event_from", "table_engine"]

def ofTree? (t : Tree) : Option Meter := do
  let r ← t.record? fieldNames
  return {
    space := ← r.required "namespace" Tree.string?
    id := ← r.required "id" Tree.string?
    slug := ← r.required "slug" Tree.string?
    aggregation := ← r.required "aggregation" Aggregation.ofTree?
    eventType := ← r.required "event_type" Tree.string?
    valuePath := ← r.optional "value_property" Tree.string?
    dimensions := ← r.withDefault "group_by" ∅ (Tree.map? Tree.string?)
    since := ← r.optional "event_from" Tree.instant?
    progress := ← r.optional "table_engine" Progress.ofTree? }

def toValue (m : Meter) : Value :=
  .object ([("namespace", .string m.space), ("id", .string m.id), ("slug", .string m.slug),
    ("aggregation", .string m.aggregation.name), ("event_type", .string m.eventType)] ++
    optionalField "value_property" .string m.valuePath ++
    [("group_by", textMapValue m.dimensions)] ++
    optionalField "event_from" instantValue m.since ++
    optionalField "table_engine" Progress.toValue m.progress)

end Meter

namespace Event

def fieldNames : List String :=
  ["namespace", "id", "type", "source", "subject", "time", "data", "ingested_at", "stored_at"]

def ofTree? (t : Tree) : Option Event := do
  let r ← t.record? fieldNames
  return {
    space := ← r.required "namespace" Tree.string?
    id := ← r.required "id" Tree.string?
    type := ← r.required "type" Tree.string?
    source := ← r.withDefault "source" "" Tree.string?
    subject := ← r.required "subject" Tree.string?
    time := ← r.required "time" Tree.instant?
    data := ← r.required "data" Tree.string?
    ingestedAt := ← r.required "ingested_at" Tree.instant?
    storedAt := ← r.required "stored_at" Tree.instant? }

def toValue (e : Event) : Value :=
  .object [("namespace", .string e.space), ("id", .string e.id), ("type", .string e.type),
    ("source", .string e.source), ("subject", .string e.subject), ("time", instantValue e.time),
    ("data", .string e.data), ("ingested_at", instantValue e.ingestedAt),
    ("stored_at", instantValue e.storedAt)]

end Event

namespace Row

def fieldNames : List String :=
  ["value", "window_start", "window_end", "subject", "customer_id", "group_by"]

def ofTree? (t : Tree) : Option (Row Float) := do
  let r ← t.record? fieldNames
  return {
    value := ← r.required "value" Tree.float?
    start := ← r.required "window_start" Tree.instant?
    stop := ← r.required "window_end" Tree.instant?
    subject := ← r.optional "subject" Tree.string?
    customer := ← r.optional "customer_id" Tree.string?
    groups := ← r.withDefault "group_by" ∅ (Tree.map? (Tree.nullable? Tree.string?)) }

def groupsValue (m : KeyMap (Option String)) : Value :=
  .object (m.toList.map fun e => (e.1, .ofOption .string e.2))

def toValue (r : Row Float) : Value :=
  .object ([("value", .ofFloat r.value), ("window_start", instantValue r.start),
    ("window_end", instantValue r.stop)] ++ optionalField "subject" .string r.subject ++
    optionalField "customer_id" .string r.customer ++ [("group_by", groupsValue r.groups)])

end Row

end Metering
