import Metering.Query.Json
import Metering.Query.Plan
import Metering.Sha256

/-!
What a stored answer belongs to. `CacheIdentity` holds everything about a meter and a query that its
numbers depend on, in one form for all ways to write the same query; bounds are left out. The hash of
its JSON text names it in the store.
-/
namespace Metering

open Json

structure CacheIdentity where
  meterId : String
  aggregation : Aggregation
  eventType : String
  valuePath : Option String
  since : Option Instant
  /-- The names that are grouped by, and the path of each that is a dimension. -/
  groups : KeyMap (Option String)
  subjects : List String
  customers : KeyMap (List String)
  filters : KeyMap TextFilter
  zoneName : String
  window : WindowSize

namespace CacheIdentity

/-- The identity of a query whose answer is stored in windows of one size. -/
def make (m : Meter) (q : Query) (window : WindowSize) : Except Error CacheIdentity := do
  let z ← Zone.request q.zoneName
  return {
    meterId := m.id
    aggregation := m.aggregation
    eventType := m.eventType
    valuePath := m.valuePath
    since := m.since
    groups := KeyMap.ofList (q.groupBy.map fun name => (name, m.dimensions.get? name))
    subjects := sortedUnique q.subjects
    customers := KeyMap.ofList (q.customers.map fun c => (c.id, sortedUnique c.subjects))
    filters := q.filters
    zoneName := z.name
    window := window }

def toValue (i : CacheIdentity) : Value :=
  .object [("meter_id", .string i.meterId), ("aggregation", .string i.aggregation.name),
    ("event_type", .string i.eventType), ("value_property", .ofOption .string i.valuePath),
    ("event_from", .ofOption instantValue i.since), ("group_by", Row.groupsValue i.groups),
    ("filter_subject", textsValue i.subjects),
    ("filter_customer", .object (i.customers.toList.map fun c => (c.1, textsValue c.2))),
    ("filter_group_by", .object (i.filters.toList.map fun f => (f.1, TextFilter.toValue f.2))),
    ("time_zone", .string i.zoneName), ("cache_window", Query.windowValue i.window)]

def text (i : CacheIdentity) : String := i.toValue.text

def hash (i : CacheIdentity) : String := Sha256.hexDigest i.text

end CacheIdentity

/-- The name under which the answers of a query are stored. -/
def Query.hash (m : Meter) (q : Query) (window : WindowSize) : Except Error String :=
  (CacheIdentity.make m q window).map CacheIdentity.hash

end Metering
