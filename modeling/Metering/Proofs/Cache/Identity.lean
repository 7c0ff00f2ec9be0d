import Metering.Cache.Identity
import Metering.Proofs.Cache.Sound
import Metering.Proofs.Json.Writer

/-!
What stored rows are named by. The name is the hash of a text, and the texts of one query in windows of
different sizes differ (`window_of_text`), so rows of different windows are kept apart unless two texts
have the same hash.
-/
namespace Metering

open Json

/-- Queries that differ in nothing but their range, their windows and how they spell UTC. -/
structure Query.Alike (base q : Query) : Prop where
  subjects : q.subjects = base.subjects
  customers : q.customers = base.customers
  filters : q.filters = base.filters
  groupBy : q.groupBy = base.groupBy
  utc : Zone.request q.zoneName = .ok .utc

/-- The identity of the rows of a query in UTC. -/
def Meter.identity (m : Meter) (q : Query) (window : WindowSize) : CacheIdentity where
  meterId := m.id
  aggregation := m.aggregation
  eventType := m.eventType
  valuePath := m.valuePath
  since := m.since
  groups := .ofList (q.groupBy.map fun name => (name, m.dimensions.get? name))
  subjects := sortedUnique q.subjects
  customers := .ofList (q.customers.map fun c => (c.id, sortedUnique c.subjects))
  filters := q.filters
  zoneName := Zone.utc.name
  window := window

variable {m : Meter} {base q : Query}

theorem hash_of_alike (alike : base.Alike q) (window : WindowSize) :
    q.hash m window = .ok (m.identity base window).hash := by
  have made : CacheIdentity.make m q window = .ok (m.identity base window) := by
    simp only [CacheIdentity.make, alike.utc, alike.subjects, alike.customers, alike.filters,
      alike.groupBy]
    rfl
  rw [Query.hash, made]
  rfl

end Metering
