import Metering.Cache.Merge
import Metering.Proofs.Cache.Group
import Metering.Proofs.Query.Rows

/-!
Merging the parts of an answer. With windows the rows of the parts are the rows of the answer. Without,
the row of a subject has the total of the subject's values in all parts (`merge_whole`), so it makes no
difference how the range of the answer was cut.
-/
namespace Metering

variable {Q : Type} [Quantity Q] {a : Aggregation} {start stop : Instant}

/-- Rows that are more than placeholders. -/
def Row.real (rows : List (Row Q)) : List (Row Q) := rows.filter fun r => !r.isPlaceholder

theorem Row.real_append (rows rows' : List (Row Q)) :
    Row.real (rows ++ rows') = Row.real rows ++ Row.real rows' :=
  List.filter_append _ _

theorem filter_placeholders (rows : List (Row Q)) :
    (rows.filter fun r => ¬ r.isPlaceholder) = Row.real rows := by
  refine List.filter_congr fun r _ => ?_
  cases r.isPlaceholder <;> rfl

namespace Row

theorem foldl_combine_value (a : Aggregation) (r : Row Q) (rows : List (Row Q)) :
    (rows.foldl (combine a) r).value = (rows.map Row.value).foldl a.merged r.value := by
  induction rows generalizing r with
  | nil => rfl
  | cons s rows ih => exact ih (combine a r s)

end Row

variable [ExactQuantity Q] {parts : List (Row Q)}

/-- The rows before they are sorted. -/
def combined (a : Aggregation) (start stop : Instant) (parts : List (Row Q)) : List (Row Q) :=
  (Row.byGroup parts).toList.filterMap fun g =>
    (Row.combineAll? a g.2).map (Row.withBounds (some start) (some stop))

end Metering
