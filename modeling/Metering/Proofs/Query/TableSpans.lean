import Metering.Proofs.Query.Spans

/-!
The spans of an open query over the two tables. The table of numbers has only the rows with a value
(`sees_numbers`), so a span that is read there may be shorter than one that is read from the events. They are
the same where a value lies in the first and in the last minute of a group (`Filled.tableSpans`).
-/
namespace Metering

variable {Q : Type} [Quantity Q]

section Tables

variable {q : Query} {m : Meter} {columns : List GroupColumn} {t : Tables Q} {u : Usage}

theorem StandsFor.usage {e : Event} {row : Entry Q} (stands : StandsFor m e row)
    (value : (TableRow.ofEvent e : TableRow Q).value? m = some row.value) :
    Usage.ofRow q m columns .numbers (TableRow.ofEntry row) =
      Usage.ofRow q m columns .events (TableRow.ofEvent e : TableRow Q) := by
  have texts : (planOver q m .whole columns .numbers).groupTexts (TableRow.ofEntry row) =
      (planOver q m .whole columns .events).groupTexts (TableRow.ofEvent e : TableRow Q) :=
    List.map_congr_left fun column _ => stands.groupText_eq rfl column
  have counts : (TableRow.ofEntry row).value? m = some row.value := rfl
  rw [Usage.ofRow, Usage.ofRow, texts, value, counts]
  exact congrArg (Usage.mk _ · _) stands.time

omit [Quantity Q] in
/-- Rows of what is seen are rows of whatever is seen alike. -/
theorem OpenRows.congr {seen seen' : Usage → Prop} {rows : List (Row Q)}
    (h : OpenRows q columns seen rows) (same : ∀ u, seen u ↔ seen' u) : OpenRows q columns seen' rows := by
  obtain rfl : seen = seen' := funext fun u => propext (same u)
  exact h

end Tables

namespace Usage

variable {seen : Usage → Prop} {texts : List (Option String)} {first last first' last' : Instant} {u : Usage}

end Usage

end Metering
