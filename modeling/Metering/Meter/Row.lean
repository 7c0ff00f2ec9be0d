import Metering.KeyMap
import Metering.Calendar.Instant
import Metering.Quantity

/-!
Rows of answers: one number for a window and a group, as a database returns it (`RawRow`) and as a
query answers it (`Row`).
-/
namespace Metering

structure Row (Q : Type) where
  value : Q
  start : Instant
  stop : Instant
  subject : Option String
  customer : Option String
  /-- The requested dimensions; a dimension without a value was not found in the events. -/
  groups : KeyMap (Option String)

/-- A row of a database: instants in microseconds, and one text for each group column. -/
structure RawRow (Q : Type) where
  start : Option Int
  stop : Option Int
  value : Option Q
  groups : List (Option String)

variable {Q : Type} [Quantity Q]

/-- A row that only says that its window has been computed. -/
def Row.isPlaceholder (r : Row Q) : Bool := Quantity.isUndefined r.value

end Metering
