import Metering.Json.Path
import Metering.Json.Writer
import Metering.Meter.Basic
import Metering.Meter.Event
import Metering.Text.Blank

/-!
The number that an event contributes to a meter, as live ingestion finds it. An event of another
namespace or type contributes nothing, and neither does one without a finite number at the path of the
value; a text that spells a number counts. A dimension is the text of the scalar at its path.
-/
namespace Metering

open Json

/-- A finite number, or a text that spells one between blanks. -/
def Json.Value.quantity? : Value → Option Float
  | .number n => some n.toFloat
  | .string s => Quantity.read? (Text.trimBlanks s.toList)
  | _ => none

/-- A scalar as a text; the empty text counts as missing. -/
def Json.Value.scalarText? : Value → Option String
  | .string s => if s = "" then none else some s
  | .number n => some (String.ofList n.text)
  | .bool true => some "true"
  | .bool false => some "false"
  | .null | .array _ | .object _ => none

namespace Meter

/-- The number in an event's data. Every event counts as one. -/
def contribution? (m : Meter) (data : Value) : Option Float :=
  match m.aggregation, m.valuePath with
  | .count, _ => some 1
  | _, some path => (data.at? path).bind Value.quantity?
  | _, none => none

/-- The dimensions that an event's data has. -/
def dimensionTexts (m : Meter) (data : Value) : KeyMap String :=
  m.dimensions.filterMap fun _ path => (data.at? path).bind Value.scalarText?

/-- The entry of an event in the table of numbers. Data that is no JSON text holds nothing. -/
def measure? (m : Meter) (e : Event) : Option (Entry Float) :=
  if m.covers e.space e.type && m.aggregation.isNumeric then
    let data := (Value.read? e.data).getD .null
    (m.contribution? data).map fun value =>
      ⟨m.space, m.id, e.subject, e.time, e.storedAt, value, m.dimensionTexts data⟩
  else none

end Meter

end Metering
