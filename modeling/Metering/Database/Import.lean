import Metering.Database.Evaluate

/-!
The import of a chunk into the table of numbers. What is there of the chunk is deleted, then the events
that were stored inside it and before the cutover are copied, each with its value and the texts of the
meter's dimensions. Importing a chunk again gives the same rows.
-/
namespace Metering

variable {Q : Type} [Quantity Q]

namespace ChunkImport

/-- Storing times in the chunk, to the microsecond. -/
def holdsTime (i : ChunkImport) (t : Instant) : Bool :=
  i.chunk.start.microsecondStart ≤ t ∧ t < i.chunk.stop.microsecondStart

def deletes (i : ChunkImport) (e : Entry Q) : Bool :=
  e.space == i.meter.space && e.meterId == i.meter.id && i.holdsTime e.storedAt

def selects (i : ChunkImport) (e : Event) : Bool :=
  i.meter.covers e.space e.type && i.holdsTime e.storedAt &&
    e.storedAt < i.cutover.microsecondStart

/-- The texts of the dimensions that a document has, also empty ones. -/
def dimensionTexts (m : Meter) (data : Option Json.Tree) : KeyMap String :=
  m.dimensions.filterMap fun _ path =>
    data.bind fun t => Document.textAt? t (Condition.selectors path)

/-- The entry of an event, unless it has no value. -/
def measure? (i : ChunkImport) (e : Event) : Option (Entry Q) := do
  let x ← (← (TableRow.ofEvent e : TableRow Q).contribution? i.meter).number?
  return ⟨e.space, i.meter.id, e.subject, e.time, e.storedAt, x,
    dimensionTexts i.meter (Json.Tree.read? e.data)⟩

def apply (i : ChunkImport) (t : Tables Q) : Tables Q :=
  let kept := t.numbers.filter fun e => ¬ i.deletes e
  { t with numbers := kept ++ (t.events.filter i.selects).filterMap i.measure? }

end ChunkImport

end Metering
