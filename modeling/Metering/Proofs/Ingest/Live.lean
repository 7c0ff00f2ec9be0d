import Metering.Ingest
import Metering.Proofs.Database.Import

/-!
What live ingestion adds to the rows of one meter: at most one entry for each event, and none unless
the snapshot holds a cutover that is not after the storing time.
-/
namespace Metering

/-- The entry that live ingestion leaves in the table, by the cutover that the snapshot holds. -/
def Meter.streamed? (m : Meter) (cutover : Option Instant) (e : Event) : Option (Entry Float) :=
  if cutover.any fun c => c ≤ e.storedAt then (m.measure? e).map Tables.keepEntry else none

/-- The meter stands at most once in a snapshot, as it was defined. -/
def Snapshot.ListsOnce (s : Snapshot) (m : Meter) : Prop :=
  s.filter (Snapshot.isNamed m.space m.id) = [] ∨
    ∃ p, s.filter (Snapshot.isNamed m.space m.id) = [{ m with progress := p }]

/-- The cutover of a meter as a snapshot has it. -/
def Snapshot.cutover? (s : Snapshot) (m : Meter) : Option Instant :=
  (s.progress? m.space m.id).bind Progress.cutover

theorem Meter.measure?_eq_some {m : Meter} {e : Event} {row : Entry Float}
    (h : m.measure? e = some row) :
    row.space = m.space ∧ row.meterId = m.id ∧ row.storedAt = e.storedAt := by
  unfold Meter.measure? at h
  split at h
  · simp only [Option.map_eq_some_iff] at h
    obtain ⟨x, -, rfl⟩ := h
    exact ⟨rfl, rfl, rfl⟩
  · exact absurd h (by simp)

theorem Meter.covers_of_measure? {m : Meter} {e : Event} {row : Entry Float}
    (h : m.measure? e = some row) : m.covers e.space e.type = true := by
  unfold Meter.measure? at h
  split at h
  · rename_i both
    simp only [Bool.and_eq_true] at both
    exact both.1
  · exact absurd h (by simp)

theorem Meter.streamed?_eq_some {m : Meter} {cutover : Option Instant} {e : Event}
    {row : Entry Float} (h : m.streamed? cutover e = some row) :
    ∃ c, cutover = some c ∧ c ≤ e.storedAt ∧ row.storedAt = e.storedAt.microsecondStart := by
  unfold Meter.streamed? at h
  split at h
  · rename_i reached
    simp only [Option.map_eq_some_iff] at h
    obtain ⟨entry, made, rfl⟩ := h
    cases cutover with
    | none => exact absurd reached (by simp)
    | some c =>
      refine ⟨c, rfl, by simpa using reached, ?_⟩
      simp [Tables.keepEntry, (Meter.measure?_eq_some made).2.2]
  · exact absurd h (by simp)

namespace Tables

variable {t : Tables Float} {m : Meter}

theorem numbersOf_insertNumbers (t : Tables Float) (m : Meter) (entries : List (Entry Float)) :
    (t.insertNumbers entries).numbersOf m =
      t.numbersOf m ++ (entries.filter (Entry.isOf m)).map keepEntry := by
  have same : (Entry.isOf m) ∘ keepEntry = (Entry.isOf (Q := Float) m) := rfl
  simp only [insertNumbers, numbersOf, List.filter_append, List.filter_map, same]

end Tables

namespace Snapshot

/-- The entry of an event for a meter that takes part. -/
def entryOf? (e : Event) (n : Meter) : Option (Entry Float) :=
  if n.streams e then n.measure? e else none

theorem entryOf?_eq_some {e : Event} {n : Meter} {row : Entry Float}
    (h : entryOf? e n = some row) :
    n.covers e.space e.type = true ∧ row.space = n.space ∧ row.meterId = n.id := by
  unfold entryOf? at h
  split at h
  · have own := Meter.measure?_eq_some h
    exact ⟨Meter.covers_of_measure? h, own.1, own.2.1⟩
  · exact absurd h (by simp)

/-- The entries of a meter come from where the snapshot lists it. -/
theorem filter_isOf_entriesOf (s : Snapshot) (m : Meter) (e : Event) :
    (s.entriesOf e).filter (Entry.isOf m) =
      (s.filter (isNamed m.space m.id)).filterMap (entryOf? e) := by
  rw [entriesOf, forEvents_eq_filter]
  show ((s.filter fun n => n.covers e.space e.type).filterMap (entryOf? e)).filter _ = _
  induction s with
  | nil => rfl
  | cons n s ih =>
    cases made : entryOf? e n with
    | none =>
      cases covers : n.covers e.space e.type <;> cases named : isNamed m.space m.id n <;>
        simpa [covers, named, made] using ih
    | some row =>
      obtain ⟨covers, space, id⟩ := entryOf?_eq_some made
      have own : row.isOf m = isNamed m.space m.id n := by
        rw [Entry.isOf, isNamed, space, id]
      cases named : isNamed m.space m.id n <;>
        simpa [covers, named, made, own] using ih

/-- What an event adds to the rows of a meter, whatever other meters the snapshot lists. -/
theorem keep_entriesOf {s : Snapshot} {m : Meter} (once : s.ListsOnce m) (e : Event) :
    ((s.entriesOf e).filter (Entry.isOf m)).map Tables.keepEntry =
      (m.streamed? (s.cutover? m) e).toList := by
  have found : s.cutover? m =
      ((s.filter (isNamed m.space m.id)).head?.bind Meter.progress).bind Progress.cutover := by
    rw [cutover?, progress?, List.head?_filter]
  rw [filter_isOf_entriesOf, found]
  rcases once with none | ⟨p, one⟩
  · rw [none]
    rfl
  · rw [one]
    have entry : (entryOf? e { m with progress := p }).map Tables.keepEntry =
        m.streamed? (p.bind Progress.cutover) e := by
      have same : ({ m with progress := p } : Meter).measure? e = m.measure? e := rfl
      simp only [entryOf?, Meter.streamed?, Meter.streams, same]
      cases numeric : m.aggregation.isNumeric with
      | true =>
        rw [Bool.true_and]
        split <;> rfl
      | false => simp [Meter.measure?, numeric]
    show List.map _ (List.filterMap _ [_]) = (m.streamed? (p.bind Progress.cutover) e).toList
    rw [← entry]
    cases made : entryOf? e { m with progress := p } with
    | none => simp [made]
    | some row => simp [made]

end Snapshot

namespace Database

/-- An answer to a request of ingestion. -/
def answerIngest : (r : IngestRequest) → StateM (Database Float) r.Answer
  | .insert entries => fun db => db.insertNumbers entries
  | .pause _ => pure ()

theorem run_ingest (policy : RetryPolicy) (s : Snapshot) (events : List Event)
    {db : Database Float} (isOpen : db.isOpen = true) :
    (Ingest.ingest policy s events).run answerIngest db = (.ok (s.entries events).length,
      { db with tables := db.tables.insertNumbers (s.entries events) }) := by
  have written (entries : List (Entry Float)) : db.insertNumbers entries =
      (.ok (), { db with tables := db.tables.insertNumbers entries }) := by
    rw [insertNumbers, write, if_pos isOpen]
  unfold Ingest.ingest Ingest.write
  split
  · rename_i h
    have none : s.entries events = [] := List.isEmpty_iff.1 h
    have same : db.tables.insertNumbers [] = db.tables := by simp [Tables.insertNumbers]
    rw [none, same]
    rfl
  · have answered : answerIngest (.insert (s.entries events)) db = (.ok (),
        { db with tables := db.tables.insertNumbers (s.entries events) }) :=
      written (s.entries events)
    rcases policy with ⟨_ | further, pause⟩
    · simp only [RetryPolicy.retry, RetryPolicy.retryFrom, Program.request, Program.bind,
        Program.run, bind, StateT.bind, answered]
      rfl
    · simp only [RetryPolicy.retry, RetryPolicy.retryFrom, Program.request, Program.bind,
        Program.run, bind, StateT.bind, answered]
      rfl

end Database

end Metering
