import Mathlib.Data.List.Basic
import Metering.Database.Store
import Metering.Proofs.Calendar.Instant

/-!
The rows of one meter in the table of numbers, and what the import of a chunk does to them. What was
there of the chunk gives way to the entries of the events stored inside it; the rows of other times and
of other meters stay. The survey before the first import finds the earliest of the meter's events.
-/
namespace Metering

variable {Q : Type}

/-- Whether an entry belongs to a meter. -/
def Entry.isOf (m : Meter) (e : Entry Q) : Bool := e.space == m.space && e.meterId == m.id

theorem Entry.isOf_iff {m : Meter} {e : Entry Q} :
    e.isOf m = true ↔ e.space = m.space ∧ e.meterId = m.id := by
  simp [isOf]

namespace Tables

/-- The rows of a meter in the table of numbers. -/
def numbersOf (t : Tables Q) (m : Meter) : List (Entry Q) := t.numbers.filter (Entry.isOf m)

/-- The events that count for a meter. -/
def eventsOf (t : Tables Q) (m : Meter) : List Event :=
  t.events.filter fun e => m.covers e.space e.type

end Tables

theorem earliestOf_eq_none {times : List Instant} (h : earliestOf times = none) : times = [] := by
  cases times with
  | nil => rfl
  | cons t ts => exact absurd h (by simp [earliestOf])

theorem foldl_min_spec (times : List Instant) (t : Instant) :
    times.foldl min t ∈ t :: times ∧ ∀ u ∈ t :: times, times.foldl min t ≤ u := by
  induction times generalizing t with
  | nil => exact ⟨List.mem_cons_self, by simp [Instant.le_iff]⟩
  | cons v times ih =>
    obtain ⟨mem, least⟩ := ih (min t v)
    obtain ⟨left, right, either⟩ := Instant.min_bounds t v
    have below := least (min t v) List.mem_cons_self
    refine ⟨?_, fun u hu => ?_⟩
    · rw [List.foldl_cons]
      rcases List.mem_cons.1 mem with same | mem
      · rcases either with is | is
        · exact List.mem_cons.2 (.inl (same.trans is))
        · exact List.mem_cons.2 (.inr (List.mem_cons.2 (.inl (same.trans is))))
      · exact List.mem_cons_of_mem _ (List.mem_cons_of_mem _ mem)
    · rcases List.mem_cons.1 hu with rfl | hu
      · exact Int.le_trans below left
      rcases List.mem_cons.1 hu with rfl | hu
      · exact Int.le_trans below right
      exact least u (List.mem_cons_of_mem _ hu)

theorem earliestOf_eq_some {times : List Instant} {t : Instant} (h : earliestOf times = some t) :
    t ∈ times ∧ ∀ u ∈ times, t ≤ u := by
  cases times with
  | nil => exact absurd h (by simp [earliestOf])
  | cons v times =>
    rw [earliestOf, Option.some.injEq] at h
    subst h
    exact foldl_min_spec times v

namespace Tables

/-- The survey of a meter looks at the storing times of its events. -/
theorem earliestStored_events (t : Tables Q) (m : Meter) :
    m.events.earliestStored t = earliestOf ((t.eventsOf m).map Event.storedAt) := by
  have rows : m.events.rows t = (t.eventsOf m).map TableRow.ofEvent := by
    show ((t.events.map TableRow.ofEvent).filter m.events.holds) = _
    rw [List.filter_map]
    congr 1
    refine List.filter_congr fun e _ => ?_
    simp [Selection.holds, Meter.events, Condition.holds, TableRow.ofEvent, Meter.covers]
  rw [Selection.earliestStored, rows, List.map_map]
  rfl

end Tables

theorem ChunkImport.deletes_eq (i : ChunkImport) (e : Entry Q) :
    i.deletes e = (e.isOf i.meter && i.holdsTime e.storedAt) := rfl

variable [Quantity Q]

/-- The entry that an import makes of an event, unless it has no value. -/
def Meter.imported? (m : Meter) (e : Event) : Option (Entry Q) :=
  (ChunkImport.mk m ⟨.epoch, .epoch⟩ .epoch).measure? e

namespace ChunkImport

variable {i : ChunkImport} {e : Event} {row : Entry Q}

theorem measure?_eq_some (h : i.measure? e = some row) :
    row.space = e.space ∧ row.meterId = i.meter.id ∧ row.storedAt = e.storedAt := by
  simp only [measure?, Option.bind_eq_bind, Option.bind_eq_some_iff, Option.pure_def,
    Option.some.injEq] at h
  obtain ⟨c, -, x, -, rfl⟩ := h
  exact ⟨rfl, rfl, rfl⟩

theorem selects_iff : i.selects e = true ↔
    i.meter.covers e.space e.type = true ∧ i.holdsTime e.storedAt = true ∧
      e.storedAt < i.cutover.microsecondStart := by
  simp [selects, and_assoc]

theorem space_of_covers {m : Meter} {space type : String} (h : m.covers space type = true) :
    space = m.space := by
  simp only [Meter.covers, Bool.and_eq_true, beq_iff_eq] at h
  exact h.1

/-- All entries that an import adds belong to its meter. -/
theorem isOf_of_selected (selected : i.selects e = true) (made : i.measure? e = some row) :
    row.isOf i.meter = true := by
  have h := measure?_eq_some made
  have space := space_of_covers (selects_iff.1 selected).1
  exact Entry.isOf_iff.2 ⟨h.1.trans space, h.2.1⟩

theorem numbersOf_apply (i : ChunkImport) (t : Tables Q) :
    (i.apply t).numbersOf i.meter =
      ((t.numbersOf i.meter).filter fun e => ¬ i.holdsTime e.storedAt) ++
        ((t.eventsOf i.meter).filter fun e =>
          i.holdsTime e.storedAt && e.storedAt < i.cutover.microsecondStart).filterMap
            i.meter.imported? := by
  have kept : ((t.numbers.filter fun e => ¬ i.deletes e).filter (Entry.isOf i.meter)) =
      (t.numbersOf i.meter).filter fun e => ¬ i.holdsTime e.storedAt := by
    simp only [Tables.numbersOf, List.filter_filter]
    refine List.filter_congr fun e _ => ?_
    cases hm : e.isOf i.meter <;> simp [deletes_eq, hm]
  have added : (((t.events.filter i.selects).filterMap i.measure?).filter
      (Entry.isOf (Q := Q) i.meter)) = (t.events.filter i.selects).filterMap i.measure? := by
    refine List.filter_eq_self.2 fun row hrow => ?_
    obtain ⟨e, he, made⟩ := List.mem_filterMap.1 hrow
    exact isOf_of_selected (List.mem_filter.1 he).2 made
  have chosen : t.events.filter i.selects = (t.eventsOf i.meter).filter fun e =>
      i.holdsTime e.storedAt && e.storedAt < i.cutover.microsecondStart := by
    simp only [Tables.eventsOf, List.filter_filter]
    refine List.filter_congr fun e _ => ?_
    rw [selects, Bool.and_assoc, Bool.and_comm]
  simp only [apply, Tables.numbersOf, List.filter_append] at kept added ⊢
  rw [kept, added, chosen]
  rfl

/-- The rows of another meter are left alone. -/
theorem numbersOf_apply_of_ne {m : Meter} (i : ChunkImport) (t : Tables Q)
    (other : ¬ (i.meter.space = m.space ∧ i.meter.id = m.id)) :
    (i.apply t).numbersOf m = t.numbersOf m := by
  have kept : ((t.numbers.filter fun e => ¬ i.deletes e).filter (Entry.isOf m)) =
      t.numbersOf m := by
    simp only [Tables.numbersOf, List.filter_filter]
    refine List.filter_congr fun e _ => ?_
    cases hm : e.isOf m with
    | false => rfl
    | true =>
      have there := Entry.isOf_iff.1 hm
      have spared : e.isOf i.meter = false := by
        rw [Bool.eq_false_iff]
        intro h
        have here := Entry.isOf_iff.1 h
        exact other ⟨here.1.symm.trans there.1, here.2.symm.trans there.2⟩
      simp [deletes_eq, spared]
  have added : (((t.events.filter i.selects).filterMap i.measure?).filter
      (Entry.isOf (Q := Q) m)) = [] := by
    refine List.filter_eq_nil_iff.2 fun row hrow hm => ?_
    obtain ⟨e, he, made⟩ := List.mem_filterMap.1 hrow
    have here := Entry.isOf_iff.1 (isOf_of_selected (List.mem_filter.1 he).2 made)
    have there := Entry.isOf_iff.1 hm
    exact other ⟨here.1.symm.trans there.1, here.2.symm.trans there.2⟩
  simp only [apply, Tables.numbersOf, List.filter_append] at kept added ⊢
  rw [kept, added, List.append_nil]

end ChunkImport

/-- The paths that an import of a meter follows. -/
def importPaths (m : Meter) : List String :=
  Database.valuePaths m ++ m.dimensions.toList.map (·.2)

theorem dimension_mem_importPaths {m : Meter} {dimension path : String}
    (known : m.dimensions.get? dimension = some path) : path ∈ importPaths m := by
  refine List.mem_append.2 (.inr (List.mem_map.2 ⟨(dimension, path), ?_, rfl⟩))
  exact (m.dimensions.mem_toList_iff dimension path).2 known

namespace Meter

variable {m : Meter}

theorem storedAt_of_imported {e : Event} {row : Entry Q} (h : m.imported? e = some row) :
    row.storedAt = e.storedAt :=
  (ChunkImport.measure?_eq_some h).2.2

/-- Entries are stored at the times of their events. -/
theorem filter_imported (m : Meter) (during : Instant → Bool) (events : List Event) :
    ((events.filterMap m.imported?).filter fun e : Entry Q => during e.storedAt) =
      (events.filter fun e => during e.storedAt).filterMap m.imported? := by
  induction events with
  | nil => rfl
  | cons e events ih =>
    cases made : (m.imported? e : Option (Entry Q)) with
    | none =>
      cases h : during e.storedAt
      · simpa [made, h] using ih
      · simpa [made, h] using ih
    | some row =>
      have same := storedAt_of_imported made
      cases h : during e.storedAt
      · simpa [made, h, same] using ih
      · simpa [made, h, same] using ih

end Meter

namespace Tables

/-- The entries that an import makes of the events stored before some instant. -/
def importedBefore (t : Tables Q) (m : Meter) (stop : Instant) : List (Entry Q) :=
  ((t.eventsOf m).filter fun e => e.storedAt < stop.microsecondStart).filterMap m.imported?

variable {t : Tables Q} {m : Meter} {i : ChunkImport}

/-- Deleting a chunk leaves what had been imported before it. -/
theorem filter_importedBefore (ordered : i.chunk.start ≤ i.chunk.stop) {reached : Instant}
    (here : reached = i.chunk.start ∨ reached = i.chunk.stop) :
    ((t.importedBefore m reached).filter fun e : Entry Q => ¬ i.holdsTime e.storedAt) =
      t.importedBefore m i.chunk.start := by
  have ordered := Instant.microsecondStart_mono ordered
  have filtered := m.filter_imported (Q := Q) (fun s => ¬ i.holdsTime s)
    ((t.eventsOf m).filter fun e => e.storedAt < reached.microsecondStart)
  simp only [importedBefore] at filtered ⊢
  rw [filtered, List.filter_filter]
  congr 1
  refine List.filter_congr fun e _ => ?_
  simp only [ChunkImport.holdsTime, Instant.lt_iff, Instant.le_iff] at ordered ⊢
  rcases here with rfl | rfl
  · rw [Bool.eq_iff_iff]
    simp only [Bool.and_eq_true, decide_eq_true_eq]
    omega
  · rw [Bool.eq_iff_iff]
    simp only [Bool.and_eq_true, decide_eq_true_eq]
    omega

/-- What had been imported before a chunk and what is imported of it. -/
theorem importedBefore_append_perm (ordered : i.chunk.start ≤ i.chunk.stop)
    (inside : i.chunk.stop ≤ i.cutover) :
    (t.importedBefore m i.chunk.start ++ ((t.eventsOf m).filter fun e =>
        i.holdsTime e.storedAt && e.storedAt < i.cutover.microsecondStart).filterMap
          (m.imported? (Q := Q))).Perm (t.importedBefore m i.chunk.stop) := by
  have ordered := Instant.microsecondStart_mono ordered
  have inside := Instant.microsecondStart_mono inside
  simp only [Instant.le_iff] at ordered inside
  let sofar := (t.eventsOf m).filter fun e => e.storedAt < i.chunk.stop.microsecondStart
  have first : ((t.eventsOf m).filter fun e => e.storedAt < i.chunk.start.microsecondStart) =
      sofar.filter fun e => e.storedAt < i.chunk.start.microsecondStart := by
    rw [List.filter_filter]
    refine List.filter_congr fun e _ => ?_
    rw [Bool.eq_iff_iff]
    simp only [Bool.and_eq_true, decide_eq_true_eq, Instant.lt_iff]
    omega
  have second : ((t.eventsOf m).filter fun e =>
      i.holdsTime e.storedAt && e.storedAt < i.cutover.microsecondStart) =
        sofar.filter fun e => !decide (e.storedAt < i.chunk.start.microsecondStart) := by
    rw [List.filter_filter]
    refine List.filter_congr fun e _ => ?_
    rw [Bool.eq_iff_iff]
    simp only [ChunkImport.holdsTime, Bool.and_eq_true, Bool.not_eq_true', decide_eq_true_eq,
      decide_eq_false_iff_not, Instant.lt_iff, Instant.le_iff]
    omega
  simp only [importedBefore]
  rw [first, second, ← List.filterMap_append]
  exact (List.filter_append_perm _ sofar).filterMap _

/-- An import is of events stored before some instant, and there may be none. -/
theorem importedBefore_eq_nil {stop : Instant}
    (late : ∀ e ∈ t.eventsOf m, stop.microsecondStart ≤ e.storedAt) :
    t.importedBefore m stop = [] := by
  have none : ((t.eventsOf m).filter fun e => e.storedAt < stop.microsecondStart) = [] := by
    refine List.filter_eq_nil_iff.2 fun e he before => ?_
    exact Int.not_le.2 (of_decide_eq_true before) (late e he)
  rw [importedBefore, none, List.filterMap_nil]

/-- Importing a chunk, for the first time or again, moves the end of what has been imported. -/
theorem perm_apply {streamed : List (Entry Q)}
    (live : ∀ e ∈ streamed, i.cutover.microsecondStart ≤ e.storedAt)
    (ordered : i.chunk.start ≤ i.chunk.stop) (inside : i.chunk.stop ≤ i.cutover)
    {reached : Instant} (here : reached = i.chunk.start ∨ reached = i.chunk.stop)
    (before : (t.numbersOf i.meter).Perm (streamed ++ t.importedBefore i.meter reached)) :
    ((i.apply t).numbersOf i.meter).Perm
      (streamed ++ (i.apply t).importedBefore i.meter i.chunk.stop) := by
  have spared : (streamed.filter fun e => ¬ i.holdsTime e.storedAt) = streamed := by
    refine List.filter_eq_self.2 fun e he => ?_
    have late := live e he
    have inside := Instant.microsecondStart_mono inside
    simp only [ChunkImport.holdsTime, Instant.lt_iff, Instant.le_iff] at late inside ⊢
    simp only [decide_eq_true_eq]
    omega
  rw [ChunkImport.numbersOf_apply]
  have kept := before.filter fun e => ¬ i.holdsTime e.storedAt
  rw [List.filter_append, spared, filter_importedBefore ordered here] at kept
  refine (kept.append_right _).trans ?_
  rw [List.append_assoc]
  exact (importedBefore_append_perm ordered inside).append_left _

end Tables

namespace Database

variable {db after : Database Q} {m : Meter} {cutover : Instant} {chunks : List Period}

/-- Imports chunk after chunk, up to the first that fails. -/
def importAll (db : Database Q) (m : Meter) (cutover : Instant) :
    List Period → Except StoreError Unit × Database Q
  | [] => (.ok (), db)
  | chunk :: chunks =>
    match db.importChunk ⟨m, chunk, cutover⟩ with
    | (.error e, db) => (.error e, db)
    | (.ok (), db) => db.importAll m cutover chunks

/-- Whether a storing time lies in one of some chunks. -/
def inSome (m : Meter) (cutover : Instant) (chunks : List Period) (t : Instant) : Bool :=
  chunks.any fun chunk => (ChunkImport.mk m chunk cutover).holdsTime t

theorem importChunk_eq_ok {i : ChunkImport} (done : db.importChunk i = (.ok (), after)) :
    db.isOpen = true ∧ db.canImport i = true ∧
      after = { db with tables := i.apply db.tables } := by
  unfold importChunk at done
  split at done
  · exact absurd (congrArg Prod.fst done) (by simp)
  · rename_i able
    unfold write at done
    split at done
    · rename_i isOpen
      refine ⟨isOpen, ?_, (congrArg Prod.snd done).symm⟩
      by_contra unable
      exact able ⟨isOpen, by simpa using unable⟩
    · exact absurd (congrArg Prod.fst done) (by simp)

theorem importAll_cons {chunk : Period}
    (done : db.importAll m cutover (chunk :: chunks) = (.ok (), after)) :
    ∃ middle, db.importChunk ⟨m, chunk, cutover⟩ = (.ok (), middle) ∧
      middle.importAll m cutover chunks = (.ok (), after) := by
  unfold importAll at done
  split at done
  · exact absurd (congrArg Prod.fst done) (by simp)
  · rename_i middle made
    exact ⟨middle, made, done⟩

/-- Events in a chunk that are in no later one, and events in a later one. -/
theorem filter_append_filter_perm (events : List Event) (first later before : Event → Bool) :
    (((events.filter fun e => first e && before e).filter fun e => !later e) ++
      events.filter fun e => later e && before e).Perm
        (events.filter fun e => (first e || later e) && before e) := by
  have once : ((events.filter fun e => first e && before e).filter fun e => !later e) =
      (events.filter fun e => (first e || later e) && before e).filter fun e => !later e := by
    rw [List.filter_filter, List.filter_filter]
    refine List.filter_congr fun e _ => ?_
    cases first e <;> cases later e <;> rfl
  have again : (events.filter fun e => later e && before e) =
      (events.filter fun e => (first e || later e) && before e).filter later := by
    rw [List.filter_filter]
    refine List.filter_congr fun e _ => ?_
    cases first e <;> cases later e <;> rfl
  rw [once, again]
  exact List.perm_append_comm.trans (List.filter_append_perm later _)

/-- What imports of some chunks leave of a meter, and what they add. -/
theorem importAll_spec (done : db.importAll m cutover chunks = (.ok (), after)) :
    after.isOpen = db.isOpen ∧ after.tables.events = db.tables.events ∧
      (after.tables.numbersOf m).Perm
        (((db.tables.numbersOf m).filter fun e => !inSome m cutover chunks e.storedAt) ++
          ((db.tables.eventsOf m).filter fun e => inSome m cutover chunks e.storedAt &&
            e.storedAt < cutover.microsecondStart).filterMap m.imported?) := by
  induction chunks generalizing db with
  | nil =>
    cases done
    refine ⟨rfl, rfl, List.Perm.of_eq ?_⟩
    simp [inSome]
  | cons chunk chunks ih =>
    obtain ⟨middle, made, done⟩ := importAll_cons done
    obtain ⟨-, -, rfl⟩ := importChunk_eq_ok made
    obtain ⟨isOpen, events, numbers⟩ := ih done
    refine ⟨isOpen, events, numbers.trans ?_⟩
    have one := ChunkImport.numbersOf_apply ⟨m, chunk, cutover⟩ db.tables
    have spared := m.filter_imported (Q := Q) (fun t => !inSome m cutover chunks t)
    simp only at one
    rw [one, List.filter_append, spared, List.append_assoc, ← List.filterMap_append]
    have left : ((db.tables.numbersOf m).filter fun e =>
        ¬ (ChunkImport.mk m chunk cutover).holdsTime e.storedAt).filter
          (fun e => !inSome m cutover chunks e.storedAt) =
        (db.tables.numbersOf m).filter fun e => !inSome m cutover (chunk :: chunks) e.storedAt := by
      rw [List.filter_filter]
      refine List.filter_congr fun e _ => ?_
      simp [inSome, Bool.and_comm]
    rw [left]
    exact ((filter_append_filter_perm _ _ _ _).filterMap _).append_left _

/-- Each of the imports could read the events of its chunk. -/
theorem canImport_of_importAll (done : db.importAll m cutover chunks = (.ok (), after)) :
    ∀ chunk ∈ chunks, after.isOpen = true ∧ after.canImport ⟨m, chunk, cutover⟩ = true := by
  induction chunks generalizing db with
  | nil => simp
  | cons chunk chunks ih =>
    obtain ⟨middle, made, done⟩ := importAll_cons done
    obtain ⟨isOpen, able, rfl⟩ := importChunk_eq_ok made
    obtain ⟨same, events, -⟩ := importAll_spec done
    intro c hc
    rcases List.mem_cons.1 hc with rfl | hc
    · refine ⟨same.trans isOpen, ?_⟩
      rw [canImport, events]
      exact able
    · exact ih done c hc

end Database

end Metering
