import Metering.Proofs.Database.Import
import Metering.Proofs.Quantity.Exact

/-!
The replacement of a chunk as a connection runs it: a statement that deletes and one that inserts, in a
transaction that is rolled back when either fails. `Database.importChunk` is what comes of it when no
fault of the database gets in the way (`replaceChunk_sound`), and `replaceChunk_exact` says what a
replacement does to the tables: the rows of the chunk are made anew from the events stored in it, and
nothing else changes.
-/
namespace Metering

variable {Q : Type}

/-- What a connection sees of the tables, and in a transaction how they were when it began. -/
structure Connection (Q : Type) where
  tables : Tables Q
  saved : Option (Tables Q)

/-- A statement that writes: it fails, or leaves new tables. -/
abbrev Change (Q : Type) := Tables Q → Except StoreError (Tables Q)

namespace Connection

variable {c d : Connection Q} {changes : List (Change Q)} {e : StoreError}

def begin (c : Connection Q) : Connection Q := { c with saved := some c.tables }

def commit (c : Connection Q) : Connection Q := { c with saved := none }

def rollback (c : Connection Q) : Connection Q := ⟨c.saved.getD c.tables, none⟩

/-- Statements one after another, up to the first that fails. -/
def execute (c : Connection Q) : List (Change Q) → Except StoreError Unit × Connection Q
  | [] => (.ok (), c)
  | change :: changes =>
    match change c.tables with
    | .error e => (.error e, c)
    | .ok tables => execute { c with tables := tables } changes

/-- Statements that are all executed or of which nothing is left. -/
def inTransaction (c : Connection Q) (changes : List (Change Q)) :
    Except StoreError Unit × Connection Q :=
  match c.begin.execute changes with
  | (.ok (), c) => (.ok (), c.commit)
  | (.error e, c) => (.error e, c.rollback)

/-- Statements that are all executed leave what they make of the tables one after another. What they
began with stays known, also when one of them fails. -/
theorem execute_spec (c : Connection Q) (changes : List (Change Q)) :
    match changes.foldlM (fun t change => change t) c.tables with
    | .ok tables => c.execute changes = (.ok (), { c with tables := tables })
    | .error e => ∃ tables, c.execute changes = (.error e, { c with tables := tables }) := by
  induction changes generalizing c with
  | nil => exact rfl
  | cons change changes ih =>
    rw [List.foldlM_cons, execute]
    cases change c.tables with
    | error e => exact ⟨c.tables, rfl⟩
    | ok tables => exact ih { c with tables := tables }

/-- A transaction is all of its statements or none. -/
theorem inTransaction_eq (tables : Tables Q) (changes : List (Change Q)) :
    (Connection.mk tables none).inTransaction changes =
      match changes.foldlM (fun t change => change t) tables with
      | .ok after => (.ok (), ⟨after, none⟩)
      | .error e => (.error e, ⟨tables, none⟩) := by
  have spec := execute_spec (Connection.mk tables none).begin changes
  simp only [begin] at spec
  unfold inTransaction begin
  split at spec
  · rw [spec]
    rfl
  · obtain ⟨halfway, spec⟩ := spec
    rw [spec]
    rfl

end Connection

/-- A statement that a fault of the database may keep from being executed. -/
def Change.unless (change : Change Q) (fault : Option StoreError) : Change Q := fun t =>
  match fault with
  | some e => .error e
  | none => change t

/-- A period with both ends taken down to the microsecond. -/
def Period.toMicroseconds (p : Period) : Period := ⟨p.start.microsecondStart, p.stop.microsecondStart⟩

/-- A number of a meter whose event was stored in a chunk. -/
def Entry.InChunk (m : Meter) (chunk : Period) (e : Entry Q) : Prop :=
  e.space = m.space ∧ e.meterId = m.id ∧ e.storedAt ∈ chunk.toMicroseconds

instance (m : Meter) (chunk : Period) (e : Entry Q) : Decidable (e.InChunk m chunk) :=
  inferInstanceAs (Decidable (_ ∧ _ ∧ _))

/-- An event that counts for a meter and was stored in a chunk. -/
def Event.InChunk (m : Meter) (chunk : Period) (e : Event) : Prop :=
  e.space = m.space ∧ e.type = m.eventType ∧ e.storedAt ∈ chunk.toMicroseconds

instance (m : Meter) (chunk : Period) (e : Event) : Decidable (e.InChunk m chunk) :=
  inferInstanceAs (Decidable (_ ∧ _ ∧ _))

namespace ChunkImport

variable {m : Meter} {chunk : Period} {cutover : Instant}

theorem deletes_iff {e : Entry Q} :
    (ChunkImport.mk m chunk cutover).deletes e = true ↔ e.InChunk m chunk := by
  simp only [deletes_eq, Bool.and_eq_true, Entry.isOf_iff, holdsTime, decide_eq_true_eq, and_assoc]
  rfl

/-- A chunk that ends by the cutover is not cut there. -/
theorem selects_iff_inChunk (inside : chunk.stop ≤ cutover) {e : Event} :
    (ChunkImport.mk m chunk cutover).selects e = true ↔ e.InChunk m chunk := by
  have inside := Instant.microsecondStart_mono inside
  simp only [selects_iff, Meter.covers, holdsTime, Bool.and_eq_true, beq_iff_eq, decide_eq_true_eq,
    and_assoc, Event.InChunk]
  constructor
  · rintro ⟨space, type, low, high, -⟩
    exact ⟨space, type, low, high⟩
  · rintro ⟨space, type, low, high⟩
    exact ⟨space, type, low, high, Int.lt_of_lt_of_le high inside⟩

end ChunkImport

variable [Quantity Q]

namespace ChunkImport

/-- The statement that deletes what there is of a chunk. -/
def delete (i : ChunkImport) : Change Q := fun t =>
  .ok { t with numbers := t.numbers.filter fun e => ¬ i.deletes e }

/-- The statement that copies the events of a chunk. -/
def insert (i : ChunkImport) : Change Q := fun t =>
  if Database.canRead (Database.valuePaths i.meter ++ i.meter.dimensions.toList.map (·.2))
      ((t.events.filter i.selects).map fun e => (TableRow.ofEvent e : TableRow Q)) then
    .ok { t with numbers := t.numbers ++ (t.events.filter i.selects).filterMap i.measure? }
  else .error Database.unreadable

end ChunkImport

/-- The faults that meet the two statements of an import. -/
structure ImportFaults where
  delete : Option StoreError
  insert : Option StoreError

def ImportFaults.none : ImportFaults := ⟨.none, .none⟩

namespace Database

variable {db after : Database Q} {i : ChunkImport} {faults : ImportFaults}

/-- Replaces a chunk, in one transaction. -/
def replaceChunk (db : Database Q) (i : ChunkImport) (faults : ImportFaults) :
    Except StoreError Unit × Database Q :=
  if db.isOpen then
    let result := (Connection.mk db.tables none).inTransaction
      [i.delete.unless faults.delete, i.insert.unless faults.insert]
    (result.1, { db with tables := result.2.tables })
  else (.error .closedDatabase, db)

/-- What the two statements make of the tables of a database. -/
theorem statements_eq (db : Database Q) (i : ChunkImport) (faults : ImportFaults) :
    [i.delete.unless faults.delete, i.insert.unless faults.insert].foldlM
        (fun t change => change t) db.tables =
      match faults with
      | ⟨some e, _⟩ => .error e
      | ⟨none, some e⟩ => .error e
      | ⟨none, none⟩ => if db.canImport i then .ok (i.apply db.tables) else .error unreadable := by
  obtain ⟨delete, insert⟩ := faults
  cases delete with
  | some e => rfl
  | none =>
    cases insert with
    | some e => rfl
    | none =>
      -- the statement that inserts is the last one and decides
      exact bind_pure (i.insert { db.tables with
        numbers := db.tables.numbers.filter fun e => ¬ i.deletes e })

theorem replaceChunk_of_isOpen (isOpen : db.isOpen = true) (i : ChunkImport) (faults : ImportFaults) :
    db.replaceChunk i faults =
      match [i.delete.unless faults.delete, i.insert.unless faults.insert].foldlM
        (fun t change => change t) db.tables with
      | .ok tables => (.ok (), { db with tables := tables })
      | .error e => (.error e, db) := by
  rw [replaceChunk, if_pos isOpen, Connection.inTransaction_eq]
  split <;> rfl

/-- An import is a replacement that no fault gets in the way of. -/
theorem replaceChunk_sound (db : Database Q) (i : ChunkImport) :
    db.replaceChunk i .none = db.importChunk i := by
  cases isOpen : db.isOpen with
  | false => simp [replaceChunk, importChunk, write, isOpen]
  | true =>
    rw [replaceChunk_of_isOpen isOpen, statements_eq, importChunk, write, isOpen]
    cases db.canImport i with
    | false => rfl
    | true => rfl

/-- Of a replacement that fails nothing is left. -/
theorem replaceChunk_error {e : StoreError} (failed : db.replaceChunk i faults = (.error e, after)) :
    after = db := by
  cases isOpen : db.isOpen with
  | false =>
    rw [replaceChunk, isOpen, if_neg Bool.false_ne_true] at failed
    exact (Prod.mk.inj failed).2.symm
  | true =>
    rw [replaceChunk_of_isOpen isOpen] at failed
    split at failed
    · exact absurd (congrArg Prod.fst failed) (by simp)
    · exact (Prod.mk.inj failed).2.symm

/-- A replacement that succeeds met no fault. -/
theorem replaceChunk_ok (done : db.replaceChunk i faults = (.ok (), after)) :
    faults = .none ∧ db.importChunk i = (.ok (), after) := by
  have unmet : faults = .none := by
    cases isOpen : db.isOpen with
    | false =>
      rw [replaceChunk, isOpen, if_neg Bool.false_ne_true] at done
      exact absurd (congrArg Prod.fst done) (by simp)
    | true =>
      rw [replaceChunk_of_isOpen isOpen, statements_eq] at done
      obtain ⟨delete, insert⟩ := faults
      cases delete with
      | some e => exact absurd (congrArg Prod.fst done) (by simp)
      | none =>
        cases insert with
        | some e => exact absurd (congrArg Prod.fst done) (by simp)
        | none => rfl
  refine ⟨unmet, ?_⟩
  rw [← replaceChunk_sound, ← unmet]
  exact done

end Database

namespace Meter

/-- The number that an event contributes to a meter, if its value is usable. -/
def number? (m : Meter) (e : Event) : Option Q :=
  ((TableRow.ofEvent e : TableRow Q).contribution? m).bind Contribution.number?

/-- The row of an event with its number. -/
def entry (m : Meter) (e : Event) (x : Q) : Entry Q :=
  ⟨e.space, m.id, e.subject, e.time, e.storedAt, x,
    ChunkImport.dimensionTexts m (Json.Tree.read? e.data)⟩

theorem imported?_number (m : Meter) (e : Event) :
    (m.imported? e : Option (Entry Q)) = (m.number? e).map (m.entry e) := by
  simp only [imported?, ChunkImport.measure?, number?, Option.map_eq_bind]
  cases (TableRow.ofEvent e : TableRow Q).contribution? m with
  | none => rfl
  | some c => rfl

end Meter

/-- The rows that the events stored in a chunk have in the table of numbers: one for each event of the
meter whose value is usable. -/
def Tables.rowsIn (t : Tables Q) (m : Meter) (chunk : Period) : List (Entry Q) :=
  (t.events.filter fun e => e.InChunk m chunk).filterMap fun e => (m.number? e).map (m.entry e)

theorem Tables.inChunk_of_mem_rowsIn {t : Tables Q} {m : Meter} {chunk : Period} {row : Entry Q}
    (mem : row ∈ t.rowsIn m chunk) : row.InChunk m chunk := by
  obtain ⟨e, he, made⟩ := List.mem_filterMap.1 mem
  obtain ⟨space, -, stored⟩ := of_decide_eq_true (List.mem_filter.1 he).2
  obtain ⟨x, -, rfl⟩ := Option.map_eq_some_iff.1 made
  exact ⟨space, rfl, stored⟩

/-- The tables before and after the replacement of a chunk. -/
structure Replaces (m : Meter) (chunk : Period) (before after : Tables Q) : Prop where
  events : after.events = before.events
  cached : after.cached = before.cached
  /-- The rows of other namespaces, meters and times are what they were. -/
  outside : (after.numbers.filter fun e => ¬ e.InChunk m chunk) =
    before.numbers.filter fun e => ¬ e.InChunk m chunk
  inside : (after.numbers.filter fun e => e.InChunk m chunk) = before.rowsIn m chunk

namespace ChunkImport

variable {m : Meter} {chunk : Period} {cutover : Instant}

theorem eq_of_make {i : ChunkImport} (made : ChunkImport.make m chunk cutover = .ok i) :
    i = ⟨m, chunk, cutover⟩ := by
  simp only [make, bind, Except.bind] at made
  split at made
  · cases made
  · split at made
    · cases made
    · exact (Except.ok.inj made).symm

/-- What is deleted and what is inserted are rows of the same chunk. -/
theorem numbers_apply (inside : chunk.stop ≤ cutover) (t : Tables Q) :
    ((ChunkImport.mk m chunk cutover).apply t).numbers =
      (t.numbers.filter fun e => ¬ e.InChunk m chunk) ++ t.rowsIn m chunk := by
  have kept : (t.numbers.filter fun e => ¬ (ChunkImport.mk m chunk cutover).deletes e) =
      t.numbers.filter fun e => ¬ e.InChunk m chunk :=
    List.filter_congr fun e _ => decide_eq_decide.2 (not_congr deletes_iff)
  have chosen : t.events.filter (ChunkImport.mk m chunk cutover).selects =
      t.events.filter fun e => e.InChunk m chunk :=
    List.filter_congr fun e _ =>
      Bool.eq_iff_iff.2 ((selects_iff_inChunk inside).trans decide_eq_true_iff.symm)
  have made : (fun e => (ChunkImport.mk m chunk cutover).measure? e) =
      fun e => ((m.number? e).map (m.entry e) : Option (Entry Q)) :=
    funext fun e => m.imported?_number e
  simp only [apply, kept, chosen]
  exact congrArg (_ ++ List.filterMap · _) made

theorem replaces_apply (inside : chunk.stop ≤ cutover) (t : Tables Q) :
    Replaces m chunk t ((ChunkImport.mk m chunk cutover).apply t) where
  events := rfl
  cached := rfl
  outside := by
    have none : ((t.rowsIn m chunk).filter fun e => ¬ e.InChunk m chunk) = [] :=
      List.filter_eq_nil_iff.2 fun row mem => by
        simpa using Tables.inChunk_of_mem_rowsIn mem
    rw [numbers_apply inside, List.filter_append, List.filter_filter, none, List.append_nil]
    simp only [Bool.and_self]
  inside := by
    have all : ((t.rowsIn m chunk).filter fun e => e.InChunk m chunk) = t.rowsIn m chunk :=
      List.filter_eq_self.2 fun row mem => decide_eq_true (Tables.inChunk_of_mem_rowsIn mem)
    have none : ((t.numbers.filter fun e => ¬ e.InChunk m chunk).filter fun e => e.InChunk m chunk) =
        [] := by
      refine List.filter_eq_nil_iff.2 fun row mem => ?_
      simpa using (List.mem_filter.1 mem).2
    rw [numbers_apply inside, List.filter_append, none, all, List.nil_append]

/-- What an import adds is what it would delete. -/
theorem deletes_of_selected {i : ChunkImport} {e : Event} {row : Entry Q} (selected : i.selects e = true)
    (made : i.measure? e = some row) : i.deletes row = true := by
  have own := isOf_of_selected selected made
  obtain ⟨-, -, stored⟩ := measure?_eq_some made
  rw [deletes_eq, own, stored, (selects_iff.1 selected).2.1]
  rfl

/-- What holds of each row that an import adds leaves none of them out. -/
theorem filter_added {i : ChunkImport} {t : Tables Q} {own : Entry Q → Bool}
    (all : ∀ e row, i.selects e = true → i.measure? e = some row → own row = true) :
    (((t.events.filter i.selects).filterMap i.measure?).filter fun row => ¬ own row) = [] := by
  refine List.filter_eq_nil_iff.2 fun row mem => ?_
  obtain ⟨e, he, made⟩ := List.mem_filterMap.1 mem
  simp [all e row (List.mem_filter.1 he).2 made]

/-- What an import leaves is what it would leave again. -/
theorem apply_apply (i : ChunkImport) (t : Tables Q) : i.apply (i.apply t) = i.apply t := by
  have none : (((t.events.filter i.selects).filterMap (i.measure? (Q := Q))).filter
      fun e => ¬ i.deletes e) = [] := filter_added fun _ _ => deletes_of_selected
  have numbers : (i.apply (i.apply t)).numbers = (i.apply t).numbers := by
    simp only [apply, List.filter_append, List.filter_filter, Bool.and_self, none, List.append_nil]
  exact congrArg (fun n => ({ t with numbers := n } : Tables Q)) numbers

/-- The rows of other meters are left alone. -/
theorem others_apply (i : ChunkImport) (t : Tables Q) :
    ((i.apply t).numbers.filter fun e => ¬ e.isOf i.meter) =
      t.numbers.filter fun e => ¬ e.isOf i.meter := by
  have kept : ((t.numbers.filter fun e => ¬ i.deletes e).filter fun e => ¬ e.isOf i.meter) =
      t.numbers.filter fun e => ¬ e.isOf i.meter := by
    rw [List.filter_filter]
    refine List.filter_congr fun e _ => ?_
    cases own : e.isOf i.meter <;> simp [deletes_eq, own]
  have added : (((t.events.filter i.selects).filterMap (i.measure? (Q := Q))).filter
      fun e => ¬ e.isOf i.meter) = [] := filter_added fun _ _ => isOf_of_selected
  rw [apply, List.filter_append, kept, added, List.append_nil]

end ChunkImport

namespace Database

variable {db after : Database Q} {m : Meter} {chunk : Period} {cutover : Instant}
  {chunks chunks' : List Period}

theorem importChunk_of_able {i : ChunkImport} (isOpen : db.isOpen = true)
    (able : db.canImport i = true) :
    db.importChunk i = (.ok (), { db with tables := i.apply db.tables }) := by
  simp [importChunk, write, isOpen, able]

/-- An import that succeeded succeeds again and changes nothing. -/
theorem importChunk_again {i : ChunkImport} (done : db.importChunk i = (.ok (), after)) :
    after.importChunk i = (.ok (), after) := by
  obtain ⟨isOpen, able, rfl⟩ := importChunk_eq_ok done
  have again : ({ db with tables := i.apply db.tables } : Database Q).importChunk i = (.ok (), _) :=
    importChunk_of_able isOpen able
  rw [again, ChunkImport.apply_apply]

/-- The rows of other meters are left alone by all imports, and so is all that is not a number. -/
theorem importAll_others (done : db.importAll m cutover chunks = (.ok (), after)) :
    after.tables.cached = db.tables.cached ∧
      (after.tables.numbers.filter fun e => ¬ e.isOf m) =
        db.tables.numbers.filter fun e => ¬ e.isOf m := by
  induction chunks generalizing db with
  | nil =>
    cases done
    exact ⟨rfl, rfl⟩
  | cons chunk chunks ih =>
    obtain ⟨middle, made, done⟩ := importAll_cons done
    obtain ⟨-, -, rfl⟩ := importChunk_eq_ok made
    obtain ⟨cached, others⟩ := ih done
    exact ⟨cached, others.trans (ChunkImport.others_apply ⟨m, chunk, cutover⟩ db.tables)⟩

/-- Chunks whose events can be read are all imported. -/
theorem importAll_of_able (isOpen : db.isOpen = true)
    (able : ∀ chunk ∈ chunks, db.canImport ⟨m, chunk, cutover⟩ = true) :
    ∃ after, db.importAll m cutover chunks = (.ok (), after) := by
  induction chunks generalizing db with
  | nil => exact ⟨db, rfl⟩
  | cons chunk chunks ih =>
    obtain ⟨first, others⟩ := List.forall_mem_cons.1 able
    rw [importAll, importChunk_of_able isOpen first]
    exact ih isOpen others

/-- The same chunks in another order are imported with the same result, up to the order of rows. -/
theorem importAll_perm (perm : chunks'.Perm chunks)
    (done : db.importAll m cutover chunks = (.ok (), after)) :
    ∃ after', db.importAll m cutover chunks' = (.ok (), after') ∧ after'.isOpen = after.isOpen ∧
      after'.tables.events = after.tables.events ∧ after'.tables.cached = after.tables.cached ∧
        after'.tables.numbers.Perm after.tables.numbers := by
  obtain ⟨isOpen, events, numbers⟩ := importAll_spec done
  obtain ⟨cached, others⟩ := importAll_others done
  obtain ⟨after', done'⟩ : ∃ after', db.importAll m cutover chunks' = (.ok (), after') := by
    cases chunks with
    | nil =>
      rw [perm.eq_nil]
      exact ⟨db, rfl⟩
    | cons chunk chunks =>
      have able := canImport_of_importAll done
      have opened := isOpen.symm.trans (able chunk List.mem_cons_self).1
      refine importAll_of_able opened fun c mem => ?_
      have able := (able c (perm.subset mem)).2
      rw [canImport, events] at able
      exact able
  obtain ⟨isOpen', events', numbers'⟩ := importAll_spec done'
  obtain ⟨cached', others'⟩ := importAll_others done'
  refine ⟨after', done', isOpen'.trans isOpen.symm, events'.trans events.symm,
    cached'.trans cached.symm, ?_⟩
  have some : inSome m cutover chunks' = inSome m cutover chunks := funext fun t => perm.any_eq
  rw [some] at numbers'
  have own := numbers'.trans numbers.symm
  have rest : (after'.tables.numbers.filter fun e => !e.isOf m) =
      after.tables.numbers.filter fun e => !e.isOf m := by
    simpa only [decide_not, Bool.decide_eq_true] using others'.trans others.symm
  refine (List.filter_append_perm (Entry.isOf m) after'.tables.numbers).symm.trans ?_
  rw [rest]
  exact (own.append_right _).trans (List.filter_append_perm (Entry.isOf m) after.tables.numbers)

/--
A chunk that ends by the cutover is replaced if the database is open, no fault meets a statement and the
events of the chunk can be read; else the database is left as it was. Then the rows of the chunk are made
from its events, all others stay, and doing it again changes nothing. The chunks of a plan give the same
tables in each order.
-/
theorem replaceChunk_exact {i : ChunkImport} (made : ChunkImport.make m chunk cutover = .ok i)
    (inside : chunk.stop ≤ cutover) (db : Database Q) (faults : ImportFaults) :
    ((db.replaceChunk i faults).1 = .ok () ↔
      db.isOpen = true ∧ faults = .none ∧ db.canImport i = true) ∧
    (∀ e after, db.replaceChunk i faults = (.error e, after) → after = db) ∧
    (∀ after, db.replaceChunk i faults = (.ok (), after) → after.isOpen = db.isOpen ∧
      Replaces m chunk db.tables after.tables ∧ after.replaceChunk i .none = (.ok (), after)) ∧
    ∀ (plan chunks : List Period) (after : Database Q), chunks.Perm plan →
      db.importAll m cutover plan = (.ok (), after) →
      ∃ after', db.importAll m cutover chunks = (.ok (), after') ∧ after'.isOpen = after.isOpen ∧
        after'.tables.events = after.tables.events ∧ after'.tables.cached = after.tables.cached ∧
          after'.tables.numbers.Perm after.tables.numbers := by
  obtain rfl := ChunkImport.eq_of_make made
  refine ⟨⟨fun succeeds => ?_, ?_⟩, fun e after => replaceChunk_error, fun after done => ?_,
    fun plan chunks after => importAll_perm⟩
  · obtain ⟨unmet, done⟩ := replaceChunk_ok (Prod.ext succeeds rfl)
    obtain ⟨isOpen, able, -⟩ := importChunk_eq_ok done
    exact ⟨isOpen, unmet, able⟩
  · rintro ⟨isOpen, rfl, able⟩
    rw [replaceChunk_sound, importChunk_of_able isOpen able]
  · obtain ⟨-, done⟩ := replaceChunk_ok done
    have again := importChunk_again done
    obtain ⟨-, -, rfl⟩ := importChunk_eq_ok done
    refine ⟨rfl, ChunkImport.replaces_apply inside db.tables, ?_⟩
    rw [replaceChunk_sound, again]

/-- A meter of visits, and a table of numbers that has a visit twice. -/
def visits : Meter where
  space := "shop"
  id := "visits"
  slug := "visits"
  aggregation := .count
  eventType := "visit"
  valuePath := none
  dimensions := ∅
  since := none
  progress := none

def twoVisits : Database Fraction where
  tables := ⟨[⟨"shop", "1", "visit", "door", "a", ⟨0⟩, "", ⟨0⟩, ⟨0⟩⟩,
      ⟨"shop", "2", "visit", "door", "b", .ofDayNumber 1, "", .ofDayNumber 1, .ofDayNumber 1⟩],
    [⟨"shop", "visits", "a", ⟨0⟩, ⟨0⟩, some 1, ∅⟩, ⟨"shop", "visits", "a", ⟨0⟩, ⟨0⟩, some 1, ∅⟩,
      ⟨"shop", "visits", "b", .ofDayNumber 1, .ofDayNumber 1, some 1, ∅⟩], []⟩
  isOpen := true

theorem replaceChunk_twoVisits : ∃ i after,
    ChunkImport.make visits ⟨.ofDayNumber 0, .ofDayNumber 1⟩ (.ofDayNumber 1) = .ok i ∧
      twoVisits.replaceChunk i .none = (.ok (), after) ∧
      Replaces visits ⟨.ofDayNumber 0, .ofDayNumber 1⟩ twoVisits.tables after.tables := by
  have made : ChunkImport.make visits ⟨.ofDayNumber 0, .ofDayNumber 1⟩ (.ofDayNumber 1) =
      .ok ⟨visits, ⟨.ofDayNumber 0, .ofDayNumber 1⟩, .ofDayNumber 1⟩ := rfl
  obtain ⟨able, -, replaced, -⟩ := replaceChunk_exact made (by decide) twoVisits .none
  obtain ⟨after, is⟩ : ∃ after, twoVisits.replaceChunk
      ⟨visits, ⟨.ofDayNumber 0, .ofDayNumber 1⟩, .ofDayNumber 1⟩ .none = (.ok (), after) :=
    ⟨_, Prod.ext (able.2 ⟨rfl, rfl, rfl⟩) rfl⟩
  exact ⟨_, after, made, is, (replaced after is).2.1⟩

/-- A chunk that starts within a microsecond is taken to start with it, so that a row of before is
deleted. -/
theorem replaceChunk_microsecond :
    (⟨0⟩ : Instant) ∉ (⟨⟨500⟩, .ofDayNumber 1⟩ : Period) ∧
    ∃ i after, ChunkImport.make visits ⟨⟨500⟩, .ofDayNumber 1⟩ (.ofDayNumber 1) = .ok i ∧
      (Database.mk ⟨[], [⟨"shop", "visits", "a", ⟨0⟩, ⟨0⟩, (some 1 : Fraction), ∅⟩], []⟩ true).replaceChunk
        i .none = (.ok (), after) ∧ after.tables.numbers = [] :=
  ⟨by decide, _, _, rfl, rfl, rfl⟩

end Database

end Metering
