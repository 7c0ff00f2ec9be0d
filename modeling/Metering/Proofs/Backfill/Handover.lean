import Mathlib.Data.List.Flatten
import Mathlib.Data.List.Perm.Subperm
import Metering.Proofs.Backfill.Books

/-!
The handover from the import to live ingestion counts no event twice and loses none.

While a task of a meter is inside a step, no other task changes the meter's rows, since no other has the
claim; so the books are kept over any number of moves (`Site.Sound`). The cutover divides the events:
those stored from it on come live, if the snapshot had it in time, and all others are imported by the
time the table is ready (`Site.numbersOf_perm_due`).
-/
namespace Metering

namespace Backfill

variable {s : BackfillSettings} {m : Meter} {w : World} {p : Progress}

namespace Site

/-- What holds after any number of moves. -/
structure Sound (s : BackfillSettings) (m : Meter) (σ : Site) : Prop where
  engine : σ.engine.Sound s (keyOf m)
  books : σ.world.Books m (σ.progress m)
  bonds : ∀ t ∈ σ.engine.tasks, σ.world.Bond m t

variable {σ : Site}

theorem Fresh.sound (h : σ.Fresh m) : σ.Sound s m := by
  have none : σ.progress m = .initial := by
    rw [progress, Engine.progress, Engine.stored, h.history]
    rfl
  refine ⟨h.idle.sound h.history, ?_, by simp [h.idle.tasks]⟩
  rw [none]
  refine ⟨h.isOpen, h.clock, h.stored, h.times, ⟨h.snapshot.1, by simp [h.snapshot.2]⟩,
    by simp [h.loads], fun r hr c is => ?_, by simp [Progress.initial], fun _ => ?_,
    by simp [Progress.initial]⟩
  · exact absurd ((h.passed r hr).symm.trans is) (by simp)
  · have streamed : σ.world.streamed m = [] := by
      refine List.filterMap_eq_nil_iff.2 fun r hr => ?_
      rw [h.passed r hr, Meter.streamed?, Option.any_none, if_neg (by simp)]
    rw [h.numbers, streamed]

/-- The world moves on and the engine rests. -/
theorem Sound.move (h : σ.Sound s m) {later : World} (books : later.Books m (σ.progress m))
    (follows : σ.world.Follows m later) : Sound s m { σ with world := later } :=
  ⟨h.engine, books, fun t ht => (h.bonds t ht).follow follows⟩

theorem Sound.begin (h : σ.Sound s m) {n : Meter} (same : keyOf n = keyOf m → SameDefinition m n)
    {rest : Backfilling (Meter × Except Error StepOutcome)}
    (orderly : Orderly s n σ.world.clock (EndsOutside n) .outside rest) :
    Sound s m { σ with engine := { σ.engine with
      tasks := σ.engine.tasks ++ [⟨n, σ.world.clock, .outside, rest⟩] } } := by
  refine ⟨h.engine.begin orderly, h.books, fun t ht => ?_⟩
  rcases List.mem_append.1 ht with ht | ht
  · exact h.bonds t ht
  · rw [List.mem_singleton.1 ht]
    exact ⟨Int.le_refl _, same, by simp, by simp⟩

/-- What a task has found out does not matter while it holds no claim. -/
theorem bond_of_outside {w later : World} {t : Task} (h : w.Bond m t)
    (clock : w.clock ≤ later.clock) (outside : keyOf t.meter = keyOf m → t.standing = .outside) :
    later.Bond m t where
  current := Int.le_trans h.current clock
  same := h.same
  surveyed own p found is := absurd ((outside own).symm.trans is) (by simp)
  copied own p is := absurd ((outside own).symm.trans is) (by simp)

/-- What holds once a task of this meter has gone on. Only inside its claim does it change rows. -/
structure GoesOn (σ : Site) (m : Meter) (t : Task) (st : Standing) (engine : Engine)
    (database : Database Float) : Prop where
  books : World.Books { σ.world with database := database } m (engine.progress (keyOf m))
  bond : ∀ rest, World.Bond { σ.world with database := database } m ⟨t.meter, t.now, st, rest⟩
  idle : t.standing = .outside → database = σ.world.database

section GoesOn

variable {t : Task} {st : Standing} {engine : Engine} {database : Database Float}

/-- Most answers tell nothing that has to stay true, and leave the database as it is. -/
theorem Sound.goesOn_quiet (h : σ.Sound s m) (mem : t ∈ σ.engine.tasks)
    (same : database = σ.world.database) (kept : engine.progress (keyOf m) = σ.progress m)
    (surveyed : ∀ p found, st ≠ .surveyed p found) (copied : ∀ p, st ≠ .copied p) :
    GoesOn σ m t st engine database := by
  subst same
  have bond := h.bonds t mem
  refine ⟨kept ▸ h.books, fun rest => ⟨bond.current, bond.same, ?_, ?_⟩, fun _ => rfl⟩
  · exact fun _ p found is => absurd is (surveyed p found)
  · exact fun _ p is => absurd is (copied p)

theorem Sound.goesOn_survey (h : σ.Sound s m) (mem : t ∈ σ.engine.tasks)
    (own : keyOf t.meter = keyOf m) {p : Progress} {found : Option Instant}
    (answer : .ok found = σ.world.database.earliestStored t.meter.events) :
    GoesOn σ m t (.surveyed p found) σ.engine σ.world.database := by
  have bond := h.bonds t mem
  refine ⟨h.books, fun rest => ⟨bond.current, bond.same, ?_, ?_⟩, fun _ => rfl⟩
  · intro _ q found' is cutover fixed
    obtain ⟨rfl, rfl⟩ := Standing.surveyed.inj is
    exact h.books.survey (bond.same own) answer bond.current
  · intro _ q is
    cases is

/-- A chunk is copied, whether the task is told so or not, or everything stays as it is. -/
theorem Sound.goesOn_copy (h : σ.Sound s m) (mem : t ∈ σ.engine.tasks)
    (own : keyOf t.meter = keyOf m) (knows : t.standing = .knows (σ.progress m))
    {cutover earliest : Instant} {chunk : Period} {pending : List Period}
    (fixed : (σ.progress m).cutover = some cutover)
    (planned : (σ.progress m).earliest = some earliest)
    (next : (σ.progress m).pending = chunk :: pending) (ended : chunk.stop ≤ t.now)
    {found : Option Progress} {a : Except StoreError Unit}
    (may : MayAnswer σ.world.database (.copy ⟨{ t.meter with progress := found }, chunk, cutover⟩) a
      database) :
    GoesOn σ m t (Standing.after (.knows (σ.progress m))
      (.copy ⟨{ t.meter with progress := found }, chunk, cutover⟩) a) σ.engine database := by
  have bond := h.bonds t mem
  have idle : t.standing = .outside → database = σ.world.database := by simp [knows]
  obtain ⟨x, named⟩ := bond.same own
  rw [named] at may ⊢
  have done := h.books.copy h.engine.climbs.wellFormed_head found fixed planned next
    (Int.le_trans ended bond.current)
  have either := importChunk_cases h.books.isOpen ⟨{ m with progress := found }, chunk, cutover⟩
  cases a with
  | error e =>
    rcases may with ⟨written, -⟩ | ⟨same, -⟩
    · rcases either with kept | copied
      · exact h.goesOn_quiet mem (written.trans (congrArg Prod.snd kept)) rfl
          (by simp [Standing.after]) (by simp [Standing.after])
      · obtain ⟨books, -⟩ := done _ (written.trans (congrArg Prod.snd copied))
        refine ⟨books, fun rest => ⟨bond.current, bond.same, ?_, ?_⟩, idle⟩
        · exact fun _ q found is => absurd is (by simp [Standing.after])
        · exact fun _ q is => absurd is (by simp [Standing.after])
    · exact h.goesOn_quiet mem same rfl (by simp [Standing.after]) (by simp [Standing.after])
  | ok u =>
    rcases may with ⟨written, answer⟩ | ⟨-, e, is⟩
    · rcases either with kept | copied
      · rw [kept] at answer
        rcases answer with is | ⟨e, is⟩ <;> exact absurd is (by simp)
      · obtain ⟨books, imported⟩ := done _ (written.trans (congrArg Prod.snd copied))
        refine ⟨books, fun rest => ⟨bond.current, bond.same, ?_, ?_⟩, idle⟩
        · exact fun _ q found is => absurd is (by simp [Standing.after])
        · intro _ q is c same
          obtain rfl : σ.progress m = q := by simpa [Standing.after] using is
          obtain rfl : cutover = c := Option.some.inj (fixed.symm.trans same)
          rw [next]
          exact imported
    · exact absurd is (by simp)

theorem Sound.goesOn_save (h : σ.Sound s m) (mem : t ∈ σ.engine.tasks)
    (own : keyOf t.meter = keyOf m) {q : Progress} (store : MayStore s t.now t.standing q)
    (told : t.standing.told? = some (σ.progress m)) (a : Except StoreError Unit) :
    GoesOn σ m t (t.standing.after (.save t.meter.space t.meter.id q) a)
      { σ.engine with history := fun k =>
          if k = (t.meter.space, t.meter.id) then q :: σ.engine.history k else σ.engine.history k }
      σ.world.database := by
  have bond := h.bonds t mem
  have saved := h.books.save h.engine.climbs.wellFormed_head bond own store told
  have now : Engine.progress { σ.engine with history := fun k =>
      if k = (t.meter.space, t.meter.id) then q :: σ.engine.history k else σ.engine.history k }
        (keyOf m) = q := by
    rw [← own]
    simp [Engine.progress, Engine.stored, keyOf]
  refine ⟨now.symm ▸ saved, fun rest => ⟨bond.current, bond.same, ?_, ?_⟩, fun _ => rfl⟩
  · intro _ p found is
    cases a <;> exact absurd is (by simp [Standing.after])
  · intro _ p is
    cases a <;> exact absurd is (by simp [Standing.after])

end GoesOn

theorem Sound.answer_own (h : σ.Sound s m) {t : Task} (mem : t ∈ σ.engine.tasks)
    {r : BackfillRequest} {a : r.Answer} {engine : Engine} {database : Database Float}
    (ask : MayAsk s t.meter t.now t.standing r) (answers : σ.engine.Answers r a engine)
    (may : MayAnswer σ.world.database r a database) (own : keyOf t.meter = keyOf m) :
    GoesOn σ m t (t.standing.after r a) engine database := by
  have told (inside : t.standing ≠ .outside) : ∀ p, t.standing.told? = some p → p = σ.progress m :=
    h.engine.told t mem ⟨own, inside⟩
  generalize standing : t.standing = st at ask told ⊢
  have quiet {st' : Standing} (same : database = σ.world.database)
      (kept : engine.progress (keyOf m) = σ.progress m)
      (surveyed : ∀ p found, st' ≠ .surveyed p found) (copied : ∀ p, st' ≠ .copied p) :
      GoesOn σ m t st' engine database := h.goesOn_quiet mem same kept surveyed copied
  cases ask with
  | claim =>
    cases answers with
    | granted free => exact quiet may rfl (by simp [Standing.after]) (by simp [Standing.after])
    | busy taken => exact quiet may rfl (by simp [Standing.after]) (by simp [Standing.after])
  | release inside =>
    cases answers
    exact quiet may rfl (by simp [Standing.after]) (by simp [Standing.after])
  | read =>
    cases answers with
    | read current => exact quiet may rfl (by simp [Standing.after]) (by simp [Standing.after])
    | unread => exact quiet may rfl (by simp [Standing.after]) (by simp [Standing.after])
  | survey =>
    cases answers with
    | surveyed =>
      obtain ⟨rfl, answer⟩ := may
      cases a with
      | error e => exact quiet rfl rfl (by simp [Standing.after]) (by simp [Standing.after])
      | ok found =>
        refine h.goesOn_survey mem own ?_
        rcases answer with is | ⟨e, is⟩
        · exact is
        · exact absurd is (by simp)
  | copy fixed planned pending ended found =>
    rename_i p cutover earliest chunk pendingRest
    cases answers
    obtain rfl : p = σ.progress m := told (by simp) p rfl
    exact h.goesOn_copy mem own standing fixed planned pending ended may
  | save store =>
    obtain rfl : database = σ.world.database := may
    subst standing
    obtain ⟨p, hp⟩ := store.told
    have inside : t.standing ≠ .outside := by
      intro outside
      rw [outside] at hp
      cases hp
    obtain rfl : p = σ.progress m := told inside p hp
    cases answers with
    | saved => exact h.goesOn_save mem own store hp a
    | unsaved => exact quiet rfl rfl (by simp [Standing.after]) (by simp [Standing.after])

theorem Sound.answer (h : σ.Sound s m) {i : Nat} {t : Task} {r : BackfillRequest}
    {next : r.Answer → Backfilling (Meter × Except Error StepOutcome)} {a : r.Answer}
    {engine : Engine} {database : Database Float} (found : σ.engine.tasks[i]? = some t)
    (asks : t.rest = .ask r next) (answers : σ.engine.Answers r a engine)
    (may : MayAnswer σ.world.database r a database) :
    Sound s m {
      engine := { engine with
        tasks := σ.engine.tasks.set i ⟨t.meter, t.now, t.standing.after r a, next a⟩ }
      world := { σ.world with database := database } } := by
  have mem := List.mem_of_getElem? found
  have ask : MayAsk s t.meter t.now t.standing r := by
    have orderly := h.engine.orderly t mem
    rw [asks] at orderly
    exact orderly.1
  by_cases own : keyOf t.meter = keyOf m
  · obtain ⟨books, bond, idle⟩ := h.answer_own mem ask answers may own
    refine ⟨h.engine.answer found asks answers, books, fun v hv => ?_⟩
    rcases Engine.mem_set_cases hv with rfl | ⟨j, ne, hj⟩
    · exact bond _
    · have old := h.bonds v (List.mem_of_getElem? hj)
      by_cases outside : t.standing = .outside
      · exact idle outside ▸ old
      · refine bond_of_outside old (Int.le_refl _) fun same => ?_
        by_contra holds
        exact ne (h.engine.alone i j t v found hj ⟨own, outside⟩ ⟨same, holds⟩)
  · obtain ⟨isOpen, events, numbers⟩ := may.elsewhere (m := m) h.books.isOpen ask own
    have books : World.Books { σ.world with database := database } m
        (engine.progress (keyOf m)) := by
      rw [Engine.progress, Engine.stored, (answers.elsewhere ask own).2]
      exact h.books.answer isOpen events numbers
    have follows : σ.world.Follows m { σ.world with database := database } :=
      World.follows_of_same rfl rfl events numbers
    refine ⟨h.engine.answer found asks answers, books, fun v hv => ?_⟩
    rcases Engine.mem_set_cases hv with rfl | ⟨j, -, hj⟩
    · have old := h.bonds t mem
      exact ⟨old.current, old.same, fun same => absurd same own, fun same => absurd same own⟩
    · exact (h.bonds v (List.mem_of_getElem? hj)).follow follows

theorem Sound.next (h : σ.Sound s m) {σ' : Site} (next : Next s m σ σ') : σ'.Sound s m := by
  cases next with
  | wait after inTime => exact h.move (h.books.wait after inTime) (World.follows_wait after)
  | store stamped => exact h.move (h.books.store stamped) (h.books.follows_store stamped)
  | pass policy found => exact h.move (h.books.pass policy found) (h.books.follows_pass policy _ _)
  | load listed =>
    have mirrors : Mirrors m (σ.progress m) _ := World.mirrors_of_listed listed fun c is => by
      rw [progress, Engine.progress]
      cases known : σ.engine.stored (keyOf m) with
      | none =>
        rw [known] at is
        exact absurd is (by simp)
      | some p =>
        rw [known] at is
        exact is
    exact h.move (h.books.load mirrors) (World.follows_of_same rfl rfl rfl rfl)
  | refresh found =>
    exact h.move (h.books.refresh found) (World.follows_of_same rfl rfl rfl rfl)
  | step n budget same => exact h.begin same (step_orderly (.refl n) budget)
  | run n budget same => exact h.begin same (run_orderly (.refl n) budget)
  | answer found asks answers may => exact h.answer found asks answers may

theorem Sound.reaches (h : σ.Sound s m) {σ' : Site} (reaches : Reaches s m σ σ') :
    σ'.Sound s m := by
  induction reaches with
  | refl => exact h
  | tail _ next ih => exact ih.next next

end Site

/-- The row that an event is to leave: live from the cutover on, imported before it. -/
def due? (m : Meter) (cutover : Option Instant) (e : Event) : Option (Entry Float) :=
  if m.covers e.space e.type then
    if cutover.any fun c => c ≤ e.storedAt then (m.measure? e).map Tables.keepEntry
    else m.imported? (Tables.keepEvent e)
  else none

/-- The row that an event has in the table once everything before `stop` has been imported. -/
def importedRow? (m : Meter) (stop : Instant) (e : Event) : Option (Entry Float) :=
  if m.covers e.space e.type then
    if e.storedAt.microsecondStart < stop.microsecondStart then m.imported? (Tables.keepEvent e)
    else none
  else none

namespace World

theorem streamed_eq (w : World) (m : Meter) :
    w.streamed m = w.readings.filterMap fun r => m.streamed? r.2 r.1 := by
  have none : (w.waiting.map fun e => (e, none)).filterMap
      (fun r : Event × Option Instant => m.streamed? r.2 r.1) = [] := by
    refine List.filterMap_eq_nil_iff.2 fun r hr => ?_
    obtain ⟨e, -, rfl⟩ := List.mem_map.1 hr
    rfl
  rw [readings, List.filterMap_append, none, List.append_nil, streamed]

theorem Books.importedBefore_perm (h : w.Books m p) (stop : Instant) :
    (w.database.tables.importedBefore m stop).Perm
      (w.readings.filterMap fun r => importedRow? m stop r.1) := by
  have perm := ((h.kept.filter fun e => m.covers e.space e.type).filter
    fun e => e.storedAt < stop.microsecondStart).filterMap (m.imported? (Q := Float))
  refine perm.trans (List.Perm.of_eq ?_)
  rw [events, List.map_map, List.filterMap_filter, List.filterMap_filter, List.filterMap_map]
  refine List.filterMap_congr fun r _ => ?_
  simp only [Function.comp_apply, importedRow?, decide_eq_true_eq]
  rfl

theorem frontier_le {start stop : Instant} {pending : List Period}
    (h : pending <:+ dailyChunks start stop) :
    frontier stop pending ≤ stop ∧ frontier stop (pending.drop 1) ≤ stop := by
  cases pending with
  | nil => exact ⟨Int.le_refl _, Int.le_refl _⟩
  | cons chunk rest =>
    obtain ⟨ordered, inside, next⟩ := frontier_of_suffix h
    rw [frontier_cons, List.drop_one, List.tail_cons, next]
    exact ⟨Int.le_trans ordered inside, inside⟩

/-- How far the import has got: not past the cutover, and up to it once the table is ready. -/
theorem Books.imported (h : w.Books m p) (wellFormed : p.WellFormed) :
    ∃ stop, (∀ c, p.cutover = some c → stop ≤ c) ∧ (p.ready = true → p.cutover = some stop) ∧
      (w.database.tables.numbersOf m).Perm
        (w.streamed m ++ w.readings.filterMap fun r => importedRow? m stop r.1) := by
  cases planned : p.earliest with
  | none =>
    have unready : p.ready ≠ true := fun ready => by
      simpa [planned] using (wellFormed.complete_of_ready ready).2.1
    let stop := min .epoch (p.cutover.getD .epoch)
    obtain ⟨early, before, -⟩ := Instant.min_bounds .epoch (p.cutover.getD .epoch)
    have none : (w.readings.filterMap fun r => importedRow? m stop r.1) = [] := by
      refine List.filterMap_eq_nil_iff.2 fun r hr => ?_
      have late := Instant.microsecondStart_mono
        (Int.le_trans early (h.times r.1 (List.mem_map_of_mem hr)).1)
      have not : ¬ r.1.storedAt.microsecondStart < stop.microsecondStart := Int.not_lt.2 late
      simp [importedRow?, not]
    refine ⟨stop, fun c is => ?_, fun ready => absurd ready unready, ?_⟩
    · rw [is] at before
      simp only [stop, is]
      exact before
    · rw [none, List.append_nil]
      exact h.unplanned planned
  | some earliest =>
    obtain ⟨c, fixed⟩ := Option.isSome_iff_exists.1
      (wellFormed.cutover_of_earliest (by simp [planned]))
    obtain ⟨here, ahead⟩ := frontier_le (wellFormed.pending_suffix earliest c planned fixed)
    have only : ∀ c', p.cutover = some c' → c' = c := fun c' is =>
      Option.some.inj (is.symm.trans fixed)
    have perm (stop : Instant) (imported : w.ImportedUpTo m stop) :=
      imported.rows.trans ((h.importedBefore_perm stop).append_left _)
    rcases h.planned c fixed (by simp [planned]) with imported | imported
    · refine ⟨_, fun c' is => only c' is ▸ here, fun ready => ?_, perm _ imported⟩
      rw [(wellFormed.complete_of_ready ready).2.2, fixed, frontier_nil]
    · refine ⟨_, fun c' is => only c' is ▸ ahead, fun ready => ?_, perm _ imported⟩
      rw [(wellFormed.complete_of_ready ready).2.2, fixed, List.drop_nil, frontier_nil]

/-- What came live and what was imported, event by event. -/
theorem streamed_append_perm (w : World) (m : Meter) (stop : Instant) :
    (w.streamed m ++ w.readings.filterMap fun r => importedRow? m stop r.1).Perm
      (w.readings.flatMap fun r =>
        (m.streamed? r.2 r.1).toList ++ (importedRow? m stop r.1).toList) := by
  rw [streamed_eq, List.filterMap_eq_flatMap_toList, List.filterMap_eq_flatMap_toList]
  exact List.flatMap_append_perm _ _ _

theorem Books.reading (h : w.Books m p) {r : Event × Option Instant} (hr : r ∈ w.readings)
    {c : Instant} (is : r.2 = some c) : p.cutover = some c := by
  rcases List.mem_append.1 hr with hr | hr
  · exact h.passed r hr c is
  · obtain ⟨e, -, rfl⟩ := List.mem_map.1 hr
    exact absurd is (by simp)

/-- An event comes live or is imported, but not both. -/
theorem Books.sublist_due (h : w.Books m p) {stop : Instant}
    (bounded : ∀ c, p.cutover = some c → stop ≤ c) {r : Event × Option Instant}
    (hr : r ∈ w.readings) :
    ((m.streamed? r.2 r.1).toList ++ (importedRow? m stop r.1).toList).Sublist
      (due? m p.cutover r.1).toList := by
  cases covers : m.covers r.1.space r.1.type with
  | false => simp [Meter.streamed?, Meter.measure?, importedRow?, covers]
  | true =>
    by_cases reached : ∃ c, p.cutover = some c ∧ c ≤ r.1.storedAt
    · obtain ⟨c, is, le⟩ := reached
      have live : due? m p.cutover r.1 = (m.measure? r.1).map Tables.keepEntry := by
        simp [due?, covers, is, le]
      have late : ¬ r.1.storedAt.microsecondStart < stop.microsecondStart :=
        Int.not_lt.2 (Instant.microsecondStart_mono (Int.le_trans (bounded c is) le))
      have unimported : importedRow? m stop r.1 = none := by simp [importedRow?, late]
      rw [live, unimported, Option.toList_none, List.append_nil, Meter.streamed?]
      split
      · exact List.Sublist.refl _
      · exact List.nil_sublist _
    · have unstreamed : m.streamed? r.2 r.1 = none := by
        cases made : m.streamed? r.2 r.1 with
        | none => rfl
        | some row =>
          obtain ⟨c, is, le, -⟩ := Meter.streamed?_eq_some made
          exact absurd ⟨c, h.reading hr is, le⟩ reached
      have before : ¬ (p.cutover.any fun c => c ≤ r.1.storedAt) = true := by
        simpa [Option.any_eq_true] using reached
      have imported : due? m p.cutover r.1 = m.imported? (Tables.keepEvent r.1) := by
        rw [due?, if_pos covers, if_neg before]
      rw [unstreamed, imported, Option.toList_none, List.nil_append, importedRow?, if_pos covers]
      split
      · exact List.Sublist.refl _
      · exact List.nil_sublist _

/-- Once the table is ready, every event has come live or has been imported. -/
theorem Books.eq_due (h : w.Books m p) {stop : Instant} (fixed : p.cutover = some stop)
    {r : Event × Option Instant} (hr : r ∈ w.readings)
    (live : m.covers r.1.space r.1.type = true → stop ≤ r.1.storedAt → r.2 = some stop) :
    (m.streamed? r.2 r.1).toList ++ (importedRow? m stop r.1).toList =
      (due? m p.cutover r.1).toList := by
  cases covers : m.covers r.1.space r.1.type with
  | false => simp [Meter.streamed?, Meter.measure?, importedRow?, due?, covers]
  | true =>
    by_cases reached : stop ≤ r.1.storedAt
    · have late : ¬ r.1.storedAt.microsecondStart < stop.microsecondStart :=
        Int.not_lt.2 (Instant.microsecondStart_mono reached)
      simp [importedRow?, due?, Meter.streamed?, covers, fixed, live covers reached, reached, late]
    · have before := Int.not_le.1 reached
      have times := h.times r.1 (List.mem_map_of_mem hr)
      have early : r.1.storedAt.microsecondStart < stop.microsecondStart :=
        h.sharp stop fixed r.1.storedAt times.1 (Int.lt_of_le_of_lt times.2 h.clock.2) before
      have unstreamed : m.streamed? r.2 r.1 = none := by
        cases made : m.streamed? r.2 r.1 with
        | none => rfl
        | some row =>
          obtain ⟨c, is, le, -⟩ := Meter.streamed?_eq_some made
          have same : stop = c := Option.some.inj (fixed.symm.trans (h.reading hr is))
          exact absurd (same ▸ le) reached
      simp [importedRow?, due?, unstreamed, covers, fixed, reached, early]

end World

namespace Site

/-- The snapshot had the cutover in time for every event from the cutover on that was passed on. -/
def Timely (m : Meter) (σ : Site) : Prop :=
  ∀ r ∈ σ.world.passed, m.covers r.1.space r.1.type = true →
    ∀ c, (σ.progress m).cutover = some c → c ≤ r.1.storedAt → r.2 = some c

/-- No event that is still to be passed on is left to live ingestion. -/
def Settled (m : Meter) (σ : Site) : Prop :=
  ∀ e ∈ σ.world.waiting, m.covers e.space e.type = true →
    ∀ c, (σ.progress m).cutover = some c → ¬ c ≤ e.storedAt

/--
No event has more than one row of the meter in the table of numbers, and once the table is ready each
event with a value has one.
-/
theorem numbersOf_perm_due {σ₀ σ : Site} (fresh : σ₀.Fresh m) (reaches : Reaches s m σ₀ σ) :
    (σ.world.database.tables.numbersOf m).Subperm
        (σ.world.events.filterMap (due? m (σ.progress m).cutover)) ∧
      ((σ.progress m).ready = true → σ.Timely m → σ.Settled m →
        (σ.world.database.tables.numbersOf m).Perm
          (σ.world.events.filterMap (due? m (σ.progress m).cutover))) := by
  have sound := fresh.sound.reaches reaches
  have wellFormed : (σ.progress m).WellFormed := sound.engine.climbs.wellFormed_head
  obtain ⟨stop, bounded, ended, perm⟩ := sound.books.imported wellFormed
  have rows := perm.trans (World.streamed_append_perm σ.world m stop)
  have due : σ.world.events.filterMap (due? m (σ.progress m).cutover) =
      σ.world.readings.flatMap fun r => (due? m (σ.progress m).cutover r.1).toList := by
    rw [World.events, List.filterMap_map, List.filterMap_eq_flatMap_toList]
    rfl
  rw [due]
  constructor
  · exact rows.subperm.trans
      (List.Sublist.flatMap_right _ fun r hr => sound.books.sublist_due bounded hr).subperm
  · intro ready timely settled
    have fixed := ended ready
    refine rows.trans (List.Perm.of_eq (List.flatMap_congr fun r hr => ?_))
    refine sound.books.eq_due fixed hr fun covers reached => ?_
    rcases List.mem_append.1 hr with hr | hr
    · exact timely r hr covers stop fixed reached
    · obtain ⟨e, he, rfl⟩ := List.mem_map.1 hr
      exact absurd reached (settled e he covers stop fixed)

/-- A meter and its snapshot, before anything has happened. -/
def openingDay : Site where
  engine := .unused
  world := ⟨.epoch, [Engine.requestCount], [], .empty, [], []⟩

theorem openingDay_fresh : openingDay.Fresh Engine.requestCount where
  idle := ⟨rfl, rfl⟩
  history := rfl
  clock := by decide
  isOpen := rfl
  numbers := rfl
  stored := .nil
  times := by simp [openingDay, World.events, World.readings]
  snapshot := ⟨.inr ⟨none, rfl⟩, rfl⟩
  loads := rfl
  passed := by simp [openingDay]

def firstRequest : Event := ⟨"shop", "1", "request", "web", "ada", .epoch, "null", .epoch, .epoch⟩

def requestCountAt (earliest : Option Instant) : Meter :=
  { Engine.requestCount with progress := some ⟨some .epoch, earliest, [], false⟩ }

/-- A cutover without delay, a refresh, an event that is passed on, and the steps to a ready table. -/
theorem perm_due_of_first_request : ∃ σ, Reaches ⟨⟨0⟩, ⟨0⟩⟩ Engine.requestCount openingDay σ ∧
    (σ.progress Engine.requestCount).ready = true ∧ σ.world.events = [firstRequest] ∧
    (σ.world.database.tables.numbersOf Engine.requestCount).length = 1 ∧
    (σ.world.database.tables.numbersOf Engine.requestCount).Perm
      (σ.world.events.filterMap (due? Engine.requestCount
        (σ.progress Engine.requestCount).cutover)) := by
  have fixed := (((((Relation.ReflTransGen.refl
    (r := Next ⟨⟨0⟩, ⟨0⟩⟩ Engine.requestCount) (a := openingDay)).tail
    (.step Engine.requestCount 1 fun _ => .refl _)).tail
    (.answer (i := 0) rfl rfl (.granted List.not_mem_nil) rfl)).tail
    (.answer (i := 0) rfl rfl (.read (m := Engine.requestCount) rfl) rfl)).tail
    (.answer (i := 0) rfl rfl (.saved (a := .ok ())) rfl)).tail
    (.answer (i := 0) rfl rfl .released rfl)
  have counted := (((fixed.tail
    (.load (show List.filter _ [requestCountAt none] = _ from rfl))).tail
    (.refresh (i := 0) rfl)).tail
    (.store (e := firstRequest) rfl)).tail
    (.pass Ingest.defaultPolicy (i := 0) rfl)
  have planned := (((((counted.tail
    (.step Engine.requestCount 1 fun _ => .refl _)).tail
    (.answer (i := 1) rfl rfl (.granted List.not_mem_nil) rfl)).tail
    (.answer (i := 1) rfl rfl (.read (m := requestCountAt none) rfl) rfl)).tail
    (.answer (i := 1) rfl rfl (.surveyed (a := .ok (some .epoch))) ⟨rfl, .inl rfl⟩)).tail
    (.answer (i := 1) rfl rfl (.saved (a := .ok ())) rfl)).tail
    (.answer (i := 1) rfl rfl .released rfl)
  have noChunk : dailyChunks .epoch .epoch = [] := dailyChunks_of_le (Int.le_refl _)
  have current := congrArg (fun chunks => some (Progress.mk (some .epoch) (some .epoch) chunks
    false)) noChunk.symm
  have reaches := (((planned.tail
    (.step Engine.requestCount 1 fun _ => .refl _)).tail
    (.answer (i := 2) rfl rfl (.granted List.not_mem_nil) rfl)).tail
    (.answer (i := 2) rfl rfl (.read (m := requestCountAt (some .epoch)) current) rfl)).tail
    (.answer (i := 2) rfl rfl (.saved (a := .ok ())) rfl)
  refine ⟨_, reaches, rfl, rfl, rfl,
    (numbersOf_perm_due openingDay_fresh reaches).2 rfl ?_ (fun e he => absurd he List.not_mem_nil)⟩
  intro r hr _ c is _
  obtain rfl := List.mem_singleton.1 hr
  exact is

end Site

end Backfill

end Metering
