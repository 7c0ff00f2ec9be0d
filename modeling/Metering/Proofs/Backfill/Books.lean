import Mathlib.Data.List.Perm.Basic
import Metering.Proofs.Backfill.World

/-!
The books of the handover: at any time the rows of a meter are those that came live and those imported
of the events stored before some instant, and the stored progress tells this instant up to one chunk
(`World.Books`). Each move keeps them. What a step has found out before it stores progress stays true
until then (`World.Bond`).
-/
namespace Metering

/-- No instant of the clock's range before `c` falls into the microsecond of `c`. -/
def Instant.Sharp (c : Instant) : Prop :=
  ∀ t, .epoch ≤ t → t < Backfill.horizon → t < c → t.microsecondStart < c.microsecondStart

/-- A cutover is a whole second, or else the clock never comes near it. -/
theorem Instant.truncateToSecond_sharp (t : Instant) : t.truncateToSecond.Sharp := by
  intro u first last before
  simp only [Instant.le_iff, Instant.lt_iff, Instant.epoch, Backfill.horizon, Instant.ofSeconds,
    Instant.microsecondStart, Instant.micros] at *
  unfold Instant.truncateToSecond at *
  split at before
  · rename_i inside
    rw [if_pos inside]
    simp only [Instant.ofSeconds, Instant.second] at *
    omega
  · rename_i outside
    rw [if_neg outside]
    omega

namespace Backfill

variable {s : BackfillSettings} {m : Meter} {w : World} {p q : Progress}

namespace World

/-- What came live and what was imported of the events stored before `stop` is all that there is. -/
structure ImportedUpTo (w : World) (m : Meter) (stop : Instant) : Prop where
  past : stop ≤ w.clock
  rows : (w.database.tables.numbersOf m).Perm
    (w.streamed m ++ w.database.tables.importedBefore m stop)

/-- No event of the meter was stored before `start`. -/
structure NothingBefore (w : World) (m : Meter) (start : Instant) : Prop where
  past : start ≤ w.clock
  late : ∀ e ∈ w.database.tables.eventsOf m, start.microsecondStart ≤ e.storedAt

end World

/-- A list of meters has no cutover of the meter but the one that is stored. -/
structure Mirrors (m : Meter) (p : Progress) (listed : List Meter) : Prop where
  once : Snapshot.ListsOnce listed m
  cutover : ∀ c, Snapshot.cutover? listed m = some c → p.cutover = some c

theorem Mirrors.keep {listed : List Meter} (h : Mirrors m p listed) (keeps : p.Keeps q) :
    Mirrors m q listed :=
  ⟨h.once, fun c is => keeps.cutover c (h.cutover c is)⟩

/-- What holds of the surroundings while `p` is the stored progress of the meter. -/
structure World.Books (w : World) (m : Meter) (p : Progress) : Prop where
  isOpen : w.database.isOpen = true
  clock : .epoch ≤ w.clock ∧ w.clock < horizon
  kept : w.database.tables.events.Perm (w.events.map Tables.keepEvent)
  times : ∀ e ∈ w.events, .epoch ≤ e.storedAt ∧ e.storedAt ≤ w.clock
  snapshot : Mirrors m p w.snapshot
  loads : ∀ listed ∈ w.loads, Mirrors m p listed
  passed : ∀ r ∈ w.passed, ∀ c, r.2 = some c → p.cutover = some c
  sharp : ∀ c, p.cutover = some c → c.Sharp
  unplanned : p.earliest = none → (w.database.tables.numbersOf m).Perm (w.streamed m)
  /-- The first chunk that is left may have been imported already, by a step that got no further. -/
  planned : ∀ c, p.cutover = some c → p.earliest.isSome →
    w.ImportedUpTo m (frontier c p.pending) ∨ w.ImportedUpTo m (frontier c (p.pending.drop 1))

/-- What a task of the meter has found out stays true until it stores what follows from it. -/
structure World.Bond (w : World) (m : Meter) (t : Task) : Prop where
  current : t.now ≤ w.clock
  same : keyOf t.meter = keyOf m → SameDefinition m t.meter
  surveyed : keyOf t.meter = keyOf m → ∀ p found, t.standing = .surveyed p found →
    ∀ c, p.cutover = some c → w.NothingBefore m (importStart found c t.now).startOfDay
  copied : keyOf t.meter = keyOf m → ∀ p, t.standing = .copied p →
    ∀ c, p.cutover = some c → w.ImportedUpTo m (frontier c (p.pending.drop 1))

/-- A move that goes on from where an earlier one got to. -/
structure World.Follows (w : World) (m : Meter) (later : World) : Prop where
  clock : w.clock ≤ later.clock
  nothingBefore : ∀ start, w.NothingBefore m start → later.NothingBefore m start
  importedUpTo : ∀ stop, w.ImportedUpTo m stop → later.ImportedUpTo m stop

theorem World.Bond.follow {later : World} {t : Task} (h : w.Bond m t) (f : w.Follows m later) :
    later.Bond m t where
  current := Int.le_trans h.current f.clock
  same := h.same
  surveyed own p found is c fixed := f.nothingBefore _ (h.surveyed own p found is c fixed)
  copied own p is c fixed := f.importedUpTo _ (h.copied own p is c fixed)

namespace World

theorem follows_wait {later : Instant} (after : w.clock ≤ later) :
    w.Follows m { w with clock := later } where
  clock := after
  nothingBefore _ h := ⟨Int.le_trans h.past after, h.late⟩
  importedUpTo _ h := ⟨Int.le_trans h.past after, h.rows⟩

theorem Books.wait (h : w.Books m p) {later : Instant} (after : w.clock ≤ later)
    (inTime : later < horizon) : Books { w with clock := later } m p :=
  { h with
    clock := ⟨Int.le_trans h.clock.1 after, inTime⟩
    times := fun e he => ⟨(h.times e he).1, Int.le_trans (h.times e he).2 after⟩
    planned := fun c fixed planned => (h.planned c fixed planned).imp
      ((follows_wait after).importedUpTo _) ((follows_wait after).importedUpTo _) }

theorem Books.insertEvents (h : w.Books m p) (e : Event) :
    (w.database.insertEvents [e]).2 =
      { w.database with tables := w.database.tables.insertEvents [e] } := by
  rw [Database.insertEvents, Database.write, if_pos h.isOpen]

theorem eventsOf_insertEvents (t : Tables Float) (m : Meter) (e : Event) :
    (t.insertEvents [e]).eventsOf m = t.eventsOf m ∨
      (t.insertEvents [e]).eventsOf m = t.eventsOf m ++ [Tables.keepEvent e] := by
  simp only [Tables.insertEvents, Tables.eventsOf, List.filter_append, List.map_cons, List.map_nil]
  cases covers : m.covers (Tables.keepEvent e).space (Tables.keepEvent e).type
  · exact .inl (by simp [covers])
  · exact .inr (by simp [covers])

theorem Books.follows_store (h : w.Books m p) {e : Event} (stamped : e.storedAt = w.clock) :
    w.Follows m (w.store e) where
  clock := Int.le_refl _
  nothingBefore start nothing := by
    refine ⟨nothing.past, fun f hf => ?_⟩
    simp only [store, h.insertEvents] at hf
    rcases eventsOf_insertEvents w.database.tables m e with same | more
    · exact nothing.late f (same ▸ hf)
    · rw [more] at hf
      rcases List.mem_append.1 hf with hf | hf
      · exact nothing.late f hf
      · rw [List.mem_singleton.1 hf]
        exact Instant.microsecondStart_mono (stamped ▸ nothing.past)
  importedUpTo stop imported := by
    refine ⟨imported.past, ?_⟩
    have late : ¬ (Tables.keepEvent e).storedAt < stop.microsecondStart :=
      Int.not_lt.2 (Instant.microsecondStart_mono (stamped ▸ imported.past))
    have same : (w.database.tables.insertEvents [e]).importedBefore m stop =
        w.database.tables.importedBefore m stop := by
      rw [Tables.importedBefore, Tables.importedBefore]
      rcases eventsOf_insertEvents w.database.tables m e with same | more
      · rw [same]
      · rw [more, List.filter_append, List.filter_cons_of_neg (by simpa using late),
          List.filter_nil, List.append_nil]
    simp only [store, h.insertEvents, same]
    exact imported.rows

theorem events_store (w : World) (e : Event) : (w.store e).events = w.events ++ [e] := by
  simp [events, readings, store]

theorem Books.store (h : w.Books m p) {e : Event} (stamped : e.storedAt = w.clock) :
    (w.store e).Books m p := by
  have follows := h.follows_store stamped
  refine ⟨?_, h.clock, ?_, ?_, h.snapshot, h.loads, h.passed, h.sharp, ?_, ?_⟩
  · simpa only [World.store, h.insertEvents] using h.isOpen
  · rw [events_store, List.map_append]
    simp only [World.store, h.insertEvents]
    exact h.kept.append_right _
  · intro f hf
    rw [events_store] at hf
    rcases List.mem_append.1 hf with hf | hf
    · exact h.times f hf
    · rw [List.mem_singleton.1 hf, stamped]
      exact ⟨h.clock.1, Int.le_refl _⟩
  · simp only [World.store, h.insertEvents]
    exact h.unplanned
  · exact fun c fixed planned => (h.planned c fixed planned).imp
      (follows.importedUpTo _) (follows.importedUpTo _)

/-- An event that is passed on adds what the snapshot lets through. -/
theorem Books.pass_tables (h : w.Books m p) (policy : RetryPolicy) (i : Nat) (e : Event) :
    (w.pass m policy i e).database.isOpen = true ∧
      (w.pass m policy i e).database.tables.events = w.database.tables.events ∧
      (w.pass m policy i e).database.tables.numbersOf m =
        w.database.tables.numbersOf m ++ (m.streamed? (w.snapshot.cutover? m) e).toList := by
  have same : w.snapshot.entries [e] = w.snapshot.entriesOf e := by
    simp [Snapshot.entries]
  simp only [pass, Database.run_ingest policy w.snapshot [e] h.isOpen, same,
    Tables.numbersOf_insertNumbers, Snapshot.keep_entriesOf h.snapshot.once]
  exact ⟨h.isOpen, rfl, trivial⟩

theorem streamed_pass (w : World) (m : Meter) (policy : RetryPolicy) (i : Nat) (e : Event) :
    (w.pass m policy i e).streamed m =
      w.streamed m ++ (m.streamed? (w.snapshot.cutover? m) e).toList := by
  simp only [streamed, pass, List.filterMap_append]
  rfl

theorem events_pass (w : World) (m : Meter) (policy : RetryPolicy) {i : Nat} {e : Event}
    (found : w.waiting[i]? = some e) : (w.pass m policy i e).events.Perm w.events := by
  obtain ⟨inside, rfl⟩ := List.getElem?_eq_some_iff.1 found
  have moved := List.getElem_cons_eraseIdx_perm inside
  simpa [events, readings, pass, Function.comp_def] using moved.append_left _

theorem Books.follows_pass (h : w.Books m p) (policy : RetryPolicy) (i : Nat) (e : Event) :
    w.Follows m (w.pass m policy i e) := by
  obtain ⟨-, events, numbers⟩ := h.pass_tables policy i e
  refine ⟨Int.le_refl _, fun start nothing => ⟨nothing.past, ?_⟩,
    fun stop imported => ⟨imported.past, ?_⟩⟩
  · intro f hf
    rw [Tables.eventsOf, events] at hf
    exact nothing.late f hf
  · have same : (w.pass m policy i e).database.tables.importedBefore m stop =
        w.database.tables.importedBefore m stop := by
      simp only [Tables.importedBefore, Tables.eventsOf, events]
    rw [numbers, streamed_pass, same, List.append_assoc]
    refine (imported.rows.append_right _).trans ?_
    rw [List.append_assoc]
    exact List.perm_append_comm.append_left _

theorem Books.pass (h : w.Books m p) (policy : RetryPolicy) {i : Nat} {e : Event}
    (found : w.waiting[i]? = some e) : (w.pass m policy i e).Books m p := by
  obtain ⟨isOpen, events, numbers⟩ := h.pass_tables policy i e
  have follows := h.follows_pass policy i e
  have moved := events_pass w m policy found
  refine ⟨isOpen, h.clock, ?_, fun f hf => h.times f (moved.mem_iff.1 hf), h.snapshot, h.loads,
    ?_, h.sharp, ?_, ?_⟩
  · rw [events]
    exact h.kept.trans (moved.map _).symm
  · intro r hr c is
    rcases List.mem_append.1 hr with hr | hr
    · exact h.passed r hr c is
    · rw [List.mem_singleton.1 hr] at is
      exact h.snapshot.cutover c is
  · intro unplanned
    rw [numbers, streamed_pass]
    exact (h.unplanned unplanned).append_right _
  · exact fun c fixed planned => (h.planned c fixed planned).imp
      (follows.importedUpTo _) (follows.importedUpTo _)

theorem mirrors_of_listed {x : Option Progress} {listed : List Meter}
    (alone : listed.filter (Snapshot.isNamed m.space m.id) = [{ m with progress := x }])
    (cutover : ∀ c, x.bind Progress.cutover = some c → p.cutover = some c) : Mirrors m p listed where
  once := .inr ⟨x, alone⟩
  cutover c is := by
    rw [Snapshot.cutover?, Snapshot.progress?, ← List.head?_filter, alone] at is
    exact cutover c is

theorem Books.load (h : w.Books m p) {loaded : List Meter} (mirrors : Mirrors m p loaded) :
    Books { w with loads := w.loads ++ [loaded] } m p :=
  { h with
    loads := fun listed hl => by
      rcases List.mem_append.1 hl with hl | hl
      · exact h.loads listed hl
      · rw [List.mem_singleton.1 hl]
        exact mirrors
    planned := fun c fixed planned => (h.planned c fixed planned).imp
      (fun i => ⟨i.past, i.rows⟩) (fun i => ⟨i.past, i.rows⟩) }

/-- A refresh chooses between two records that both have no other cutover. -/
theorem mirrors_replaced {snapshot loaded : List Meter} (old : Mirrors m p snapshot)
    (new : Mirrors m p loaded) : Mirrors m p (Snapshot.replaced snapshot loaded) := by
  have named (n : Meter) : Snapshot.isNamed m.space m.id (Snapshot.keepProgress snapshot n) =
      Snapshot.isNamed m.space m.id n := by
    unfold Snapshot.keepProgress
    split
    · rfl
    · split <;> rfl
  have filtered : (Snapshot.replaced snapshot loaded).filter (Snapshot.isNamed m.space m.id) =
      (loaded.filter (Snapshot.isNamed m.space m.id)).map (Snapshot.keepProgress snapshot) := by
    rw [Snapshot.replaced, List.filter_map]
    congr 1
    exact List.filter_congr fun n _ => named n
  rcases new.once with none | ⟨x, one⟩
  · rw [none, List.map_nil] at filtered
    refine ⟨.inl filtered, fun c is => ?_⟩
    rw [Snapshot.cutover?, Snapshot.progress?, ← List.head?_filter, filtered] at is
    exact absurd is (by simp)
  · rw [one, List.map_singleton] at filtered
    have loadedCutover : ∀ c, x.bind Progress.cutover = some c → p.cutover = some c := by
      intro c is
      refine new.cutover c ?_
      rw [Snapshot.cutover?, Snapshot.progress?, ← List.head?_filter, one]
      exact is
    unfold Snapshot.keepProgress at filtered
    split at filtered
    · exact mirrors_of_listed filtered loadedCutover
    · rename_i newer found
      split at filtered
      · refine mirrors_of_listed filtered fun c is => old.cutover c ?_
        rw [Snapshot.cutover?, found]
        exact is
      · exact mirrors_of_listed filtered loadedCutover

theorem Books.refresh (h : w.Books m p) {i : Nat} {loaded : List Meter}
    (found : w.loads[i]? = some loaded) : (w.refresh i loaded).Books m p :=
  { h with
    snapshot := mirrors_replaced h.snapshot (h.loads loaded (List.mem_of_getElem? found))
    loads := fun listed hl => h.loads listed (List.mem_of_mem_eraseIdx hl)
    planned := fun c fixed planned => (h.planned c fixed planned).imp
      (fun i => ⟨i.past, i.rows⟩) (fun i => ⟨i.past, i.rows⟩) }

theorem follows_of_same {later : World} (clock : later.clock = w.clock)
    (passed : later.passed = w.passed)
    (events : later.database.tables.events = w.database.tables.events)
    (numbers : later.database.tables.numbersOf m = w.database.tables.numbersOf m) :
    w.Follows m later := by
  refine ⟨Int.le_of_eq (congrArg Instant.nanos clock.symm), fun start nothing => ⟨?_, ?_⟩,
    fun stop imported => ⟨?_, ?_⟩⟩
  · exact clock ▸ nothing.past
  · rw [Tables.eventsOf, events]
    exact nothing.late
  · exact clock ▸ imported.past
  · rw [numbers, streamed, passed, Tables.importedBefore, Tables.eventsOf, events]
    exact imported.rows

/-- A database after an answer that leaves the events and the rows of the meter as they are. -/
theorem Books.answer (h : w.Books m p) {db : Database Float} (isOpen : db.isOpen = true)
    (events : db.tables.events = w.database.tables.events)
    (numbers : db.tables.numbersOf m = w.database.tables.numbersOf m) :
    Books { w with database := db } m p :=
  have follows : w.Follows m { w with database := db } := follows_of_same rfl rfl events numbers
  { h with
    isOpen := isOpen
    kept := events ▸ h.kept
    unplanned := fun unplanned => numbers ▸ h.unplanned unplanned
    planned := fun c fixed planned => (h.planned c fixed planned).imp
      (follows.importedUpTo _) (follows.importedUpTo _) }

end World

theorem importChunk_cases {db : Database Float} (isOpen : db.isOpen = true) (i : ChunkImport) :
    db.importChunk i = (.error Database.unreadable, db) ∨
      db.importChunk i = (.ok (), { db with tables := i.apply db.tables }) := by
  unfold Database.importChunk
  split
  · exact .inl rfl
  · exact .inr (by rw [Database.write, if_pos isOpen])

/-- A step of another meter leaves the rows of this one alone. -/
theorem MayAnswer.elsewhere {n : Meter} {now : Instant} {st : Standing} {r : BackfillRequest}
    {a : r.Answer} {db after : Database Float} (isOpen : db.isOpen = true)
    (ask : MayAsk s n now st r) (may : MayAnswer db r a after) (other : keyOf n ≠ keyOf m) :
    after.isOpen = true ∧ after.tables.events = db.tables.events ∧
      after.tables.numbersOf m = db.tables.numbersOf m := by
  have same (h : after = db) : after.isOpen = true ∧ after.tables.events = db.tables.events ∧
      after.tables.numbersOf m = db.tables.numbersOf m := by
    subst h
    exact ⟨isOpen, rfl, rfl⟩
  cases ask with
  | claim => exact same may
  | release => exact same may
  | read => exact same may
  | save => exact same may
  | survey => exact same may.1
  | copy fixed planned pending ended found =>
    rcases may with ⟨written, -⟩ | ⟨unwritten, -⟩
    · rcases importChunk_cases isOpen (ChunkImport.mk { n with progress := found } _ _) with
        kept | done
      · exact same (written.trans (congrArg Prod.snd kept))
      · rw [written, done]
        refine ⟨isOpen, rfl, ChunkImport.numbersOf_apply_of_ne _ _ fun h => other ?_⟩
        exact Prod.ext h.1 h.2
    · exact same unwritten

namespace World

/-- A survey of the meter finds where its events begin. -/
theorem Books.survey (h : w.Books m p) {n : Meter} (same : SameDefinition m n)
    {found : Option Instant} (answer : .ok found = w.database.earliestStored n.events)
    {cutover now : Instant} (current : now ≤ w.clock) :
    w.NothingBefore m (importStart found cutover now).startOfDay := by
  obtain ⟨x, rfl⟩ := same
  have surveyed : found = earliestOf ((w.database.tables.eventsOf m).map Event.storedAt) := by
    rw [Database.earliestStored, Database.whenOpen, if_pos h.isOpen] at answer
    rw [Except.ok.inj answer]
    exact Tables.earliestStored_events w.database.tables m
  have below := Instant.startOfDay_le (importStart found cutover now)
  cases found with
  | none =>
    have none := List.map_eq_nil_iff.1 (earliestOf_eq_none surveyed.symm)
    refine ⟨Int.le_trans below (Int.le_trans ?_ current), by simp [none]⟩
    have early := (Instant.min_bounds (cutover - BackfillSettings.fallback)
      (now - BackfillSettings.fallback)).2.1
    have ago : now - BackfillSettings.fallback ≤ now := by
      simp only [Instant.le_iff, Instant.nanos_sub, BackfillSettings.fallback, Span.hours,
        Span.seconds]
      omega
    exact Int.le_trans (Instant.truncateToSecond_le _) (Int.le_trans early ago)
  | some t =>
    obtain ⟨mem, least⟩ := earliestOf_eq_some surveyed.symm
    refine ⟨Int.le_trans below ?_, fun e he => ?_⟩
    · obtain ⟨e, he, rfl⟩ := List.mem_map.1 mem
      have stored := (List.mem_filter.1 he).1
      obtain ⟨f, hf, rfl⟩ := List.mem_map.1 (h.kept.mem_iff.1 stored)
      exact Int.le_trans (Instant.microsecondStart_le f.storedAt) (h.times f hf).2
    · have earliest := least e.storedAt (List.mem_map_of_mem he)
      exact Int.le_trans (Instant.microsecondStart_le _) (Int.le_trans below earliest)

/-- The books once the next chunk has been copied. -/
theorem Books.copy (h : w.Books m p) (wellFormed : p.WellFormed) (found : Option Progress)
    {cutover earliest : Instant} {chunk : Period} {rest : List Period}
    (fixed : p.cutover = some cutover) (planned : p.earliest = some earliest)
    (pending : p.pending = chunk :: rest) (ended : chunk.stop ≤ w.clock) (db : Database Float)
    (done : db = { w.database with tables :=
      (ChunkImport.mk { m with progress := found } chunk cutover).apply w.database.tables }) :
    Books { w with database := db } m p ∧
      ImportedUpTo { w with database := db } m (frontier cutover rest) := by
  obtain ⟨ordered, inside, next⟩ := frontier_of_suffix
    (pending ▸ wellFormed.pending_suffix earliest cutover planned fixed)
  have reached : ∃ stop, (stop = chunk.start ∨ stop = chunk.stop) ∧ w.ImportedUpTo m stop := by
    rcases h.planned cutover fixed (by simp [planned]) with here | ahead
    · exact ⟨_, .inl (by rw [pending, frontier_cons]), here⟩
    · exact ⟨_, .inr (by rw [pending, List.drop_one, List.tail_cons, next]), ahead⟩
  obtain ⟨stop, here, imported⟩ := reached
  have live : ∀ e ∈ w.streamed m, cutover.microsecondStart ≤ e.storedAt := by
    intro row hrow
    obtain ⟨r, hr, made⟩ := List.mem_filterMap.1 hrow
    obtain ⟨c, is, le, at_⟩ := Meter.streamed?_eq_some made
    have same := h.passed r hr c is
    rw [fixed, Option.some.injEq] at same
    rw [at_, same]
    exact Instant.microsecondStart_mono le
  have rows := Tables.perm_apply
    (i := ⟨{ m with progress := found }, chunk, cutover⟩) live ordered inside here imported.rows
  have now : ImportedUpTo { w with database := db } m (frontier cutover rest) := by
    rw [next, done]
    exact ⟨ended, rows⟩
  refine ⟨{ h with isOpen := ?_, kept := ?_, unplanned := ?_, planned := ?_ }, now⟩
  · rw [done]
    exact h.isOpen
  · rw [done]
    exact h.kept
  · exact fun unplanned => absurd unplanned (by simp [planned])
  · intro c is _
    rw [fixed, Option.some.injEq] at is
    rw [pending, List.drop_one, List.tail_cons, ← is]
    exact .inr now

/-- The books once a step has stored what follows from what it was told. -/
theorem Books.save (h : w.Books m p) (wellFormed : p.WellFormed) {t : Task} (bond : w.Bond m t)
    (own : keyOf t.meter = keyOf m) (may : MayStore s t.now t.standing q)
    (told : t.standing.told? = some p) : w.Books m q := by
  have keeps := may.keeps told
  suffices rest : (∀ c, q.cutover = some c → c.Sharp) ∧
      (q.earliest = none → (w.database.tables.numbersOf m).Perm (w.streamed m)) ∧
      ∀ c, q.cutover = some c → q.earliest.isSome →
        w.ImportedUpTo m (frontier c q.pending) ∨
          w.ImportedUpTo m (frontier c (q.pending.drop 1)) from
    ⟨h.isOpen, h.clock, h.kept, h.times, h.snapshot.keep keeps,
      fun listed hl => (h.loads listed hl).keep keeps,
      fun r hr c is => keeps.cutover c (h.passed r hr c is), rest.1, rest.2.1, rest.2.2⟩
  generalize is : t.standing = st at may told
  cases may with
  | fix unready unfixed =>
    cases told
    have unplanned : p.earliest = none := by
      rw [← Option.not_isSome_iff_eq_none]
      exact fun planned => by simpa [unfixed] using wellFormed.cutover_of_earliest planned
    refine ⟨fun c fixed => ?_, fun _ => h.unplanned unplanned, fun c _ planned => ?_⟩
    · rw [← Option.some.inj fixed]
      exact Instant.truncateToSecond_sharp _
    · exact absurd planned (by simp [Progress.withCutover, unplanned])
  | plan unready fixed unplanned =>
    cases told
    rename_i found cutover
    refine ⟨h.sharp, fun none => absurd none (by simp [Progress.withPlan]), fun c same _ => .inl ?_⟩
    obtain rfl : cutover = c := Option.some.inj (fixed.symm.trans same)
    have nothing := bond.surveyed own p found is cutover fixed
    obtain ⟨before, -⟩ := frontier_dailyChunks (importStart found cutover t.now).startOfDay cutover
    have empty := Tables.importedBefore_eq_nil (Q := Float) fun e he =>
      Int.le_trans (Instant.microsecondStart_mono before) (nothing.late e he)
    refine ⟨Int.le_trans before nothing.past, ?_⟩
    rw [Progress.withPlan, empty, List.append_nil]
    exact h.unplanned unplanned
  | shorten unready fixed planned pending ended =>
    cases told
    refine ⟨h.sharp, fun none => absurd (planned.symm.trans none) (by simp), fun c same _ => ?_⟩
    exact .inl (bond.copied own p is c same)
  | complete unready fixed planned pending =>
    cases told
    exact ⟨h.sharp, h.unplanned, h.planned⟩

end World

end Backfill

end Metering
