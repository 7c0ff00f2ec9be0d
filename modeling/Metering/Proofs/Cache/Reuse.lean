import Metering.Proofs.Cache.Log
import Metering.Proofs.Cache.Transparency
import Metering.Proofs.Query.Windows

/-!
What is stored is not computed again. A call that fills a period leaves a row in each of its windows,
except for a first or last one without usage (`Turn.covers`). What the table covers, every call finds
and does not compute (`Turn.reuses`), and it stays covered (`Turn.grows`). In a row of calls, whatever
their ranges are, no window is computed twice but such first and last ones (`no_window_twice`).
-/
namespace Metering

variable {Q : Type} [Quantity Q]

/-- What a call does: the table before it and after it, and what it asked. -/
structure Turn (c : Compiler) (db : Database Q) (t t' : CacheTable Q) (log : Log Q) : Prop where
  grows : ∀ row ∈ t, row ∈ t'
  /-- What was stored before is used and not computed. -/
  reuses : ∀ space hash w, t.Covers space hash w → log.Reuses space hash w
  /-- What is computed is stored, but for windows at the ends in which there is nothing. -/
  covers : ∀ space hash m q size p rows, log.Fills space hash m q size p rows →
    ∀ w ∈ size.windows .utc p.start p.stop,
      ((w.start = p.start ∨ w.stop = p.stop) ∧ c.answer db m (q.spanning (some size) w) = .ok []) ∨
        t'.Covers space hash w

theorem Turn.of_no_lookup {c : Compiler} {db : Database Q} {t : CacheTable Q} {log : Log Q}
    (none : ∀ space hash range answer, ⟨.lookup space hash range, answer⟩ ∉ log) :
    Turn c db t t log := by
  refine ⟨fun _ mem => mem, fun space hash w _ => log.reuses_of_no_lookup none space hash w, ?_⟩
  intro space hash m q size p rows fills
  obtain ⟨range, found, looked, -⟩ := fills.computed.range
  exact absurd looked (none _ _ _ _)

/-- The parts of a run that a table has no rows for. -/
def CacheTable.missing (t : CacheTable Q) (m : Meter) (hash : String) (size : WindowSize)
    (run : Int × Int) : List Period :=
  uncovered size .utc (size.run run) ((t.lookup m.space hash (size.run run)).map Row.start)

/-- What a call may ask once it goes through the store: it looks up the run, computes what is missing
there or what lies outside, and stores rows of all that was missing. -/
def Exchange.Fits (c : Compiler) (db : Database Q) (t t' : CacheTable Q) (m : Meter) (q : Query)
    (hash : String) (size : WindowSize) (run : Int × Int) : Exchange Q → Prop
  | ⟨.lookup space name range, answer⟩ => space = m.space ∧ name = hash ∧ range = size.run run ∧
      answer = .ok (t.lookup m.space hash (size.run run))
  | ⟨.run m' q', answer⟩ => (∃ p ∈ t.missing m hash size run, m' = m ∧
      q' = q.spanning (some size) p ∧ answer = c.answer db m q') ∨ ∀ start ∈ q'.start, start ∉ size.run run
  | ⟨.store space name _, _⟩ => space = m.space ∧ name = hash ∧
      ∀ p ∈ t.missing m hash size run, ∃ rows, c.answer db m (q.spanning (some size) p) = .ok rows ∧
        ∀ r ∈ gaps size .utc p rows ++ rows,
          t'.Covers m.space hash ⟨r.start.microsecondStart, r.stop.microsecondStart⟩

namespace Session

variable {c : Compiler} {outage : Outage} {db : Database Q} {t : CacheTable Q} {m : Meter} {q : Query}
  {z : Zone} {hash : String} {size : WindowSize} {σ σ' : Session Q}

/-- A fill computes its periods one after another. -/
theorem Leaves.fill {P : Exchange Q → Prop} (here : σ.db = db) {periods : List Period}
    (may : ∀ p ∈ periods, P ⟨.run m (q.spanning (some size) p),
      c.answer db m (q.spanning (some size) p)⟩) :
    Leaves c outage db P (q.fill m z size periods) σ := by
  induction periods generalizing σ with
  | nil => exact .pure here
  | cons p periods ih =>
    obtain ⟨first, others⟩ := List.forall_mem_cons.1 may
    rw [fill_cons]
    refine .bind (.run here (here ▸ first)) fun rows σ' here' => ?_
    exact .bind (ih here' others) fun rest σ'' here'' => .pure here''

theorem db_of_fill {periods : List Period} {x : Except Error (List (Row Q))}
    (made : perform c outage (q.fill m z size periods) σ = (x, σ')) : σ'.db = σ.db := by
  have leaves : Leaves c outage σ.db (fun _ => True) (q.fill m z size periods) σ :=
    .fill rfl fun _ _ => trivial
  rw [← leaves.db, made]

/-- The result of a fill has the rows of all its periods, with their placeholders. -/
theorem rows_of_fill {periods : List Period} {fresh : List (Row Q)}
    (made : perform c outage (q.fill m z size periods) σ = (.ok fresh, σ')) :
    ∀ p ∈ periods, ∃ rows, c.answer σ.db m (q.spanning (some size) p) = .ok rows ∧
      ⟨.run m (q.spanning (some size) p), .ok rows⟩ ∈ trace c outage (q.fill m z size periods) σ ∧
        ∀ r ∈ gaps size z p rows ++ rows, r ∈ fresh := by
  induction periods generalizing fresh σ' with
  | nil =>
    intro p mem
    exact absurd mem List.not_mem_nil
  | cons p periods ih =>
    rw [fill_cons] at made
    obtain ⟨rows, same, first, made⟩ := of_perform_bind made
    obtain ⟨answer, rfl⟩ : c.answer σ.db m (q.spanning (some size) p) = .ok rows ∧ σ = same :=
      Prod.mk.inj first
    obtain ⟨rest, last, others, made⟩ := of_perform_bind made
    obtain ⟨rfl, rfl⟩ : gaps size z p rows ++ rows ++ rest = fresh ∧ last = σ' := by
      obtain ⟨same, here⟩ := Prod.mk.inj made
      exact ⟨Except.ok.inj same, here⟩
    rw [fill_cons, trace_bind, first, trace_run, answer]
    dsimp only
    rw [trace_bind]
    intro p' mem
    rcases List.mem_cons.1 mem with rfl | later
    · exact ⟨rows, answer, List.mem_append_left _ List.mem_cons_self,
        fun r mem => List.mem_append_left _ mem⟩
    · obtain ⟨rows', answer', asked, among⟩ := ih others p' later
      exact ⟨rows', answer', List.mem_append_right _ (List.mem_append_left _ asked),
        fun r mem => List.mem_append_right _ (among r mem)⟩

variable (here : σ.db = db.withCached t) (isOpen : db.isOpen = true)
include here isOpen

theorem perform_lookup_run (space hash : String) (run : Int × Int) :
    perform c .never (Caching.lookup space hash (size.run run)) σ =
      (.ok (t.lookup space hash (size.run run)), σ.next σ.db) := by
  rw [perform_lookup, found, WindowSize.run, read_never here isOpen]

/-- What is missing in a run is computed and stored, or one of its periods fails and nothing is. -/
theorem refill (i j : Int) (stored : List (Row Q)) : ∃ t', (∀ row ∈ t, row ∈ t') ∧
    Leaves c .never (db.withCached t') (Exchange.Fits c db t t' m q hash size (i, j))
      (q.fill m .utc size (t.missing m hash size (i, j)) >>= fun fresh =>
        Caching.store m.space hash fresh >>= fun _ => pure (stored ++ fresh)) σ := by
  have answered (q : Query) : c.answer σ.db m q = c.answer db m q := by
    rw [here, answer_withCached]
  have fill (t' : CacheTable Q) : Leaves c .never (db.withCached t)
      (Exchange.Fits c db t t' m q hash size (i, j))
      (q.fill m .utc size (t.missing m hash size (i, j))) σ := by
    refine .fill here fun p mem => .inl ⟨p, mem, rfl, rfl, ?_⟩
    exact answer_withCached c db t m _
  cases made : perform c .never (q.fill m .utc size (t.missing m hash size (i, j))) σ with
  | mk x σ' =>
    have here' : σ'.db = db.withCached t := (db_of_fill made).trans here
    cases x with
    | error e => exact ⟨t, fun _ mem => mem, .bind_error made (fill t).asks here'⟩
    | ok fresh =>
      have written := write_never here' isOpen m.space hash fresh
      refine ⟨t.store m.space hash (fresh.map Tables.keepRow),
        fun _ mem => CacheTable.mem_store_of_mem mem, .bind_ok made (fill _).asks ?_⟩
      refine .bind ⟨congrArg Prod.snd written, ?_⟩ fun _ _ here'' => .pure here''
      rw [trace_store, List.forall_mem_singleton]
      refine ⟨rfl, rfl, fun p mem => ?_⟩
      obtain ⟨rows, answer, -, among⟩ := rows_of_fill made p mem
      refine ⟨rows, (answered _).symm.trans answer, fun r mem => ?_⟩
      exact CacheTable.covers_of_store t m.space hash (List.mem_map_of_mem (among r mem))

/-- The rows of a run: what the table has, and what is missing there. -/
theorem storedRows (i j : Int) : ∃ t', (∀ row ∈ t, row ∈ t') ∧
    Leaves c .never (db.withCached t') (Exchange.Fits c db t t' m q hash size (i, j))
      (q.storedRows m .utc size hash (size.run (i, j))) σ := by
  have lookup (t' : CacheTable Q) :
      ∀ e ∈ trace c .never (Caching.lookup m.space hash (size.run (i, j))) σ,
        e.Fits c db t t' m q hash size (i, j) := by
    rw [trace_lookup, List.forall_mem_singleton]
    exact ⟨rfl, rfl, rfl, read_never here isOpen m.space hash i j⟩
  rw [storedRows_eq]
  by_cases none : (t.missing m hash size (i, j)).isEmpty = true
  · refine ⟨t, fun _ mem => mem, .bind_ok (perform_lookup_run here isOpen _ _ _) (lookup t) ?_⟩
    rw [← CacheTable.missing, if_pos none]
    exact .pure here
  · have here' : (σ.next σ.db).db = db.withCached t := here
    obtain ⟨t', grows, leaves⟩ := refill (m := m) (q := q) here' isOpen i j
      (t.lookup m.space hash (size.run (i, j)))
    refine ⟨t', grows, .bind_ok (perform_lookup_run here isOpen _ _ _) (lookup t') ?_⟩
    rw [← CacheTable.missing, if_neg none]
    exact leaves

/-- All that is missing in a run is filled, if it can be computed. -/
theorem fills_storedRows {i j : Int} {fresh : List (Row Q)} (made : perform c .never
      (q.fill m .utc size (t.missing m hash size (i, j))) (σ.next σ.db) = (.ok fresh, σ')) :
    ∀ p ∈ t.missing m hash size (i, j), ∃ rows, Log.Fills
      (trace c .never (q.storedRows m .utc size hash (size.run (i, j))) σ) m.space hash m q size p rows := by
  intro p mem
  obtain ⟨rows, -, asked, -⟩ := rows_of_fill made p mem
  have here' : σ'.db = db.withCached t := (db_of_fill made).trans here
  have written : (σ'.write .never m.space hash fresh).1 = .ok () :=
    congrArg Prod.fst (write_never here' isOpen m.space hash fresh)
  have some : ¬ (t.missing m hash size (i, j)).isEmpty = true := by
    rw [List.isEmpty_iff]
    exact List.ne_nil_of_mem mem
  obtain ⟨a, b, rfl, first, forward, last, -⟩ := run_of_uncovered mem
  have inside : (size.run (a, b)).start ∈ size.run (i, j) :=
    ⟨size.boundary_mono first, WindowSize.boundary_lt_iff.2 (by omega)⟩
  rw [storedRows_eq, trace_bind, trace_lookup, perform_lookup_run here isOpen]
  dsimp only
  rw [← CacheTable.missing, if_neg some, trace_bind, made]
  dsimp only
  rw [trace_bind, trace_store, written]
  refine ⟨rows, ⟨⟨_, _, List.mem_append_left _ List.mem_cons_self, inside⟩, ?_⟩, fresh, ?_⟩
  · exact List.mem_append_right _ (List.mem_append_left _ asked)
  · refine List.mem_append_right _ (List.mem_append_right _ (List.mem_append_left _ ?_))
    exact List.mem_cons_self

end Session

section Through

variable {c : Compiler} {db : Database Q} {t t' : CacheTable Q} {m : Meter} {q : Query}
  {hash : String} {size : WindowSize} {i j : Int} {log : Log Q}

/-- A period that is computed in windows is one that was missing. -/
theorem Log.Computes.missing (fits : ∀ e ∈ log, e.Fits c db t t' m q hash size (i, j))
    {space name : String} {m' : Meter} {q' : Query} {size' : WindowSize} {p : Period}
    {answer : Except Error (List (Row Q))} (h : log.Computes space name m' q' size' p answer) :
    space = m.space ∧ name = hash ∧ m' = m ∧ size' = size ∧
      (∀ w, q'.spanning (some size) w = q.spanning (some size) w) ∧
      p ∈ t.missing m hash size (i, j) ∧ answer = c.answer db m (q.spanning (some size) p) := by
  obtain ⟨range, found, looked, inside⟩ := h.range
  obtain ⟨rfl, rfl, rfl, -⟩ := fits _ looked
  rcases fits _ h.run with ⟨⟨start, stop⟩, there, rfl, same, rfl⟩ | outside
  · obtain rfl : size' = size := Option.some.inj (congrArg Query.window same)
    obtain rfl : p.start = start := Option.some.inj (congrArg Query.start same)
    obtain rfl : p.stop = stop := Option.some.inj (congrArg Query.stop same)
    refine ⟨rfl, rfl, rfl, rfl, fun w => ?_, there, congrArg _ same⟩
    exact congrArg (fun q => q.spanning (some size') w) same
  · exact absurd inside (outside p.start rfl)

/-- Of a run whose rows and placeholders are stored each window is covered, unless it is the first or
the last and has no rows. -/
theorem covered_or_idle {a b k : Int} {rows : List (Row Q)} {space : String}
    (numeric : m.aggregation.isNumeric = true) (utc : Zone.request q.zoneName = .ok .utc)
    (shown : Shown size a b)
    (answer : c.answer db m (q.spanning (some size) (size.run (a, b))) = .ok rows)
    (covered : ∀ r ∈ gaps size .utc (size.run (a, b)) rows ++ rows,
      t.Covers space hash ⟨r.start.microsecondStart, r.stop.microsecondStart⟩)
    (low : a ≤ k) (high : k < b) :
    (((size.window k).start = (size.run (a, b)).start ∨ (size.window k).stop = (size.run (a, b)).stop) ∧
        c.answer db m (q.spanning (some size) (size.window k)) = .ok []) ∨
      t.Covers space hash (size.window k) := by
  have covers {r : Row Q} (mem : r ∈ gaps size .utc (size.run (a, b)) rows ++ rows)
      (start : r.start = size.boundary k) (stop : r.stop = size.boundary (k + 1)) :
      t.Covers space hash (size.window k) := by
    have here := covered r mem
    rw [start, stop, size.boundary_micros, size.boundary_micros] at here
    exact here
  by_cases used : ∃ r ∈ rows, r.start = size.boundary k
  · obtain ⟨r, mem, start⟩ := used
    obtain ⟨l, -, -, start', stop⟩ := window_of_row numeric utc (by omega) shown answer mem
    obtain rfl : l = k := WindowSize.boundary_injective (start'.symm.trans start)
    exact .inr (covers (List.mem_append_right _ mem) start stop)
  · have none : ∀ r ∈ rows, r.start ≠ size.boundary k := fun r mem start => used ⟨r, mem, start⟩
    have idle := answer_window_nil numeric utc shown answer low high none
    by_cases first : k = a
    · subst first
      exact .inl ⟨.inl rfl, idle⟩
    by_cases last : k + 1 = b
    · subst last
      exact .inl ⟨.inr rfl, idle⟩
    obtain ⟨g, mem, start, stop⟩ := exists_placeholder (by omega : a < k) (by omega : k + 1 < b) none
    exact .inr (covers (List.mem_append_left _ mem) start stop)

/-- A call that goes through the store finds what is there, and computes and stores what is not. -/
theorem Turn.of_fits (numeric : m.aggregation.isNumeric = true)
    (utc : Zone.request q.zoneName = .ok .utc) (shown : Shown size i j)
    (grows : ∀ row ∈ t, row ∈ t') (fits : ∀ e ∈ log, e.Fits c db t t' m q hash size (i, j)) :
    Turn c db t t' log := by
  refine ⟨grows, fun space name w covered => ⟨?_, ?_⟩, ?_⟩
  · intro range answer looked low high
    obtain ⟨rfl, rfl, rfl, rfl⟩ := fits _ looked
    exact ⟨_, rfl, covered.found low high⟩
  · intro m' q' size' p answer computed among
    obtain ⟨rfl, rfl, rfl, rfl, -, missing, -⟩ := computed.missing fits
    obtain ⟨a, b, rfl, first, -, last, absent⟩ := run_of_uncovered missing
    obtain ⟨k, low, high, rfl⟩ := mem_windows_run.1 among
    have start : (size'.run (i, j)).start ≤ (size'.window k).start :=
      size'.boundary_mono (Int.le_trans first low)
    have stop : (size'.window k).stop ≤ (size'.run (i, j)).stop :=
      size'.boundary_mono (Int.le_trans high last)
    obtain ⟨r, found, is⟩ := covered.found start stop
    exact absent k low high (List.mem_map.2 ⟨r, found, is⟩)
  · intro space name m' q' size' p rows fills w among
    obtain ⟨rfl, rfl, rfl, rfl, same, missing, answer⟩ := fills.computed.missing fits
    obtain ⟨stored, written⟩ := fills.stored
    obtain ⟨-, -, filled⟩ := fits _ written
    obtain ⟨rows', answer', covered⟩ := filled p missing
    obtain rfl : rows = rows' := Except.ok.inj (answer.trans answer')
    obtain ⟨a, b, rfl, first, -, last, -⟩ := run_of_uncovered missing
    obtain ⟨k, low, high, rfl⟩ := mem_windows_run.1 among
    rw [same]
    exact covered_or_idle numeric utc (fun k low high => shown k (by omega) (by omega)) answer' covered
      low high

end Through

namespace Session

variable {c : Compiler} {db : Database Q} {t : CacheTable Q} {m : Meter} {q : Query} {σ : Session Q}

/-- A part of the range that is never stored is computed by itself. -/
theorem Leaves.freshRows {outage : Outage} {P : Exchange Q → Prop} (here : σ.db = db)
    {isNeeded : Bool} {start stop : Option Instant}
    (may : isNeeded = true → P ⟨.run m (q.within start stop), c.answer σ.db m (q.within start stop)⟩) :
    Leaves c outage db P (q.freshRows m isNeeded start stop) σ := by
  cases isNeeded with
  | false => exact .pure here
  | true => exact .run here (may rfl)

/-- What a call through the store does. -/
theorem turn_answerThrough (here : σ.db = db.withCached t) (isOpen : db.isOpen = true)
    (numeric : m.aggregation.isNumeric = true) (utc : Zone.request q.zoneName = .ok .utc)
    {start : Instant} (stop : Instant) {i j : Int} (shown : Shown q.storedWindow i j) :
    let call : Caching Q (List (Row Q)) :=
      q.answerThrough m .utc start stop (q.storedWindow.run (i, j))
    ∃ t', (perform c .never call σ).2.db = db.withCached t' ∧ Turn c db t t' (trace c .never call σ) := by
  intro call
  have asked (hash : Except Error String) : trace c .never (ExceptT.mk (Program.done hash)) σ = [] :=
    trace_done hash σ
  cases hashed : q.hash m q.storedWindow with
  | error e =>
    have leaves : Leaves c .never (db.withCached t) (fun _ => False) call σ := by
      refine .bind_error (congrArg (·, σ) hashed) ?_ here
      rw [asked]
      exact fun _ mem => absurd mem List.not_mem_nil
    exact ⟨t, leaves.db, .of_no_lookup fun _ _ _ _ mem => leaves.asks _ mem⟩
  | ok hash =>
    obtain ⟨t', grows, middle⟩ : ∃ t', (∀ row ∈ t, row ∈ t') ∧ Leaves c .never (db.withCached t')
        (Exchange.Fits c db t t' m q hash q.storedWindow (i, j))
        (q.storedRows m .utc q.storedWindow hash (q.storedWindow.run (i, j))) σ :=
      storedRows here isOpen i j
    have leaves : Leaves c .never (db.withCached t')
        (Exchange.Fits c db t t' m q hash q.storedWindow (i, j)) call σ := by
      refine .bind_ok (congrArg (·, σ) hashed) ?_ (.bind middle fun rows σ' here' => ?_)
      · rw [asked]
        exact fun _ mem => absurd mem List.not_mem_nil
      refine .bind (.freshRows here' fun needed => .inr ?_) fun head σ'' here'' => ?_
      · rintro _ ⟨rfl⟩ inside
        exact absurd inside.1 (Int.not_le.2 (of_decide_eq_true needed))
      · refine .bind (.freshRows here'' fun _ => .inr ?_) fun tail _ last => .pure last
        rintro _ ⟨rfl⟩ inside
        exact absurd inside.2 (Int.lt_irrefl _)
    exact ⟨t', leaves.db, .of_fits numeric utc shown grows leaves.asks⟩

/-- What a call does. -/
theorem turn (here : σ.db = db.withCached t) (isOpen : db.isOpen = true)
    (utc : Zone.request q.zoneName = .ok .utc) (s : CacheSettings) (now : Instant)
    (first : ∀ start ∈ q.start, start.InRange) (last : (q.stop.getD now).InRange) :
    ∃ t', (perform c .never (s.answer m q now) σ).2.db = db.withCached t' ∧
      Turn c db t t' (trace c .never (s.answer m q now) σ) := by
  have direct : ∃ t', (perform c .never (Caching.run m q) σ).2.db = db.withCached t' ∧
      Turn c db t t' (trace c .never (Caching.run m q) σ) := by
    refine ⟨t, here, .of_no_lookup fun space hash range answer mem => ?_⟩
    rw [trace_run, List.mem_singleton] at mem
    cases mem
  rcases answer_cases (Q := Q) s m now utc with run | ⟨start, i, j, starts, admits, low, -, high, through⟩
  · rw [run]
    exact direct
  · have combinable : m.aggregation.isCombinable = true := by
      simp only [CacheSettings.admits, Bool.and_eq_true] at admits
      exact admits.1.2
    have shown := shown_of_inRange (first start starts) last low high
    rw [through]
    exact turn_answerThrough here isOpen (isNumeric_of_isCombinable combinable) utc _ shown

theorem lookup_mem_trace (c : Compiler) (outage : Outage) (m : Meter) (q : Query) (z : Zone)
    (size : WindowSize) (hash : String) (range : Period) (σ : Session Q) :
    ⟨.lookup m.space hash range, σ.read outage m.space hash range⟩ ∈
      trace c outage (q.storedRows m z size hash range) σ := by
  rw [storedRows_eq, trace_bind, trace_lookup]
  exact List.mem_append_left _ List.mem_cons_self

/-- A call that goes through the store first reads and fills the whole windows of its range. -/
theorem trace_answer (c : Compiler) (outage : Outage) {s : CacheSettings} {now start : Instant}
    {range : Period} {hash : String} (starts : q.start = some start) (admits : s.admits m q now = true)
    (utc : Zone.request q.zoneName = .ok .utc)
    (storable : s.storableRange? ⟨start, q.stop.getD now⟩ q.storedWindow .utc now = some range)
    (hashed : q.hash m q.storedWindow = .ok hash) (σ : Session Q) :
    ∃ rest, trace c outage (s.answer m q now) σ =
      trace c outage (q.storedRows m .utc q.storedWindow hash range) σ ++ rest := by
  rw [answer_of_admits starts admits utc, storable]
  dsimp only
  rw [Query.answerThrough, hashed, trace_bind, perform_done, trace_done]
  dsimp only
  rw [trace_bind]
  exact ⟨_, rfl⟩

/-- What is asked in calls that are made one after another, for each call. -/
def logs (c : Compiler) : List (Meter × Call) → Session Q → List (Log Q)
  | [], _ => []
  | (m, call) :: calls, σ =>
    trace c .never (call.settings.answer m call.query call.now) σ ::
      logs c calls (perform c .never (call.settings.answer m call.query call.now) σ).2

end Session

/-- Calls in UTC between instants of the calendar. -/
structure Call.InCalendar (call : Call) : Prop where
  utc : Zone.request call.query.zoneName = .ok .utc
  start : ∀ start ∈ call.query.start, start.InRange
  stop : (call.query.stop.getD call.now).InRange

section Runs

variable {c : Compiler} {db : Database Q} {t : CacheTable Q} {calls : List (Meter × Call)}
  {σ : Session Q}

/-- What a table covers, all later calls use and leave alone. -/
theorem reused_later (isOpen : db.isOpen = true) (ok : ∀ call ∈ calls, call.2.InCalendar)
    (here : σ.db = db.withCached t) {space hash : String} {w : Period}
    (covered : t.Covers space hash w) : ∀ log ∈ σ.logs c calls, Log.Reuses log space hash w := by
  induction calls generalizing σ t with
  | nil =>
    intro log mem
    exact absurd mem List.not_mem_nil
  | cons first calls ih =>
    obtain ⟨m, call⟩ := first
    obtain ⟨own, others⟩ := List.forall_mem_cons.1 ok
    obtain ⟨t', here', turn⟩ :=
      σ.turn here isOpen own.utc call.settings call.now own.start own.stop
    refine List.forall_mem_cons.2 ⟨turn.reuses _ _ _ covered, ih others here' ?_⟩
    obtain ⟨r, there, ends⟩ := covered
    exact ⟨r, turn.grows _ there, ends⟩

/--
Whatever calls come one after another, and whatever their ranges are: a window of a period that one of
them has computed and stored is found by every later lookup around it and never computed again, unless
it is the first or the last of that period and the query has no rows in it.
-/
theorem no_window_twice (c : Compiler) (calls : List (Meter × Call)) (σ : Session Q)
    (isOpen : σ.db.isOpen = true) (ok : ∀ call ∈ calls, call.2.InCalendar) :
    (σ.logs c calls).Pairwise fun earlier later =>
      ∀ space hash m q size p rows, Log.Fills earlier space hash m q size p rows →
        ∀ w ∈ size.windows .utc p.start p.stop,
          ((w.start = p.start ∨ w.stop = p.stop) ∧
              c.answer σ.db m (q.spanning (some size) w) = .ok []) ∨
            Log.Reuses later space hash w := by
  induction calls generalizing σ with
  | nil => exact .nil
  | cons first calls ih =>
    obtain ⟨m, call⟩ := first
    obtain ⟨own, others⟩ := List.forall_mem_cons.1 ok
    have here : σ.db = σ.db.withCached σ.db.tables.cached := rfl
    obtain ⟨t', here', turn⟩ :=
      σ.turn here isOpen own.utc call.settings call.now own.start own.stop
    refine .cons ?_ ?_
    · intro later mem space hash m q size p rows fills w among
      rcases turn.covers _ _ _ _ _ _ _ fills w among with idle | covered
      · exact .inl idle
      · exact .inr (reused_later isOpen others here' covered later mem)
    · let σ' := (Session.perform c .never (call.settings.answer m call.query call.now) σ).2
      have isOpen' : σ'.db.isOpen = true := by
        rw [here']
        exact isOpen
      have rest := ih σ' isOpen' others
      rw [here'] at rest
      simp only [answer_withCached] at rest
      exact rest

end Runs

namespace ByDay

/-- A call that counts by day, from one day to another. -/
def call (first last : Int) : Call where
  settings := .default
  query :=
    { Query.any with
      start := some (.ofDayNumber first)
      stop := some (.ofDayNumber last)
      window := some .day
      cachable := true }
  now := .ofDayNumber 10

/-- Ten days, and then six of them. -/
def calls : List (Meter × Call) := [(callCount, call 0 10), (callCount, call 2 8)]

def hash : String := (callCount.identity (call 0 10).query .day).hash

theorem hash_eq (first last : Int) : (call first last).query.hash callCount .day = .ok hash :=
  hash_of_alike ⟨rfl, rfl, rfl, rfl, rfl⟩ .day

theorem inCalendar : ∀ x ∈ calls, x.2.InCalendar := by
  have between (first last : Int) (low : (Instant.ofDayNumber first).InRange)
      (high : (Instant.ofDayNumber last).InRange) : (call first last).InCalendar := by
    refine ⟨rfl, ?_, high⟩
    rintro _ ⟨rfl⟩
    exact low
  refine List.forall_mem_cons.2 ⟨between 0 10 (by decide) (by decide), ?_⟩
  exact List.forall_mem_singleton.2 (between 2 8 (by decide) (by decide))

/-- The first call finds nothing, and all of its nine old days are missing. -/
theorem missing : CacheTable.missing (Q := Fraction) [] callCount hash .day (0, 9) =
    [WindowSize.day.run (0, 9)] := by
  have none : CacheTable.lookup (Q := Fraction) [] callCount.space hash (WindowSize.day.run (0, 9)) =
      [] := by
    simp [CacheTable.lookup, Row.sorted]
  rw [CacheTable.missing, none]
  decide +kernel

/-- The nine days can be computed. -/
theorem filled (σ : Session Fraction) (here : σ.db = twoDays) : ∃ fresh,
    Session.perform (.mk .duckdb 8) .never ((call 0 10).query.fill callCount .utc .day
      [WindowSize.day.run (0, 9)]) σ = (.ok fresh, σ) := by
  have answered : ((Compiler.mk .duckdb 8).answer twoDays callCount
      ((call 0 10).query.spanning (some .day) (WindowSize.day.run (0, 9)))).isOk = true := by
    decide +kernel
  rw [fill_cons, Session.perform_bind, Session.perform_run, here]
  cases computed : (Compiler.mk .duckdb 8).answer twoDays callCount
      ((call 0 10).query.spanning (some .day) (WindowSize.day.run (0, 9))) with
  | ok rows => exact ⟨_, rfl⟩
  | error e =>
    rw [computed] at answered
    cases answered

/-- What a call asks, from the whole days that it reads through the store on. -/
theorem trace_call (first last : Int) (days : Period)
    (admits : CacheSettings.default.admits callCount (call first last).query (.ofDayNumber 10) = true)
    (storable : CacheSettings.default.storableRange? ⟨.ofDayNumber first, .ofDayNumber last⟩ .day .utc
      (.ofDayNumber 10) = some days) (σ : Session Fraction) : ∃ rest,
    Session.trace (.mk .duckdb 8) .never
        (CacheSettings.default.answer callCount (call first last).query (.ofDayNumber 10)) σ =
      Session.trace (.mk .duckdb 8) .never
        ((call first last).query.storedRows callCount .utc .day hash days) σ ++ rest :=
  Session.trace_answer (.mk .duckdb 8) .never rfl admits rfl storable (hash_eq first last) σ

end ByDay

/-- The first call fills nine days; the second one looks up six of them and finds the fourth day, in
which there were no calls. -/
theorem no_window_twice_byDay : (∀ x ∈ ByDay.calls, x.2.InCalendar) ∧
    ∃ earlier later rows found,
      Session.logs (.mk .duckdb 8) ByDay.calls ⟨0, twoDays⟩ = [earlier, later] ∧
      Log.Fills earlier "shop" ByDay.hash callCount (ByDay.call 0 10).query .day
        ⟨.ofDayNumber 0, .ofDayNumber 9⟩ rows ∧
      ⟨.lookup "shop" ByDay.hash ⟨.ofDayNumber 2, .ofDayNumber 8⟩, .ok found⟩ ∈ later ∧
      ∃ r ∈ found, r.start = .ofDayNumber 3 := by
  let σ : Session Fraction := ⟨0, twoDays⟩
  let σ' := (Session.perform (.mk .duckdb 8) .never
    (CacheSettings.default.answer callCount (ByDay.call 0 10).query (.ofDayNumber 10)) σ).2
  obtain ⟨rest, earlier⟩ := ByDay.trace_call 0 10 (WindowSize.day.run (0, 9)) (by decide +kernel)
    (by decide +kernel) σ
  obtain ⟨rest', later⟩ := ByDay.trace_call 2 8 (WindowSize.day.run (2, 8)) (by decide +kernel)
    (by decide +kernel) σ'
  have here : σ.db = twoDays.withCached [] := rfl
  obtain ⟨fresh, filled⟩ := ByDay.filled (σ.next σ.db) rfl
  rw [← ByDay.missing] at filled
  have among : WindowSize.day.run (0, 9) ∈
      CacheTable.missing (Q := Fraction) [] callCount ByDay.hash .day (0, 9) := by
    rw [ByDay.missing]
    exact List.mem_cons_self
  obtain ⟨rows, fills⟩ := Session.fills_storedRows here rfl filled (WindowSize.day.run (0, 9)) among
  have fills := fills.append rest
  rw [← earlier] at fills
  have looked := List.mem_append_left rest' (Session.lookup_mem_trace (.mk .duckdb 8) .never callCount
    (ByDay.call 2 8).query .utc .day ByDay.hash (WindowSize.day.run (2, 8)) σ')
  rw [← later] at looked
  have calls := no_window_twice (.mk .duckdb 8) ByDay.calls σ rfl ByDay.inCalendar
  have among : WindowSize.day.window 3 ∈ WindowSize.day.windows .utc
      (WindowSize.day.run (0, 9)).start (WindowSize.day.run (0, 9)).stop :=
    mem_windows_run.2 ⟨3, by decide, by decide, rfl⟩
  rcases List.rel_of_pairwise_cons calls List.mem_cons_self _ _ _ _ _ _ _ fills _ among with
    ⟨edge, -⟩ | reuses
  · exact absurd edge (by decide)
  · obtain ⟨found, is, r, mem, start⟩ := reuses.found _ _ looked (by decide) (by decide)
    rw [is] at looked
    exact ⟨ByDay.inCalendar, _, _, rows, found, rfl, fills, looked, r, mem, start⟩

end Metering
