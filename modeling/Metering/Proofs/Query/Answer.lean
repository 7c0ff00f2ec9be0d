import Metering.Proofs.Query.Spanning

/-!
The answers of queries that differ in nothing but their range and their windows. There is a view that
gives them for all ranges (`answer_view`).
-/
namespace Metering

/-- The subject among the texts of a group, if subjects are all that is asked for. -/
def subjectOf : List (Option String) → Option String
  | [] => none
  | text :: _ => text

/-- The texts of a group of which only the subject is asked for. -/
def textsOf (columns : List GroupColumn) (subject : Option String) : List (Option String) :=
  columns.map fun _ => subject

/-- No columns, or the subject alone. -/
def Plain (columns : List GroupColumn) : Prop := columns = [] ∨ columns = [.subject]

namespace Plain

variable {columns : List GroupColumn}

theorem placeAll {Q : Type} (h : Plain columns) (value : Q) (start stop : Instant)
    (subject : Option String) :
    Scanner.placeAll ⟨value, start, stop, none, none, ∅⟩ columns (textsOf columns subject) =
      ⟨value, start, stop, subjectOf (textsOf columns subject), none, ∅⟩ := by
  rcases h with rfl | rfl <;> rfl

end Plain

variable {Q : Type} [Quantity Q]

namespace Database

/-- What queries with some columns can see of an open database. -/
def viewOf (db : Database Q) (m : Meter) (q : Query) (columns : List GroupColumn) : View Q :=
  let plan := m.planUnbounded q columns
  let rows := plan.selection.rows db.tables
  let unread := (plan.selection.candidates db.tables).filter fun r => !r.isReadable
  { aggregation := m.aggregation
    fault := .store unreadable
    broken := !(planPaths plan).isEmpty && !arePaths (planPaths plan)
    unreadable := if (planPaths plan).isEmpty then [] else unread.map TableRow.time
    points := (plan.points rows).map fun p => (subjectOf p.1, p.2) }

end Database

/-- The same error, or the same rows in some order. -/
def SameAnswer : Except Error (List (Row Q)) → Except Error (List (Row Q)) → Prop
  | .ok rows, .ok rows' => rows.Perm rows'
  | .error e, .error e' => e = e'
  | _, _ => False

section Answer

variable {c : Compiler} {m : Meter} {q : Query} {window : Option WindowSize} {range : Period}
  {columns : List GroupColumn} {db : Database Q}

theorem canRead_spanning (db : Database Q) (m : Meter) (q : Query) (window : Option WindowSize)
    (range : Period) (columns : List GroupColumn) : Database.canRead
      (Database.planPaths (m.planSpanning q window range columns))
      ((m.planSpanning q window range columns).selection.candidates db.tables) = true ↔
    (db.viewOf m q columns).Ready range := by
  rw [planPaths_spanning, candidates_spanning, Database.canRead, View.Ready]
  simp only [Database.viewOf]
  cases (Database.planPaths (m.planUnbounded q columns)).isEmpty with
  | true => simp
  | false =>
    cases Database.arePaths (Database.planPaths (m.planUnbounded q columns)) with
    | false => simp
    | true =>
      simp only [Bool.false_or, Bool.true_and, Bool.not_true, Bool.and_false, true_and,
        Bool.false_eq_true, if_false, List.forall_mem_map, List.all_eq_true, List.mem_filter]
      constructor
      · rintro all r ⟨mem, unread⟩
        rw [← Bool.not_eq_true]
        intro inside
        rw [all r ⟨mem, inside⟩] at unread
        cases unread
      · rintro none r ⟨mem, inside⟩
        by_contra unread
        have outside := none r ⟨mem, by simpa using unread⟩
        rw [inside] at outside
        cases outside

theorem finite_value {r : TableRow Q} [ExactQuantity Q]
    (finite : ∀ x, r.number = some x → Quantity.isFinite x = true) (m : Meter) {x : Q}
    (h : r.value? m = some x) : Quantity.isFinite x = true := by
  rw [TableRow.value?, TableRow.contribution?, Option.bind_eq_some_iff] at h
  obtain ⟨contribution, made, is⟩ := h
  cases contribution with
  | text s => cases is
  | number y =>
    cases is
    split at made
    · rename_i number
      cases made
      exact finite x number
    · split at made
      · cases made
        exact ExactQuantity.finite_ofNat 1
      · cases made
        exact ExactQuantity.finite_ofNat 1
      · obtain ⟨_, -, other⟩ := Option.map_eq_some_iff.1 made
        cases other
      · obtain ⟨s, -, read⟩ := Option.bind_eq_some_iff.1 made
        obtain ⟨y, read, is⟩ := Option.map_eq_some_iff.1 read
        cases is
        exact ExactQuantity.finite_read read

/-- The answer of a database to a query. -/
def Compiler.answer (c : Compiler) (db : Database Q) (m : Meter) (q : Query) :
    Except Error (List (Row Q)) :=
  Id.run ((c.run m q).run (m := Id) db.fetch)

/-- A query whose windows need no further bounds is answered from the table of its meter at once. -/
theorem answer_of_runBounded (db : Database Q)
    (bounded : (c.run m q : Fetching Q (List (Row Q))) = c.runBounded m q) :
    c.answer db m q = c.answerFrom db (Source.ofMeter m) m q := by
  rw [Compiler.answer, bounded, Compiler.runBounded, Compiler.answerFrom, Compiler.plan]
  cases c.planFrom (Source.ofMeter m) m q with
  | error e => rfl
  | ok plan =>
    simp only [Program.run]
    generalize fetched : db.fetch (.rows plan) = rows
    revert rows
    rintro (e | rows) -
    · rfl
    · rfl

theorem answer_utc (c : Compiler) (db : Database Q) (m : Meter)
    (utc : Zone.request q.zoneName = .ok .utc) :
    c.answer db m q = c.answerFrom db (Source.ofMeter m) m q :=
  answer_of_runBounded db (run_utc utc)

theorem answer_cachable (c : Compiler) (db : Database Q) (m : Meter)
    (utc : Zone.request q.zoneName = .ok .utc) (cachable : Bool) :
    c.answer db m { q with cachable := cachable } = c.answer db m q := by
  have same : Zone.request ({ q with cachable := cachable } : Query).zoneName = .ok .utc := utc
  rw [answer_utc c db m same, answer_utc c db m utc]
  rfl

/-- The numbers that a database has been given are finite. -/
def Tables.Finite (t : Tables Q) : Prop := ∀ row ∈ t.numbers, Quantity.isFinite row.value = true

variable [ExactQuantity Q]

/-- What a row of either table contributes is finite. -/
theorem Tables.Finite.value {t : Tables Q} (finite : t.Finite) {source : Source} {r : TableRow Q}
    (mem : r ∈ t.rows source) (m : Meter) (x : Q) (made : r.value? m = some x) :
    Quantity.isFinite x = true := by
  refine finite_value (fun y number => ?_) m made
  cases source with
  | events =>
    obtain ⟨e, -, rfl⟩ := List.mem_map.1 mem
    cases number
  | numbers =>
    obtain ⟨row, there, rfl⟩ := List.mem_map.1 mem
    cases number
    exact finite row there

/-- An import adds finite numbers to the table. -/
theorem Tables.Finite.apply {t : Tables Q} (finite : t.Finite) (i : ChunkImport) :
    (i.apply t).Finite := by
  intro row mem
  rcases List.mem_append.1 mem with old | fresh
  · exact finite row (List.mem_filter.1 old).1
  · obtain ⟨e, -, made⟩ := List.mem_filterMap.1 fresh
    have own : (TableRow.ofEvent e : TableRow Q).value? i.meter = some row.value := by
      simp only [ChunkImport.measure?, Option.bind_eq_bind, Option.bind_eq_some_iff, Option.pure_def,
        Option.some.injEq] at made
      obtain ⟨contribution, found, x, number, rfl⟩ := made
      rw [TableRow.value?, found]
      exact number
    have unmeasured : ∀ x, (TableRow.ofEvent e : TableRow Q).number = some x →
        Quantity.isFinite x = true := by
      intro x number
      cases number
    exact finite_value unmeasured i.meter own

/-- The ends of a row: those of its window, or those of the query if it has no windows. -/
def Scanner.ends (s : Scanner) (key : GroupKey) : Instant × Instant :=
  let window := key.1.getD (0, 0)
  match s.window with
  | some _ => (Instant.ofMicros window.1, Instant.ofMicros window.2)
  | none => (s.start.getD (Instant.ofMicros window.1), s.stop.getD (Instant.ofMicros window.2))

theorem isNumeric_of_isCombinable {a : Aggregation} (combinable : a.isCombinable = true) :
    a.isNumeric = true := by
  cases a with
  | uniqueCount => cases combinable
  | _ => rfl

end Answer

end Metering
