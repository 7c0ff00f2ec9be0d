import Metering.Proofs.Query.Rows
import Metering.Query.Run

/-!
A query over a range of time. Its plan is that of the query over all time but for the range and the
windows (`plan_spanning`), and so are the rows that it reads (`rows_spanning`).
-/
namespace Metering

namespace Query

/-- The query over a range, in windows of some size. -/
def spanning (q : Query) (window : Option WindowSize) (range : Period) : Query :=
  { q with start := some range.start, stop := some range.stop, window := window, cachable := false }

/-- The query over all time. -/
def unbounded (q : Query) : Query := { q with start := none, stop := none }

/-- The columns of a query that can be planned. -/
def columns (q : Query) (m : Meter) (maxDepth : Nat) : Except Error (List GroupColumn) := do
  m.validate
  let columns ← q.groupColumns m
  q.validateFilters m maxDepth
  return columns

end Query

/-- Windows in UTC. -/
def Windowing.utc : Option WindowSize → Windowing
  | none => .whole
  | some size => .aligned size .utc

namespace Meter

/-- The plan of a query over a range, given its columns. -/
def planSpanning (m : Meter) (q : Query) (window : Option WindowSize) (range : Period)
    (columns : List GroupColumn) : Plan :=
  ⟨m, ⟨Source.ofMeter m, (q.spanning window range).conditions (Source.ofMeter m) m⟩, .utc window,
    columns, q.customers⟩

/-- The plan of a query over all time, given its columns. -/
def planUnbounded (m : Meter) (q : Query) (columns : List GroupColumn) : Plan :=
  ⟨m, ⟨Source.ofMeter m, q.unbounded.conditions (Source.ofMeter m) m⟩, .whole, columns, q.customers⟩

end Meter

section Planning

variable {c : Compiler} {q : Query} {m : Meter} {window : Option WindowSize} {range : Period}

/-- When a query has columns, and which. -/
theorem columns_ok {maxDepth : Nat} {columns : List GroupColumn} : q.columns m maxDepth = .ok columns ↔
    m.validate = .ok () ∧ q.groupColumns m = .ok columns ∧ q.validateFilters m maxDepth = .ok () := by
  unfold Query.columns
  cases m.validate with
  | error e => simp [bind, Except.bind]
  | ok _ =>
  cases q.groupColumns m with
  | error e => simp [bind, Except.bind]
  | ok _ =>
  cases q.validateFilters m maxDepth with
  | error e => simp [bind, Except.bind]
  | ok _ => simp [bind, Except.bind, pure, Except.pure]

theorem alignsZone_utc (d : Dialect) : d.alignsZone Zone.utc.name = true := by
  cases d with
  | duckdb => decide
  | clickhouse => rfl

theorem plan_spanning (c : Compiler) (numeric : m.aggregation.isNumeric = true)
    (utc : Zone.request q.zoneName = .ok .utc) (window : Option WindowSize)
    (ordered : range.start ≤ range.stop) :
    c.plan m (q.spanning window range) =
      (q.columns m c.maxDepth).map (m.planSpanning q window range) := by
  have fits : (q.spanning window range).validateRange = .ok () := by
    refine if_neg fun reversed => ?_
    simp only [Instant.le_iff, Instant.lt_iff] at ordered reversed
    omega
  have windows : Windowing.make c.dialect m (q.spanning window range) .utc =
      .ok (.utc window) := by
    cases window with
    | none => rfl
    | some size => exact if_pos (alignsZone_utc c.dialect)
  have columns : (q.spanning window range).groupColumns m = q.groupColumns m := rfl
  have filters : (q.spanning window range).validateFilters m c.maxDepth =
      q.validateFilters m c.maxDepth := rfl
  have zone : Zone.request (q.spanning window range).zoneName = .ok .utc := utc
  unfold Compiler.plan Compiler.planFrom Query.columns
  simp only [numeric, not_true_eq_false, and_false, if_false, bind, Except.bind, pure, Except.pure,
    zone, fits, columns, filters]
  cases m.validate with
  | error e => rfl
  | ok _ =>
  cases q.groupColumns m with
  | error e => rfl
  | ok columns =>
  cases q.validateFilters m c.maxDepth with
  | error e => rfl
  | ok _ =>
    simp only [windows]
    rfl

/-- A query in UTC is planned at once. -/
theorem run_utc {Q : Type} [Quantity Q] (utc : Zone.request q.zoneName = .ok .utc) :
    (c.run m q : Fetching Q (List (Row Q))) = c.runBounded m q := by
  have bounded : q.missesWindowBounds c.dialect m = .ok false := by
    simp only [Query.missesWindowBounds, utc, bind, Except.bind, pure, Except.pure,
      alignsZone_utc, Bool.not_true, Bool.and_false, Bool.false_and]
  rw [Compiler.run, bounded]

end Planning

section Conditions

variable {q : Query} {m : Meter} {window : Option WindowSize} {range : Period}

theorem notBefore_max {P : Condition → Bool} (mono : ∀ t u : Instant,
      P (.notBefore (max t u)) = (P (.notBefore t) && P (.notBefore u))) :
    ((laterBound (some range.start) m.since).map Condition.notBefore).toList.all P =
      (((m.since.map Condition.notBefore).toList).all P && P (.notBefore range.start)) := by
  cases m.since with
  | none => simp [laterBound]
  | some t => simp [laterBound, mono, Bool.and_comm]

/-- The conditions of a query over a range are those over all time and the two bounds. -/
theorem all_conditions_spanning (q : Query) (m : Meter) (window : Option WindowSize) (range : Period)
    (source : Source) {P : Condition → Bool} (mono : ∀ t u : Instant,
      P (.notBefore (max t u)) = (P (.notBefore t) && P (.notBefore u))) :
    ((q.spanning window range).conditions source m).all P =
      ((q.unbounded.conditions source m).all P &&
        (P (.notBefore range.start) && P (.before range.stop))) := by
  have lower : (q.spanning window range).lowerBound m = laterBound (some range.start) m.since := rfl
  have upper : (q.spanning window range).stop = some range.stop := rfl
  have subjects : (q.spanning window range).subjectCondition = q.unbounded.subjectCondition := rfl
  have dimensions : (q.spanning window range).dimensionConditions m =
      q.unbounded.dimensionConditions m := rfl
  have first : q.unbounded.lowerBound m = m.since := by
    rw [Query.lowerBound, Query.unbounded, laterBound]
  have last : q.unbounded.stop = none := rfl
  simp only [Query.conditions, List.all_append, lower, upper, subjects, dimensions, first, last,
    notBefore_max mono, Option.map_some, Option.map_none, Option.toList_some, Option.toList_none,
    List.all_cons, List.all_nil, Bool.and_true]
  simp only [Bool.and_assoc, Bool.and_left_comm, Bool.and_comm]

variable {Q : Type}

theorem holds_notBefore_max (r : TableRow Q) (t u : Instant) :
    Condition.holds r (.notBefore (max t u)) =
      (Condition.holds r (.notBefore t) && Condition.holds r (.notBefore u)) := by
  have bounds : max t u = if t ≤ u then u else t := rfl
  rw [bounds, Bool.eq_iff_iff, Bool.and_eq_true]
  simp only [Condition.holds, decide_eq_true_eq]
  split
  · rename_i le
    have le := Instant.microsecondStart_mono le
    simp only [Instant.le_iff] at le ⊢
    omega
  · rename_i other
    have le : u.microsecondStart ≤ t.microsecondStart :=
      Instant.microsecondStart_mono (Int.le_of_lt (Int.not_le.1 other))
    simp only [Instant.le_iff] at le ⊢
    omega

/-- A range selects the rows of all time that lie in it. -/
theorem rows_spanning (t : Tables Q) (columns : List GroupColumn) :
    (m.planSpanning q window range columns).selection.rows t =
      ((m.planUnbounded q columns).selection.rows t).filter fun r => range.holds r.time := by
  rw [Selection.rows, Selection.rows, List.filter_filter]
  refine List.filter_congr fun r _ => ?_
  have both := all_conditions_spanning q m window range (Source.ofMeter m) (holds_notBefore_max r)
  exact both.trans (Bool.and_comm _ _)

theorem candidates_spanning (t : Tables Q) (columns : List GroupColumn) :
    (m.planSpanning q window range columns).selection.candidates t =
      ((m.planUnbounded q columns).selection.candidates t).filter fun r => range.holds r.time := by
  rw [Selection.candidates, Selection.candidates, List.filter_filter]
  refine List.filter_congr fun r _ => ?_
  rw [List.all_filter, List.all_filter]
  have both := all_conditions_spanning q m window range (Source.ofMeter m)
    (P := fun c => !decide ¬ c.readsData = true || c.holds r) (holds_notBefore_max r)
  exact both.trans (Bool.and_comm _ _)

/-- Bounds are not looked up in data. -/
theorem flatMap_conditionPaths (q : Query) (source : Source) (m : Meter) :
    (q.conditions source m).flatMap Database.conditionPaths =
      (q.subjectCondition ++ q.dimensionConditions m).flatMap Database.conditionPaths := by
  have none (f : Instant → Condition) (free : ∀ t, Database.conditionPaths (f t) = [])
      (t : Option Instant) : (t.map f).toList.flatMap Database.conditionPaths = [] := by
    cases t with
    | none => rfl
    | some t => simp [free]
  have lower := none .notBefore fun _ => rfl
  have upper := none .before fun _ => rfl
  simp only [Query.conditions, List.flatMap_append, lower, upper, List.append_nil]
  cases source <;> rfl

theorem planPaths_spanning (columns : List GroupColumn) :
    Database.planPaths (m.planSpanning q window range columns) =
      Database.planPaths (m.planUnbounded q columns) := by
  simp only [Database.planPaths, Meter.planSpanning, Meter.planUnbounded, flatMap_conditionPaths]
  rfl

end Conditions

end Metering
