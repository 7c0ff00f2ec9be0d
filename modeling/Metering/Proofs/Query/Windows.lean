import Metering.Proofs.Cache.Fill
import Metering.Proofs.Query.RollUp

/-!
Answers in windows. Each row of an answer over a run of windows is in one of them (`window_of_row`), and
a window in which no row starts has no rows of its own either (`answer_window_nil`): the numbers that
count in a window are the same whether the query is over the window or over the run.
-/
namespace Metering

variable {Q : Type} [Quantity Q] {c : Compiler} {db : Database Q} {m : Meter} {q : Query}
  {size : WindowSize} {columns : List GroupColumn} {i j k : Int} {rows : List (Row Q)} {t : Instant}

theorem WindowSize.holds_run : (size.run (i, j)).holds t = true ↔
    i ≤ size.number t ∧ size.number t < j := by
  rw [Period.holds_iff, WindowSize.run, size.boundary_micros, size.boundary_micros,
    ← WindowSize.le_number_iff, ← WindowSize.number_lt_iff]

/-- The numbers that count in a run of windows, under their windows and groups. -/
def counted (db : Database Q) (m : Meter) (q : Query) (size : WindowSize)
    (columns : List GroupColumn) (run : Int × Int) : List (GroupKey × Reading Q) :=
  (((m.planUnbounded q columns).selection.rows db.tables).filter fun r =>
    (size.run run).holds r.time).filterMap fun r => (r.value? m).map fun x =>
      ((Windowing.keyOf (some size) r.time, columns.map ((m.planUnbounded q columns).groupText r)),
        (r.time, x))

theorem mem_counted {item : GroupKey × Reading Q} (mem : item ∈ counted db m q size columns (i, j)) :
    ∃ (k : Int) (text : GroupColumn → Option String), i ≤ k ∧ k < j ∧
      item.1 = (some ((size.boundary k).micros, (size.boundary (k + 1)).micros), columns.map text) := by
  obtain ⟨r, inside, made⟩ := List.mem_filterMap.1 mem
  obtain ⟨x, -, rfl⟩ := Option.map_eq_some_iff.1 made
  obtain ⟨low, high⟩ := WindowSize.holds_run.1 (List.mem_filter.1 inside).2
  exact ⟨size.number r.time, _, low, high, rfl⟩

/-- The numbers of a window are those that count there in a run around it. -/
theorem valuesAt_counted (db : Database Q) (m : Meter) (q : Query) (size : WindowSize)
    (columns : List GroupColumn) (low : i ≤ k) (high : k < j) (texts : List (Option String)) :
    valuesAt (some ((size.boundary k).micros, (size.boundary (k + 1)).micros), texts)
        (counted db m q size columns (k, k + 1)) =
      valuesAt (some ((size.boundary k).micros, (size.boundary (k + 1)).micros), texts)
        (counted db m q size columns (i, j)) := by
  refine congrArg (List.map Prod.snd) ?_
  rw [counted, counted, List.filterMap_filter, List.filterMap_filter, List.filter_filterMap,
    List.filter_filterMap]
  refine List.filterMap_congr fun r _ => ?_
  by_cases here : size.number r.time = k
  · have inWindow : (size.run (k, k + 1)).holds r.time = true :=
      WindowSize.holds_run.2 (by omega)
    have inRun : (size.run (i, j)).holds r.time = true := WindowSize.holds_run.2 (by omega)
    rw [inWindow, inRun]
  · have outside : (size.run (k, k + 1)).holds r.time = false := by
      rw [← Bool.not_eq_true, WindowSize.holds_run]
      omega
    have other : Windowing.keyOf (some size) r.time ≠
        some ((size.boundary k).micros, (size.boundary (k + 1)).micros) := by
      intro same
      exact here (WindowSize.number_eq_of_micros (Prod.mk.inj (Option.some.inj same)).1)
    rw [outside]
    cases (size.run (i, j)).holds r.time with
    | false => rfl
    | true =>
      cases r.value? m with
      | none => rfl
      | some x => simp [Option.filter, other]

/-- The rows of an answer, one for each window and group in which a number counts. -/
theorem mem_answer_run (numeric : m.aggregation.isNumeric = true)
    (utc : Zone.request q.zoneName = .ok .utc) (ordered : i ≤ j)
    (made : c.answer db m (q.spanning (some size) (size.run (i, j))) = .ok rows) :
    ∃ columns, q.columns m c.maxDepth = .ok columns ∧ ∀ r, r ∈ rows ↔
      ∃ key ∈ keysOf (counted db m q size columns (i, j)),
        (Scanner.ofQuery (q.spanning (some size) (size.run (i, j))) columns).rowOf? m.aggregation key
          (valuesAt key (counted db m q size columns (i, j))) = some r := by
  obtain ⟨columns, planned, -, -, rfl⟩ :=
    (answer_spanning numeric utc (size.boundary_mono ordered)).1 made
  refine ⟨columns, planned, fun r => ?_⟩
  have windowing : (m.planSpanning q (some size) (size.run (i, j)) columns).windowing =
      .utc (some size) := rfl
  have windowed (t : Instant) (whole : none ∈
      (m.planSpanning q (some size) (size.run (i, j)) columns).windowing.windowsOf t) :
      (Scanner.ofQuery (q.spanning (some size) (size.run (i, j))) columns).Bounded := by
    rw [windowing, Windowing.windowsOf_utc] at whole
    exact absurd whole (by simp [Windowing.keyOf])
  have items : (m.planSpanning q (some size) (size.run (i, j)) columns).windowing.keyed
      ((m.planSpanning q (some size) (size.run (i, j)) columns).points
        ((m.planSpanning q (some size) (size.run (i, j)) columns).selection.rows db.tables)) =
      counted db m q size columns (i, j) := by
    rw [keyed_utc windowing, rows_spanning]
    rfl
  rw [Plan.evaluate, (scan_perm numeric windowed _).mem_iff, items, List.mem_filterMap]
  rfl

/-- A row in windows has the ends of its window, whatever the range of its query is. -/
theorem ends_of_rowOf {range : Period} {a : Aggregation} {first last : Int}
    {text : GroupColumn → Option String} {readings : List (Reading Q)} {r : Row Q}
    (made : (Scanner.ofQuery (q.spanning (some size) range) columns).rowOf? a
      (some (first, last), columns.map text) readings = some r) :
    r.start = .ofMicros first ∧ r.stop = .ofMicros last := by
  rw [Scanner.rowOf?, Scanner.scanRow?, Option.bind_eq_bind, Option.bind_eq_some_iff] at made
  obtain ⟨value, -, made⟩ := made
  by_cases finite : Quantity.isFinite value = true
  · simp only [finite, not_true_eq_false, if_false] at made
    obtain ⟨groups, placed, -⟩ := Row.placeAll_map
      ⟨value, .ofMicros first, .ofMicros last, none, none, ∅⟩ columns text
    have row := (Option.some.inj made).symm.trans placed
    rw [row]
    exact ⟨rfl, rfl⟩
  · simp only [finite, Bool.false_eq_true, not_false_eq_true, if_true] at made
    cases made

/-- Each row of an answer over a run of windows is in one of them. -/
theorem window_of_row (numeric : m.aggregation.isNumeric = true)
    (utc : Zone.request q.zoneName = .ok .utc) (ordered : i ≤ j) (shown : Shown size i j)
    (made : c.answer db m (q.spanning (some size) (size.run (i, j))) = .ok rows) {r : Row Q}
    (mem : r ∈ rows) : ∃ k, i ≤ k ∧ k < j ∧ r.start = size.boundary k ∧ r.stop = size.boundary (k + 1) := by
  obtain ⟨columns, -, mem_iff⟩ := mem_answer_run numeric utc ordered made
  obtain ⟨key, counts, row⟩ := (mem_iff r).1 mem
  obtain ⟨reading, mem⟩ := mem_keysOf.1 counts
  obtain ⟨k, text, low, high, rfl⟩ := mem_counted mem
  obtain ⟨start, stop⟩ := ends_of_rowOf row
  exact ⟨k, low, high, start.trans (shown k low (by omega)), stop.trans (shown (k + 1) (by omega) high)⟩

/-- A window in which no row of a run starts has no rows. -/
theorem answer_window_nil (numeric : m.aggregation.isNumeric = true)
    (utc : Zone.request q.zoneName = .ok .utc) (shown : Shown size i j)
    (made : c.answer db m (q.spanning (some size) (size.run (i, j))) = .ok rows) (low : i ≤ k)
    (high : k < j) (none : ∀ r ∈ rows, r.start ≠ size.boundary k) :
    c.answer db m (q.spanning (some size) (size.window k)) = .ok [] := by
  have ordered : i ≤ j := by omega
  have next : k ≤ k + 1 := by omega
  obtain ⟨columns, planned, isOpen, readable, -⟩ :=
    (answer_spanning numeric utc (size.boundary_mono ordered)).1 made
  have ready := (View.ready_run (by omega : i < j)).1
    ((canRead_spanning db m q (some size) (size.run (i, j)) columns).1 readable) k
    (Int.mem_range_iff.2 ⟨low, high⟩)
  have alone : c.answer db m (q.spanning (some size) (size.run (k, k + 1))) = .ok _ :=
    (answer_spanning numeric utc (size.boundary_mono next)).2 ⟨columns, planned, isOpen,
      (canRead_spanning db m q (some size) (size.run (k, k + 1)) columns).2 ready, rfl⟩
  refine alone.trans (congrArg Except.ok (List.eq_nil_iff_forall_not_mem.2 fun r mem => ?_))
  obtain ⟨columns', planned', mem_iff⟩ := mem_answer_run numeric utc next alone
  obtain ⟨columns'', planned'', mem_iff'⟩ := mem_answer_run numeric utc ordered made
  obtain rfl := Except.ok.inj (planned.symm.trans planned')
  obtain rfl := Except.ok.inj (planned.symm.trans planned'')
  obtain ⟨key, counts, row⟩ := (mem_iff r).1 mem
  obtain ⟨reading, there⟩ := mem_keysOf.1 counts
  obtain ⟨l, text, first, last, rfl⟩ := mem_counted there
  obtain rfl : l = k := by omega
  have same := valuesAt_counted db m q size columns low high (columns.map text)
  have inRun := mem_keysOf.2 ⟨reading, mem_valuesAt.1 (same ▸ mem_valuesAt.2 there)⟩
  refine none r ((mem_iff' r).2 ⟨_, inRun, ?_⟩) ((ends_of_rowOf row).1.trans (shown l low (by omega)))
  rw [← same]
  exact row

end Metering
