import Metering.Proofs.Query.Columns

/-!
Queries that ask for fewer groups or for longer windows. Their rows are the rows of the finer query,
gathered under coarser labels (`answer_coarser`): each row of a table counts under one label, and the
coarser label of a row can be told from its finer one.
-/
namespace Metering

/-- Windows of the first kind lie in windows of the second; without windows there is one for all. -/
def WindowSize.Within : Option WindowSize → Option WindowSize → Prop
  | _, none => True
  | some fine, some coarse => fine.rank ≤ coarse.rank
  | none, some _ => False

namespace Query

/-- A query like another that asks for no more groups and for no shorter windows. -/
structure Coarser (fine coarse : Query) : Prop where
  alike : coarse =
    { fine with window := coarse.window, groupBy := coarse.groupBy, cachable := coarse.cachable }
  groups : coarse.groupBy ⊆ fine.groupBy
  windows : WindowSize.Within fine.window coarse.window

/-- The label under which a query counts what a finer query counts under a label: the window that
holds its start, and the groups that are asked for. -/
def coarsen (q : Query) (label : Row Unit) : Row Unit :=
  let ends := match q.window with
    | some size =>
      let start := size.truncate .utc label.start
      (start, (size.next .utc start).shown)
    | none => (q.start.getD label.start, q.stop.getD label.stop)
  ⟨(), ends.1, ends.2,
    if Meter.subjectDimension ∈ q.groupBy then label.subject else none,
    if Meter.customerDimension ∈ q.groupBy then label.customer else none,
    label.groups.filterMap fun name text => if name ∈ q.groupBy then some text else none⟩

/-- The rows of a finer query, combined into rows of this one. -/
def rollUp {Q : Type} [Quantity Q] (q : Query) (a : Aggregation) (rows : List (Row Q)) :
    List (Row Q) :=
  gather a (rows.map fun r => (q.coarsen r.label, r.value))

/-- The ends of the window of an instant, as rows show them. -/
def endsAt (window : Option WindowSize) (range : Period) (t : Instant) : Instant × Instant :=
  match window with
  | none => (range.start, range.stop)
  | some size => ((size.boundary (size.number t)).shown, (size.boundary (size.number t + 1)).shown)

end Query

section Coarsen

variable {fine coarse : Query} {m : Meter} {maxDepth : Nat} {columns kept : List GroupColumn}

namespace Query.Coarser

variable (h : fine.Coarser coarse)
include h

/-- The groups of a coarser query are among those of the finer one. -/
theorem columns_ok (made : fine.columns m maxDepth = .ok columns) :
    ∃ kept, coarse.columns m maxDepth = .ok kept ∧ kept ⊆ columns := by
  obtain ⟨valid, grouped, filtered⟩ := Metering.columns_ok.1 made
  have own (name : String) (mem : name ∈ coarse.groupBy) :
      coarse.groupColumn m name = .ok (.ofName name) := by
    have fine := (groupColumns_ok.1 grouped).1 name (h.groups mem)
    rw [h.alike]
    exact fine
  have grouped' := groupColumns_ok.2 ⟨own, rfl⟩
  have filtered' : coarse.validateFilters m maxDepth = .ok () := by
    rw [h.alike]
    exact filtered
  refine ⟨_, Metering.columns_ok.2 ⟨valid, grouped', filtered'⟩, fun column mem => ?_⟩
  obtain ⟨name, mem, is⟩ := (mem_columns grouped').1 mem
  exact (mem_columns grouped).2 ⟨name, h.groups mem, is⟩

/-- The window of an instant for the coarser query is that of its window's start. -/
theorem coarsen_ends {range : Period} {t : Instant} (starts : fine.start = some range.start)
    (stops : fine.stop = some range.stop)
    (shown : ∀ size : WindowSize,
      (size.boundary (size.number t)).shown = size.boundary (size.number t)) (label : Row Unit)
    (start : label.start = (endsAt fine.window range t).1) :
    ((coarse.coarsen label).start, (coarse.coarsen label).stop) = endsAt coarse.window range t := by
  have starts : coarse.start = some range.start := by
    rw [h.alike]
    exact starts
  have stops : coarse.stop = some range.stop := by
    rw [h.alike]
    exact stops
  have within := h.windows
  cases wide : coarse.window with
  | none => simp only [coarsen, wide, starts, stops, Option.getD_some, endsAt]
  | some size =>
    cases narrow : fine.window with
    | none =>
      rw [narrow, wide] at within
      exact absurd within id
    | some size' =>
      rw [narrow, wide] at within
      have start : label.start = size'.boundary (size'.number t) := by
        rw [start, narrow]
        exact shown size'
      simp only [coarsen, wide, start, endsAt, WindowSize.truncate_utc, WindowSize.next_utc,
        WindowSize.number_boundary_number within, shown size]

/-- What a label says of the coarser query can be told from what it says of the finer one. -/
theorem coarsen_about (made : fine.groupColumns m = .ok columns)
    (made' : coarse.groupColumns m = .ok kept) {start stop start' stop' : Instant}
    {text : GroupColumn → Option String}
    (ends : ((coarse.coarsen (Row.about start stop columns text)).start,
      (coarse.coarsen (Row.about start stop columns text)).stop) = (start', stop')) :
    coarse.coarsen (Row.about start stop columns text) = Row.about start' stop' kept text := by
  obtain ⟨starts, stops⟩ := Prod.mk.inj ends
  obtain ⟨groups, is, under⟩ := Row.about_eq start stop columns text
  obtain ⟨groups', is', under'⟩ := Row.about_eq start' stop' kept text
  have subject : (coarse.coarsen (Row.about start stop columns text)).subject =
      if .subject ∈ kept then text .subject else none := by
    simp only [coarsen, is, subject_mem_columns made, subject_mem_columns made']
    by_cases mem : Meter.subjectDimension ∈ coarse.groupBy
    · simp only [if_pos mem, if_pos (h.groups mem)]
    · simp only [if_neg mem]
  have customer : (coarse.coarsen (Row.about start stop columns text)).customer =
      if .customer ∈ kept then text .customer else none := by
    simp only [coarsen, is, customer_mem_columns made, customer_mem_columns made']
    by_cases mem : Meter.customerDimension ∈ coarse.groupBy
    · simp only [if_pos mem, if_pos (h.groups mem)]
    · simp only [if_neg mem]
  have dimensions : (coarse.coarsen (Row.about start stop columns text)).groups = groups' := by
    refine KeyMap.ext_get? fun name => ?_
    simp only [coarsen, is, KeyMap.get?_filterMap, under, under', dimension_mem_columns made,
      dimension_mem_columns made']
    by_cases mem : name ∈ coarse.groupBy
    · have there := h.groups mem
      by_cases apart : name ≠ Meter.subjectDimension ∧ name ≠ Meter.customerDimension
      · simp only [mem, there, apart, if_true, and_self, not_false_eq_true, ne_eq, Option.bind_some]
      · simp only [mem, there, apart, if_false, and_false, Option.bind_none]
    · cases (if name ∈ fine.groupBy ∧ name ≠ Meter.subjectDimension ∧
          name ≠ Meter.customerDimension then some (text (.dimension name)) else none) <;>
        simp [mem]
  rw [is', ← starts, ← stops, ← subject, ← customer, ← dimensions]

end Query.Coarser

end Coarsen

section Answers

variable {Q : Type} [Quantity Q]

namespace Scanner

/-- The label of the row for a window and a group. -/
def labelOf (s : Scanner) (key : GroupKey) : Row Unit :=
  placeAll ⟨(), (s.ends key).1, (s.ends key).2, none, none, ∅⟩ s.columns key.2

end Scanner

/-- The window of an instant as a plan tells it. -/
def Windowing.keyOf (window : Option WindowSize) (t : Instant) : Option (Int × Int) :=
  window.map fun size =>
    ((size.boundary (size.number t)).micros, (size.boundary (size.number t + 1)).micros)

theorem Windowing.windowsOf_utc (window : Option WindowSize) (t : Instant) :
    (Windowing.utc window).windowsOf t = [Windowing.keyOf window t] := by
  cases window with
  | none => rfl
  | some size =>
    simp only [Windowing.utc, Windowing.windowsOf, WindowSize.truncate_utc, WindowSize.next_utc]
    rfl

section Spanning

variable {m : Meter} {q : Query} {window : Option WindowSize} {range : Period}
  {columns : List GroupColumn} {text : GroupColumn → Option String} {t : Instant}

theorem labelOf_spanning :
    (Scanner.ofQuery (q.spanning window range) columns).labelOf
        (Windowing.keyOf window t, columns.map text) =
      Row.about (Query.endsAt window range t).1 (Query.endsAt window range t).2 columns text := by
  cases window <;> rfl

/-- The start of a window of the calendar is shown as it is. -/
theorem shown_boundary (inside : t.InRange) (size : WindowSize) :
    (size.boundary (size.number t)).shown = size.boundary (size.number t) := by
  have longest : size.rank ≤ WindowSize.month.rank := by cases size <;> decide
  have calendar : WindowSize.month.boundary (-262143 * 12) = Instant.first := rfl
  obtain ⟨k, first⟩ := WindowSize.exists_boundary longest (-262143 * 12)
  rw [calendar] at first
  have low : Instant.first ≤ size.boundary (size.number t) := by
    rw [← first]
    exact size.boundary_mono (WindowSize.le_number_iff.2 (first ▸ inside.1))
  have micros : (⟨(size.boundary (size.number t)).micros * 1000⟩ : Instant) =
      size.boundary (size.number t) := size.boundary_micros _
  have high := Int.lt_of_le_of_lt (size.boundary_number_le t) inside.2
  rw [Instant.shown, Instant.ofMicros, micros, if_pos ⟨low, high⟩]

theorem inRange_of_holds (start : range.start.InRange) (stop : range.stop.InRange)
    (h : range.holds t = true) : t.InRange := by
  obtain ⟨low, high⟩ := Period.holds_iff.1 h
  have first : Instant.first.microsecondStart = Instant.first :=
    WindowSize.day.boundary_micros _
  have floor := Instant.microsecondStart_mono start.1
  rw [first] at floor
  have ceiling := Instant.microsecondStart_le range.stop
  exact ⟨Int.le_trans floor low, Int.lt_trans (Int.lt_of_lt_of_le high ceiling) stop.2⟩

/-- What the rows of a table add to an answer, under the labels of its rows. -/
def Plan.labelled (p : Plan) (window : Option WindowSize) (range : Period)
    (rows : List (TableRow Q)) : List (Row Unit × Q) :=
  rows.filterMap fun r => (r.value? p.meter).map fun x =>
    (Row.about (Query.endsAt window range r.time).1 (Query.endsAt window range r.time).2 p.columns
      (p.groupText r), p.meter.aggregation.weight x)

/-- The windows and groups in which the rows of a table count. -/
theorem keyed_utc {p : Plan} (utc : p.windowing = .utc window) (rows : List (TableRow Q)) :
    p.windowing.keyed (p.points rows) = rows.filterMap fun r => (r.value? p.meter).map fun x =>
      ((Windowing.keyOf window r.time, p.columns.map (p.groupText r)), (r.time, x)) := by
  rw [utc, Windowing.keyed, Plan.points]
  simp only [Windowing.windowsOf_utc, List.map_cons, List.map_nil]
  rw [← List.map_eq_flatMap, List.map_filterMap]
  refine List.filterMap_congr fun r _ => ?_
  rw [Option.map_map]
  rfl

/-- Within the calendar, what counts in different windows or groups has different labels. -/
theorem labelOf_injective {text' : GroupColumn → Option String} {u : Instant} (ht : t.InRange)
    (hu : u.InRange) (same : (Scanner.ofQuery (q.spanning window range) columns).labelOf
        (Windowing.keyOf window t, columns.map text) =
      (Scanner.ofQuery (q.spanning window range) columns).labelOf
        (Windowing.keyOf window u, columns.map text')) :
    (Windowing.keyOf window t, columns.map text) = (Windowing.keyOf window u, columns.map text') := by
  rw [labelOf_spanning, labelOf_spanning] at same
  obtain ⟨start, -, texts⟩ := Row.about_injective same
  refine Prod.ext ?_ texts
  cases window with
  | none => rfl
  | some size =>
    simp only [Query.endsAt, shown_boundary ht, shown_boundary hu] at start
    rw [Windowing.keyOf, Windowing.keyOf, Option.map_some, Option.map_some,
      WindowSize.boundary_injective start]

end Spanning

section Exact

variable [ExactQuantity Q] {a : Aggregation}

theorem rowOf?_labelOf {s : Scanner} (combinable : a.isCombinable = true) {key : GroupKey}
    {readings : List (Reading Q)} (finite : ∀ v ∈ readings, Quantity.isFinite v.2 = true) :
    s.rowOf? a key readings = (a.resultOf? readings).map (s.labelOf key).withValue := by
  rw [Scanner.rowOf?, Scanner.scanRow?]
  cases made : a.resultOf? readings with
  | none => rfl
  | some value =>
    have value_finite := Aggregation.finite_resultOf? combinable finite made
    simp only [Option.bind_eq_bind, Option.bind_some, value_finite, not_true_eq_false, if_false]
    exact congrArg some (Row.placeAll_withValue ⟨(), _, _, none, none, ∅⟩ value s.columns key.2)

/-- Rows gathered from what readings add. -/
theorem gather_weights (combinable : a.isCombinable = true) (items : List (Row Unit × Reading Q)) :
    gather a (items.map fun i => (i.1, a.weight i.2.2)) =
      (keysOf items).filterMap fun label =>
        (a.resultOf? (valuesAt label items)).map label.withValue := by
  have keys : keysOf (items.map fun i => (i.1, a.weight i.2.2)) = keysOf items := by
    rw [keysOf, keysOf, List.map_map]
    rfl
  rw [gather_eq combinable, keys]
  refine List.filterMap_congr fun label _ => ?_
  rw [Aggregation.resultOf?_eq_total combinable, valuesAt, valuesAt, List.filter_map, List.map_map,
    List.map_map]
  rfl

variable {m : Meter} {range : Period} {db : Database Q}

/-- The rows of an answer, gathered under their labels from the rows of the table. -/
theorem scan_gather (combinable : m.aggregation.isCombinable = true) (finite : db.tables.Finite)
    (start : range.start.InRange) (stop : range.stop.InRange) (q : Query)
    (window : Option WindowSize) (columns : List GroupColumn) :
    ((Scanner.ofQuery (q.spanning window range) columns).scan
      ((m.planSpanning q window range columns).evaluate db.tables)).Perm
        (gather m.aggregation ((m.planSpanning q window range columns).labelled window range
          ((m.planSpanning q window range columns).selection.rows db.tables))) := by
  let p := m.planSpanning q window range columns
  let s := Scanner.ofQuery (q.spanning window range) columns
  let rows := p.selection.rows db.tables
  have bounded (t : Instant) (mem : none ∈ p.windowing.windowsOf t) : s.Bounded := by
    cases window with
    | none => exact ⟨rfl, rfl, rfl⟩
    | some size => exact absurd mem (by simp [p, Meter.planSpanning, Windowing.utc, Windowing.windowsOf])
  have keyed := keyed_utc (show p.windowing = .utc window from rfl) rows
  have from_row {i : GroupKey × Reading Q} (mem : i ∈ p.windowing.keyed (p.points rows)) :
      ∃ r ∈ rows, r.value? m = some i.2.2 ∧
        i.1 = (Windowing.keyOf window r.time, columns.map (p.groupText r)) := by
    rw [keyed, List.mem_filterMap] at mem
    obtain ⟨r, there, made⟩ := mem
    obtain ⟨x, is, rfl⟩ := Option.map_eq_some_iff.1 made
    exact ⟨r, there, is, rfl⟩
  have inRange {r : TableRow Q} (mem : r ∈ rows) : r.time.InRange := by
    have mem : r ∈ (m.planSpanning q window range columns).selection.rows db.tables := mem
    rw [rows_spanning, List.mem_filter] at mem
    exact inRange_of_holds start stop mem.2
  have labelled : p.labelled window range rows =
      ((p.windowing.keyed (p.points rows)).map fun i => (s.labelOf i.1, i.2)).map fun i =>
        (i.1, m.aggregation.weight i.2.2) := by
    rw [keyed, List.map_filterMap, List.map_filterMap, Plan.labelled]
    refine List.filterMap_congr fun r _ => ?_
    rw [Option.map_map, Option.map_map]
    refine congrArg (Option.map · _) (funext fun x => ?_)
    simp only [Function.comp_apply, s]
    rw [show p.columns = columns from rfl, labelOf_spanning]
    rfl
  refine (scan_perm (p := p) (isNumeric_of_isCombinable combinable) bounded rows).trans ?_
  rw [labelled, gather_weights combinable]
  refine (List.Perm.of_eq (List.filterMap_congr fun key _ => ?_)).trans
    (filterMap_keysOf_map s.labelOf (fun i mem j mem' same => ?_) fun label readings =>
      (m.aggregation.resultOf? readings).map label.withValue).symm
  · refine rowOf?_labelOf combinable fun v mem => ?_
    obtain ⟨r, there, is, -⟩ := from_row (mem_valuesAt.1 mem)
    exact finite.value (List.mem_filter.1 there).1 m _ is
  · obtain ⟨r, there, -, is⟩ := from_row mem
    obtain ⟨r', there', -, is'⟩ := from_row mem'
    rw [is, is'] at same ⊢
    exact labelOf_injective (inRange there) (inRange there') same

end Exact

section RollUp

variable {c : Compiler} {m : Meter} {q fine coarse : Query} {window : Option WindowSize}
  {range : Period} {columns kept : List GroupColumn} {db : Database Q} {rows : List (Row Q)}

/-- When a query over a range has an answer, and which. -/
theorem answer_spanning (numeric : m.aggregation.isNumeric = true)
    (utc : Zone.request q.zoneName = .ok .utc) (ordered : range.start ≤ range.stop) :
    c.answer db m (q.spanning window range) = .ok rows ↔
      ∃ columns, q.columns m c.maxDepth = .ok columns ∧ db.isOpen = true ∧
        Database.canRead (Database.planPaths (m.planSpanning q window range columns))
          ((m.planSpanning q window range columns).selection.candidates db.tables) = true ∧
        rows = (Scanner.ofQuery (q.spanning window range) columns).scan
          ((m.planSpanning q window range columns).evaluate db.tables) := by
  have planned := plan_spanning c numeric utc window ordered
  have zone : Zone.request (q.spanning window range).zoneName = .ok .utc := utc
  rw [answer_utc c db m zone, answerFrom_ok, ← Compiler.plan, planned]
  cases made : q.columns m c.maxDepth with
  | error e => simp [Except.map]
  | ok columns =>
    simp only [Except.map, Except.ok.injEq, exists_eq_left']
    rfl

/-- A query with bounds is a query over their range. -/
theorem answer_bounded {start stop : Instant} (utc : Zone.request q.zoneName = .ok .utc)
    (starts : q.start = some start) (stops : q.stop = some stop) :
    c.answer db m q = c.answer db m (q.spanning q.window ⟨start, stop⟩) := by
  have same : q.spanning q.window ⟨start, stop⟩ = { q with cachable := false } := by
    rw [Query.spanning, starts, stops]
  rw [same]
  exact (answer_cachable c db m utc false).symm

/-- Bounds that are out of order have no answer. -/
theorem ordered_of_answer {start stop : Instant} (utc : Zone.request q.zoneName = .ok .utc)
    (starts : q.start = some start) (stops : q.stop = some stop) (h : c.answer db m q = .ok rows) :
    start ≤ stop := by
  rw [answer_utc c db m utc] at h
  obtain ⟨p, planned, -⟩ := answerFrom_ok.1 h
  obtain ⟨-, -, _, _, _, -, ordered, -⟩ := Compiler.planFrom_eq_ok.1 planned
  rw [Query.validateRange, starts, stops] at ordered
  by_contra reversed
  exact absurd ((if_pos (Int.not_le.1 reversed)).symm.trans ordered) (by simp)

namespace Query.Coarser

variable (h : fine.Coarser coarse)
include h

/-- A coarser query reads the same rows. -/
theorem selection_eq (m : Meter) (range : Period) (window window' : Option WindowSize)
    (columns kept : List GroupColumn) : (m.planSpanning coarse window' range kept).selection =
      (m.planSpanning fine window range columns).selection := by
  simp only [Meter.planSpanning, Query.spanning]
  rw [h.alike]
  rfl

/-- A coarser query follows no other paths. -/
theorem planPaths_subset (m : Meter) (range : Period) (window window' : Option WindowSize)
    (fewer : kept ⊆ columns) : Database.planPaths (m.planSpanning coarse window' range kept) ⊆
      Database.planPaths (m.planSpanning fine window range columns) := by
  rw [Database.planPaths, Database.planPaths, h.selection_eq m range window window' columns kept]
  cases (m.planSpanning fine window range columns).selection.source with
  | numbers => exact List.Subset.refl _
  | events =>
    refine List.append_subset.2 ⟨List.append_subset.2 ⟨?_, ?_⟩, List.subset_append_right _ _⟩
    · exact fun path mem => List.mem_append_left _ (List.mem_append_left _ mem)
    · intro path mem
      obtain ⟨column, there, mem⟩ := List.mem_flatMap.1 mem
      exact List.mem_append_left _ (List.mem_append_right _
        (List.mem_flatMap.2 ⟨column, fewer there, mem⟩))

/-- A row of the table counts under the coarser label of its finer one. -/
theorem labelled_eq (start : range.start.InRange) (stop : range.stop.InRange)
    (starts : fine.start = some range.start) (stops : fine.stop = some range.stop)
    (made : fine.groupColumns m = .ok columns) (made' : coarse.groupColumns m = .ok kept)
    (t : Tables Q) :
    (m.planSpanning coarse coarse.window range kept).labelled coarse.window range
        ((m.planSpanning fine fine.window range columns).selection.rows t) =
      ((m.planSpanning fine fine.window range columns).labelled fine.window range
        ((m.planSpanning fine fine.window range columns).selection.rows t)).map fun i =>
          (coarse.coarsen i.1, i.2) := by
  rw [Plan.labelled, Plan.labelled, List.map_filterMap]
  refine List.filterMap_congr fun r mem => ?_
  rw [Option.map_map]
  refine congrArg (Option.map · _) (funext fun x => Prod.ext ?_ rfl)
  have inside : r.time.InRange := by
    rw [rows_spanning, List.mem_filter] at mem
    exact inRange_of_holds start stop mem.2
  have text : (m.planSpanning coarse coarse.window range kept).groupText r =
      (m.planSpanning fine fine.window range columns).groupText r := by
    have customers : coarse.customers = fine.customers := by rw [h.alike]
    funext column
    cases column with
    | customer => simp only [Plan.groupText, Meter.planSpanning, customers]
    | _ => rfl
  rw [text]
  obtain ⟨groups, is, -⟩ := Row.about_eq (Query.endsAt fine.window range r.time).1
    (Query.endsAt fine.window range r.time).2 columns
    ((m.planSpanning fine fine.window range columns).groupText r)
  exact (h.coarsen_about made made' (h.coarsen_ends starts stops (shown_boundary inside) _
    (congrArg Row.start is))).symm

end Query.Coarser

/--
The rows of a query that gives both bounds, combined for the groups and the windows of a coarser query,
are the rows of the coarser query.
-/
theorem answer_coarser [ExactQuantity Q] {start stop : Instant}
    (combinable : m.aggregation.isCombinable = true) (finite : db.tables.Finite)
    (utc : Zone.request fine.zoneName = .ok .utc) (starts : fine.start = some start)
    (stops : fine.stop = some stop) (start_inRange : start.InRange) (stop_inRange : stop.InRange)
    (coarser : fine.Coarser coarse) (answered : c.answer db m fine = .ok rows) :
    ∃ rows', c.answer db m coarse = .ok rows' ∧ (coarse.rollUp m.aggregation rows).Perm rows' := by
  have numeric := isNumeric_of_isCombinable combinable
  have ordered := ordered_of_answer utc starts stops answered
  have utc' : Zone.request coarse.zoneName = .ok .utc := by rw [coarser.alike, utc]
  have starts' : coarse.start = some start := by rw [coarser.alike, starts]
  have stops' : coarse.stop = some stop := by rw [coarser.alike, stops]
  rw [answer_bounded utc starts stops, answer_spanning numeric utc ordered] at answered
  obtain ⟨columns, made, isOpen, readable, rfl⟩ := answered
  obtain ⟨kept, made', fewer⟩ := coarser.columns_ok made
  have selection := coarser.selection_eq m ⟨start, stop⟩ fine.window coarse.window columns kept
  have readable' := canRead_mono
    (coarser.planPaths_subset m ⟨start, stop⟩ fine.window coarse.window fewer) readable
  rw [← selection] at readable'
  rw [answer_bounded utc' starts' stops']
  refine ⟨_, (answer_spanning numeric utc' ordered).2 ⟨kept, made', isOpen, readable', rfl⟩, ?_⟩
  let range : Period := ⟨start, stop⟩
  have starts_within : range.start.InRange := start_inRange
  have stops_within : range.stop.InRange := stop_inRange
  have finer := scan_gather combinable finite starts_within stops_within fine fine.window columns
  have whole := scan_gather combinable finite starts_within stops_within coarse coarse.window kept
  rw [selection, coarser.labelled_eq starts_within stops_within starts stops (columns_ok.1 made).2.1
    (columns_ok.1 made').2.1] at whole
  have regrouped := gather_gather combinable coarse.coarsen
    ((m.planSpanning fine fine.window range columns).labelled fine.window range
      ((m.planSpanning fine fine.window range columns).selection.rows db.tables))
  exact ((gather_perm combinable (finer.map _)).trans regrouped).trans whole.symm

end RollUp

end Answers

/-- The minutes of calls. -/
def callMinutes : Meter where
  space := "shop"
  id := "minutes"
  slug := "minutes"
  aggregation := .sum
  eventType := "call"
  valuePath := some "$.n"
  dimensions := .ofList [("to", "$.to")]
  since := none
  progress := none

/-- Three calls in January, of which one has no length, and one in February. -/
def fourCalls : Database Fraction where
  tables := ⟨[⟨"shop", "1", "call", "till", "a", .ofDayNumber 0, "\x7b\"n\":2,\"to\":\"x\"\x7d", ⟨0⟩, ⟨0⟩⟩,
    ⟨"shop", "2", "call", "till", "a", .ofDayNumber 1, "\x7b\"n\":3,\"to\":\"y\"\x7d", ⟨0⟩, ⟨0⟩⟩,
    ⟨"shop", "3", "call", "till", "b", .ofDayNumber 1, "\x7b\"to\":\"x\"\x7d", ⟨0⟩, ⟨0⟩⟩,
    ⟨"shop", "4", "call", "till", "b", .ofDayNumber 31, "\x7b\"n\":5\x7d", ⟨0⟩, ⟨0⟩⟩], [], []⟩
  isOpen := true

/-- A query by day. The subject `b` belongs to two customers, of which the first counts. -/
def byDay : Query :=
  { Query.any with
    start := some (.ofDayNumber 0)
    stop := some (.ofDayNumber 59)
    window := some .day
    customers := [⟨"c", ["a", "b"]⟩, ⟨"d", ["b"]⟩]
    groupBy := ["subject", "to", "customer_id"] }

def byMonth : Query := { byDay with window := some .month, groupBy := ["customer_id"] }

def dailyRows : List (Row Fraction) :=
  [⟨some 2, .ofDayNumber 0, .ofDayNumber 1, some "a", some "c", .ofList [("to", some "x")]⟩,
    ⟨some 3, .ofDayNumber 1, .ofDayNumber 2, some "a", some "c", .ofList [("to", some "y")]⟩,
    ⟨some 5, .ofDayNumber 31, .ofDayNumber 32, some "b", some "c", .ofList [("to", none)]⟩]

theorem answer_byDay : (Compiler.mk .duckdb 8).answer fourCalls callMinutes byDay = .ok dailyRows := by
  have starts : byDay.start = some (.ofDayNumber 0) := rfl
  have stops : byDay.stop = some (.ofDayNumber 59) := rfl
  rw [answer_bounded rfl starts stops, answer_spanning rfl rfl (by decide)]
  refine ⟨[.subject, .dimension "to", .customer], rfl, rfl, by decide +kernel, ?_⟩
  rw [Scanner.scan, List.mergeSort_of_pairwise (by decide +kernel)]
  decide +kernel

theorem answer_byMonth : byMonth.rollUp .sum dailyRows =
      [⟨some 5, .ofDayNumber 0, .ofDayNumber 31, none, some "c", ∅⟩,
        ⟨some 5, .ofDayNumber 31, .ofDayNumber 59, none, some "c", ∅⟩] ∧
    ∃ rows, (Compiler.mk .duckdb 8).answer fourCalls callMinutes byMonth = .ok rows ∧
      (byMonth.rollUp .sum dailyRows).Perm rows := by
  have starts : byDay.start = some (.ofDayNumber 0) := rfl
  have stops : byDay.stop = some (.ofDayNumber 59) := rfl
  have coarser : byDay.Coarser byMonth := by
    refine ⟨rfl, by decide, ?_⟩
    show WindowSize.day.rank ≤ WindowSize.month.rank
    decide
  refine ⟨by decide +kernel, answer_coarser rfl ?_ rfl starts stops (by decide +kernel)
    (by decide +kernel) coarser answer_byDay⟩
  exact fun _ mem => absurd mem List.not_mem_nil

end Metering
