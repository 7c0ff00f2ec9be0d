import Metering.Proofs.Database.Import
import Metering.Proofs.Query.Groups
import Metering.Proofs.Quantity.Exact

/-!
Both tables answer alike. Once all events of a meter have been imported, a plan over the table of numbers
finds the same numbers in the same windows and groups as a plan over the events themselves
(`contributions_perm`), so it makes no difference which table a query is answered from
(`answers_agree`). The order in which values come up can make one, but without rounding only to the latest
of values at one time (`Aggregation.orderFree_of_exact`).
-/
namespace Metering

variable {Q : Type}

namespace Query

/-- The conditions that do not depend on the table. -/
def sharedConditions (q : Query) (m : Meter) : List Condition :=
  ((q.lowerBound m).map .notBefore).toList ++ (q.stop.map .before).toList ++ q.subjectCondition ++
    q.dimensionConditions m

theorem conditions_events (q : Query) (m : Meter) : q.conditions .events m =
    .space m.space :: .eventType m.eventType :: q.sharedConditions m := by
  simp [conditions, sharedConditions]

theorem conditions_numbers (q : Query) (m : Meter) : q.conditions .numbers m =
    .space m.space :: .meterId m.id :: q.sharedConditions m := by
  simp [conditions, sharedConditions]

theorem mem_sharedConditions {q : Query} {m : Meter} {c : Condition}
    (mem : c ∈ q.sharedConditions m) :
    (∃ t, c = .notBefore t) ∨ (∃ t, c = .before t) ∨ c = .never ∨
      (∃ subjects, c = .subjectIn subjects) ∨
      ∃ name path filter, c = .dimension name path filter ∧
        m.dimensions.get? name = some path := by
  rcases List.mem_append.1 mem with mem | mem
  · rcases List.mem_append.1 mem with mem | mem
    · rcases List.mem_append.1 mem with mem | mem
      · obtain ⟨t, -, rfl⟩ := Option.map_eq_some_iff.1 (Option.mem_toList.1 mem)
        exact .inl ⟨t, rfl⟩
      · obtain ⟨t, -, rfl⟩ := Option.map_eq_some_iff.1 (Option.mem_toList.1 mem)
        exact .inr (.inl ⟨t, rfl⟩)
    · unfold subjectCondition at mem
      split at mem
      · exact absurd mem List.not_mem_nil
      · split at mem
        · exact .inr (.inr (.inl (List.mem_singleton.1 mem)))
        · exact .inr (.inr (.inr (.inl ⟨_, List.mem_singleton.1 mem⟩)))
  · obtain ⟨⟨name, filter⟩, -, made⟩ := List.mem_filterMap.1 mem
    obtain ⟨path, known, rfl⟩ := Option.map_eq_some_iff.1 made
    exact .inr (.inr (.inr (.inr ⟨name, path, filter, rfl, known⟩)))

end Query

/-- A row of the table of numbers stands for an event of a meter. -/
structure StandsFor (m : Meter) (e : Event) (row : Entry Q) : Prop where
  space : row.space = e.space
  meterId : row.meterId = m.id
  subject : row.subject = e.subject
  time : row.time = e.time
  dimensions : row.dimensions = ChunkImport.dimensionTexts m (Json.Tree.read? e.data)

namespace StandsFor

variable {m : Meter} {e : Event} {row : Entry Q}

/-- A dimension that is missing, null or empty in the data has no text in either table. -/
theorem text_eq (h : StandsFor m e row) {name path : String}
    (known : m.dimensions.get? name = some path) :
    (TableRow.ofEntry row).text name (Condition.selectors path) =
      (TableRow.ofEvent e : TableRow Q).text name (Condition.selectors path) := by
  simp only [TableRow.ofEntry, TableRow.ofEvent, h.dimensions, ChunkImport.dimensionTexts,
    KeyMap.get?_filterMap, known, Option.bind_some]

theorem holds_eq (h : StandsFor m e row) (q : Query) {c : Condition}
    (mem : c ∈ q.sharedConditions m) :
    c.holds (TableRow.ofEntry row) = c.holds (TableRow.ofEvent e : TableRow Q) := by
  rcases Query.mem_sharedConditions mem with ⟨t, rfl⟩ | ⟨t, rfl⟩ | rfl | ⟨subjects, rfl⟩ |
    ⟨name, path, filter, rfl, known⟩
  · show decide (t.microsecondStart ≤ row.time) = decide (t.microsecondStart ≤ e.time)
    rw [h.time]
  · show decide (row.time < t.microsecondStart) = decide (e.time < t.microsecondStart)
    rw [h.time]
  · rfl
  · show subjects.contains row.subject = subjects.contains e.subject
    rw [h.subject]
  · rw [Condition.holds, Condition.holds, h.text_eq known]

theorem all_holds_eq (h : StandsFor m e row) (q : Query) :
    (q.sharedConditions m).all (Condition.holds (TableRow.ofEntry row)) =
      (q.sharedConditions m).all (Condition.holds (TableRow.ofEvent e : TableRow Q)) := by
  rw [Bool.eq_iff_iff, List.all_eq_true, List.all_eq_true]
  constructor
  · intro all c mem
    rw [← h.holds_eq q mem]
    exact all c mem
  · intro all c mem
    rw [h.holds_eq q mem]
    exact all c mem

theorem groupText_eq (h : StandsFor m e row) {p : Plan} (same : p.meter = m)
    (column : GroupColumn) :
    p.groupText (TableRow.ofEntry row) column =
      p.groupText (TableRow.ofEvent e : TableRow Q) column := by
  cases column with
  | subject =>
    show nonEmpty (some row.subject) = nonEmpty (some e.subject)
    rw [h.subject]
  | customer =>
    show customerOf? p.customers row.subject = customerOf? p.customers e.subject
    rw [h.subject]
  | dimension name =>
    rw [Plan.groupText, Plan.groupText, same]
    cases known : m.dimensions.get? name with
    | none => rfl
    | some path => exact h.text_eq known

end StandsFor

/-- The plan of a query over one of the tables. -/
def planOver (q : Query) (m : Meter) (windowing : Windowing) (columns : List GroupColumn)
    (source : Source) : Plan :=
  ⟨m, ⟨source, q.conditions source m⟩, windowing, columns, q.customers⟩

variable {q : Query} {m : Meter} {windowing : Windowing} {columns : List GroupColumn}

theorem mem_eventsOf_of_candidate {t : Tables Q} {r : TableRow Q}
    (mem : r ∈ (planOver q m windowing columns .events).selection.candidates t) :
    ∃ e ∈ t.eventsOf m, r = TableRow.ofEvent e := by
  obtain ⟨among, holds⟩ := List.mem_filter.1 mem
  obtain ⟨e, he, rfl⟩ := List.mem_map.1 among
  have shown : (planOver q m windowing columns .events).selection.conditions =
      q.conditions .events m := rfl
  rw [shown, Query.conditions_events] at holds
  have both := List.all_eq_true.1 holds
  have space := both (.space m.space) (by simp [Condition.readsData])
  have type := both (.eventType m.eventType) (by simp [Condition.readsData])
  refine ⟨e, List.mem_filter.2 ⟨he, ?_⟩, rfl⟩
  exact Bool.and_eq_true_iff.2 ⟨space, type⟩

/-- The latest reading stays one of the readings, and none is later. -/
theorem foldl_latest_spec (rest : List (Reading Q)) (first : Reading Q) :
    rest.foldl (fun latest v => if latest.1 < v.1 then v else latest) first ∈ first :: rest ∧
      ∀ v ∈ first :: rest,
        v.1 ≤ (rest.foldl (fun latest v => if latest.1 < v.1 then v else latest) first).1 := by
  induction rest generalizing first with
  | nil => exact ⟨List.mem_cons_self, by simp [Instant.le_iff]⟩
  | cons w rest ih =>
    rw [List.foldl_cons]
    by_cases later : first.1 < w.1
    · rw [if_pos later]
      obtain ⟨mem, last⟩ := ih w
      refine ⟨List.mem_cons_of_mem _ mem, fun v hv => ?_⟩
      rcases List.mem_cons.1 hv with rfl | hv
      · exact Int.le_trans (Int.le_of_lt later) (last w List.mem_cons_self)
      · exact last v hv
    · rw [if_neg later]
      obtain ⟨mem, last⟩ := ih first
      constructor
      · rcases List.mem_cons.1 mem with same | mem
        · exact List.mem_cons.2 (.inl same)
        · exact List.mem_cons_of_mem _ (List.mem_cons_of_mem _ mem)
      · intro v hv
        rcases List.mem_cons.1 hv with rfl | hv
        · exact last v List.mem_cons_self
        rcases List.mem_cons.1 hv with rfl | hv
        · exact Int.le_trans (Int.not_lt.1 later) (last first List.mem_cons_self)
        · exact last v (List.mem_cons_of_mem _ hv)

variable [Quantity Q]

/-- The import takes an event's number from where a query finds it. -/
theorem Meter.imported?_eq_some {m : Meter} {e : Event} {row : Entry Q}
    (h : m.imported? e = some row) : StandsFor m e row ∧
      (TableRow.ofEvent e : TableRow Q).value? m = some row.value := by
  simp only [Meter.imported?, ChunkImport.measure?, Option.bind_eq_bind, Option.bind_eq_some_iff,
    Option.pure_def, Option.some.injEq] at h
  obtain ⟨c, made, x, is, rfl⟩ := h
  refine ⟨⟨rfl, rfl, rfl, rfl, rfl⟩, ?_⟩
  rw [TableRow.value?, made]
  exact is

theorem Meter.imported?_eq_none {m : Meter} {e : Event}
    (h : (m.imported? e : Option (Entry Q)) = none) :
    (TableRow.ofEvent e : TableRow Q).value? m = none := by
  cases made : (TableRow.ofEvent e : TableRow Q).contribution? m with
  | none => rw [TableRow.value?, made, Option.bind_none]
  | some c =>
    cases is : c.number? with
    | none => rw [TableRow.value?, made, Option.bind_some, is]
    | some x => simp [Meter.imported?, ChunkImport.measure?, made, is] at h

/-- The numbers that count for a plan, each with its window and its group. -/
def Plan.contributions (p : Plan) (t : Tables Q) : List (GroupKey × Reading Q) :=
  p.windowing.keyed (p.points (p.selection.rows t))

theorem points_events (t : Tables Q) :
    (planOver q m windowing columns .events).points
        ((planOver q m windowing columns .events).selection.rows t) =
      (t.eventsOf m).filterMap fun e =>
        if (q.sharedConditions m).all (Condition.holds (TableRow.ofEvent e : TableRow Q)) then
          ((TableRow.ofEvent e : TableRow Q).value? m).map fun x =>
            ((planOver q m windowing columns .events).groupTexts (TableRow.ofEvent e : TableRow Q),
              (e.time, x))
        else none := by
  have rows : (planOver q m windowing columns .events).selection.rows t =
      (t.events.filter fun e => (q.conditions .events m).all
        (Condition.holds (TableRow.ofEvent e : TableRow Q))).map TableRow.ofEvent := by
    show ((t.events.map TableRow.ofEvent).filter _) = _
    rw [List.filter_map]
    rfl
  rw [rows, Plan.points, List.filterMap_map, Tables.eventsOf, List.filterMap_filter,
    List.filterMap_filter]
  refine List.filterMap_congr fun e _ => ?_
  rw [Query.conditions_events, List.all_cons, List.all_cons, ← Bool.and_assoc]
  have covers : (Condition.holds (TableRow.ofEvent e : TableRow Q) (.space m.space) &&
      Condition.holds (TableRow.ofEvent e : TableRow Q) (.eventType m.eventType)) =
        m.covers e.space e.type := rfl
  rw [covers]
  cases m.covers e.space e.type with
  | false => rfl
  | true => rfl

theorem points_numbers (t : Tables Q) :
    (planOver q m windowing columns .numbers).points
        ((planOver q m windowing columns .numbers).selection.rows t) =
      (t.numbersOf m).filterMap fun row =>
        if (q.sharedConditions m).all (Condition.holds (TableRow.ofEntry row)) then
          some ((planOver q m windowing columns .numbers).groupTexts (TableRow.ofEntry row),
            (row.time, row.value))
        else none := by
  have rows : (planOver q m windowing columns .numbers).selection.rows t =
      (t.numbers.filter fun row => (q.conditions .numbers m).all
        (Condition.holds (TableRow.ofEntry row))).map TableRow.ofEntry := by
    show ((t.numbers.map TableRow.ofEntry).filter _) = _
    rw [List.filter_map]
    rfl
  rw [rows, Plan.points, List.filterMap_map, Tables.numbersOf, List.filterMap_filter,
    List.filterMap_filter]
  refine List.filterMap_congr fun row _ => ?_
  rw [Query.conditions_numbers, List.all_cons, List.all_cons, ← Bool.and_assoc]
  have own : (Condition.holds (TableRow.ofEntry row) (.space m.space) &&
      Condition.holds (TableRow.ofEntry row) (.meterId m.id)) = row.isOf m := rfl
  rw [own]
  cases row.isOf m with
  | false => rfl
  | true => rfl

/-- Once all events have been imported, both plans see the same numbers in the same places. -/
theorem contributions_perm {t : Tables Q}
    (filled : (t.numbersOf m).Perm ((t.eventsOf m).filterMap m.imported?)) :
    ((planOver q m windowing columns .events).contributions t).Perm
      ((planOver q m windowing columns .numbers).contributions t) := by
  refine List.Perm.flatMap_right _ ?_
  rw [points_events, points_numbers]
  refine List.Perm.trans ?_ (filled.filterMap _).symm
  rw [List.filterMap_filterMap]
  refine List.Perm.of_eq (List.filterMap_congr fun e _ => ?_)
  cases made : (m.imported? e : Option (Entry Q)) with
  | none =>
    rw [Meter.imported?_eq_none made]
    simp
  | some row =>
    obtain ⟨stands, value⟩ := Meter.imported?_eq_some made
    have texts : (planOver q m windowing columns .numbers).groupTexts (TableRow.ofEntry row) =
        (planOver q m windowing columns .events).groupTexts (TableRow.ofEvent e : TableRow Q) :=
      List.map_congr_left fun column _ => stands.groupText_eq
        (show (planOver q m windowing columns .numbers).meter = m from rfl) column
    rw [value, Option.bind_some, stands.all_holds_eq q, texts, stands.time]
    rfl

theorem window_of_make {d : Dialect} {z : Zone} (made : Windowing.make d m q z = .ok windowing)
    {t : Instant} (whole : none ∈ windowing.windowsOf t) : q.window = none := by
  rcases Windowing.make_cases made with ⟨none, -⟩ | ⟨size, -, rfl | ⟨windows, -, rfl⟩⟩
  · exact none
  · exact absurd whole (by simp [Windowing.windowsOf])
  · exact absurd whole (by simp [Windowing.windowsOf])

/-- A query is planned over both tables or over none. -/
theorem planFrom_cases (c : Compiler) (q : Query) (numeric : m.aggregation.isNumeric = true) :
    (∃ e, ∀ source, c.planFrom source m q = .error e) ∨ ∃ windowing columns,
      (∀ t, none ∈ windowing.windowsOf t → q.window = none) ∧
        ∀ source, c.planFrom source m q = .ok (planOver q m windowing columns source) := by
  unfold Compiler.planFrom
  simp only [numeric, not_true_eq_false, and_false, if_false, bind, Except.bind, pure, Except.pure]
  cases m.validate with
  | error e => exact .inl ⟨e, fun _ => rfl⟩
  | ok _ =>
  cases Zone.request q.zoneName with
  | error e => exact .inl ⟨e, fun _ => rfl⟩
  | ok z =>
  cases q.validateRange with
  | error e => exact .inl ⟨e, fun _ => rfl⟩
  | ok _ =>
  cases q.groupColumns m with
  | error e => exact .inl ⟨e, fun _ => rfl⟩
  | ok columns =>
  cases q.validateFilters m c.maxDepth with
  | error e => exact .inl ⟨e, fun _ => rfl⟩
  | ok _ =>
  cases made : Windowing.make c.dialect m q z with
  | error e => exact .inl ⟨e, fun _ => by simp only [made]⟩
  | ok windowing =>
    refine .inr ⟨windowing, columns, fun t whole => window_of_make made whole, fun _ => ?_⟩
    simp only [made]
    rfl

theorem mem_importPaths {path : String}
    (mem : path ∈ Database.planPaths (planOver q m windowing columns .events)) :
    path ∈ importPaths m := by
  rcases List.mem_append.1 mem with mem | mem
  · rcases List.mem_append.1 mem with mem | mem
    · exact List.mem_append.2 (.inl mem)
    · obtain ⟨column, -, mem⟩ := List.mem_flatMap.1 mem
      cases column with
      | dimension name => exact dimension_mem_importPaths (Option.mem_toList.1 mem)
      | _ => exact absurd mem List.not_mem_nil
  · obtain ⟨condition, among, mem⟩ := List.mem_flatMap.1 mem
    rw [show (planOver q m windowing columns .events).selection.conditions =
      q.conditions .events m from rfl, Query.conditions_events] at among
    rcases List.mem_cons.1 among with rfl | among
    · exact absurd mem List.not_mem_nil
    rcases List.mem_cons.1 among with rfl | among
    · exact absurd mem List.not_mem_nil
    rcases Query.mem_sharedConditions among with ⟨t, rfl⟩ | ⟨t, rfl⟩ | rfl | ⟨subjects, rfl⟩ |
      ⟨name, path', filter, rfl, known⟩
    · exact absurd mem List.not_mem_nil
    · exact absurd mem List.not_mem_nil
    · exact absurd mem List.not_mem_nil
    · exact absurd mem List.not_mem_nil
    · obtain rfl := List.mem_singleton.1 mem
      exact dimension_mem_importPaths known

/-- The numbers of a meter have been filled by imports of chunks that cover all of its events. -/
structure Filled (m : Meter) (cutover : Instant) (chunks : List Period) (before after : Database Q) :
    Prop where
  done : before.importAll m cutover chunks = (.ok (), after)
  /-- At least one import took place. -/
  some : chunks ≠ []
  covered : ∀ e ∈ before.tables.eventsOf m, e.storedAt < cutover.microsecondStart ∧
    Database.inSome m cutover chunks e.storedAt = true
  /-- Rows that were there already are replaced. -/
  replaced : ∀ row ∈ before.tables.numbersOf m,
    Database.inSome m cutover chunks row.storedAt = true

namespace Filled

variable {cutover : Instant} {chunks : List Period} {before after : Database Q}

theorem isOpen (h : Filled m cutover chunks before after) : after.isOpen = true := by
  obtain ⟨chunk, mem⟩ := List.exists_mem_of_ne_nil _ h.some
  exact (Database.canImport_of_importAll h.done chunk mem).1

theorem eventsOf (h : Filled m cutover chunks before after) :
    after.tables.eventsOf m = before.tables.eventsOf m := by
  rw [Tables.eventsOf, (Database.importAll_spec h.done).2.1]
  rfl

theorem numbersOf (h : Filled m cutover chunks before after) :
    (after.tables.numbersOf m).Perm ((after.tables.eventsOf m).filterMap m.imported?) := by
  obtain ⟨-, -, numbers⟩ := Database.importAll_spec h.done
  have none : ((before.tables.numbersOf m).filter fun e =>
      !Database.inSome m cutover chunks e.storedAt) = [] :=
    List.filter_eq_nil_iff.2 fun row mem => by simp [h.replaced row mem]
  have all : ((before.tables.eventsOf m).filter fun e =>
      Database.inSome m cutover chunks e.storedAt && e.storedAt < cutover.microsecondStart) =
        before.tables.eventsOf m :=
    List.filter_eq_self.2 fun e mem => by simp [(h.covered e mem).1, (h.covered e mem).2]
  rw [none, all, List.nil_append] at numbers
  rw [h.eventsOf]
  exact numbers

/-- The imports have read along all paths and in all data that a query may read. -/
theorem canImport (h : Filled m cutover chunks before after) (follows : importPaths m ≠ []) :
    Database.arePaths (importPaths m) = true ∧
      ∀ e ∈ after.tables.eventsOf m, (TableRow.ofEvent e : TableRow Q).isReadable = true := by
  have able : ∀ chunk ∈ chunks, Database.arePaths (importPaths m) = true ∧
      ((after.tables.events.filter (ChunkImport.mk m chunk cutover).selects).map
        TableRow.ofEvent).all (TableRow.isReadable (Q := Q)) = true := by
    intro chunk mem
    have read : Database.canRead (importPaths m) ((after.tables.events.filter
        (ChunkImport.mk m chunk cutover).selects).map TableRow.ofEvent) = true :=
      (Database.canImport_of_importAll h.done chunk mem).2
    rw [Database.canRead, Bool.or_eq_true, Bool.and_eq_true, List.isEmpty_iff] at read
    exact read.resolve_left follows
  obtain ⟨chunk, mem⟩ := List.exists_mem_of_ne_nil _ h.some
  refine ⟨(able chunk mem).1, fun e he => ?_⟩
  obtain ⟨early, inside⟩ := h.covered e (h.eventsOf ▸ he)
  obtain ⟨chunk, mem, holds⟩ := List.any_eq_true.1 inside
  have selected : (ChunkImport.mk m chunk cutover).selects e = true :=
    ChunkImport.selects_iff.2 ⟨(List.mem_filter.1 he).2, holds, early⟩
  refine List.all_eq_true.1 (able chunk mem).2 _ (List.mem_map.2 ⟨e, ?_, rfl⟩)
  exact List.mem_filter.2 ⟨(List.mem_filter.1 he).1, selected⟩

theorem fetch_events (h : Filled m cutover chunks before after) :
    after.fetch (.rows (planOver q m windowing columns .events)) =
      .ok ((planOver q m windowing columns .events).evaluate after.tables) := by
  have readable : Database.canRead (Database.planPaths (planOver q m windowing columns .events))
      ((planOver q m windowing columns .events).selection.candidates after.tables) = true := by
    rw [Database.canRead, Bool.or_eq_true, Bool.and_eq_true, List.isEmpty_iff]
    by_cases none : Database.planPaths (planOver q m windowing columns .events) = []
    · exact .inl none
    · obtain ⟨path, mem⟩ := List.exists_mem_of_ne_nil _ none
      obtain ⟨paths, rows⟩ := h.canImport (List.ne_nil_of_mem (mem_importPaths mem))
      refine .inr ⟨List.all_eq_true.2 fun path mem => ?_, List.all_eq_true.2 fun r mem => ?_⟩
      · exact List.all_eq_true.1 paths path (mem_importPaths mem)
      · obtain ⟨e, he, rfl⟩ := mem_eventsOf_of_candidate mem
        exact rows e he
  rw [Database.fetch, Database.answerIf, Database.whenOpen, if_pos h.isOpen, if_pos readable]

theorem fetch_numbers (h : Filled m cutover chunks before after) :
    after.fetch (.rows (planOver q m windowing columns .numbers)) =
      .ok ((planOver q m windowing columns .numbers).evaluate after.tables) := by
  rw [Database.fetch, Database.answerIf, Database.whenOpen, if_pos h.isOpen]
  rfl

end Filled

namespace Aggregation

/-- The order of some readings makes no difference to their result. -/
def OrderFree (a : Aggregation) (readings : List (Reading Q)) : Prop :=
  ∀ others, readings.Perm others → a.resultOf? readings = a.resultOf? others

theorem resultOf?_count (readings : List (Reading Q)) : Aggregation.count.resultOf? readings =
    if readings.isEmpty then none else some (Quantity.ofNat readings.length) := by
  simp only [resultOf?, result?, List.isEmpty_map, List.length_map]

/-- Counting is counting. -/
theorem orderFree_count (readings : List (Reading Q)) : OrderFree .count readings := by
  intro others perm
  have empty : readings.isEmpty = others.isEmpty := by
    rw [Bool.eq_iff_iff, List.isEmpty_iff_length_eq_zero, List.isEmpty_iff_length_eq_zero,
      perm.length_eq]
  rw [resultOf?_count, resultOf?_count, empty, perm.length_eq]

/-- Of readings at different times one is the latest, in whichever order they come. -/
theorem orderFree_latest {readings : List (Reading Q)} (distinct : (readings.map Prod.fst).Nodup) :
    OrderFree .latest readings := by
  intro others perm
  have shown (list : List (Reading Q)) :
      Aggregation.latest.resultOf? list = latestOf list := by
    rw [resultOf?, result?, latest_readings]
  rw [shown, shown]
  cases readings with
  | nil => rw [perm.nil_eq]
  | cons first rest =>
    cases others with
    | nil => exact absurd perm.symm.nil_eq (by simp)
    | cons first' rest' =>
      obtain ⟨mem, last⟩ := foldl_latest_spec rest first
      obtain ⟨mem', last'⟩ := foldl_latest_spec rest' first'
      have same := Int.le_antisymm (last' _ (perm.mem_iff.1 mem)) (last _ (perm.mem_iff.2 mem'))
      rw [latestOf, latestOf]
      exact congrArg (fun v : Reading Q => some v.2) (List.inj_on_of_nodup_map distinct mem
        (perm.mem_iff.2 mem') (congrArg Instant.mk same))

section Exact

variable [ExactQuantity Q]

theorem orderFree_of_combinable {a : Aggregation} (combinable : a.isCombinable = true)
    (readings : List (Reading Q)) : a.OrderFree readings := by
  intro others perm
  rw [resultOf?_eq_total combinable, resultOf?_eq_total combinable]
  exact total_perm combinable (perm.map _)

/-- The mean is a share of the sum, which the order leaves alone. -/
theorem orderFree_average (readings : List (Reading Q)) : OrderFree .average readings := by
  intro others perm
  have shown (list : List (Reading Q)) : Aggregation.average.resultOf? list =
      (Aggregation.sum.resultOf? list).map fun x => Quantity.share x list.length := by
    rw [resultOf?, resultOf?, result?, result?, numbers_readings, List.length_map]
    cases list <;> rfl
  rw [shown, shown, orderFree_of_combinable rfl readings others perm, perm.length_eq]

/--
Without rounding no result depends on the order of its values, that of `latest` as long as the values
have different times.
-/
theorem orderFree_of_exact {a : Aggregation} (numeric : a.isNumeric = true)
    {readings : List (Reading Q)} (distinct : a = .latest → (readings.map Prod.fst).Nodup) :
    a.OrderFree readings := by
  cases a with
  | sum | count | minimum | maximum => exact orderFree_of_combinable rfl readings
  | average => exact orderFree_average readings
  | latest => exact orderFree_latest (distinct rfl)
  | uniqueCount => cases numeric

end Exact

end Aggregation

/--
The answers from the two tables. Either the query has the same fault over both, or both answers have one
row for each window and group in which an event has a value, with the same ends, subject, customer and
dimensions, and each row is aggregated from the same values. The answers differ in nothing but their
order if no result depends on the order of its values.
-/
theorem answers_agree {c : Compiler} {cutover : Instant} {chunks : List Period}
    {before after : Database Q} (numeric : m.aggregation ≠ .uniqueCount)
    (bounded : q.window.isSome ∨ q.start.isSome ∧ q.stop.isSome)
    (filled : Filled m cutover chunks before after) :
    (∃ e, c.answerFrom after .events m q = .error e ∧
        c.answerFrom after .numbers m q = .error e) ∨
      ∃ columns windowing fromEvents fromNumbers,
        (∀ source, c.planFrom source m q = .ok (planOver q m windowing columns source)) ∧
        c.answerFrom after .events m q = .ok fromEvents ∧
        c.answerFrom after .numbers m q = .ok fromNumbers ∧
        ∃ left right : List (GroupKey × Reading Q), left.Perm right ∧
          left = (planOver q m windowing columns .events).contributions after.tables ∧
          right = (planOver q m windowing columns .numbers).contributions after.tables ∧
          fromEvents.Perm ((keysOf left).filterMap fun key =>
            (Scanner.ofQuery q columns).rowOf? m.aggregation key (valuesAt key left)) ∧
          fromNumbers.Perm ((keysOf left).filterMap fun key =>
            (Scanner.ofQuery q columns).rowOf? m.aggregation key (valuesAt key right)) ∧
          ((∀ key ∈ keysOf left, m.aggregation.OrderFree (valuesAt key left)) →
            fromEvents.Perm fromNumbers) := by
  have isNumeric : m.aggregation.isNumeric = true := by
    cases h : m.aggregation <;> first | rfl | exact absurd h numeric
  rcases planFrom_cases c q isNumeric with ⟨e, fault⟩ | ⟨windowing, columns, whole, plan⟩
  · exact .inl ⟨e, by rw [Compiler.answerFrom, fault], by rw [Compiler.answerFrom, fault]⟩
  · have scanned : ∀ t, none ∈ windowing.windowsOf t → (Scanner.ofQuery q columns).Bounded := by
      intro t mem
      have none := whole t mem
      have both := bounded.resolve_left (by simp [none])
      exact ⟨none, both.1, both.2⟩
    let scan := fun source => (Scanner.ofQuery q columns).scan
      ((planOver q m windowing columns source).evaluate after.tables)
    have perm : ((planOver q m windowing columns .events).contributions after.tables).Perm
        ((planOver q m windowing columns .numbers).contributions after.tables) :=
      contributions_perm filled.numbersOf
    have left := scan_perm (p := planOver q m windowing columns .events) isNumeric scanned
      ((planOver q m windowing columns .events).selection.rows after.tables)
    have right := (scan_perm (p := planOver q m windowing columns .numbers) isNumeric scanned
      ((planOver q m windowing columns .numbers).selection.rows after.tables)).trans
        ((keysOf_perm perm).filterMap _).symm
    refine .inr ⟨columns, windowing, scan .events, scan .numbers, plan, ?_, ?_, _, _, perm,
      rfl, rfl, left, right, ?_⟩
    · rw [Compiler.answerFrom, plan]
      simp only [filled.fetch_events]
      rfl
    · rw [Compiler.answerFrom, plan]
      simp only [filled.fetch_numbers]
      rfl
    · intro free
      refine left.trans (List.Perm.trans (List.Perm.of_eq ?_) right.symm)
      refine List.filterMap_congr fun key mem => ?_
      have result := free key mem _ (valuesAt_perm perm key)
      exact congrArg (fun value => (Scanner.ofQuery q columns).scanRow?
        ⟨some (key.1.getD (0, 0)).1, some (key.1.getD (0, 0)).2, value, key.2⟩) result

/-- A meter that counts calls, by path. -/
def callCount : Meter where
  space := "shop"
  id := "calls"
  slug := "calls"
  aggregation := .count
  eventType := "call"
  valuePath := none
  dimensions := .ofList [("path", "$.path")]
  since := none
  progress := none

/-- One call, stored within the first minute. -/
def oneCall : Database Float where
  tables := ⟨[⟨"shop", "1", "call", "till", "a", ⟨5000⟩, "\x7b\"path\": \"/\"\x7d", ⟨6000⟩, ⟨7000⟩⟩],
    [], []⟩
  isOpen := true

def firstMinute : Period := ⟨⟨0⟩, ⟨60000000000⟩⟩

/-- The numbers of calls by path and hour. -/
def callsByPath : Query := { Query.any with window := some .hour, groupBy := ["path"] }

theorem answers_agree_on_calls :
    ∃ after, Filled callCount firstMinute.stop [firstMinute] oneCall after ∧
      ∃ fromEvents fromNumbers,
        (Compiler.mk .duckdb 8).answerFrom after .events callCount callsByPath = .ok fromEvents ∧
        (Compiler.mk .duckdb 8).answerFrom after .numbers callCount callsByPath = .ok fromNumbers ∧
        fromEvents.Perm fromNumbers := by
  let after := (oneCall.importAll callCount firstMinute.stop [firstMinute]).2
  have imported : (oneCall.importAll callCount firstMinute.stop [firstMinute]).1 = .ok () := by
    decide +kernel
  have filled : Filled callCount firstMinute.stop [firstMinute] oneCall after := by
    constructor
    · rw [← imported]
    · exact List.cons_ne_nil _ _
    · decide +kernel
    · intro row mem
      exact absurd mem List.not_mem_nil
  have answered : ((Compiler.mk .duckdb 8).answerFrom after .numbers callCount
      callsByPath).isOk = true := by decide +kernel
  refine ⟨after, filled, ?_⟩
  rcases answers_agree (c := .mk .duckdb 8) (q := callsByPath) (by decide) (.inl rfl) filled with
    ⟨e, -, fault⟩ | ⟨columns, windowing, fromEvents, fromNumbers, -, left, right, _, _, -, -, -, -,
      -, agree⟩
  · rw [fault] at answered
    exact absurd answered (by simp [Except.isOk, Except.toBool])
  · exact ⟨fromEvents, fromNumbers, left, right,
      agree fun _ _ => Aggregation.orderFree_count _⟩

end Metering
