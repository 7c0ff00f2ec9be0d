import Metering.Proofs.Query.Reordered
import Metering.Proofs.Query.Sources

/-!
Queries that can stand for each other. They may name groups, subjects and customers in another order and
more than once, and their meters may differ in what the queries do not look at; their rows over a range
of events are the same (`Interchangeable.answerFrom_iff`).
-/
namespace Metering

/-- What a query reads and shows of a meter is what another query reads and shows of another. -/
structure Interchangeable (m m' : Meter) (q q' : Query) : Prop where
  space : m'.space = m.space
  aggregation : m'.aggregation = m.aggregation
  eventType : m'.eventType = m.eventType
  valuePath : m'.valuePath = m.valuePath
  since : m'.since = m.since
  zone : Zone.request q'.zoneName = Zone.request q.zoneName
  groups : ∀ name, name ∈ q'.groupBy ↔ name ∈ q.groupBy
  grouped : ∀ name ∈ q.groupBy, m'.dimensions.get? name = m.dimensions.get? name
  filters : q'.filters = q.filters
  filtered : ∀ f ∈ q.filters.toList, m'.dimensions.get? f.1 = m.dimensions.get? f.1
  subjects : q'.subjectCondition = q.subjectCondition
  customers : q'.customers.isEmpty = q.customers.isEmpty
  owners : Meter.customerDimension ∈ q.groupBy →
    ∀ subject, customerOf? q'.customers subject = customerOf? q.customers subject

theorem forM_congr {ε α : Type} {f g : α → Except ε Unit} {l : List α}
    (same : ∀ x ∈ l, f x = g x) : l.forM f = l.forM g := by
  induction l with
  | nil => rfl
  | cons x l ih =>
    rw [List.forall_mem_cons] at same
    rw [List.forM, List.forM, same.1, ih same.2]

section Planning

variable {c : Compiler} {m : Meter} {q : Query} {p : Plan}

/-- When a query has a plan over the events, and which. -/
theorem planFrom_events : c.planFrom .events m q = .ok p ↔
    m.validate = .ok () ∧ ∃ z columns windowing, Zone.request q.zoneName = .ok z ∧
      q.validateRange = .ok () ∧ q.groupColumns m = .ok columns ∧
      q.validateFilters m c.maxDepth = .ok () ∧ Windowing.make c.dialect m q z = .ok windowing ∧
      p = planOver q m windowing columns .events := by
  rw [Compiler.planFrom_eq_ok]
  exact and_congr_right fun _ => and_iff_right nofun

end Planning

namespace Interchangeable

variable {m m' : Meter} {q q' : Query} (h : Interchangeable m m' q q')
include h

theorem symm : Interchangeable m' m q' q where
  space := h.space.symm
  aggregation := h.aggregation.symm
  eventType := h.eventType.symm
  valuePath := h.valuePath.symm
  since := h.since.symm
  zone := h.zone.symm
  groups name := (h.groups name).symm
  grouped name mem := (h.grouped name ((h.groups name).1 mem)).symm
  filters := h.filters.symm
  filtered f mem := (h.filtered f (h.filters ▸ mem)).symm
  subjects := h.subjects.symm
  customers := h.customers.symm
  owners mem subject := (h.owners ((h.groups _).1 mem) subject).symm

variable {window : WindowSize} {range : Period} {columns : List GroupColumn}

theorem conditions : (q'.spanning (some window) range).conditions .events m' =
    (q.spanning (some window) range).conditions .events m := by
  have subjects : (q'.spanning (some window) range).subjectCondition =
      (q.spanning (some window) range).subjectCondition := h.subjects
  have dimensions : (q'.spanning (some window) range).dimensionConditions m' =
      (q.spanning (some window) range).dimensionConditions m := by
    simp only [Query.dimensionConditions, Query.spanning, h.filters]
    exact List.filterMap_congr fun f mem => by rw [h.filtered f mem]
  have lower : (q'.spanning (some window) range).lowerBound m' =
      (q.spanning (some window) range).lowerBound m := by
    simp only [Query.lowerBound, Query.spanning, h.since]
  rw [Query.conditions_events, Query.conditions_events, Query.sharedConditions,
    Query.sharedConditions, h.space, h.eventType, subjects, dimensions, lower]
  rfl

theorem windowing (d : Dialect) (z : Zone) :
    Windowing.make d m' (q'.spanning (some window) range) z =
      Windowing.make d m (q.spanning (some window) range) z := by
  simp only [Windowing.make, Query.spanning, Query.lowerBound, h.since]

theorem groupColumns (made : q.groupColumns m = .ok columns) :
    ∃ columns', q'.groupColumns m' = .ok columns' ∧ ∀ column, column ∈ columns' ↔ column ∈ columns := by
  have own (name : String) (mem : name ∈ q'.groupBy) :
      q'.groupColumn m' name = .ok (.ofName name) := by
    have mem := (h.groups name).1 mem
    have one := (Query.groupColumns_ok.1 made).1 name mem
    have known : m'.dimensions.contains name = m.dimensions.contains name :=
      congrArg Option.isSome (h.grouped name mem)
    rw [← one, Query.groupColumn, Query.groupColumn, h.customers, known]
  have made' := Query.groupColumns_ok.2 ⟨own, rfl⟩
  refine ⟨_, made', fun column => ?_⟩
  simp only [Query.mem_columns made', Query.mem_columns made, h.groups]

theorem validateFilters (maxDepth : Nat) :
    q'.validateFilters m' maxDepth = q.validateFilters m maxDepth := by
  simp only [Query.validateFilters, h.filters]
  refine forM_congr fun f mem => ?_
  have known : m'.dimensions.contains f.1 = m.dimensions.contains f.1 :=
    congrArg Option.isSome (h.filtered f mem)
  rw [known]

variable {columns' : List GroupColumn}

theorem reorders {Q : Type} (made : q.groupColumns m = .ok columns)
    (same : ∀ column, column ∈ columns' ↔ column ∈ columns) (w : Windowing) :
    Plan.Reorders (Q := Q) (planOver (q.spanning (some window) range) m w columns .events)
      (planOver (q'.spanning (some window) range) m' w columns' .events) where
  selection := congrArg (Selection.mk .events) h.conditions
  windowing := rfl
  aggregation := h.aggregation
  valuePath := h.valuePath
  columns := same
  texts column mem r := by
    cases column with
    | subject => rfl
    | customer => exact h.owners ((Query.customer_mem_columns made).1 mem) r.subject
    | dimension name =>
      have known := h.grouped name ((Query.dimension_mem_columns made).1 mem).1
      exact congrArg (Option.bind · _) known

theorem planPaths_subset (made : q.groupColumns m = .ok columns)
    (same : ∀ column, column ∈ columns' ↔ column ∈ columns) (w : Windowing) :
    Database.planPaths (planOver (q'.spanning (some window) range) m' w columns' .events) ⊆
      Database.planPaths (planOver (q.spanning (some window) range) m w columns .events) := by
  have values : Database.valuePaths m' = Database.valuePaths m := by
    rw [Database.valuePaths, Database.valuePaths, h.aggregation, h.valuePath]
  have along : columns'.flatMap (Database.columnPaths m') ⊆
      columns.flatMap (Database.columnPaths m) := by
    intro path mem
    obtain ⟨column, there, mem⟩ := List.mem_flatMap.1 mem
    have there := (same column).1 there
    refine List.mem_flatMap.2 ⟨column, there, ?_⟩
    cases column with
    | dimension name =>
      have known := h.grouped name ((Query.dimension_mem_columns made).1 there).1
      rwa [Database.columnPaths, known] at mem
    | _ => exact mem
  have conditions : (planOver (q'.spanning (some window) range) m' w columns'
      .events).selection.conditions = (planOver (q.spanning (some window) range) m w columns
        .events).selection.conditions := h.conditions
  have shown (m : Meter) (q : Query) (columns : List GroupColumn) :
      Database.planPaths (planOver q m w columns .events) =
        Database.valuePaths m ++ columns.flatMap (Database.columnPaths m) ++
          (planOver q m w columns .events).selection.conditions.flatMap Database.conditionPaths := rfl
  rw [shown, shown, values, conditions]
  refine List.append_subset.2 ⟨List.append_subset.2 ⟨?_, ?_⟩, List.subset_append_right _ _⟩
  · exact fun path mem => List.mem_append_left _ (List.mem_append_left _ mem)
  · exact fun path mem => List.mem_append_left _ (List.mem_append_right _ (along mem))

variable {Q : Type} [Quantity Q] {c : Compiler} {db : Database Q} {rows : List (Row Q)}

theorem answerFrom (valid' : m'.validate = .ok ())
    (answered : c.answerFrom db .events m (q.spanning (some window) range) = .ok rows) :
    c.answerFrom db .events m' (q'.spanning (some window) range) = .ok rows := by
  obtain ⟨p, planned, isOpen, readable, rfl⟩ := answerFrom_ok.1 answered
  obtain ⟨-, z, columns, w, zone, ordered, made, filtered, windows, rfl⟩ := planFrom_events.1 planned
  obtain ⟨columns', made', same⟩ := h.groupColumns made
  have planned' : c.planFrom .events m' (q'.spanning (some window) range) =
      .ok (planOver (q'.spanning (some window) range) m' w columns' .events) :=
    planFrom_events.2 ⟨valid', z, columns', w, h.zone.trans zone, ordered, made',
      (h.validateFilters c.maxDepth).trans filtered, (h.windowing c.dialect z).trans windows, rfl⟩
  have reorders : Plan.Reorders (Q := Q) (planOver (q.spanning (some window) range) m w columns .events)
      (planOver (q'.spanning (some window) range) m' w columns' .events) := h.reorders made same w
  refine answerFrom_ok.2 ⟨_, planned', isOpen, ?_, ?_⟩
  · rw [reorders.selection]
    exact canRead_mono (h.planPaths_subset made same w) readable
  · exact (reorders.scan_eq rfl rfl db.tables).symm

/-- Over each range of events, both queries have the same rows, or none of them has any. -/
theorem answerFrom_iff (valid : m.validate = .ok ()) (valid' : m'.validate = .ok ()) :
    c.answerFrom db .events m (q.spanning (some window) range) = .ok rows ↔
      c.answerFrom db .events m' (q'.spanning (some window) range) = .ok rows :=
  ⟨h.answerFrom valid', h.symm.answerFrom valid⟩

end Interchangeable

end Metering
