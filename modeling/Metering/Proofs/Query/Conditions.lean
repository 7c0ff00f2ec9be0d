import Metering.Proofs.Filter.Tree
import Metering.Proofs.Query.Parameters

/-!
The conditions of a query, read as trees. What a query selects by is read as the conjunction of its own
conditions, each of which is a test or the tree of a filter (`Compiler.planFrom_reads`).
-/
namespace Metering

open Sql

namespace Condition

/-- What a condition says of a row. A filter that leaves its dimension alone says nothing. -/
def tree? (d : Dialect) (source : Source) : Condition → Option Tree
  | .space name => some (.test ⟨chars "namespace", .comparison .equal, [.value (.text name)]⟩)
  | .eventType name => some (.test ⟨chars "type", .comparison .equal, [.value (.text name)]⟩)
  | .meterId id => some (.test ⟨chars "meter_id", .comparison .equal, [.value (.text id)]⟩)
  | .notBefore t => some (.test ⟨chars "time", .comparison .atLeast, [.instant (.integer t.micros)]⟩)
  | .before t => some (.test ⟨chars "time", .comparison .less, [.instant (.integer t.micros)]⟩)
  | .subjectIn subjects =>
    some (.test ⟨chars "subject", .within, subjects.map fun s => .value (.text s)⟩)
  | .never => some .never
  | .dimension name path filter => (filter.tree (filled d (d.dimension source name path))).pruned?

/-- Subjects are given, and filters are well-formed. -/
def Sound (maxDepth : Nat) : Condition → Prop
  | .subjectIn subjects => subjects ≠ []
  | .dimension _ _ filter => filter.validate maxDepth = .ok ()
  | _ => True

variable {d : Dialect} {source : Source} {maxDepth : Nat}

theorem stands_columnIs {column : String} (atomic : Atomic d (Sql.plain column)) (value : String)
    (solid : Solid (Dialect.columnIs column value)) :
    Stands d (Dialect.columnIs column value)
      (.test ⟨chars column, .comparison .equal, [.value (.text value)]⟩) := by
  have stands := stands_term atomic (symbol_mem .equal) (.inl ⟨_, rfl⟩) (.value (.text value))
  rw [filled_plain] at stands
  refine stands.of_filled solid ?_
  simp only [Dialect.columnIs, Filter.binary, filled_append, filled_plain, chars_append, List.append_assoc]
  rfl

theorem stands_instantBound {column : String} (atomic : Atomic d (Sql.plain column))
    (c : Filter.Comparison) (t : Instant) (solid : Solid (d.instantBound column c.symbol t)) :
    Stands d (d.instantBound column c.symbol t)
      (.test ⟨chars column, .comparison c, [.instant (.integer t.micros)]⟩) := by
  have stands := stands_term atomic (symbol_mem c) (.inl ⟨_, rfl⟩) (.instant (.integer t.micros))
  rw [filled_plain] at stands
  refine stands.of_filled solid ?_
  simp only [Dialect.instantBound, Filter.binary, filled_append, filled_plain, chars_append,
    List.append_assoc]
  rfl

theorem stands_subjectIn {subjects : List String} (any : subjects ≠ [])
    (solid : Solid ("subject IN (" ++ bindTexts subjects ++ ")")) :
    Stands d ("subject IN (" ++ bindTexts subjects ++ ")")
      (.test ⟨chars "subject", .within, subjects.map fun s => .value (.text s)⟩) := by
  have atomic : Atomic d (Sql.plain "subject") := atomic_column (by decide) (by decide)
  have any : subjects.map (fun s => Term.value (.text s)) ≠ [] :=
    fun none => any (List.map_eq_nil_iff.1 none)
  have stands := stands_terms atomic (o := ("IN", .within)) (by decide) (.inl rfl) any
  rw [filled_plain] at stands
  refine stands.of_filled solid ?_
  simp only [Filter.binary, Filter.bindList, bindTexts, List.map_map, filled_append, filled_plain,
    chars_append, List.append_assoc]
  rfl

/-- A condition is read as what it says. -/
theorem condition?_stands {c : Condition} (sound : c.Sound maxDepth) :
    Option.Rel (Stands d) (d.condition? source c) (c.tree? d source) := by
  have yields := Dialect.condition?_yields d source c
  cases c with
  | space name => exact .some (stands_columnIs (atomic_column (by decide) (by decide)) name yields.solid)
  | eventType name =>
    exact .some (stands_columnIs (atomic_column (by decide) (by decide)) name yields.solid)
  | meterId id => exact .some (stands_columnIs (atomic_column (by decide) (by decide)) id yields.solid)
  | notBefore t =>
    exact .some (stands_instantBound (atomic_column (by decide) (by decide)) .atLeast t yields.solid)
  | before t =>
    exact .some (stands_instantBound (atomic_column (by decide) (by decide)) .less t yields.solid)
  | subjectIn subjects => exact .some (stands_subjectIn sound yields.solid)
  | never => exact .some stands_never
  | dimension name path filter =>
    exact (Filter.condition?_compiles (Filter.atomic_dimension d source name path) filter sound).rel

theorem conditions_stand {cs : List Condition} (sound : ∀ c ∈ cs, c.Sound maxDepth) :
    List.Forall₂ (Stands d) (cs.filterMap (d.condition? source)) (cs.filterMap (tree? d source)) := by
  induction cs with
  | nil => exact .nil
  | cons c cs ih =>
    rw [List.forall_mem_cons] at sound
    have first : Option.Rel (Stands d) (d.condition? source c) (c.tree? d source) :=
      condition?_stands sound.1
    rw [List.filterMap_cons, List.filterMap_cons]
    generalize d.condition? source c = q, c.tree? d source = t at first
    cases first with
    | none => exact ih sound.2
    | some stands => exact .cons stands (ih sound.2)

end Condition

namespace Query

variable {q : Query} {m : Meter} {source : Source} {maxDepth : Nat}

theorem conditions_sound (valid : q.validateFilters m maxDepth = .ok ()) :
    ∀ c ∈ q.conditions source m, c.Sound maxDepth := by
  intro c mem
  simp only [conditions, List.mem_append] at mem
  obtain (((owner | lower) | upper) | subject) | dimension := mem
  · cases source with
    | events => rcases List.mem_pair.1 owner with rfl | rfl <;> trivial
    | numbers => rcases List.mem_pair.1 owner with rfl | rfl <;> trivial
  · obtain ⟨t, -, rfl⟩ := Option.map_eq_some_iff.1 (Option.mem_toList.1 lower)
    trivial
  · obtain ⟨t, -, rfl⟩ := Option.map_eq_some_iff.1 (Option.mem_toList.1 upper)
    trivial
  · rw [subjectCondition] at subject
    split at subject
    · cases subject
    · split at subject
      · obtain rfl := List.mem_singleton.1 subject
        trivial
      · rename_i any
        obtain rfl := List.mem_singleton.1 subject
        exact fun none => any (List.isEmpty_iff.2 none)
  · obtain ⟨f, given, made⟩ := List.mem_filterMap.1 dimension
    obtain ⟨path, -, rfl⟩ := Option.map_eq_some_iff.1 made
    exact (of_validateFilters valid f given).2

end Query

/-- The rows of a planned query are selected by its own conditions. -/
theorem Compiler.planFrom_reads {c : Compiler} {source : Source} {m : Meter} {q : Query} {p : Plan}
    (planned : c.planFrom source m q = .ok p) :
    (c.dialect.statement (c.dialect.allConditions p.selection)).tree? c.dialect =
      some (.joined .all ((q.conditions source m).filterMap (Condition.tree? c.dialect source))) := by
  obtain ⟨-, -, valid, -, -, selection⟩ := planFrom_parts planned
  rw [selection]
  refine tree?_join (Condition.conditions_stand (Query.conditions_sound valid)) ?_
  exact List.cons_ne_nil _ _

end Metering
