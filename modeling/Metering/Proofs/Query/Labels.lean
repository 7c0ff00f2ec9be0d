import Metering.Proofs.KeyMap
import Metering.Proofs.Query.Answer

/-!
Labels of rows: all that a row says but its value. Rows come from values under labels (`gather`), and
what has been gathered can be gathered again under coarser labels (`gather_gather`).
-/
namespace Metering

deriving instance DecidableEq for Row

variable {Q : Type}

namespace Row

/-- All that a row says but its value. -/
def label (r : Row Q) : Row Unit := ⟨(), r.start, r.stop, r.subject, r.customer, r.groups⟩

/-- The row with a label and a value. -/
def withValue (label : Row Unit) (value : Q) : Row Q :=
  ⟨value, label.start, label.stop, label.subject, label.customer, label.groups⟩

@[simp] theorem label_withValue (label : Row Unit) (value : Q) :
    (label.withValue value).label = label := rfl

@[simp] theorem value_withValue (label : Row Unit) (value : Q) :
    (label.withValue value).value = value := rfl

end Row

section Gather

variable [Quantity Q]

/-- Values combined from the left; no values have no result. -/
def Aggregation.combineAll? (a : Aggregation) : List Q → Option Q
  | [] => none
  | x :: xs => xs.foldlM a.combine? x

/-- One row for each label, with the combined value of all that stand under it. -/
def gather (a : Aggregation) (items : List (Row Unit × Q)) : List (Row Q) :=
  (collect items).filterMap fun g => (a.combineAll? g.2).map g.1.withValue

variable {a : Aggregation}

theorem Aggregation.foldlM_combine? (combinable : a.isCombinable = true) (x : Q) (xs : List Q) :
    xs.foldlM a.combine? x = some (xs.foldl a.merged x) := by
  induction xs generalizing x with
  | nil => rfl
  | cons y xs ih =>
    obtain ⟨z, combined⟩ : ∃ z, a.combine? x y = some z := by
      rw [← Option.isSome_iff_exists, Aggregation.combine?_isSome, combinable]
    rw [List.foldlM_cons, List.foldl_cons, merged, combined]
    exact ih z

variable [ExactQuantity Q]

theorem Aggregation.combineAll?_eq_total (combinable : a.isCombinable = true) (xs : List Q) :
    a.combineAll? xs = a.total xs := by
  cases xs with
  | nil => rfl
  | cons x xs => rw [combineAll?, foldlM_combine? combinable, total_cons combinable]

variable {items items' : List (Row Unit × Q)}

theorem gather_eq (combinable : a.isCombinable = true) (items : List (Row Unit × Q)) :
    gather a items =
      (keysOf items).filterMap fun label => (a.total (valuesAt label items)).map label.withValue := by
  rw [gather, collect_eq, List.filterMap_map]
  refine List.filterMap_congr fun label _ => ?_
  rw [Function.comp_apply, Aggregation.combineAll?_eq_total combinable]

/-- The order of the values makes no difference. -/
theorem gather_perm (combinable : a.isCombinable = true) (h : items.Perm items') :
    (gather a items).Perm (gather a items') := by
  have same : (fun label : Row Unit => (a.total (valuesAt label items)).map label.withValue) =
      fun label => (a.total (valuesAt label items')).map label.withValue := by
    funext label
    rw [Aggregation.total_perm combinable (valuesAt_perm h label)]
  rw [gather_eq combinable, gather_eq combinable, same]
  exact (keysOf_perm h).filterMap _

theorem mem_gather (combinable : a.isCombinable = true) {r : Row Q} : r ∈ gather a items ↔
    a.total (valuesAt r.label items) = some r.value := by
  rw [gather_eq combinable, List.mem_filterMap]
  constructor
  · rintro ⟨label, -, made⟩
    obtain ⟨x, total, rfl⟩ := Option.map_eq_some_iff.1 made
    exact total
  · intro total
    have some : valuesAt r.label items ≠ [] := by
      intro none
      rw [none] at total
      cases total
    obtain ⟨x, mem⟩ := List.exists_mem_of_ne_nil _ some
    refine ⟨r.label, mem_keysOf.2 ⟨x, mem_valuesAt.1 mem⟩, ?_⟩
    rw [total]
    rfl

theorem nodup_gather (combinable : a.isCombinable = true) : (gather a items).Nodup := by
  rw [gather_eq combinable]
  refine List.Pairwise.filterMap _ ?_ (nodup_keysOf items)
  intro label label' ne r made r' made' same
  obtain ⟨_, -, rfl⟩ := Option.map_eq_some_iff.1 made
  obtain ⟨_, -, rfl⟩ := Option.map_eq_some_iff.1 made'
  exact ne (congrArg (Row.label (Q := Q)) same)

/-- Rows under a coarser label, with the values that they were gathered from. -/
theorem total_coarser (combinable : a.isCombinable = true) (coarsen : Row Unit → Row Unit)
    (items : List (Row Unit × Q)) (label : Row Unit) :
    a.total (valuesAt label ((gather a items).map fun r => (coarsen r.label, r.value))) =
      a.total (valuesAt label (items.map fun i => (coarsen i.1, i.2))) := by
  have rows : valuesAt label ((gather a items).map fun r => (coarsen r.label, r.value)) =
      (((keysOf items).filter fun fine => coarsen fine == label).map fun fine =>
        valuesAt fine items).filterMap a.total := by
    rw [valuesAt, List.filter_map, List.map_map, gather_eq combinable, List.filter_filterMap,
      List.filterMap_map, List.filterMap_filter, List.map_filterMap]
    refine List.filterMap_congr fun fine _ => ?_
    cases total : a.total (valuesAt fine items) with
    | none => simp [total]
    | some x => by_cases own : coarsen fine = label <;> simp [total, own, Option.filter]
  have parts : (((keysOf items).filter fun fine => coarsen fine == label).map fun fine =>
      valuesAt fine items).flatten.Perm
        (valuesAt label (items.map fun i => (coarsen i.1, i.2))) := by
    have own (fine : Row Unit)
        (mem : fine ∈ (keysOf items).filter fun fine => coarsen fine == label) :
        valuesAt fine items =
          ((items.filter fun i => coarsen i.1 == label).filter fun i => i.1 == fine).map (·.2) := by
      have coarse := (List.mem_filter.1 mem).2
      rw [valuesAt, List.filter_filter]
      refine congrArg _ (List.filter_congr fun i _ => ?_)
      cases here : i.1 == fine with
      | false => rfl
      | true => rw [beq_iff_eq.1 here, coarse, Bool.and_self]
    rw [List.map_congr_left own, ← List.flatMap_def, ← List.map_flatMap, valuesAt, List.filter_map,
      List.map_map]
    refine (flatMap_filter_perm (fun i : Row Unit × Q => i.1) ((nodup_keysOf items).filter _)
      fun i mem => ?_).map _
    obtain ⟨there, coarse⟩ := List.mem_filter.1 mem
    exact List.mem_filter.2 ⟨mem_keysOf.2 ⟨_, there⟩, coarse⟩
  rw [rows, ← Aggregation.total_flatten combinable, Aggregation.total_perm combinable parts]

/-- What has been gathered under fine labels is gathered again under coarser ones. -/
theorem gather_gather (combinable : a.isCombinable = true) (coarsen : Row Unit → Row Unit)
    (items : List (Row Unit × Q)) :
    (gather a ((gather a items).map fun r => (coarsen r.label, r.value))).Perm
      (gather a (items.map fun i => (coarsen i.1, i.2))) := by
  refine (List.perm_ext_iff_of_nodup (nodup_gather combinable) (nodup_gather combinable)).2 ?_
  intro r
  rw [mem_gather combinable, mem_gather combinable, total_coarser combinable]

end Gather

end Metering
