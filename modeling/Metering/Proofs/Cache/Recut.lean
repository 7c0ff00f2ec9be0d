import Metering.Proofs.Cache.Merge
import Metering.Proofs.KeyMap

/-!
Merging rows however they were cut into parts. The rows of a group are united in one row: it has the total
of their values, and its window reaches from the first start to the last end (`Row.United`). There is only
one such row, in whatever order the rows come, and rows that were united part by part are united in the
same one. So the merge of the merged parts is the merge of all rows (`merge_recut`). With windows the rows
are sorted by their starts, and those that start together keep their order (`Row.StablySorted`).
-/
namespace Metering

theorem KeyMap.union_self {α : Type} (m : KeyMap α) : m.union m = m := by
  have known : ∀ entries : List (String × α), (∀ e ∈ entries, e ∈ m.toList) →
      entries.foldl (fun acc e => if acc.contains e.1 then acc else acc.insert e.1 e.2) m = m := by
    intro entries sub
    induction entries with
    | nil => rfl
    | cons e entries ih =>
      have there : m.contains e.1 = true := by
        rw [contains, (mem_toList_iff m e.1 e.2).1 (sub e List.mem_cons_self)]
        rfl
      rw [List.foldl_cons, if_pos there]
      exact ih fun f mem => sub f (List.mem_cons_of_mem e mem)
  exact known m.toList fun _ mem => mem

/-- The entry of a key is the only one with that key. -/
theorem KeyMap.filter_key {α : Type} (m : KeyMap α) (key : String) :
    m.toList.filter (fun e => e.1 == key) = ((m.get? key).map fun v => (key, v)).toList := by
  obtain ⟨entries, sorted⟩ := m
  show entries.filter _ = ((findEntry key entries).map _).toList
  induction entries with
  | nil => rfl
  | cons e entries ih =>
    obtain ⟨first, others⟩ := List.pairwise_cons.1 sorted
    by_cases here : e.1 = key
    · subst here
      have none : entries.filter (fun f => f.1 == e.1) = [] := by
        refine List.filter_eq_nil_iff.2 fun f mem same => ?_
        exact String.lt_irrefl _ (beq_iff_eq.1 same ▸ first f mem)
      rw [List.filter_cons, if_pos (beq_self_eq_true e.1), none, findEntry, if_pos rfl]
      rfl
    · rw [List.filter_cons, if_neg (by simpa using here), findEntry, if_neg here]
      exact ih others

namespace Row

variable {Q : Type}

/-- Rows about the same subject and customer and with the same values of dimensions. -/
def SameGroup (r s : Row Q) : Prop :=
  r.subject = s.subject ∧ r.customer = s.customer ∧ r.groups = s.groups

instance (r s : Row Q) : Decidable (r.SameGroup s) := inferInstanceAs (Decidable (_ ∧ _))

theorem SameGroup.symm {r s : Row Q} (h : r.SameGroup s) : s.SameGroup r :=
  ⟨h.1.symm, h.2.1.symm, h.2.2.symm⟩

theorem SameGroup.trans {r s t : Row Q} (h : r.SameGroup s) (h' : s.SameGroup t) : r.SameGroup t :=
  ⟨h.1.trans h'.1, h.2.1.trans h'.2.1, h.2.2.trans h'.2.2⟩

theorem SameGroup.groupKey {r s : Row Q} (h : r.SameGroup s) : r.groupKey = s.groupKey := by
  simp only [Row.groupKey, h.1, h.2.1, h.2.2]

/-- Only rows of one group share a key. -/
def Distinguishable (rows : List (Row Q)) : Prop :=
  ∀ r ∈ rows, ∀ s ∈ rows, r.groupKey = s.groupKey → r.SameGroup s

instance (rows : List (Row Q)) : Decidable (Distinguishable rows) :=
  inferInstanceAs (Decidable (∀ r ∈ rows, ∀ s ∈ rows, r.groupKey = s.groupKey → r.SameGroup s))

/-- The window of a row reaches from the first start of some rows to their last end. -/
structure Spans (rows : List (Row Q)) (m : Row Q) : Prop where
  first : ∃ r ∈ rows, r.start = m.start
  start_le : ∀ r ∈ rows, m.start ≤ r.start
  last : ∃ r ∈ rows, r.stop = m.stop
  le_stop : ∀ r ∈ rows, r.stop ≤ m.stop

/-- Rows that are all of one group. -/
def Alike (rows : List (Row Q)) : Prop := ∀ r ∈ rows, ∀ s ∈ rows, r.SameGroup s

theorem Distinguishable.alike {rows : List (Row Q)} (h : Distinguishable rows) (key : String) :
    Alike (rows.filter fun r => r.groupKey == key) := by
  intro r mem s mem'
  obtain ⟨there, own⟩ := List.mem_filter.1 mem
  obtain ⟨there', own'⟩ := List.mem_filter.1 mem'
  exact h r there s there' ((beq_iff_eq.1 own).trans (beq_iff_eq.1 own').symm)

theorem Alike.part {parts : List (List (Row Q))} (h : Alike parts.flatten) {part : List (Row Q)}
    (among : part ∈ parts) : Alike part :=
  fun r mem s mem' => h r (List.mem_flatten_of_mem among mem) s (List.mem_flatten_of_mem among mem')

theorem combineAll?_eq_none [Quantity Q] {a : Aggregation} {rows : List (Row Q)} :
    combineAll? a rows = none ↔ rows = [] := by
  cases rows with
  | nil => exact iff_of_true rfl rfl
  | cons r rows => exact iff_of_false nofun (List.cons_ne_nil r rows)

theorem exists_combineAll? [Quantity Q] (a : Aggregation) {rows : List (Row Q)} {r : Row Q}
    (mem : r ∈ rows) : ∃ m, combineAll? a rows = some m :=
  Option.ne_none_iff_exists'.1 fun none => List.ne_nil_of_mem mem (combineAll?_eq_none.1 none)

/-- A row that is combined with another one takes in its window. -/
theorem Spans.combine [Quantity Q] {rows : List (Row Q)} {r : Row Q} (h : Spans rows r)
    (a : Aggregation) (s : Row Q) : Spans (rows ++ [s]) (Row.combine a r s) := by
  obtain ⟨first, mem, begins⟩ := h.first
  obtain ⟨last, mem', ends⟩ := h.last
  have start : (Row.combine a r s).start = if r.start ≤ s.start then r.start else s.start := rfl
  have stop : (Row.combine a r s).stop = if r.stop ≤ s.stop then s.stop else r.stop := rfl
  refine ⟨?_, ?_, ?_, ?_⟩
  · rw [start]
    split
    · exact ⟨first, List.mem_append_left _ mem, begins⟩
    · exact ⟨s, List.mem_append_right _ List.mem_cons_self, rfl⟩
  · intro t there
    rw [start]
    rcases List.mem_append.1 there with there | there
    · have above := h.start_le t there
      simp only [Instant.le_iff] at *
      split <;> omega
    · rw [List.mem_singleton.1 there]
      simp only [Instant.le_iff]
      split <;> omega
  · rw [stop]
    split
    · exact ⟨s, List.mem_append_right _ List.mem_cons_self, rfl⟩
    · exact ⟨last, List.mem_append_left _ mem', ends⟩
  · intro t there
    rw [stop]
    rcases List.mem_append.1 there with there | there
    · have below := h.le_stop t there
      simp only [Instant.le_iff] at *
      split <;> omega
    · rw [List.mem_singleton.1 there]
      simp only [Instant.le_iff]
      split <;> omega

theorem spans_foldl [Quantity Q] (a : Aggregation) {before : List (Row Q)} {r : Row Q}
    (h : Spans before r) (rows : List (Row Q)) :
    Spans (before ++ rows) (rows.foldl (Row.combine a) r) := by
  induction rows generalizing before r with
  | nil => rwa [List.append_nil]
  | cons s rows ih =>
    have rest := ih (h.combine a s)
    rwa [List.append_assoc] at rest

/-- Rows of the same starts and ends have one span. -/
theorem Spans.unique {rows rows' : List (Row Q)} {m m' : Row Q} (h : Spans rows m)
    (h' : Spans rows' m') (same : ∀ r, r ∈ rows ↔ r ∈ rows') :
    m.start = m'.start ∧ m.stop = m'.stop := by
  obtain ⟨r, mem, first⟩ := h.first
  obtain ⟨r', mem', first'⟩ := h'.first
  obtain ⟨s, there, last⟩ := h.last
  obtain ⟨s', there', last'⟩ := h'.last
  constructor
  · refine Instant.ext (Int.le_antisymm ?_ ?_)
    · exact first' ▸ h.start_le r' ((same r').2 mem')
    · exact first ▸ h'.start_le r ((same r).1 mem)
  · refine Instant.ext (Int.le_antisymm ?_ ?_)
    · exact last ▸ h'.le_stop s ((same s).1 there)
    · exact last' ▸ h.le_stop s' ((same s').2 there')

/-- The row in which rows of one group are united. -/
structure United [Quantity Q] (a : Aggregation) (rows : List (Row Q)) (m : Row Q) : Prop where
  value : a.total (rows.map Row.value) = some m.value
  spans : Spans rows m
  alike : ∀ r ∈ rows, r.SameGroup m

theorem foldl_combine_sameGroup [Quantity Q] (a : Aggregation) {r : Row Q} {rows : List (Row Q)}
    (alike : ∀ s ∈ rows, s.SameGroup r) : r.SameGroup (rows.foldl (combine a) r) := by
  induction rows generalizing r with
  | nil => exact ⟨rfl, rfl, rfl⟩
  | cons s rows ih =>
    have same : r.SameGroup (combine a r s) := by
      refine ⟨rfl, rfl, ?_⟩
      have groups : (combine a r s).groups = r.groups.union s.groups := rfl
      rw [groups, (alike s List.mem_cons_self).2.2, KeyMap.union_self]
    refine same.trans (ih fun t mem => ?_)
    exact (alike t (List.mem_cons_of_mem s mem)).trans same

section Uniting

variable [Quantity Q] [ExactQuantity Q] {a : Aggregation} (combinable : a.isCombinable = true)
include combinable

theorem United.unique {rows rows' : List (Row Q)} {m m' : Row Q} (h : United a rows m)
    (h' : United a rows' m') (perm : rows.Perm rows') : m = m' := by
  have value : m.value = m'.value := by
    have total := Aggregation.total_perm combinable (perm.map Row.value)
    rw [h.value, h'.value] at total
    exact Option.some.inj total
  obtain ⟨start, stop⟩ := h.spans.unique h'.spans fun r => perm.mem_iff
  obtain ⟨r, mem, -⟩ := h.spans.first
  obtain ⟨subject, customer, groups⟩ := (h.alike r mem).symm.trans (h'.alike r (perm.mem_iff.1 mem))
  cases m
  cases m'
  simp_all

theorem united_combineAll? {rows : List (Row Q)} (alike : Alike rows) {m : Row Q} :
    combineAll? a rows = some m ↔ United a rows m := by
  cases rows with
  | nil =>
    constructor
    · intro made
      cases made
    · intro united
      obtain ⟨r, mem, -⟩ := united.spans.first
      exact absurd mem List.not_mem_nil
  | cons r rows =>
    have united : United a (r :: rows) (rows.foldl (combine a) r) := by
      have own := foldl_combine_sameGroup a fun s mem =>
        alike s (List.mem_cons_of_mem r mem) r List.mem_cons_self
      refine ⟨?_, ?_, fun s mem => (alike s mem r List.mem_cons_self).trans own⟩
      · rw [List.map_cons, Aggregation.total_cons combinable, foldl_combine_value]
      · have alone : Spans [r] r := by
          refine ⟨⟨r, List.mem_cons_self, rfl⟩, ?_, ⟨r, List.mem_cons_self, rfl⟩, ?_⟩
          · intro s mem
            exact List.mem_singleton.1 mem ▸ Int.le_refl _
          · intro s mem
            exact List.mem_singleton.1 mem ▸ Int.le_refl _
        exact spans_foldl a alone rows
    rw [combineAll?, Option.some.injEq]
    constructor
    · rintro rfl
      exact united
    · intro united'
      exact united.unique combinable united' (List.Perm.refl _)

theorem united_of_part {parts : List (List (Row Q))} (alike : Alike parts.flatten) {n : Row Q}
    (mem : n ∈ parts.filterMap (combineAll? a)) : ∃ part ∈ parts, United a part n := by
  obtain ⟨part, among, made⟩ := List.mem_filterMap.1 mem
  exact ⟨part, among, (united_combineAll? combinable (alike.part among)).1 made⟩

/-- Rows that are united part by part are united as they would be at once. -/
theorem United.flatten {parts : List (List (Row Q))} (alike : Alike parts.flatten) {m : Row Q}
    (united : United a (parts.filterMap (combineAll? a)) m) : United a parts.flatten m := by
  have uniting : ∀ r ∈ parts.flatten, ∃ n ∈ parts.filterMap (combineAll? a), ∃ part ∈ parts,
      r ∈ part ∧ United a part n := by
    intro r mem
    obtain ⟨part, among, mem⟩ := List.mem_flatten.1 mem
    obtain ⟨n, made⟩ := exists_combineAll? a mem
    exact ⟨n, List.mem_filterMap.2 ⟨part, among, made⟩, part, among, mem,
      (united_combineAll? combinable (alike.part among)).1 made⟩
  refine ⟨?_, ⟨?_, ?_, ?_, ?_⟩, ?_⟩
  · have totals : (parts.map (List.map Row.value)).filterMap a.total =
        (parts.filterMap (combineAll? a)).map Row.value := by
      rw [List.filterMap_map, List.map_filterMap]
      refine List.filterMap_congr fun part among => ?_
      cases made : combineAll? a part with
      | none =>
        rw [combineAll?_eq_none.1 made]
        rfl
      | some n => exact ((united_combineAll? combinable (alike.part among)).1 made).value
    rw [List.map_flatten, Aggregation.total_flatten combinable, totals]
    exact united.value
  · obtain ⟨n, mem, first⟩ := united.spans.first
    obtain ⟨part, among, whole⟩ := united_of_part combinable alike mem
    obtain ⟨r, there, start⟩ := whole.spans.first
    exact ⟨r, List.mem_flatten_of_mem among there, start.trans first⟩
  · intro r mem
    obtain ⟨n, made, part, -, there, whole⟩ := uniting r mem
    exact Int.le_trans (united.spans.start_le n made) (whole.spans.start_le r there)
  · obtain ⟨n, mem, last⟩ := united.spans.last
    obtain ⟨part, among, whole⟩ := united_of_part combinable alike mem
    obtain ⟨r, there, stop⟩ := whole.spans.last
    exact ⟨r, List.mem_flatten_of_mem among there, stop.trans last⟩
  · intro r mem
    obtain ⟨n, made, part, -, there, whole⟩ := uniting r mem
    exact Int.le_trans (whole.spans.le_stop r there) (united.spans.le_stop n made)
  · intro r mem
    obtain ⟨n, made, part, -, there, whole⟩ := uniting r mem
    exact (whole.alike r there).trans (united.alike n made)

theorem United.perm {rows rows' : List (Row Q)} {m : Row Q} (h : United a rows m)
    (perm : rows.Perm rows') : United a rows' m where
  value := (Aggregation.total_perm combinable (perm.map Row.value)).symm.trans h.value
  spans :=
    ⟨h.spans.first.imp fun _ is => ⟨perm.mem_iff.1 is.1, is.2⟩,
      fun r mem => h.spans.start_le r (perm.mem_iff.2 mem),
      h.spans.last.imp fun _ is => ⟨perm.mem_iff.1 is.1, is.2⟩,
      fun r mem => h.spans.le_stop r (perm.mem_iff.2 mem)⟩
  alike := fun r mem => h.alike r (perm.mem_iff.2 mem)

/-- The order of rows of one group does not matter. -/
theorem combineAll?_perm {rows rows' : List (Row Q)} (perm : rows.Perm rows') (alike : Alike rows) :
    combineAll? a rows = combineAll? a rows' := by
  have alike' : Alike rows' := fun r mem s mem' =>
    alike r (perm.mem_iff.2 mem) s (perm.mem_iff.2 mem')
  refine Option.ext fun m => ?_
  rw [united_combineAll? combinable alike, united_combineAll? combinable alike']
  exact ⟨fun united => united.perm combinable perm, fun united => united.perm combinable perm.symm⟩

/-- Rows of one group can be combined part by part. -/
theorem combineAll?_flatten {parts : List (List (Row Q))} (alike : Alike parts.flatten) :
    combineAll? a (parts.filterMap (combineAll? a)) = combineAll? a parts.flatten := by
  have alike_made : Alike (parts.filterMap (combineAll? a)) := by
    have own : ∀ n ∈ parts.filterMap (combineAll? a), ∃ r ∈ parts.flatten, r.SameGroup n := by
      intro n mem
      obtain ⟨part, among, united⟩ := united_of_part combinable alike mem
      obtain ⟨r, there, -⟩ := united.spans.first
      exact ⟨r, List.mem_flatten_of_mem among there, united.alike r there⟩
    intro m mem n mem'
    obtain ⟨r, there, same⟩ := own m mem
    obtain ⟨s, there', same'⟩ := own n mem'
    exact (same.symm.trans (alike r there s there')).trans same'
  cases made : combineAll? a (parts.filterMap (combineAll? a)) with
  | some m =>
    have united := (united_combineAll? combinable alike_made).1 made
    exact ((united_combineAll? combinable alike).2 (united.flatten combinable alike)).symm
  | none =>
    have unmade := List.filterMap_eq_nil_iff.1 (combineAll?_eq_none.1 made)
    have empty : parts.flatten = [] :=
      List.flatten_eq_nil_iff.2 fun part among => combineAll?_eq_none.1 (unmade part among)
    rw [empty]
    rfl

end Uniting

/-- The united rows of all groups. -/
def units [Quantity Q] (a : Aggregation) (rows : List (Row Q)) : KeyMap (Row Q) :=
  (byGroup rows).filterMap fun _ group => combineAll? a group

theorem get?_units [Quantity Q] (a : Aggregation) (rows : List (Row Q)) (key : String) :
    (units a rows).get? key = combineAll? a (rows.filter fun r => r.groupKey == key) := by
  rw [units, KeyMap.get?_filterMap, get?_byGroup]
  split
  · rename_i none
    rw [none]
    rfl
  · rfl

end Row

open Row

variable {Q : Type} [Quantity Q]

theorem merge_units (a : Aggregation) (start stop : Option Instant) (rows : List (Row Q)) :
    merge a none start stop rows =
      sortByStart ((units a (real rows)).toList.map fun e => e.2.withBounds start stop) := by
  rw [merge, filter_placeholders, units, KeyMap.filterMap, List.map_filterMap]
  refine congrArg sortByStart (List.filterMap_congr fun e _ => ?_)
  cases combineAll? a e.2 <;> rfl

theorem merge_perm_units (a : Aggregation) (start stop : Option Instant) (rows : List (Row Q)) :
    (merge a none start stop rows).Perm
      ((units a (real rows)).toList.map fun e => e.2.withBounds start stop) := by
  rw [merge_units]
  exact List.mergeSort_perm _ _

/-- Rows whose groups are combined into the same rows are merged into the same rows. -/
theorem merge_congr {a : Aggregation} (start stop : Option Instant) {rows rows' : List (Row Q)}
    (same : ∀ key, combineAll? a ((real rows).filter fun r => r.groupKey == key) =
      combineAll? a ((real rows').filter fun r => r.groupKey == key)) :
    merge a none start stop rows = merge a none start stop rows' := by
  have units_eq : units a (real rows) = units a (real rows') :=
    KeyMap.ext_get? fun key => by rw [get?_units, get?_units, same]
  rw [merge_units, merge_units, units_eq]

variable [ExactQuantity Q] {a : Aggregation} (combinable : a.isCombinable = true)
include combinable

/-- The row of a key is united from the rows with that key. -/
theorem united_of_mem_units {rows : List (Row Q)} (distinct : Distinguishable rows)
    {key : String} {m : Row Q} (mem : (key, m) ∈ (units a rows).toList) :
    United a (rows.filter fun r => r.groupKey == key) m ∧ m.groupKey = key := by
  rw [KeyMap.mem_toList_iff, get?_units] at mem
  have united := (united_combineAll? combinable (distinct.alike key)).1 mem
  obtain ⟨r, there, -⟩ := united.spans.first
  refine ⟨united, (united.alike r there).groupKey.symm.trans ?_⟩
  exact beq_iff_eq.1 (List.mem_filter.1 there).2

/-- What is left of a group after a part was merged on its own. -/
theorem filter_real_merge {part : List (Row Q)} (distinct : Distinguishable (real part))
    (finite : ∀ r ∈ real part, Quantity.isFinite r.value = true) (key : String) :
    (real (merge a none none none part)).filter (fun r => r.groupKey == key) =
      (combineAll? a ((real part).filter fun r => r.groupKey == key)).toList := by
  have merged := merge_perm_units a none none part
  have kept : real (merge a none none none part) = merge a none none none part := by
    refine List.filter_eq_self.2 fun m mem => ?_
    obtain ⟨⟨key, n⟩, among, rfl⟩ := List.mem_map.1 (merged.mem_iff.1 mem)
    have united := (united_of_mem_units combinable distinct among).1
    have defined : Quantity.isFinite n.value = true := by
      refine Aggregation.finite_total combinable (fun x mem => ?_) united.value
      obtain ⟨r, there, rfl⟩ := List.mem_map.1 mem
      exact finite r (List.mem_filter.1 there).1
    show (!Quantity.isUndefined n.value) = true
    rw [ExactQuantity.defined defined]
    rfl
  have own : ((units a (real part)).toList.map fun e => e.2.withBounds none none).filter
      (fun r => r.groupKey == key) =
        (combineAll? a ((real part).filter fun r => r.groupKey == key)).toList := by
    have keys : (units a (real part)).toList.filter (fun e => e.2.groupKey == key) =
        (units a (real part)).toList.filter fun e => e.1 == key :=
      List.filter_congr fun e mem => by rw [(united_of_mem_units combinable distinct mem).2]
    rw [List.filter_map]
    calc _ = ((units a (real part)).toList.filter fun e => e.2.groupKey == key).map Prod.snd := rfl
      _ = _ := by
        rw [keys, KeyMap.filter_key, get?_units]
        cases combineAll? a ((real part).filter fun r => r.groupKey == key) <;> rfl
  rw [kept]
  have perm := merged.filter fun r => r.groupKey == key
  rw [own] at perm
  cases made : combineAll? a ((real part).filter fun r => r.groupKey == key) with
  | none =>
    rw [made] at perm
    exact List.perm_nil.1 perm
  | some m =>
    rw [made] at perm
    exact List.perm_singleton.1 perm

/-- Rows of parts that were merged on their own are merged as the rows of all parts. -/
theorem merge_parts_of_groups {rows : List (Row Q)} (distinct : Distinguishable (real rows))
    (finite : ∀ r ∈ real rows, Quantity.isFinite r.value = true) (start stop : Option Instant)
    {parts : List (List (Row Q))} (cut : parts.flatten.Perm rows) :
    merge a none start stop (parts.flatMap (merge a none none none)) =
      merge a none start stop rows := by
  have real_cut : (real parts.flatten).Perm (real rows) := cut.filter _
  have real_part {part : List (Row Q)} (among : part ∈ parts) {r : Row Q} (mem : r ∈ real part) :
      r ∈ real rows := by
    obtain ⟨there, more⟩ := List.mem_filter.1 mem
    exact real_cut.mem_iff.1 (List.mem_filter.2 ⟨List.mem_flatten_of_mem among there, more⟩)
  refine merge_congr start stop fun key => ?_
  have groups : (real (parts.flatMap (merge a none none none))).filter (fun r => r.groupKey == key) =
      (parts.map fun part => (real part).filter fun r => r.groupKey == key).filterMap
        (combineAll? a) := by
    rw [real, List.filter_flatMap, List.filter_flatMap, List.filterMap_map,
      List.filterMap_eq_flatMap_toList]
    refine List.flatMap_congr fun part among => ?_
    exact filter_real_merge combinable (fun r mem s mem' =>
      distinct r (real_part among mem) s (real_part among mem'))
      (fun r mem => finite r (real_part among mem)) key
  have whole : (parts.map fun part => (real part).filter fun r => r.groupKey == key).flatten =
      (real parts.flatten).filter fun r => r.groupKey == key := by
    rw [real, List.filter_flatten, List.filter_flatten, List.map_map]
    rfl
  have group_cut := real_cut.filter fun r => r.groupKey == key
  have alike : Alike ((real parts.flatten).filter fun r => r.groupKey == key) :=
    fun r mem s mem' => distinct.alike key r (group_cut.mem_iff.1 mem) s (group_cut.mem_iff.1 mem')
  rw [groups, combineAll?_flatten combinable (whole ▸ alike), whole,
    combineAll?_perm combinable group_cut alike]

omit combinable

/-- Rows in the order of their starts; rows that start together are left in the order they had. -/
structure Row.StablySorted {Q : Type} (rows sorted : List (Row Q)) : Prop where
  perm : sorted.Perm rows
  ordered : sorted.Pairwise fun r s => r.start ≤ s.start
  stable : ∀ t, sorted.filter (fun r => r.start = t) = rows.filter fun r => r.start = t

omit [Quantity Q] [ExactQuantity Q] in
theorem start_le_trans (r s t : Row Q) : decide (r.start ≤ s.start) = true →
    decide (s.start ≤ t.start) = true → decide (r.start ≤ t.start) = true := by
  simp only [decide_eq_true_eq, Instant.le_iff]
  omega

omit [Quantity Q] [ExactQuantity Q] in
theorem start_le_total (r s : Row Q) :
    (decide (r.start ≤ s.start) || decide (s.start ≤ r.start)) = true := by
  simp only [Bool.or_eq_true, decide_eq_true_eq, Instant.le_iff]
  omega

omit [Quantity Q] [ExactQuantity Q] in
theorem stablySorted_sortByStart (rows : List (Row Q)) : StablySorted rows (sortByStart rows) where
  perm := List.mergeSort_perm _ _
  ordered := by
    have sorted := List.pairwise_mergeSort start_le_trans start_le_total rows
    exact sorted.imp of_decide_eq_true
  stable t := by
    have together : (rows.filter fun r => r.start = t).Pairwise
        fun r s => decide (r.start ≤ s.start) = true := by
      refine List.pairwise_of_forall_mem_list fun r mem s mem' => decide_eq_true ?_
      have start : r.start = t := of_decide_eq_true (List.mem_filter.1 mem).2
      have start' : s.start = t := of_decide_eq_true (List.mem_filter.1 mem').2
      exact start ▸ start' ▸ Int.le_refl _
    have kept := List.sublist_mergeSort start_le_trans start_le_total together List.filter_sublist
    have sub := kept.filter fun r => r.start = t
    rw [List.filter_filter] at sub
    simp only [Bool.and_self] at sub
    exact (sub.eq_of_length ((List.mergeSort_perm rows _).filter _).length_eq.symm).symm

/-- One row for each group, with the total of the group's values and of no others. -/
structure OneForEach (a : Aggregation) (start stop : Option Instant) (rows merged : List (Row Q)) :
    Prop where
  single : merged.Pairwise fun m n => m.groupKey ≠ n.groupKey
  complete : ∀ r ∈ real rows, ∃ m ∈ merged, m.groupKey = r.groupKey
  united : ∀ m ∈ merged, ∃ u,
    United a ((real rows).filter fun r => r.groupKey == m.groupKey) u ∧ m = u.withBounds start stop

theorem oneForEach_merge (combinable : a.isCombinable = true) (start stop : Option Instant)
    {rows : List (Row Q)} (distinct : Distinguishable (real rows)) :
    OneForEach a start stop rows (merge a none start stop rows) := by
  have merged := merge_perm_units a start stop rows
  have of_mem {e : String × Row Q} (mem : e ∈ (units a (real rows)).toList) :
      United a ((real rows).filter fun r => r.groupKey == e.1) e.2 ∧
        (e.2.withBounds start stop).groupKey = e.1 :=
    united_of_mem_units combinable distinct mem
  refine ⟨?_, ?_, ?_⟩
  · have apart : ((units a (real rows)).toList.map fun e => e.2.withBounds start stop).Pairwise
        fun m n => m.groupKey ≠ n.groupKey := by
      refine List.pairwise_map.2 ((units a (real rows)).sorted.imp_of_mem ?_)
      intro e e' mem mem' lt same
      rw [(of_mem mem).2, (of_mem mem').2] at same
      exact String.lt_irrefl _ (same ▸ lt)
    exact (merged.pairwise_iff fun differ same => differ same.symm).2 apart
  · intro r mem
    have group : r ∈ (real rows).filter fun s => s.groupKey == r.groupKey :=
      List.mem_filter.2 ⟨mem, beq_self_eq_true _⟩
    obtain ⟨m, made⟩ : ∃ m, (units a (real rows)).get? r.groupKey = some m := by
      rw [get?_units]
      exact exists_combineAll? a group
    have among := (KeyMap.mem_toList_iff _ _ _).2 made
    exact ⟨m.withBounds start stop, merged.mem_iff.2 (List.mem_map_of_mem among), (of_mem among).2⟩
  · intro m mem
    obtain ⟨⟨key, u⟩, among, rfl⟩ := List.mem_map.1 (merged.mem_iff.1 mem)
    obtain ⟨united, own⟩ := of_mem among
    exact ⟨u, own.symm ▸ united, rfl⟩

/--
Merging does not depend on the order of rows or on how they were cut into parts, as long as only rows of
one group share a key and their values add up exactly. With windows, rows are only put in order.
-/
theorem merge_recut (a : Aggregation) (start stop : Option Instant) (rows : List (Row Q)) :
    (a.isCombinable = true → Distinguishable (real rows) →
      (∀ r ∈ real rows, Quantity.isFinite r.value = true) →
        (∀ rows' : List (Row Q), rows'.Perm rows →
          merge a none start stop rows' = merge a none start stop rows) ∧
        (∀ parts : List (List (Row Q)), parts.flatten.Perm rows →
          merge a none start stop (parts.flatMap (merge a none none none)) =
            merge a none start stop rows) ∧
        OneForEach a start stop rows (merge a none start stop rows)) ∧
    ∀ size : WindowSize, StablySorted (real rows) (merge a (some size) start stop rows) := by
  refine ⟨fun combinable distinct finite => ⟨fun rows' perm => ?_, fun parts cut => ?_, ?_⟩,
    fun size => ?_⟩
  · have real_perm : (real rows').Perm (real rows) := perm.filter _
    refine merge_congr start stop fun key => ?_
    exact (combineAll?_perm combinable (real_perm.symm.filter _) (distinct.alike key)).symm
  · exact merge_parts_of_groups combinable distinct finite start stop cut
  · exact oneForEach_merge combinable start stop distinct
  · rw [merge, filter_placeholders]
    exact stablySorted_sortByStart (real rows)

/-- A day of a subject. -/
def dayOf (subject : String) (day : Int) (value : Fraction) : Row Fraction :=
  ⟨value, .ofDayNumber day, .ofDayNumber (day + 1), some subject, none, ∅⟩

/-- Two days of one subject, one of another and a placeholder; the last day was merged before the others. -/
theorem merge_recut_days :
    let others := [dayOf "a" 0 (some 1), dayOf "b" 0 (some 7), dayOf "b" 1 none]
    let last := [dayOf "a" 1 (some 2)]
    Distinguishable (real (others ++ last)) ∧
    (∀ r ∈ real (others ++ last), Quantity.isFinite r.value = true) ∧
    merge .sum none none none
        (merge .sum none none none last ++ merge .sum none none none others) =
      merge .sum none none none (others ++ last) := by
  intro others last
  have distinct : Distinguishable (real (others ++ last)) := by decide +kernel
  have finite : ∀ r ∈ real (others ++ last), Quantity.isFinite r.value = true := by decide +kernel
  have cut : [last, others].flatten.Perm (others ++ last) := List.perm_append_comm
  have recut := ((merge_recut .sum none none (others ++ last)).1 rfl distinct finite).2.1 _ cut
  rw [List.flatMap_cons, List.flatMap_singleton] at recut
  exact ⟨distinct, finite, recut⟩

end Metering
