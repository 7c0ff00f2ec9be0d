import Metering.Proofs.Query.Columns

/-!
Plans that differ in the order of their columns. The groups of one are the groups of the other under
other names, and a row tells its texts by column and not by place, so both plans have the same rows in
the same order (`Plan.Reorders.scan_eq`).
-/
namespace Metering

variable {Q : Type}

/-- Texts are put on a row by column, whatever the order of the columns is. -/
theorem Row.placeAll_reordered (r : Row Q) {columns columns' : List GroupColumn}
    (same : ∀ column, column ∈ columns' ↔ column ∈ columns) (text : GroupColumn → Option String) :
    Scanner.placeAll r columns' (columns'.map text) = Scanner.placeAll r columns (columns.map text) := by
  obtain ⟨groups, is, under⟩ := placeAll_map r columns text
  obtain ⟨groups', is', under'⟩ := placeAll_map r columns' text
  have equal : groups' = groups := by
    refine KeyMap.ext_get? fun name => ?_
    simp only [under, under', same]
  simp only [is, is', same, equal]

/-- A plan like another one, with its columns in another order. -/
structure Plan.Reorders (p p' : Plan) : Prop where
  selection : p'.selection = p.selection
  windowing : p'.windowing = p.windowing
  aggregation : p'.meter.aggregation = p.meter.aggregation
  valuePath : p'.meter.valuePath = p.meter.valuePath
  columns : ∀ column, column ∈ p'.columns ↔ column ∈ p.columns
  texts : ∀ column ∈ p.columns, ∀ r : TableRow Q, p'.groupText r column = p.groupText r column

/-- The texts of some columns, taken from the texts of the columns in another order. -/
def reorder (columns columns' : List GroupColumn) (texts : List (Option String)) :
    List (Option String) :=
  columns'.map fun column => texts.getD (columns.idxOf column) none

theorem reorder_map {columns columns' : List GroupColumn}
    (known : ∀ column ∈ columns', column ∈ columns) (text : GroupColumn → Option String) :
    reorder columns columns' (columns.map text) = columns'.map text := by
  refine List.map_congr_left fun column mem => ?_
  have here := List.idxOf_lt_length_of_mem (known column mem)
  rw [List.getD_eq_getElem?_getD, List.getElem?_map, List.getElem?_eq_getElem here,
    List.getElem_idxOf here]
  rfl

namespace Plan

variable {p : Plan} {rows : List (TableRow Q)}

theorem groups_bare (h : p.windowing = .whole ∧ p.columns = []) :
    p.groups rows = [((none, []), rows)] := by
  rw [groups, h.1, h.2]

theorem groups_collect (h : ¬ (p.windowing = .whole ∧ p.columns = [])) :
    p.groups rows = collect (p.keyedRows rows) := by
  unfold groups
  split
  · exact absurd ⟨‹_›, ‹_›⟩ h
  · rfl

/-- The texts of a group are the texts of its columns. -/
theorem texts_of_mem_groups {g : GroupKey × List (TableRow Q)} (mem : g ∈ p.groups rows) :
    ∃ text : GroupColumn → Option String, g.1.2 = p.columns.map text := by
  by_cases bare : p.windowing = .whole ∧ p.columns = []
  · rw [groups_bare bare, List.mem_singleton] at mem
    exact ⟨fun _ => none, by rw [mem, bare.2]; rfl⟩
  · rw [groups_collect bare, collect_eq] at mem
    obtain ⟨key, known, rfl⟩ := List.mem_map.1 mem
    obtain ⟨_, there⟩ := mem_keysOf.1 known
    obtain ⟨r, -, there⟩ := List.mem_flatMap.1 there
    obtain ⟨w, -, is⟩ := List.mem_map.1 there
    obtain ⟨rfl, -⟩ := Prod.mk.inj is
    exact ⟨p.groupText r, rfl⟩

end Plan

namespace Plan.Reorders

variable [Quantity Q] {p p' : Plan} (h : p.Reorders (Q := Q) p')
include h

omit [Quantity Q] in
theorem groupTexts (r : TableRow Q) :
    p'.groupTexts r = reorder p.columns p'.columns (p.groupTexts r) := by
  have known (column : GroupColumn) (mem : column ∈ p'.columns) : column ∈ p.columns :=
    (h.columns column).1 mem
  rw [Plan.groupTexts, Plan.groupTexts, reorder_map known]
  exact List.map_congr_left fun column mem => h.texts column (known column mem) r

omit [Quantity Q] in
theorem keyedRows (rows : List (TableRow Q)) : p'.keyedRows rows =
    (p.keyedRows rows).map fun i => ((i.1.1, reorder p.columns p'.columns i.1.2), i.2) := by
  simp only [Plan.keyedRows, List.map_flatMap, List.map_map, h.windowing, h.groupTexts]
  rfl

omit [Quantity Q] in
/-- The texts of the other order tell the texts of this one. -/
theorem reorder_injective {r r' : TableRow Q}
    (same : reorder p.columns p'.columns (p.groupTexts r) =
      reorder p.columns p'.columns (p.groupTexts r')) : p.groupTexts r = p.groupTexts r' := by
  have known (column : GroupColumn) (mem : column ∈ p'.columns) : column ∈ p.columns :=
    (h.columns column).1 mem
  rw [Plan.groupTexts, Plan.groupTexts, reorder_map known, reorder_map known] at same
  refine List.map_congr_left fun column mem => ?_
  exact List.map_inj_left.1 same column ((h.columns column).2 mem)

theorem contribution? (r : TableRow Q) : r.contribution? p'.meter = r.contribution? p.meter := by
  rw [TableRow.contribution?, TableRow.contribution?, h.aggregation, h.valuePath]

theorem rawRow (key : GroupKey) (texts : List (Option String)) (rows : List (TableRow Q)) :
    p'.rawRow ((key.1, texts), rows) = { p.rawRow (key, rows) with groups := texts } := by
  simp only [Plan.rawRow, h.aggregation, h.contribution?]

omit [Quantity Q] in
theorem groups (rows : List (TableRow Q)) : p'.groups rows =
    (p.groups rows).map fun g => ((g.1.1, reorder p.columns p'.columns g.1.2), g.2) := by
  have collected : collect (p'.keyedRows rows) = (collect (p.keyedRows rows)).map fun g =>
      ((g.1.1, reorder p.columns p'.columns g.1.2), g.2) := by
    rw [h.keyedRows]
    refine collect_map (fun key : GroupKey => (key.1, reorder p.columns p'.columns key.2)) ?_
    intro i mem j mem' same
    obtain ⟨r, -, mem⟩ := List.mem_flatMap.1 mem
    obtain ⟨r', -, mem'⟩ := List.mem_flatMap.1 mem'
    obtain ⟨w, -, rfl⟩ := List.mem_map.1 mem
    obtain ⟨w', -, rfl⟩ := List.mem_map.1 mem'
    obtain ⟨window, texts⟩ := Prod.mk.inj same
    exact Prod.ext window (h.reorder_injective texts)
  have none : p'.columns = [] ↔ p.columns = [] := by
    simp only [List.eq_nil_iff_forall_not_mem, h.columns]
  by_cases bare : p.windowing = .whole ∧ p.columns = []
  · have bare' : p'.windowing = .whole ∧ p'.columns = [] := ⟨h.windowing.trans bare.1, none.2 bare.2⟩
    rw [Plan.groups_bare bare, Plan.groups_bare bare', bare.2, bare'.2]
    rfl
  · have bare' : ¬ (p'.windowing = .whole ∧ p'.columns = []) := by
      rwa [h.windowing, none]
    rw [Plan.groups_collect bare, Plan.groups_collect bare', collected]

variable {s s' : Scanner} (ends : s' = { s with columns := p'.columns })
  (own : s.columns = p.columns)
include ends own

theorem scanRow?_rawRow {key : GroupKey} {text : GroupColumn → Option String}
    (texts : key.2 = p.columns.map text) (rows : List (TableRow Q)) :
    s'.scanRow? (p'.rawRow ((key.1, reorder p.columns p'.columns key.2), rows)) =
      s.scanRow? (p.rawRow (key, rows)) := by
  have placed (row : Row Q) : Scanner.placeAll row p'.columns (p'.columns.map text) =
      Scanner.placeAll row p.columns (p.columns.map text) := row.placeAll_reordered h.columns text
  have groups : (p.rawRow (key, rows)).groups = p.columns.map text := texts
  rw [h.rawRow key, ends, texts, reorder_map fun column => (h.columns column).1]
  simp only [Scanner.scanRow?, placed, own, groups]

/-- Both plans have the same rows. -/
theorem scan_eq (t : Tables Q) : s'.scan (p'.evaluate t) = s.scan (p.evaluate t) := by
  rw [Scanner.scan, Scanner.scan, Plan.evaluate, Plan.evaluate, h.selection, h.groups,
    List.map_map, List.filterMap_map, List.filterMap_map]
  refine congrArg (List.mergeSort · _) (List.filterMap_congr fun g mem => ?_)
  obtain ⟨text, texts⟩ := Plan.texts_of_mem_groups mem
  exact h.scanRow?_rawRow ends own texts g.2

end Plan.Reorders

end Metering
