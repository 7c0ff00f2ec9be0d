import Metering.Proofs.Cache.Group
import Metering.Proofs.Window.Tiling

/-!
Placeholders fill exactly the holes that rows leave in the windows of a range (`gaps_fill`). For each group
of the rows, or for the group of nothing if there are no rows, and for each window but the first and the
last, there is one placeholder if no row of the group starts at the window, and none if one does.
-/
namespace Metering

variable {Q : Type} [Quantity Q]

/-- A window of a list that is neither the first nor the last. -/
def IsInner (windows : List Period) (w : Period) : Prop :=
  ∃ i, 0 < i ∧ i + 1 < windows.length ∧ windows[i]? = some w

/-- The rows whose groups have placeholders. -/
def Row.templates (rows : List (Row Q)) : List (Row Q) :=
  if rows.isEmpty then [.ungrouped] else rows

/-- No row of a group starts at a window. -/
def Row.LeavesOpen (rows : List (Row Q)) (key : String) (w : Period) : Prop :=
  ∀ r ∈ rows, r.groupKey = key → r.start ≠ w.start

/-- Rows that fill the holes of others: what is where, and that nothing is missing or there twice. -/
structure FillsHoles (windows : List Period) (rows fillers : List (Row Q)) : Prop where
  /-- A filler has no value and the group of a row, and stands in a window that the group leaves open. -/
  placed : ∀ g ∈ fillers, ∃ t ∈ Row.templates rows, ∃ w, IsInner windows w ∧
    Row.LeavesOpen rows t.groupKey w ∧
      g = ⟨Quantity.undefined, w.start, w.stop, t.subject, t.customer, t.groups⟩
  each : ∀ t ∈ Row.templates rows, ∀ w, IsInner windows w → Row.LeavesOpen rows t.groupKey w →
    ∃ g ∈ fillers, g.groupKey = t.groupKey ∧ g.start = w.start ∧ g.stop = w.stop
  once : fillers.Pairwise fun g h => (g.groupKey, g.start) ≠ (h.groupKey, h.start)

variable {size : WindowSize} {z : Zone} {range w : Period} {rows : List (Row Q)}

theorem mem_interior_iff : w ∈ size.interior z range ↔
    IsInner (size.windows z range.start range.stop) w := by
  simp only [WindowSize.interior, IsInner, List.mem_iff_getElem?, List.getElem?_dropLast,
    List.getElem?_drop, List.length_drop]
  constructor
  · rintro ⟨i, h⟩
    split at h
    · exact ⟨1 + i, by omega, by omega, h⟩
    · cases h
  · rintro ⟨i, first, last, h⟩
    refine ⟨i - 1, ?_⟩
    rw [if_pos (by omega), Nat.add_sub_cancel' first]
    exact h

theorem Row.Leads.mem_templates {t : Row Q} (leads : Row.Leads rows t) : t ∈ Row.templates rows := by
  rcases leads with ⟨rfl, rfl⟩ | first
  · exact List.mem_singleton_self _
  · have mem := (List.mem_filter.1 (List.mem_of_mem_head? first)).1
    rw [templates, if_neg (by simpa using List.ne_nil_of_mem mem)]
    exact mem

theorem Row.leads_of_mem_templates {t : Row Q} (mem : t ∈ Row.templates rows) :
    ∃ first, first.groupKey = t.groupKey ∧ Row.Leads rows first := by
  unfold templates at mem
  split at mem
  · rename_i none
    exact ⟨.ungrouped, by rw [List.mem_singleton.1 mem], .inl ⟨List.isEmpty_iff.1 none, rfl⟩⟩
  · obtain ⟨first, -, same, leads⟩ := exists_leads mem
    exact ⟨first, same, leads⟩

/-- A window has one placeholder of a group at most. -/
theorem pairwise_groupGaps {windows : List Period} (ordered : windows.Pairwise fun v w => v.start < w.start)
    (template : Row Q) (rows : List (Row Q)) :
    (groupGaps windows template rows).Pairwise fun g h => g.start ≠ h.start := by
  refine List.Pairwise.map _ (fun v w before same => ?_) (ordered.filter _)
  have start : v.start = w.start := same
  exact Int.lt_irrefl _ (start ▸ before)

theorem pairwise_interior (size : WindowSize) (z : Zone) (range : Period) :
    (size.interior z range).Pairwise fun v w => v.start < w.start :=
  ((size.windows_consecutive z range.start range.stop).pairwise_start.drop).sublist
    (List.dropLast_sublist _)

theorem pairwise_gaps (size : WindowSize) (z : Zone) (range : Period) (rows : List (Row Q)) :
    (gaps size z range rows).Pairwise fun g h => (g.groupKey, g.start) ≠ (h.groupKey, h.start) := by
  have each (template : Row Q) (group : List (Row Q)) :
      (groupGaps (size.interior z range) template group).Pairwise
        fun g h => (g.groupKey, g.start) ≠ (h.groupKey, h.start) :=
    (pairwise_groupGaps (pairwise_interior size z range) template group).imp
      fun apart same => apart (Prod.mk.inj same).2
  unfold gaps
  dsimp only
  split
  · exact each _ _
  · -- Two groups have different keys, and the placeholders of a group its key.
    have key {k : String} {template r : Row Q} {rest : List (Row Q)}
        (grouped : (k, template :: rest) ∈ (Row.byGroup rows).toList)
        (mem : r ∈ groupGaps (size.interior z range) template (template :: rest)) :
        r.groupKey = k := by
      obtain ⟨w, -, rfl, -⟩ := mem_groupGaps.1 mem
      exact (Row.leads_cons (Row.mem_byGroup.1 grouped).2.symm).1
    refine List.pairwise_flatMap.2 ⟨?_, (Row.byGroup rows).sorted.imp_of_mem ?_⟩
    · rintro ⟨_, _ | ⟨template, rest⟩⟩ -
      · exact .nil
      · exact each _ _
    · rintro ⟨k, _ | ⟨t, rest⟩⟩ ⟨k', _ | ⟨t', rest'⟩⟩ grouped grouped' before r mem r' mem' same
      · exact absurd mem List.not_mem_nil
      · exact absurd mem List.not_mem_nil
      · exact absurd mem' List.not_mem_nil
      · have apart : k < k' := before
        rw [← key grouped mem, ← key grouped' mem', (Prod.mk.inj same).1] at apart
        exact String.lt_irrefl _ apart

/-- The placeholders of a range fill the holes of its rows, and only these. -/
theorem gaps_fill (size : WindowSize) (z : Zone) (range : Period) (rows : List (Row Q)) :
    FillsHoles (size.windows z range.start range.stop) rows (gaps size z range rows) where
  placed g mem := by
    obtain ⟨t, leads, w, among, rfl, free⟩ := mem_gaps_iff.1 mem
    exact ⟨t, leads.mem_templates, w, mem_interior_iff.1 among, free, rfl⟩
  each t mem w inner isOpen := by
    obtain ⟨first, same, leads⟩ := Row.leads_of_mem_templates mem
    refine ⟨first.placeholder w, mem_gaps_iff.2 ⟨first, leads, w, mem_interior_iff.2 inner, rfl, ?_⟩,
      (groupKey_placeholder first w).trans same, rfl, rfl⟩
    rwa [same]
  once := pairwise_gaps size z range rows

/-- The value of a placeholder of floats is not a number. -/
example : (Quantity.undefined : Float).isNaN = true := by decide

end Metering
