import Mathlib.Data.List.Basic
import Metering.Cache.Gaps
import Metering.Proofs.Cache.Runs

/-!
Groups of rows. Putting rows in groups keeps each row once, under its own key (`get?_byGroup`), and rows
without customer and dimensions are in one group when they are about one subject. A placeholder stands
for a window in which its group has no row (`mem_gaps_iff`), so in a run of windows each one without rows
has a placeholder, but for the first and the last (`exists_placeholder`).
-/
namespace Metering

variable {Q : Type}

namespace Row

/-- Rows that tell their subject and no other part of a group. -/
def Plain (r : Row Q) : Prop := r.customer = none ∧ r.groups = ∅

theorem Plain.groupKey {r : Row Q} (h : r.Plain) : r.groupKey = keyPart "subject" r.subject := by
  obtain ⟨customer, groups⟩ := h
  rw [Row.groupKey, customer, groups]
  exact (String.append_empty).trans String.append_empty

theorem keyPart_injective {label : String} {x y : Option String}
    (h : keyPart label x = keyPart label y) : x = y := by
  have named (s : String) : keyPart label (some s) ≠ "" := by
    intro empty
    have length := congrArg String.length empty
    simp [keyPart] at length
  cases x with
  | none =>
    cases y with
    | none => rfl
    | some s => exact absurd h.symm (named s)
  | some s =>
    cases y with
    | none => exact absurd h (named s)
    | some s' =>
      have texts := congrArg String.toList h
      simp only [keyPart, String.toList_append, List.append_assoc, List.append_cancel_left_eq,
        List.append_cancel_right_eq] at texts
      exact congrArg some (String.toList_inj.1 texts)

theorem Plain.subject_eq {r s : Row Q} (hr : r.Plain) (hs : s.Plain)
    (same : r.groupKey = s.groupKey) : r.subject = s.subject := by
  rw [hr.groupKey, hs.groupKey] at same
  exact keyPart_injective same

theorem byGroup_cons (r : Row Q) (rows : List (Row Q)) : byGroup (r :: rows) =
    (byGroup rows).insert r.groupKey (r :: ((byGroup rows).get? r.groupKey).getD []) := by
  rw [byGroup, List.reverse_cons, List.foldl_append]
  rfl

/-- The group of a key holds the rows with that key, if there are any. -/
theorem get?_byGroup (rows : List (Row Q)) (key : String) : (byGroup rows).get? key =
    if rows.filter (fun r => r.groupKey == key) = [] then none
    else some (rows.filter fun r => r.groupKey == key) := by
  induction rows with
  | nil => rfl
  | cons r rows ih =>
    rw [byGroup_cons, KeyMap.get?_insert]
    by_cases own : r.groupKey = key
    · subst own
      have kept : ((byGroup rows).get? r.groupKey).getD [] =
          rows.filter fun s => s.groupKey == r.groupKey := by
        rw [ih]
        split
        · rename_i none
          exact none.symm
        · rfl
      have first : (r :: rows).filter (fun s => s.groupKey == r.groupKey) =
          r :: rows.filter fun s => s.groupKey == r.groupKey :=
        List.filter_cons_of_pos (beq_self_eq_true r.groupKey)
      rw [if_pos rfl, kept, first, if_neg (List.cons_ne_nil _ _)]
    · rw [if_neg own, List.filter_cons_of_neg (by simpa using own), ih]

theorem mem_byGroup {rows group : List (Row Q)} {key : String} :
    (key, group) ∈ (byGroup rows).toList ↔
      group ≠ [] ∧ group = rows.filter fun r => r.groupKey == key := by
  rw [KeyMap.mem_toList_iff, get?_byGroup]
  constructor
  · intro h
    split at h
    · cases h
    · rename_i some
      cases h
      exact ⟨some, rfl⟩
  · rintro ⟨some, rfl⟩
    exact if_neg some

theorem forall_group {rows : List (Row Q)} {key : String} {P : Row Q → Prop} :
    (∀ r ∈ rows.filter (fun r => r.groupKey == key), P r) ↔ ∀ r ∈ rows, r.groupKey = key → P r := by
  simp only [List.mem_filter, beq_iff_eq, and_imp]

end Row

variable [Quantity Q]

theorem groupKey_placeholder (template : Row Q) (w : Period) :
    (template.placeholder w).groupKey = template.groupKey := rfl

theorem mem_groupGaps {windows : List Period} {template : Row Q} {rows : List (Row Q)} {g : Row Q} :
    g ∈ groupGaps windows template rows ↔
      ∃ w ∈ windows, g = template.placeholder w ∧ ∀ r ∈ rows, r.start ≠ w.start := by
  simp only [groupGaps, List.mem_map, List.mem_filter, List.any_eq_true, decide_eq_true_eq, not_exists,
    not_and, ne_eq, and_assoc]
  exact exists_congr fun w => and_congr_right fun _ => by rw [and_comm, eq_comm]

/-- The first row of a group. Without rows there is one group, that of nothing. -/
def Row.Leads (rows : List (Row Q)) (t : Row Q) : Prop :=
  rows = [] ∧ t = .ungrouped ∨ (rows.filter fun r => r.groupKey == t.groupKey).head? = some t

theorem Row.leads_cons {rows rest : List (Row Q)} {t : Row Q} {key : String}
    (group : rows.filter (fun r => r.groupKey == key) = t :: rest) : t.groupKey = key ∧ Leads rows t := by
  have mem : t ∈ rows.filter fun r => r.groupKey == key := group ▸ List.mem_cons_self
  obtain rfl : t.groupKey = key := beq_iff_eq.1 (List.mem_filter.1 mem).2
  exact ⟨rfl, .inr (by rw [group]; rfl)⟩

theorem Row.exists_leads {rows : List (Row Q)} {r : Row Q} (mem : r ∈ rows) :
    ∃ t ∈ rows, t.groupKey = r.groupKey ∧ Leads rows t := by
  have own : r ∈ rows.filter fun s => s.groupKey == r.groupKey :=
    List.mem_filter.2 ⟨mem, beq_self_eq_true _⟩
  cases group : rows.filter fun s => s.groupKey == r.groupKey with
  | nil => exact absurd (group ▸ own) List.not_mem_nil
  | cons t rest =>
    have first : t ∈ rows.filter fun s => s.groupKey == r.groupKey := group ▸ List.mem_cons_self
    exact ⟨t, (List.mem_filter.1 first).1, leads_cons group⟩

/-- The placeholders of some rows stand for the windows in which no row of a group starts. -/
theorem mem_gaps_iff {size : WindowSize} {z : Zone} {range : Period} {rows : List (Row Q)} {g : Row Q} :
    g ∈ gaps size z range rows ↔ ∃ t, Row.Leads rows t ∧ ∃ w ∈ size.interior z range,
      g = t.placeholder w ∧ ∀ r ∈ rows, r.groupKey = t.groupKey → r.start ≠ w.start := by
  cases rows with
  | nil =>
    have alone (t : Row Q) : Row.Leads [] t ↔ t = .ungrouped := by simp [Row.Leads]
    simp only [alone, exists_eq_left, gaps, List.isEmpty_nil, if_pos, mem_groupGaps, List.not_mem_nil,
      false_implies, implies_true, and_true]
  | cons r rows =>
    unfold gaps
    dsimp only
    rw [if_neg (by simp), List.mem_flatMap]
    constructor
    · rintro ⟨⟨key, group⟩, grouped, mem⟩
      obtain ⟨-, is⟩ := Row.mem_byGroup.1 grouped
      cases group with
      | nil => exact absurd mem List.not_mem_nil
      | cons t rest =>
        obtain ⟨rfl, leads⟩ := Row.leads_cons is.symm
        obtain ⟨w, among, made, free⟩ := mem_groupGaps.1 mem
        rw [is, Row.forall_group] at free
        exact ⟨t, leads, w, among, made, free⟩
    · rintro ⟨t, leads, w, among, made, free⟩
      have first : ((r :: rows).filter fun s => s.groupKey == t.groupKey).head? = some t := by
        simpa [Row.Leads] using leads
      obtain ⟨rest, group⟩ := List.head?_eq_some_iff.1 first
      rw [← Row.forall_group, group] at free
      exact ⟨(t.groupKey, t :: rest), Row.mem_byGroup.2 ⟨List.cons_ne_nil _ _, group.symm⟩,
        mem_groupGaps.2 ⟨w, among, made, free⟩⟩

theorem mem_interior {size : WindowSize} {z : Zone} {range w : Period}
    (mem : w ∈ size.interior z range) : w ∈ size.windows z range.start range.stop :=
  List.mem_of_mem_drop (List.dropLast_subset _ mem)

/-- The windows of a run but the first and the last. -/
theorem window_mem_interior {size : WindowSize} {i j k : Int} (low : i < k) (high : k + 1 < j) :
    size.window k ∈ size.interior .utc (size.run (i, j)) := by
  have numbers : Int.range i j = i :: (Int.range (i + 1) (j - 1) ++ [j - 1]) := by
    have last : Int.range (j - 1) j = [j - 1] := by
      rw [range_eq_cons (by omega), range_eq_nil (by omega)]
    rw [range_eq_cons (by omega), ← last, range_append (by omega) (by omega)]
  rw [WindowSize.interior, WindowSize.run, WindowSize.windows_boundaries, numbers, List.map_cons,
    List.drop_one, List.tail_cons, List.map_append, List.map_singleton, List.dropLast_concat]
  exact List.mem_map_of_mem (Int.mem_range_iff.2 ⟨by omega, by omega⟩)

/-- A window of a run in which no row starts has a placeholder, unless it is the first or the last. -/
theorem exists_placeholder {size : WindowSize} {i j k : Int} {rows : List (Row Q)} (low : i < k)
    (high : k + 1 < j) (none : ∀ r ∈ rows, r.start ≠ size.boundary k) :
    ∃ g ∈ gaps size .utc (size.run (i, j)) rows,
      g.start = size.boundary k ∧ g.stop = size.boundary (k + 1) := by
  obtain ⟨t, leads⟩ : ∃ t, Row.Leads rows t := by
    cases rows with
    | nil => exact ⟨.ungrouped, .inl ⟨rfl, rfl⟩⟩
    | cons r rows =>
      obtain ⟨t, -, -, leads⟩ := Row.exists_leads (List.mem_cons_self (a := r) (l := rows))
      exact ⟨t, leads⟩
  refine ⟨t.placeholder (size.window k), mem_gaps_iff.2 ⟨t, leads, ?_⟩, rfl, rfl⟩
  exact ⟨_, window_mem_interior low high, rfl, fun r mem _ => none r mem⟩

end Metering
