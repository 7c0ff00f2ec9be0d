import Mathlib.Data.List.Induction
import Metering.KeyMap

/-!
Maps told by what they hold. Maps with the same value under each key are the same (`KeyMap.ext_get?`),
and the map of the entries of a map is that map (`KeyMap.ofList_toList`).
-/
namespace Metering.KeyMap

variable {α : Type}

theorem nodup_of_sorted {l : List (String × α)} (h : l.Pairwise fun a b => a.1 < b.1) : l.Nodup := by
  refine h.imp ?_
  rintro a b lt rfl
  exact String.lt_irrefl _ lt

/-- Maps with the same value under each key are the same. -/
theorem ext_get? {m n : KeyMap α} (h : ∀ key, m.get? key = n.get? key) : m = n := by
  obtain ⟨l, hl⟩ := m
  obtain ⟨l', hl'⟩ := n
  have same : l.Perm l' := by
    refine (List.perm_ext_iff_of_nodup (nodup_of_sorted hl) (nodup_of_sorted hl')).2 ?_
    rintro ⟨key, v⟩
    rw [mem_toList_iff ⟨l, hl⟩, mem_toList_iff ⟨l', hl'⟩, h]
  obtain rfl : l = l' := by
    refine same.eq_of_pairwise ?_ hl hl'
    intro a b _ _ lt gt
    exact absurd (String.lt_trans lt gt) (String.lt_irrefl _)
  rfl

/-- Entries of which none has a second value can be looked up. -/
theorem get?_ofList {entries : List (String × α)}
    (single : ∀ e ∈ entries, ∀ f ∈ entries, e.1 = f.1 → e = f) {key : String} {v : α} :
    (ofList entries).get? key = some v ↔ (key, v) ∈ entries := by
  induction entries using List.reverseRecOn with
  | nil => simp [ofList, empty, get?, findEntry]
  | append_singleton entries last ih =>
    have before := ih fun e mem f mem' =>
      single e (List.mem_append_left _ mem) f (List.mem_append_left _ mem')
    have latest : last ∈ entries ++ [last] := List.mem_append_right _ List.mem_cons_self
    rw [ofList, List.foldl_append, List.foldl_cons, List.foldl_nil, get?_insert]
    by_cases here : last.1 = key
    · rw [if_pos here, Option.some.injEq]
      constructor
      · rintro rfl
        exact here ▸ latest
      · exact fun mem => congrArg Prod.snd (single last latest (key, v) mem here)
    · have apart : (key, v) ≠ last := fun is => here (congrArg Prod.fst is.symm)
      rw [if_neg here, List.mem_append, List.mem_singleton]
      simp only [apart, or_false]
      exact before

theorem get?_ofList_map {f : String → α} {names : List String} {name : String} {v : α} :
    (ofList (names.map fun n => (n, f n))).get? name = some v ↔ name ∈ names ∧ f name = v := by
  rw [get?_ofList]
  · simp only [List.mem_map, Prod.mk.injEq]
    constructor
    · rintro ⟨n, mem, rfl, is⟩
      exact ⟨mem, is⟩
    · rintro ⟨mem, is⟩
      exact ⟨name, mem, rfl, is⟩
  · intro e mem e' mem' same
    obtain ⟨n, -, rfl⟩ := List.mem_map.1 mem
    obtain ⟨n', -, rfl⟩ := List.mem_map.1 mem'
    exact Prod.ext same (congrArg f same)

/-- A map has no entries but those that it is made of. -/
theorem mem_of_mem_ofList {entries : List (String × α)} {e : String × α}
    (h : e ∈ (ofList entries).toList) : e ∈ entries := by
  induction entries using List.reverseRecOn with
  | nil => exact absurd h List.not_mem_nil
  | append_singleton entries last ih =>
    rw [ofList, List.foldl_append, List.foldl_cons, List.foldl_nil] at h
    rcases mem_insertEntry h with rfl | h
    · exact List.mem_append_right _ List.mem_cons_self
    · exact List.mem_append_left _ (ih h)

/-- A key stands in a map once, so what is made of its entries is made of one value at most. -/
theorem flatMap_of_key {β : Type} (m : KeyMap α) (key : String) (f : α → List β) :
    m.toList.flatMap (fun e => if e.1 = key then f e.2 else []) = ((m.get? key).map f).getD [] := by
  obtain ⟨entries, sorted⟩ := m
  show entries.flatMap _ = ((findEntry key entries).map f).getD []
  induction entries with
  | nil => rfl
  | cons e entries ih =>
    obtain ⟨above, sorted⟩ := List.pairwise_cons.1 sorted
    rw [List.flatMap_cons, ih sorted, findEntry]
    by_cases here : e.1 = key
    · have absent : findEntry key entries = none := by
        cases found : findEntry key entries with
        | none => rfl
        | some v =>
          have lt := above _ (mem_of_findEntry found)
          exact absurd (here ▸ lt) (String.lt_irrefl _)
      rw [if_pos here, if_pos here, absent]
      exact List.append_nil _
    · rw [if_neg here, if_neg here, List.nil_append]

/-- The entries of a map make it up again. -/
theorem ofList_toList (m : KeyMap α) : ofList m.toList = m := by
  have single : ∀ e ∈ m.toList, ∀ f ∈ m.toList, e.1 = f.1 → e = f := by
    rintro ⟨key, v⟩ mem ⟨key', w⟩ mem' same
    obtain rfl : key = key' := same
    rw [mem_toList_iff] at mem mem'
    rw [Option.some.inj (mem.symm.trans mem')]
  refine ext_get? fun key => Option.ext fun v => ?_
  rw [get?_ofList single, mem_toList_iff]

theorem isSome_findEntry (key : String) (l : List (String × α)) :
    (findEntry key l).isSome = (l.map (·.1)).contains key := by
  induction l with
  | nil => rfl
  | cons e l ih =>
    obtain ⟨k, v⟩ := e
    by_cases here : k = key
    · simp [findEntry, here]
    · simp [findEntry, here, Ne.symm here, ih]

/-- What a map contains is told by its keys. -/
theorem contains_eq (m : KeyMap α) (key : String) : m.contains key = m.keys.contains key :=
  isSome_findEntry key m.toList

end Metering.KeyMap
