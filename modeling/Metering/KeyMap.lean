/-!
Finite maps from strings, kept as entries in the order of their keys. Each key stands once, and a key is
looked up where it was put (`KeyMap.get?_insert`).
-/
namespace Metering

structure KeyMap (α : Type) where
  toList : List (String × α)
  sorted : toList.Pairwise fun a b => a.1 < b.1

namespace KeyMap

variable {α β : Type}

instance [DecidableEq α] : DecidableEq (KeyMap α) := fun a b =>
  decidable_of_iff (a.toList = b.toList) ⟨fun h => by cases a; cases b; simp_all, fun h => h ▸ rfl⟩

instance [Repr α] : Repr (KeyMap α) := ⟨fun m n => reprPrec m.toList n⟩

def empty : KeyMap α := ⟨[], .nil⟩

instance : EmptyCollection (KeyMap α) := ⟨empty⟩
instance : Inhabited (KeyMap α) := ⟨empty⟩

def findEntry (key : String) : List (String × α) → Option α
  | [] => none
  | (k, v) :: rest => if k = key then some v else findEntry key rest

def get? (m : KeyMap α) (key : String) : Option α := findEntry key m.toList

def contains (m : KeyMap α) (key : String) : Bool := (m.get? key).isSome

def keys (m : KeyMap α) : List String := m.toList.map (·.1)

/-- The entries with a value put under a key, in place of one already there. -/
def insertEntry (key : String) (v : α) : List (String × α) → List (String × α)
  | [] => [(key, v)]
  | (k, w) :: rest =>
    if key < k then (key, v) :: (k, w) :: rest
    else if key = k then (key, v) :: rest
    else (k, w) :: insertEntry key v rest

theorem mem_insertEntry {key : String} {v : α} {l : List (String × α)} {e : String × α}
    (h : e ∈ insertEntry key v l) : e = (key, v) ∨ e ∈ l := by
  induction l with
  | nil => simpa [insertEntry] using h
  | cons p rest ih =>
    obtain ⟨k, w⟩ := p
    unfold insertEntry at h
    split at h
    · simpa using h
    · split at h
      · rcases List.mem_cons.1 h with h | h
        · exact .inl h
        · exact .inr (List.mem_cons_of_mem _ h)
      · rcases List.mem_cons.1 h with h | h
        · exact .inr (h ▸ List.mem_cons_self)
        · rcases ih h with h | h
          · exact .inl h
          · exact .inr (List.mem_cons_of_mem _ h)

theorem lt_of_not_lt_of_ne {a b : String} (h : ¬ a < b) (hne : a ≠ b) : b < a := by
  rcases String.le_total a b with hle | hle
  · exact absurd (String.le_antisymm hle (String.not_lt.1 h)) hne
  · exact String.not_le.1 fun hab => hne (String.le_antisymm hab hle)

theorem sorted_insertEntry (key : String) (v : α) {l : List (String × α)}
    (h : l.Pairwise fun a b => a.1 < b.1) :
    (insertEntry key v l).Pairwise fun a b => a.1 < b.1 := by
  induction l with
  | nil => simp [insertEntry]
  | cons p rest ih =>
    obtain ⟨k, w⟩ := p
    rw [List.pairwise_cons] at h
    unfold insertEntry
    split
    · rename_i hlt
      refine List.pairwise_cons.2 ⟨?_, List.pairwise_cons.2 h⟩
      intro e he
      rcases List.mem_cons.1 he with rfl | he
      · exact hlt
      · exact String.lt_trans hlt (h.1 e he)
    · rename_i hnlt
      split
      · rename_i heq
        subst heq
        exact List.pairwise_cons.2 h
      · rename_i hne
        refine List.pairwise_cons.2 ⟨?_, ih h.2⟩
        intro e he
        rcases mem_insertEntry he with rfl | he
        · exact lt_of_not_lt_of_ne hnlt hne
        · exact h.1 e he

def insert (m : KeyMap α) (key : String) (v : α) : KeyMap α :=
  ⟨insertEntry key v m.toList, sorted_insertEntry key v m.sorted⟩

/-- The map of a list of entries, of which later ones win. -/
def ofList (entries : List (String × α)) : KeyMap α :=
  entries.foldl (fun m e => m.insert e.1 e.2) empty

/-- The map with each value replaced, as far as the function gives one. -/
def filterMap (f : String → α → Option β) (m : KeyMap α) : KeyMap β :=
  ⟨m.toList.filterMap fun e => (f e.1 e.2).map fun v => (e.1, v), by
    refine List.Pairwise.filterMap _ ?_ m.sorted
    intro a b hab c hc d hd
    simp only [Option.map_eq_some_iff] at hc hd
    obtain ⟨_, _, rfl⟩ := hc
    obtain ⟨_, _, rfl⟩ := hd
    exact hab⟩

def map (f : α → β) (m : KeyMap α) : KeyMap β := m.filterMap fun _ v => some (f v)

theorem get?_insert (m : KeyMap α) (key k : String) (v : α) :
    (m.insert key v).get? k = if key = k then some v else m.get? k := by
  obtain ⟨l, hl⟩ := m
  simp only [get?, insert]
  induction l with
  | nil => simp [insertEntry, findEntry]
  | cons p rest ih =>
    obtain ⟨k', w⟩ := p
    have ih := ih (List.pairwise_cons.1 hl).2
    unfold insertEntry
    split
    · simp [findEntry]
    · split
      · rename_i heq
        subst heq
        by_cases h : key = k <;> simp [findEntry, h]
      · rename_i hne
        by_cases h : k' = k
        · subst h
          simp [findEntry, hne]
        · simp [findEntry, h, ih]

theorem findEntry_eq_some_of_mem {l : List (String × α)}
    (h : l.Pairwise fun a b => a.1 < b.1) {key : String} {v : α} (hm : (key, v) ∈ l) :
    findEntry key l = some v := by
  induction l with
  | nil => simp at hm
  | cons p rest ih =>
    obtain ⟨k, w⟩ := p
    rw [List.pairwise_cons] at h
    rcases List.mem_cons.1 hm with heq | hm
    · obtain ⟨rfl, rfl⟩ := Prod.mk.inj heq
      simp [findEntry]
    · have hlt : k < key := h.1 _ hm
      have hne : k ≠ key := fun he => String.lt_irrefl _ (he ▸ hlt)
      simp [findEntry, hne, ih h.2 hm]

theorem mem_of_findEntry {l : List (String × α)} {key : String} {v : α}
    (h : findEntry key l = some v) : (key, v) ∈ l := by
  induction l with
  | nil => simp [findEntry] at h
  | cons p rest ih =>
    obtain ⟨k, w⟩ := p
    unfold findEntry at h
    split at h
    · rename_i heq
      cases h
      exact heq ▸ List.mem_cons_self
    · exact List.mem_cons_of_mem _ (ih h)

theorem mem_toList_iff (m : KeyMap α) (key : String) (v : α) :
    (key, v) ∈ m.toList ↔ m.get? key = some v :=
  ⟨fun h => findEntry_eq_some_of_mem m.sorted h, mem_of_findEntry⟩

theorem get?_filterMap (f : String → α → Option β) (m : KeyMap α) (key : String) :
    (m.filterMap f).get? key = (m.get? key).bind (f key) := by
  refine Option.ext fun v => ?_
  rw [← mem_toList_iff, Option.bind_eq_some_iff]
  simp only [filterMap, List.mem_filterMap, Option.map_eq_some_iff]
  constructor
  · rintro ⟨⟨k, w⟩, mem, v', made, is⟩
    obtain ⟨rfl, rfl⟩ := Prod.mk.inj is
    exact ⟨w, (mem_toList_iff m k w).1 mem, made⟩
  · rintro ⟨w, found, made⟩
    exact ⟨(key, w), (mem_toList_iff m key w).2 found, v, made, rfl⟩

end KeyMap

end Metering
