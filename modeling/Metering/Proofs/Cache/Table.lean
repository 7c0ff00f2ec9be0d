import Mathlib.Data.List.Basic
import Metering.Cache.Table

/-!
The table of stored rows. No two rows have the same key (`unique_store`), a row that has been stored
stays, and a row that was not stored has met one with its key (`exists_sameKey_store`).
-/
namespace Metering

namespace CacheTable

variable {Q : Type} {t : CacheTable Q} {space hash : String} {rows : List (Row Q)}

/-- No two rows have the same key. -/
def Unique (t : CacheTable Q) : Prop := t.Pairwise fun c d => ¬ c.SameKey d

theorem insert_cases (t : CacheTable Q) (c : CachedRow Q) :
    (t.insert c = t ∧ ∃ d ∈ t, d.SameKey c) ∨
      (t.insert c = t ++ [c] ∧ ∀ d ∈ t, ¬ d.SameKey c) := by
  unfold insert
  split
  · rename_i known
    obtain ⟨d, mem, same⟩ := List.any_eq_true.1 known
    exact .inl ⟨rfl, d, mem, of_decide_eq_true same⟩
  · rename_i fresh
    refine .inr ⟨rfl, fun d mem same => fresh ?_⟩
    exact List.any_eq_true.2 ⟨d, mem, decide_eq_true same⟩

theorem store_cons (t : CacheTable Q) (space hash : String) (r : Row Q) (rows : List (Row Q)) :
    t.store space hash (r :: rows) = (t.insert ⟨space, hash, r⟩).store space hash rows := rfl

theorem mem_insert_of_mem {c d : CachedRow Q} (mem : d ∈ t) : d ∈ t.insert c := by
  rcases insert_cases t c with ⟨same, -⟩ | ⟨more, -⟩
  · rw [same]
    exact mem
  · rw [more]
    exact List.mem_append_left _ mem

theorem mem_store_of_mem {c : CachedRow Q} (mem : c ∈ t) : c ∈ t.store space hash rows := by
  induction rows generalizing t with
  | nil => exact mem
  | cons r rows ih => exact ih (mem_insert_of_mem mem)

theorem mem_store {c : CachedRow Q} (mem : c ∈ t.store space hash rows) :
    c ∈ t ∨ ∃ r ∈ rows, c = ⟨space, hash, r⟩ := by
  induction rows generalizing t with
  | nil => exact .inl mem
  | cons r rows ih =>
    rw [store_cons] at mem
    rcases ih mem with mem | ⟨s, mem, is⟩
    · rcases insert_cases t ⟨space, hash, r⟩ with ⟨same, -⟩ | ⟨more, -⟩
      · rw [same] at mem
        exact .inl mem
      · rw [more] at mem
        rcases List.mem_append.1 mem with mem | mem
        · exact .inl mem
        · exact .inr ⟨r, List.mem_cons_self, List.mem_singleton.1 mem⟩
    · exact .inr ⟨s, List.mem_cons_of_mem _ mem, is⟩

theorem unique_store (unique : t.Unique) : (t.store space hash rows).Unique := by
  induction rows generalizing t with
  | nil => exact unique
  | cons r rows ih =>
    rw [store_cons]
    refine ih ?_
    rcases insert_cases t ⟨space, hash, r⟩ with ⟨same, -⟩ | ⟨more, fresh⟩
    · rw [same]
      exact unique
    · rw [more]
      refine List.pairwise_append.2 ⟨unique, List.pairwise_singleton _ _, fun d mem c there => ?_⟩
      rw [List.mem_singleton.1 there]
      exact fresh d mem

/-- A row that is stored finds a row under its key, another one or itself. -/
theorem exists_sameKey_store (t : CacheTable Q) (space hash : String) {r : Row Q} (mem : r ∈ rows) :
    ∃ d ∈ t.store space hash rows, d.SameKey ⟨space, hash, r⟩ := by
  induction rows generalizing t with
  | nil => exact absurd mem List.not_mem_nil
  | cons s rows ih =>
    rcases List.mem_cons.1 mem with rfl | mem
    · have stored : ∃ d ∈ t.insert ⟨space, hash, r⟩, d.SameKey ⟨space, hash, r⟩ := by
        rcases insert_cases t ⟨space, hash, r⟩ with ⟨same, d, mem, key⟩ | ⟨more, -⟩
        · exact ⟨d, same.symm ▸ mem, key⟩
        · refine ⟨⟨space, hash, r⟩, ?_, rfl, rfl, rfl, rfl, rfl⟩
          rw [more]
          exact List.mem_append_right _ List.mem_cons_self
      obtain ⟨d, there, key⟩ := stored
      rw [store_cons]
      exact ⟨d, mem_store_of_mem there, key⟩
    · exact ih _ mem

/-- The rows of a table that a lookup finds. -/
def found (t : CacheTable Q) (space hash : String) (range : Period) : List (CachedRow Q) :=
  t.filter fun c => c.space = space ∧ c.hash = hash ∧
    range.start ≤ c.row.start ∧ c.row.stop ≤ range.stop

theorem lookup_perm (t : CacheTable Q) (space hash : String) (range : Period) :
    (t.lookup space hash range).Perm ((t.found space hash range).map CachedRow.row) :=
  List.mergeSort_perm _ _

theorem mem_found {range : Period} {c : CachedRow Q} : c ∈ t.found space hash range ↔
    c ∈ t ∧ c.space = space ∧ c.hash = hash ∧ range.start ≤ c.row.start ∧
      c.row.stop ≤ range.stop := by
  rw [found, List.mem_filter, decide_eq_true_eq]

theorem mem_lookup {range : Period} {r : Row Q} : r ∈ t.lookup space hash range ↔
    ⟨space, hash, r⟩ ∈ t ∧ range.start ≤ r.start ∧ r.stop ≤ range.stop := by
  rw [(lookup_perm t space hash range).mem_iff, List.mem_map]
  constructor
  · rintro ⟨⟨space', hash', r⟩, there, rfl⟩
    obtain ⟨mem, own, hashed, inside⟩ := mem_found.1 there
    obtain rfl : space' = space := own
    obtain rfl : hash' = hash := hashed
    exact ⟨mem, inside⟩
  · rintro ⟨mem, inside⟩
    exact ⟨_, mem_found.2 ⟨mem, rfl, rfl, inside⟩, rfl⟩

/-- A lookup finds no row twice. -/
theorem nodup_lookup (unique : t.Unique) (space hash : String) (range : Period) :
    (t.lookup space hash range).Nodup := by
  refine (lookup_perm t space hash range).nodup_iff.2 ?_
  have apart : (t.found space hash range).Pairwise fun c d => ¬ c.SameKey d := unique.filter _
  refine List.Pairwise.map _ (fun _ _ ne => ne) (apart.imp_of_mem fun mem mem' other same => other ?_)
  obtain ⟨-, own, hashed, -⟩ := mem_found.1 mem
  obtain ⟨-, own', hashed', -⟩ := mem_found.1 mem'
  exact ⟨congrArg Row.start same, congrArg Row.stop same, hashed.trans hashed'.symm,
    own.trans own'.symm, congrArg Row.groupKey same⟩

/-- Whether a row of a window is stored. -/
def Covers (t : CacheTable Q) (space hash : String) (w : Period) : Prop :=
  ∃ r, ⟨space, hash, r⟩ ∈ t ∧ r.start = w.start ∧ r.stop = w.stop

theorem covers_of_store (t : CacheTable Q) (space hash : String) {r : Row Q} (mem : r ∈ rows) :
    (t.store space hash rows).Covers space hash ⟨r.start, r.stop⟩ := by
  obtain ⟨⟨space', hash', r'⟩, there, start, stop, hashed, own, -⟩ := exists_sameKey_store t space hash mem
  obtain rfl : space' = space := own
  obtain rfl : hash' = hash := hashed
  exact ⟨r', there, start, stop⟩

theorem Covers.found {w range : Period} (h : t.Covers space hash w) (low : range.start ≤ w.start)
    (high : w.stop ≤ range.stop) : ∃ r ∈ t.lookup space hash range, r.start = w.start := by
  obtain ⟨r, there, start, stop⟩ := h
  exact ⟨r, mem_lookup.2 ⟨there, start ▸ low, stop ▸ high⟩, start⟩

end CacheTable

end Metering
