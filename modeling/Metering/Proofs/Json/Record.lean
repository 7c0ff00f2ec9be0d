import Metering.Json.Decode
import Metering.Proofs.Json.ReadBack

/-!
Records of named fields. The record that a reader takes from an object holds the fields with known
names, in order and each once (`Record.ofFields_eq_some`); all others are passed over. A written object
whose keys are known is read as the record of its fields (`Value.record_tree`).
-/
namespace Metering.Json

namespace Record

/-- The fields with known names, in order. -/
def known (names : List String) (fields : List (Option String × Tree)) : Record :=
  fields.filterMap fun f => f.1.bind fun key => if key ∈ names then some (key, f.2) else none

variable {names : List String} {fields : List (Option String × Tree)} {r : Record}

theorem lookup_isSome_iff {key : String} :
    (r.lookup key).isSome = true ↔ key ∈ r.map Prod.fst := by
  induction r with
  | nil => simp
  | cons f r ih =>
    obtain ⟨k, t⟩ := f
    rw [List.lookup_cons, List.map_cons, List.mem_cons, ← ih]
    by_cases same : key = k
    · simp [same]
    · simp [same, beq_eq_false_iff_ne.2 same]

theorem known_cons_of_mem {key : String} (t : Tree) (h : key ∈ names) :
    known names ((some key, t) :: fields) = (key, t) :: known names fields := by
  simp [known, h]

theorem known_cons_of_not_mem {key : String} (t : Tree) (h : key ∉ names) :
    known names ((some key, t) :: fields) = known names fields := by
  simp [known, h]

/-- Fewer names pick out of the fields with more. -/
theorem known_subset {names' : List String} (sub : ∀ name ∈ names, name ∈ names') :
    known names fields = (known names' fields).filter fun f => f.1 ∈ names := by
  induction fields with
  | nil => rfl
  | cons f fields ih =>
    obtain ⟨key, t⟩ := f
    cases key with
    | none => simpa [known] using ih
    | some key =>
      by_cases mem : key ∈ names
      · rw [known_cons_of_mem t mem, known_cons_of_mem t (sub key mem), ih]
        simp [mem]
      · rw [known_cons_of_not_mem t mem, ih]
        by_cases mem' : key ∈ names'
        · rw [known_cons_of_mem t mem']
          simp [mem]
        · rw [known_cons_of_not_mem t mem']

/-- Every key must be a text, and no known one may stand twice. -/
theorem ofFields_eq_some : ofFields names fields = some r ↔
    (∀ f ∈ fields, f.1.isSome = true) ∧ ((known names fields).map Prod.fst).Nodup ∧
      r = known names fields := by
  induction fields generalizing r with
  | nil =>
    constructor
    · intro h
      exact ⟨fun f mem => absurd mem List.not_mem_nil, .nil, (Option.some.inj h).symm⟩
    · rintro ⟨-, -, rfl⟩
      rfl
  | cons f fields ih =>
    obtain ⟨key, t⟩ := f
    cases key with
    | none => simp [ofFields]
    | some key =>
      rw [ofFields, Option.bind_eq_bind, Option.bind_eq_some_iff, List.forall_mem_cons]
      by_cases mem : key ∈ names
      · rw [known_cons_of_mem t mem, List.map_cons, List.nodup_cons]
        constructor
        · rintro ⟨others, read, h⟩
          obtain ⟨texts, apart, rfl⟩ := ih.1 read
          rw [if_pos mem] at h
          split at h
          · exact absurd h (by simp)
          · rename_i new
            rw [lookup_isSome_iff] at new
            exact ⟨⟨rfl, texts⟩, ⟨new, apart⟩, (Option.some.inj h).symm⟩
        · rintro ⟨⟨-, texts⟩, ⟨new, apart⟩, rfl⟩
          refine ⟨_, ih.2 ⟨texts, apart, rfl⟩, ?_⟩
          rw [if_pos mem, if_neg (mt lookup_isSome_iff.1 new)]
          rfl
      · rw [known_cons_of_not_mem t mem]
        constructor
        · rintro ⟨others, read, h⟩
          obtain ⟨texts, apart, rfl⟩ := ih.1 read
          rw [if_neg mem] at h
          exact ⟨⟨rfl, texts⟩, apart, (Option.some.inj h).symm⟩
        · rintro ⟨⟨-, texts⟩, apart, rfl⟩
          refine ⟨_, ih.2 ⟨texts, apart, rfl⟩, ?_⟩
          rw [if_neg mem]
          rfl

theorem mem_of_lookup {name : String} {t : Tree} (h : r.lookup name = some t) : (name, t) ∈ r := by
  induction r with
  | nil => cases h
  | cons f r ih =>
    obtain ⟨key, t'⟩ := f
    rw [List.lookup_cons] at h
    by_cases same : name = key
    · subst same
      rw [beq_self_eq_true] at h
      exact Option.some.inj h ▸ List.mem_cons_self
    · rw [beq_eq_false_iff_ne.2 same] at h
      exact List.mem_cons_of_mem _ (ih h)

end Record

/-- The fields of a record nest less than what the record was read from. -/
theorem Tree.Fits.of_record {room : Nat} {names : List String} {t : Tree} {r : Record}
    (fits : t.Fits room) (h : t.record? names = some r) :
    ∃ inner, room = inner + 1 ∧ ∀ name t', r.lookup name = some t' → t'.Fits inner := by
  cases fits with
  | @array inner items inside =>
    refine ⟨inner, rfl, fun name t' found => ?_⟩
    rw [Tree.record?] at h
    split at h
    · have mem := Record.mem_of_lookup found
      rw [← Option.some.inj h] at mem
      exact inside t' (List.of_mem_zip mem).2
    · cases h
  | @object inner fields inside =>
    refine ⟨inner, rfl, fun name t' found => ?_⟩
    obtain ⟨-, -, rfl⟩ := Record.ofFields_eq_some.1 h
    have mem := Record.mem_of_lookup found
    rw [Record.known, List.mem_filterMap] at mem
    obtain ⟨f, mem, is⟩ := mem
    rw [Option.bind_eq_some_iff] at is
    obtain ⟨key, -, is⟩ := is
    split at is
    · exact (Prod.mk.inj (Option.some.inj is)).2 ▸ inside f mem
    · cases is
  | _ => cases h

namespace Value

/-- The record of the fields of an object. -/
def record (fields : List (String × Value)) : Record := fields.map fun f => (f.1, f.2.tree)

theorem lookup_record (fields : List (String × Value)) (name : String) :
    (record fields).lookup name = (fields.lookup name).map tree := by
  induction fields with
  | nil => rfl
  | cons f fields ih =>
    obtain ⟨key, v⟩ := f
    rw [record, List.map_cons, List.lookup_cons, List.lookup_cons]
    cases name == key
    · exact ih
    · rfl

theorem known_fieldTrees {names : List String} {fields : List (String × Value)}
    (all : ∀ key ∈ fields.map Prod.fst, key ∈ names) :
    Record.known names (fieldTrees fields) = record fields := by
  induction fields with
  | nil => rfl
  | cons f fields ih =>
    obtain ⟨key, v⟩ := f
    rw [List.map_cons, List.forall_mem_cons] at all
    rw [fieldTrees, Record.known_cons_of_mem _ all.1, ih all.2]
    rfl

/-- An object whose keys are some of the known names in their order is read as the record of its
fields. -/
theorem ofFields_fieldTrees {names : List String} {fields : List (String × Value)}
    (keys : (fields.map Prod.fst).Sublist names) (apart : names.Nodup) :
    Record.ofFields names (fieldTrees fields) = some (record fields) := by
  have kept := known_fieldTrees fun key mem => keys.subset mem
  refine Record.ofFields_eq_some.2 ⟨?_, ?_, kept.symm⟩
  · rw [fieldTrees_eq]
    intro f mem
    obtain ⟨f', -, rfl⟩ := List.mem_map.1 mem
    rfl
  · rw [kept, record, List.map_map]
    exact apart.sublist keys

theorem record_tree {names : List String} {fields : List (String × Value)}
    (keys : (fields.map Prod.fst).Sublist names) (apart : names.Nodup) :
    (Value.object fields).tree.record? names = some (record fields) :=
  ofFields_fieldTrees keys apart

end Value

end Metering.Json
