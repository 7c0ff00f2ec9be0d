import Mathlib.Data.List.Nodup
import Metering.Proofs.Meter.Document
import Metering.Registry.Memory
import Metering.Registry.Table

/-!
What the two registries hold under a namespace and an id, and how a request changes it. A request puts
at most one meter in place of another, in memory (`MemoryRegistry.byId_insert`) as in the table
(`RegistryTable.rowAt_replace`), and a meter comes back from its row (`MeterRecord.toMeter_ofMeter`).
-/
namespace Metering

open Json

/-- Whether a table keeps a meter as it is: its instants are of the calendar, and its first instant is
the start of a microsecond. -/
structure Meter.Storable (m : Meter) : Prop where
  since : ∀ t ∈ m.since, t.InRange ∧ t.microsecondStart = t
  progress : ∀ p ∈ m.progress, p.InRange

namespace MeterRecord

theorem ofName_name (a : Aggregation) : Aggregation.ofName? a.name = some a := by
  cases a <;> decide +kernel

theorem ofMicros_micros {t : Instant} (h : t.InRange) (sharp : t.microsecondStart = t) :
    Instant.ofMicros t.micros = t := by
  have same : (⟨t.micros * 1000⟩ : Instant) = t := sharp
  rw [Instant.ofMicros, same, if_pos h]

theorem readAggregation_ofMeter (m : Meter) : (ofMeter m).readAggregation = .ok m.aggregation := by
  rw [readAggregation, ofMeter, ofName_name]

theorem readDimensions_ofMeter (m : Meter) : (ofMeter m).readDimensions = .ok m.dimensions := by
  have kept : Kept textMapValue (Tree.map? Tree.string?) 1 m.dimensions :=
    Kept.map fun e _ => Kept.string 0 e.2
  rw [readDimensions, ofMeter, kept.read_text (by decide)]

/-- A meter comes back from its row. -/
theorem toMeter_ofMeter {m : Meter} (h : m.Storable) : (ofMeter m).toMeter = .ok m := by
  have progress : (ofMeter m).readProgress = .ok m.progress := by
    rw [readProgress, ofMeter]
    cases is : m.progress with
    | none => rfl
    | some p =>
      have back := Progress.decode_encode (h.progress p is)
      simp only [Option.map_some, back]
  have since : (ofMeter m).since.map Instant.ofMicros = m.since := by
    show (m.since.map Instant.micros).map Instant.ofMicros = m.since
    cases is : m.since with
    | none => rfl
    | some t =>
      obtain ⟨range, sharp⟩ := h.since t is
      rw [Option.map_some, Option.map_some, ofMicros_micros range sharp]
  rw [toMeter, readAggregation_ofMeter, readDimensions_ofMeter, progress]
  show Except.ok (Meter.mk m.space m.id m.slug m.aggregation m.eventType m.valuePath m.dimensions
    ((ofMeter m).since.map Instant.ofMicros) m.progress) = _
  rw [since]

end MeterRecord

namespace MemoryRegistry

variable {r : MemoryRegistry}

/-- Each meter stands under its own namespace and id. -/
def WellKeyed (r : MemoryRegistry) : Prop :=
  ∀ space id m, r.byId? space id = some m → m.space = space ∧ m.id = id

/-- Whether a meter is in a registry. -/
def Holds (r : MemoryRegistry) (m : Meter) : Prop := r.byId? m.space m.id = some m

/-- A meter put under a namespace and an id leaves all others alone. -/
theorem byId_insert (r : MemoryRegistry) (space id : String) (m : Meter) (s i : String) :
    byId? (KeyMap.insert r space ((r.inSpace space).insert id m)) s i =
      if space = s ∧ id = i then some m else r.byId? s i := by
  simp only [byId?, inSpace, KeyMap.get?_insert]
  by_cases here : space = s
  · subst here
    simp [KeyMap.get?_insert]
  · simp [here]

theorem mem_metersIn (keyed : r.WellKeyed) {space : String} {m : Meter} :
    m ∈ r.metersIn space ↔ m.space = space ∧ r.Holds m := by
  have entry : m ∈ r.metersIn space ↔ ∃ id, r.byId? space id = some m := by
    simp only [metersIn, List.mem_map, Prod.exists, exists_eq_right, KeyMap.mem_toList_iff]
    rfl
  rw [entry]
  constructor
  · rintro ⟨id, found⟩
    obtain ⟨rfl, rfl⟩ := keyed _ _ _ found
    exact ⟨rfl, found⟩
  · rintro ⟨rfl, held⟩
    exact ⟨m.id, held⟩

theorem mem_list (keyed : r.WellKeyed) {space : Option String} {m : Meter} :
    m ∈ r.list space ↔ (∀ s ∈ space, m.space = s) ∧ r.Holds m := by
  cases space with
  | some space =>
    rw [list, mem_metersIn keyed]
    simp
  | none =>
    have spaces : m ∈ r.list none ↔ ∃ space, m ∈ r.metersIn space := by
      simp only [list, metersIn, inSpace, List.mem_flatMap, Prod.exists]
      constructor
      · rintro ⟨space, ms, there, mem⟩
        refine ⟨space, ?_⟩
        rw [(KeyMap.mem_toList_iff r space ms).1 there]
        exact mem
      · rintro ⟨space, mem⟩
        cases found : KeyMap.get? r space with
        | none =>
          rw [found] at mem
          exact absurd mem List.not_mem_nil
        | some ms =>
          rw [found] at mem
          exact ⟨space, ms, (KeyMap.mem_toList_iff r space ms).2 found, mem⟩
    rw [spaces]
    simp only [mem_metersIn keyed]
    simp

theorem metersIn_of_mem {e : String × KeyMap Meter} (mem : e ∈ r.toList) :
    e.2.toList.map (·.2) = r.metersIn e.1 := by
  rw [metersIn, inSpace, (KeyMap.mem_toList_iff r e.1 e.2).1 mem]
  rfl

theorem nodup_metersIn (keyed : r.WellKeyed) (space : String) : (r.metersIn space).Nodup := by
  have ids : (r.metersIn space).map Meter.id = (r.inSpace space).toList.map Prod.fst := by
    rw [metersIn, List.map_map]
    refine List.map_congr_left fun e mem => ?_
    have found : r.byId? space e.1 = some e.2 := (KeyMap.mem_toList_iff _ _ _).1 mem
    exact (keyed _ _ _ found).2
  refine List.Nodup.of_map Meter.id ?_
  rw [ids]
  refine List.pairwise_map.2 ((r.inSpace space).sorted.imp ?_)
  intro a b lt same
  rw [same] at lt
  exact String.lt_irrefl _ lt

theorem nodup_list (keyed : r.WellKeyed) (space : Option String) : (r.list space).Nodup := by
  cases space with
  | some space => exact nodup_metersIn keyed space
  | none =>
    refine List.nodup_flatMap.2 ⟨fun e mem => ?_, ?_⟩
    · rw [metersIn_of_mem mem]
      exact nodup_metersIn keyed e.1
    · refine r.sorted.imp_of_mem ?_
      intro a b ha hb lt m mem mem'
      have mem : m ∈ r.metersIn a.1 := metersIn_of_mem ha ▸ mem
      have mem' : m ∈ r.metersIn b.1 := metersIn_of_mem hb ▸ mem'
      have here := ((mem_metersIn keyed).1 mem).1
      have there := ((mem_metersIn keyed).1 mem').1
      rw [← here, ← there] at lt
      exact String.lt_irrefl _ lt

end MemoryRegistry

namespace RegistryTable

variable {t : RegistryTable}

/-- The row under a namespace and an id. -/
def rowAt? (t : RegistryTable) (space id : String) : Option MeterRecord :=
  List.find? (fun r => r.HasKey space id) t

/-- No two rows have the same namespace and id. -/
def Once (t : RegistryTable) : Prop := (t.map fun r => (r.space, r.id)).Nodup

theorem rowAt_eq_some (once : t.Once) {space id : String} {r : MeterRecord} :
    t.rowAt? space id = some r ↔ r ∈ t ∧ r.HasKey space id := by
  constructor
  · intro found
    exact ⟨List.mem_of_find?_eq_some found, by simpa using List.find?_some found⟩
  · rintro ⟨mem, key⟩
    cases found : t.rowAt? space id with
    | none => exact absurd key (by simpa using List.find?_eq_none.1 found r mem)
    | some r' =>
      have key' : r'.HasKey space id := by simpa using List.find?_some found
      have same : (r'.space, r'.id) = (r.space, r.id) := by
        rw [key.1, key.2, key'.1, key'.2]
      rw [List.inj_on_of_nodup_map once (List.mem_of_find?_eq_some found) mem same]

theorem mem_iff (once : t.Once) {r : MeterRecord} : r ∈ t ↔ t.rowAt? r.space r.id = some r := by
  rw [rowAt_eq_some once]
  exact ⟨fun mem => ⟨mem, rfl, rfl⟩, fun h => h.1⟩

theorem any_hasKey {space id : String} :
    (t.any fun r => r.HasKey space id) = (t.rowAt? space id).isSome := by
  rw [rowAt?, List.isSome_find?]

section Replace

variable {space id : String} {f : MeterRecord → MeterRecord}

/-- Rows put in place of those under a namespace and an id leave all others alone. -/
theorem rowAt_replace (keeps : ∀ r, r.HasKey space id → (f r).HasKey space id) (s i : String) :
    rowAt? (t.map fun r => if r.HasKey space id then f r else r) s i =
      if space = s ∧ id = i then (t.rowAt? s i).map f else t.rowAt? s i := by
  have own (r : MeterRecord) : (if r.HasKey space id then f r else r).HasKey s i ↔ r.HasKey s i := by
    split
    · rename_i key
      have key' := keeps r key
      simp only [MeterRecord.HasKey, key.1, key.2, key'.1, key'.2]
    · rfl
  have same : ((fun r : MeterRecord => decide (r.HasKey s i)) ∘
      fun r => if r.HasKey space id then f r else r) = fun r => decide (r.HasKey s i) :=
    funext fun r => decide_eq_decide.2 (own r)
  rw [rowAt?, List.find?_map, same]
  cases found : t.rowAt? s i with
  | none =>
    rw [rowAt?] at found
    rw [found]
    split <;> rfl
  | some r =>
    rw [rowAt?] at found
    have key : r.HasKey s i := by simpa using List.find?_some found
    rw [found]
    show some (if r.HasKey space id then f r else r) = _
    split
    · rename_i key'
      rw [if_pos ⟨key'.1.symm.trans key.1, key'.2.symm.trans key.2⟩]
      rfl
    · rename_i other
      refine (if_neg fun same => other ?_).symm
      rw [same.1, same.2]
      exact key

theorem once_replace (once : t.Once) (keeps : ∀ r, r.HasKey space id → (f r).HasKey space id) :
    Once (t.map fun r => if r.HasKey space id then f r else r) := by
  have keys : (t.map fun r => if r.HasKey space id then f r else r).map (fun r => (r.space, r.id)) =
      t.map fun r => (r.space, r.id) := by
    rw [List.map_map]
    refine List.map_congr_left fun r _ => ?_
    show ((if r.HasKey space id then f r else r).space, (if r.HasKey space id then f r else r).id) = _
    split
    · rename_i key
      have key' := keeps r key
      rw [key'.1, key'.2, key.1, key.2]
    · rfl
  rw [Once, keys]
  exact once

end Replace

theorem rowAt_append (record : MeterRecord) (s i : String) :
    rowAt? (t ++ [record]) s i =
      (t.rowAt? s i).or (if record.HasKey s i then some record else none) := by
  rw [rowAt?, List.find?_append, rowAt?]
  congr 1
  rw [List.find?_singleton]
  simp

theorem once_append (once : t.Once) {record : MeterRecord}
    (new : t.rowAt? record.space record.id = none) : Once (t ++ [record]) := by
  rw [Once, List.map_append, List.nodup_append]
  refine ⟨once, List.nodup_singleton _, ?_⟩
  intro key mem key' mem' same
  obtain ⟨r, there, rfl⟩ := List.mem_map.1 mem
  obtain rfl := List.mem_singleton.1 mem'
  have absent := List.find?_eq_none.1 new r there
  rw [decide_eq_true_eq] at absent
  exact absent ⟨congrArg Prod.fst same, congrArg Prod.snd same⟩

section Put

variable {m : Meter}

/-- A definition in place of a stored one keeps its key. -/
theorem hasKey_merged (r : MeterRecord) (_ : r.HasKey m.space m.id) :
    MeterRecord.HasKey
      { MeterRecord.ofMeter m with progress := (MeterRecord.ofMeter m).progress <|> r.progress }
      m.space m.id :=
  ⟨rfl, rfl⟩

theorem once_put (once : t.Once) : (t.put m).Once := by
  rw [put, any_hasKey]
  cases found : t.rowAt? m.space m.id with
  | none => exact once_append once found
  | some r => exact once_replace once hasKey_merged

/-- The row of a definition is put under its key, with the progress of the row that was there if it
brings none of its own. -/
theorem rowAt_put (t : RegistryTable) (m : Meter) (s i : String) :
    (t.put m).rowAt? s i =
      if m.space = s ∧ m.id = i then
        some { MeterRecord.ofMeter m with
          progress := (MeterRecord.ofMeter m).progress <|>
            (t.rowAt? m.space m.id).bind MeterRecord.progress }
      else t.rowAt? s i := by
  rw [put, any_hasKey]
  cases found : t.rowAt? m.space m.id with
  | none =>
    refine (rowAt_append (MeterRecord.ofMeter m) s i).trans ?_
    by_cases here : (MeterRecord.ofMeter m).HasKey s i
    · obtain ⟨rfl, rfl⟩ := here
      have absent : t.rowAt? (MeterRecord.ofMeter m).space (MeterRecord.ofMeter m).id = none := found
      rw [absent, if_pos ⟨rfl, rfl⟩, if_pos ⟨rfl, rfl⟩]
      simp
    · have other : ¬ (m.space = s ∧ m.id = i) := here
      rw [if_neg here, if_neg other, Option.or_none]
  | some r =>
    refine (rowAt_replace hasKey_merged s i).trans ?_
    by_cases here : m.space = s ∧ m.id = i
    · obtain ⟨rfl, rfl⟩ := here
      rw [if_pos ⟨rfl, rfl⟩, if_pos ⟨rfl, rfl⟩, found]
      rfl
    · rw [if_neg here, if_neg here]

end Put

end RegistryTable

end Metering
