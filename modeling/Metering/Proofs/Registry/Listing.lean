import Metering.Proofs.KeyMap
import Metering.Proofs.Registry.Freshness
import Metering.Proofs.Registry.Saved

/-!
What a registry lists tells what it finds. Whatever was asked of a registry of either kind since it was
empty, it lists each of its meters once, and the meter that it finds by a name is the one that is found
in its list: the one with that id, or else the first with that slug (`Registry.listedAs`).

In memory slugs may repeat; the list and the lookup have the same order (`MemoryRegistry.find?_list`). A
table lists by slugs and looks up in the order in which rows came in, but there a slug belongs to one
row of a namespace (`RegistryTable.Orderly`).
-/
namespace Metering

open Backfill (keyOf)

/-- Instants in a request are of the calendar. -/
def RegistryRequest.InRange : RegistryRequest → Prop
  | list _ => True
  | get .. => True
  | setProgress _ _ p => p.InRange
  | put m => m.InRange

namespace MemoryRegistry

variable {r : MemoryRegistry}

theorem once_list (keyed : r.WellKeyed) : ((r.list none).map keyOf).Nodup := by
  refine (nodup_list keyed none).map_on fun m mem n mem' same => ?_
  have held : r.Holds m := ((mem_list keyed).1 mem).2
  have held' : r.Holds n := ((mem_list keyed).1 mem').2
  obtain ⟨space, id⟩ := Prod.mk.inj same
  rw [Holds, space, id] at held
  exact Option.some.inj (held.symm.trans held')

/-- The meters of a namespace stand together, in the order in which they are looked up. -/
theorem filter_list (keyed : r.WellKeyed) (space : String) :
    (r.list none).filter (fun m => m.space == space) = r.metersIn space := by
  have own : ∀ e ∈ r.toList, (e.2.toList.map (·.2)).filter (fun m => m.space == space) =
      if e.1 = space then e.2.toList.map (·.2) else [] := by
    intro e mem
    have named : ∀ m ∈ e.2.toList.map (·.2), m.space = e.1 := by
      intro m there
      rw [metersIn_of_mem mem] at there
      exact ((mem_metersIn keyed).1 there).1
    split
    · rename_i here
      rw [List.filter_eq_self]
      intro m there
      rw [named m there, here, beq_self_eq_true]
    · rename_i other
      rw [List.filter_eq_nil_iff]
      intro m there
      rw [named m there, beq_iff_eq]
      exact other
  rw [list, List.filter_flatMap, List.flatMap_congr own]
  rw [KeyMap.flatMap_of_key r space fun ms => ms.toList.map (·.2), metersIn, inSpace]
  cases KeyMap.get? r space <;> rfl

/-- The list finds the meters that the registry finds. -/
theorem find?_list (keyed : r.WellKeyed) (space name : String) :
    Snapshot.find? (r.list none) space name = r.find? space name := by
  have byId : List.find? (Snapshot.isNamed space name) (r.list none) = r.byId? space name := by
    cases found : r.byId? space name with
    | some m =>
      obtain ⟨rfl, rfl⟩ := keyed _ _ _ found
      have listed : m ∈ r.list none := (mem_list keyed).2 ⟨by simp, found⟩
      exact Snapshot.find?_isNamed (once_list keyed) listed rfl
    | none =>
      rw [List.find?_eq_none]
      intro m listed named
      obtain ⟨rfl, rfl⟩ := Prod.mk.inj (Snapshot.isNamed_iff.1 named)
      have held : r.Holds m := ((mem_list keyed).1 listed).2
      rw [Holds, found] at held
      cases held
  have bySlug : List.find? (fun m => m.space == space && m.slug == name) (r.list none) =
      (r.metersIn space).find? fun m => m.slug = name := by
    rw [← filter_list keyed space, List.find?_filter]
    simp only [beq_eq_decide, Bool.decide_and, decide_eq_true_eq]
  rw [Snapshot.find?, find?, byId, bySlug]

theorem wellKeyed_insert (keyed : r.WellKeyed) {space id : String} {m : Meter}
    (own : m.space = space ∧ m.id = id) :
    WellKeyed (KeyMap.insert r space ((r.inSpace space).insert id m)) := by
  intro s i n found
  rw [byId_insert] at found
  split at found
  · rename_i here
    obtain ⟨rfl, rfl⟩ := here
    obtain rfl := Option.some.inj found
    exact own
  · exact keyed s i n found

theorem wellKeyed_answer (keyed : r.WellKeyed) (q : RegistryRequest) : (r.answer q).2.WellKeyed := by
  cases q with
  | list space => exact keyed
  | get space name =>
    rw [answer]
    split <;> exact keyed
  | setProgress space id p =>
    rw [answer, setProgress?]
    cases found : r.byId? space id with
    | none => exact keyed
    | some m => exact wellKeyed_insert keyed (keyed space id m found)
  | put m => exact wellKeyed_insert keyed ⟨rfl, rfl⟩

end MemoryRegistry

namespace MeterRecord

variable {row : MeterRecord} {m : Meter}

/-- A meter has the names of its row. -/
theorem names_of_toMeter (read : row.toMeter = .ok m) :
    m.space = row.space ∧ m.id = row.id ∧ m.slug = row.slug := by
  obtain ⟨a, ds, progress, -, -, -, rfl⟩ := toMeter_ok.1 read
  exact ⟨rfl, rfl, rfl⟩

/-- The row of a definition can be read, with the progress that it brings or that of a row before it. -/
theorem toMeter_merged (range : m.InRange) {stored : Option String}
    (known : ∀ text ∈ stored, ∃ p, Progress.decode text = .ok p) :
    ∃ n, toMeter { ofMeter m with progress := (ofMeter m).progress <|> stored } = .ok n := by
  have decoded : ∀ text ∈ (ofMeter m).progress <|> stored, ∃ p, Progress.decode text = .ok p := by
    cases own : m.progress with
    | none =>
      have none : (ofMeter m).progress = none := congrArg (Option.map Progress.encode) own
      rw [none]
      exact known
    | some p =>
      have some : (ofMeter m).progress = some p.encode := congrArg (Option.map Progress.encode) own
      rw [some]
      rintro _ ⟨rfl⟩
      exact ⟨p, Progress.decode_encode (range.progress p own)⟩
  have read : ∃ progress, readProgress { ofMeter m with
      progress := (ofMeter m).progress <|> stored } = .ok progress := by
    simp only [readProgress]
    cases is : (ofMeter m).progress <|> stored with
    | none => exact ⟨none, rfl⟩
    | some text =>
      obtain ⟨p, back⟩ := decoded text is
      simp only [back]
      exact ⟨some p, rfl⟩
  obtain ⟨progress, read⟩ := read
  exact ⟨_, toMeter_ok.2 ⟨_, _, progress, readAggregation_ofMeter m, readDimensions_ofMeter m, read, rfl⟩⟩

/-- The progress of a row that can be read can be read. -/
theorem decode_of_toMeter (read : row.toMeter = .ok m) :
    ∀ text ∈ row.progress, ∃ p, Progress.decode text = .ok p := by
  intro text is
  obtain ⟨-, -, progress, -, -, own, -⟩ := toMeter_ok.1 read
  rw [readProgress, is] at own
  cases back : Progress.decode text with
  | ok p => exact ⟨p, rfl⟩
  | error e =>
    simp only [back] at own
    cases own

end MeterRecord

namespace RegistryTable

variable {t : RegistryTable}

/-- The rows of a table can be told by their ids and by their slugs, and all of them can be read. -/
structure Orderly (t : RegistryTable) : Prop where
  once : t.Once
  slugs : ∀ row ∈ t, ∀ row' ∈ t, row.space = row'.space → row.slug = row'.slug → row.id = row'.id
  readable : ∀ row ∈ t, ∃ m, row.toMeter = .ok m

/-- Rows that can be read are decoded as their meters. -/
theorem decode_rows {rows : List MeterRecord} (readable : ∀ row ∈ rows, ∃ m, row.toMeter = .ok m) :
    ∃ ms, rows.mapM MeterRecord.toMeter = .ok ms ∧
      ms.map keyOf = rows.map (fun row => (row.space, row.id)) ∧
      ∀ m, m ∈ ms ↔ ∃ row ∈ rows, row.toMeter = .ok m := by
  induction rows with
  | nil => exact ⟨[], rfl, rfl, by simp⟩
  | cons row rows ih =>
    obtain ⟨⟨m, first⟩, others⟩ := List.forall_mem_cons.1 readable
    obtain ⟨ms, decoded, keys, members⟩ := ih others
    obtain ⟨space, id, -⟩ := MeterRecord.names_of_toMeter first
    refine ⟨m :: ms, ?_, ?_, fun n => ?_⟩
    · rw [List.mapM_cons, first, decoded]
      rfl
    · rw [List.map_cons, List.map_cons, keys, keyOf, space, id]
    · rw [List.mem_cons, members, List.exists_mem_cons_iff, first, Except.ok.injEq, eq_comm]

/-- A row of the table after a definition is that of the definition, or was there under another key. -/
theorem mem_put (once : t.Once) {m : Meter} {row : MeterRecord} (mem : row ∈ t.put m) :
    row = { MeterRecord.ofMeter m with
        progress := (MeterRecord.ofMeter m).progress <|>
          (t.rowAt? m.space m.id).bind MeterRecord.progress } ∨
      row ∈ t ∧ ¬ row.HasKey m.space m.id := by
  rw [mem_iff (once_put once), rowAt_put] at mem
  split at mem
  · exact .inl (Option.some.inj mem).symm
  · rename_i other
    exact .inr ⟨(mem_iff once).2 mem, fun key => other ⟨key.1.symm, key.2.symm⟩⟩

namespace Orderly

variable (h : t.Orderly)
include h

theorem eq_of_hasKey {row row' : MeterRecord} (mem : row ∈ t) (mem' : row' ∈ t)
    (space : row.space = row'.space) (id : row.id = row'.id) : row = row' :=
  List.inj_on_of_nodup_map h.once mem mem' (Prod.ext space id)

theorem list_none : ∃ ms, t.list none = .ok ms ∧ (ms.map keyOf).Nodup ∧
    ∀ m, m ∈ ms ↔ ∃ row ∈ t, row.toMeter = .ok m := by
  have sorted : ((t.filter fun _ => true).mergeSort MeterRecord.before).Perm t := by
    rw [List.filter_true]
    exact List.mergeSort_perm _ _
  have readable : ∀ row ∈ (t.filter fun _ => true).mergeSort MeterRecord.before,
      ∃ m, row.toMeter = .ok m := fun row mem => h.readable row (sorted.mem_iff.1 mem)
  obtain ⟨ms, decoded, keys, members⟩ := decode_rows readable
  refine ⟨ms, decoded, ?_, fun m => ?_⟩
  · rw [keys]
    exact (sorted.map _).nodup_iff.2 h.once
  · rw [members]
    exact exists_congr fun row => and_congr_left' sorted.mem_iff

section Decoded

variable {ms : List Meter} (members : ∀ m, m ∈ ms ↔ ∃ row ∈ t, row.toMeter = .ok m)
include members

/-- What only one row can have is found in the rows and in their meters, or in neither. -/
theorem find?_decoded {P : MeterRecord → Bool} {R : Meter → Bool}
    (same : ∀ row m, row.toMeter = .ok m → R m = P row)
    (single : ∀ row ∈ t, ∀ row' ∈ t, P row → P row' → row = row') :
    (∃ row m, List.find? P t = some row ∧ row.toMeter = .ok m ∧ List.find? R ms = some m) ∨
      List.find? P t = none ∧ List.find? R ms = none := by
  cases found : List.find? P t with
  | none =>
    right
    refine ⟨rfl, List.find?_eq_none.2 fun m mem => ?_⟩
    obtain ⟨row, there, read⟩ := (members m).1 mem
    rw [same row m read]
    exact List.find?_eq_none.1 found row there
  | some row =>
    left
    have there := List.mem_of_find?_eq_some found
    obtain ⟨m, read⟩ := h.readable row there
    refine ⟨row, m, rfl, read, ?_⟩
    have holds : P row = true := List.find?_some found
    cases found' : List.find? R ms with
    | none =>
      have absent := List.find?_eq_none.1 found' m ((members m).2 ⟨row, there, read⟩)
      rw [same row m read] at absent
      exact absurd holds absent
    | some n =>
      obtain ⟨row', there', read'⟩ := (members n).1 (List.mem_of_find?_eq_some found')
      have holds' : P row' = true := same row' n read' ▸ List.find?_some found'
      obtain rfl := single row there row' there' holds holds'
      rw [Except.ok.inj (read'.symm.trans read)]

/-- The list finds the meters of the rows that the table finds. -/
theorem find?_list (space name : String) :
    (∃ row m, t.find? space name = some row ∧ row.toMeter = .ok m ∧
        Snapshot.find? ms space name = some m) ∨
      t.find? space name = none ∧ Snapshot.find? ms space name = none := by
  have byId := h.find?_decoded members (P := fun row => row.HasKey space name)
    (R := Snapshot.isNamed space name)
    (by
      intro row m read
      obtain ⟨inSpace, id, -⟩ := MeterRecord.names_of_toMeter read
      rw [Bool.eq_iff_iff, decide_eq_true_eq]
      simp [Snapshot.isNamed, MeterRecord.HasKey, inSpace, id])
    (by
      intro row mem row' mem' key key'
      rw [decide_eq_true_eq] at key key'
      exact h.eq_of_hasKey mem mem' (key.1.trans key'.1.symm) (key.2.trans key'.2.symm))
  have bySlug := h.find?_decoded members (P := fun row => row.space = space ∧ row.slug = name)
    (R := fun m => m.space == space && m.slug == name)
    (by
      intro row m read
      obtain ⟨inSpace, -, slug⟩ := MeterRecord.names_of_toMeter read
      simp only [inSpace, slug, beq_eq_decide, Bool.decide_and])
    (by
      intro row mem row' mem' named named'
      rw [decide_eq_true_eq] at named named'
      have inSpace : row.space = row'.space := named.1.trans named'.1.symm
      have id := h.slugs row mem row' mem' inSpace (named.2.trans named'.2.symm)
      exact h.eq_of_hasKey mem mem' inSpace id)
  simp only [find?, Snapshot.find?]
  rcases byId with ⟨row, m, found, read, found'⟩ | ⟨none, none'⟩
  · rw [found, found']
    exact .inl ⟨row, m, rfl, read, rfl⟩
  · rw [none, none']
    exact bySlug

end Decoded

/-! ### Requests -/

theorem put {m : Meter} (range : m.InRange) (accepted : t.rejects m = false) : (t.put m).Orderly := by
  have free : ∀ row ∈ t, row.space = m.space → row.slug = m.slug → row.id = m.id := by
    intro row mem inSpace named
    rw [rejects, Bool.or_eq_false_iff, List.any_eq_false] at accepted
    by_contra other
    exact accepted.2 row mem (decide_eq_true ⟨inSpace, named, other⟩)
  constructor
  · exact once_put h.once
  · intro row mem row' mem' inSpace named
    rcases mem_put h.once mem with rfl | ⟨mem, -⟩ <;> rcases mem_put h.once mem' with rfl | ⟨mem', -⟩
    · rfl
    · exact (free row' mem' inSpace.symm named.symm).symm
    · exact free row mem inSpace named
    · exact h.slugs row mem row' mem' inSpace named
  · intro row mem
    rcases mem_put h.once mem with rfl | ⟨mem, -⟩
    · refine MeterRecord.toMeter_merged range fun text stored => ?_
      obtain ⟨old, found, own⟩ := Option.bind_eq_some_iff.1 stored
      obtain ⟨n, read⟩ := h.readable old ((rowAt_eq_some h.once).1 found).1
      exact MeterRecord.decode_of_toMeter read text own
    · exact h.readable row mem

theorem setProgress {space id : String} {p : Progress} (range : p.InRange) :
    Orderly (t.map fun row =>
      if row.HasKey space id then { row with progress := some p.encode } else row) := by
  have origin : ∀ row ∈ t.map fun row =>
      if row.HasKey space id then { row with progress := some p.encode } else row,
      ∃ old ∈ t, row.space = old.space ∧ row.id = old.id ∧ row.slug = old.slug ∧
        ∃ m, row.toMeter = .ok m := by
    intro row mem
    obtain ⟨old, there, rfl⟩ := List.mem_map.1 mem
    obtain ⟨m, read⟩ := h.readable old there
    split
    · exact ⟨old, there, rfl, rfl, rfl, _, MeterRecord.toMeter_saved read range⟩
    · exact ⟨old, there, rfl, rfl, rfl, m, read⟩
  constructor
  · exact once_replace h.once fun _ key => key
  · intro row mem row' mem' inSpace named
    obtain ⟨old, there, space, id, slug, -⟩ := origin row mem
    obtain ⟨old', there', space', id', slug', -⟩ := origin row' mem'
    rw [id, id']
    exact h.slugs old there old' there' (space ▸ space' ▸ inSpace) (slug ▸ slug' ▸ named)
  · intro row mem
    obtain ⟨-, -, -, -, -, read⟩ := origin row mem
    exact read

theorem answer {q : RegistryRequest} (range : q.InRange) : (t.answer q).2.Orderly := by
  cases q with
  | list space => exact h
  | get space name =>
    rw [RegistryTable.answer]
    split <;> exact h
  | setProgress space id p =>
    rw [RegistryTable.answer, setProgress?]
    split
    · rename_i changed is
      split at is
      · obtain rfl := Option.some.inj is
        exact h.setProgress range
      · cases is
    · exact h
  | put m =>
    rw [RegistryTable.answer]
    split
    · exact h
    · rename_i accepted
      exact h.put range (Bool.not_eq_true _ ▸ accepted)

end Orderly

end RegistryTable

namespace Registry

/-- The registry after a sequence of requests. -/
def after (r : Registry) (qs : List RegistryRequest) : Registry :=
  qs.foldl (fun r q => (r.answer q).2) r

/-- The meters can be told by their names, and all of them can be read. -/
def Orderly : Registry → Prop
  | memory meters => meters.WellKeyed
  | table records => records.Orderly

/-- Some meters are what a registry lists, each once, and what it finds is what is found in them. -/
structure ListedAs (r : Registry) (ms : List Meter) : Prop where
  listed : (r.answer (.list none)).1 = .ok ms
  once : (ms.map keyOf).Nodup
  get : ∀ space name, (r.answer (.get space name)).1 =
    match Snapshot.find? ms space name with
    | some m => .ok m
    | none => .error (.noMeter name)

variable {r : Registry}

theorem orderly_empty (opens : r = .memory ∅ ∨ r = .table []) : r.Orderly := by
  rcases opens with rfl | rfl
  · intro space id m found
    cases found
  · exact ⟨.nil, by simp, by simp⟩

namespace Orderly

theorem answer (h : r.Orderly) {q : RegistryRequest} (range : q.InRange) :
    (r.answer q).2.Orderly := by
  cases r with
  | memory meters => exact MemoryRegistry.wellKeyed_answer h q
  | table records => exact RegistryTable.Orderly.answer h range

theorem after (h : r.Orderly) {qs : List RegistryRequest} (range : ∀ q ∈ qs, q.InRange) :
    (r.after qs).Orderly := by
  induction qs generalizing r with
  | nil => exact h
  | cons q qs ih =>
    obtain ⟨first, others⟩ := List.forall_mem_cons.1 range
    exact ih (h.answer first) others

theorem listedAs (h : r.Orderly) : ∃ ms, r.ListedAs ms := by
  cases r with
  | memory meters =>
    refine ⟨meters.list none, rfl, MemoryRegistry.once_list h, fun space name => ?_⟩
    rw [MemoryRegistry.find?_list h]
    show (meters.answer (.get space name)).1 = _
    rw [MemoryRegistry.answer]
    cases meters.find? space name <;> rfl
  | table records =>
    obtain ⟨ms, listed, once, members⟩ := RegistryTable.Orderly.list_none h
    refine ⟨ms, listed, once, fun space name => ?_⟩
    show (records.answer (.get space name)).1 = _
    rw [RegistryTable.answer]
    rcases RegistryTable.Orderly.find?_list h members space name with
      ⟨row, m, found, read, found'⟩ | ⟨none, none'⟩
    · rw [found, found']
      exact read
    · rw [none, none']

end Orderly

end Registry

end Metering
