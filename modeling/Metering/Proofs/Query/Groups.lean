import Mathlib.Data.List.Basic
import Mathlib.Data.List.Nodup
import Metering.Database.Store
import Metering.Query.Scan

/-!
What the rows of an answer depend on. A row stands for a window and a group, and its value comes from
the values that the selected rows contribute there, and from nothing else (`Plan.scan_perm`): rows
without a value leave no trace, and the order of rows decides at most about the order of values.
-/
namespace Metering

/-- Lists without repetitions that agree where a function has values. -/
theorem filterMap_perm_of_nodup {κ β : Type} {f : κ → Option β} {keys keys' : List κ} (nodup : keys.Nodup)
    (nodup' : keys'.Nodup) (same : ∀ key, (f key).isSome → (key ∈ keys ↔ key ∈ keys')) :
    (keys.filterMap f).Perm (keys'.filterMap f) := by
  have drop (l : List κ) : l.filterMap f = (l.filter fun key => (f key).isSome).filterMap f := by
    rw [List.filterMap_filter]
    refine List.filterMap_congr fun key _ => ?_
    cases f key <;> rfl
  rw [drop keys, drop keys']
  refine List.Perm.filterMap f ?_
  refine (List.perm_ext_iff_of_nodup (nodup.filter _) (nodup'.filter _)).2 fun key => ?_
  rw [List.mem_filter, List.mem_filter]
  constructor
  · rintro ⟨mem, some⟩
    exact ⟨(same key some).1 mem, some⟩
  · rintro ⟨mem, some⟩
    exact ⟨(same key some).2 mem, some⟩

section Collect

variable {κ α β : Type} [BEq κ]

/-- The items under a key. -/
def valuesAt (key : κ) (items : List (κ × α)) : List α :=
  (items.filter fun i => i.1 == key).map (·.2)

def keysOf (items : List (κ × α)) : List κ := (items.map (·.1)).eraseDups

theorem collect_eq (items : List (κ × α)) :
    collect items = (keysOf items).map fun key => (key, valuesAt key items) := rfl

theorem valuesAt_perm {items items' : List (κ × α)} (h : items.Perm items') (key : κ) :
    (valuesAt key items).Perm (valuesAt key items') :=
  (h.filter _).map _

/-- Values can be looked at before or after they are put together. -/
theorem valuesAt_filterMap (f : α → Option β) (key : κ) (items : List (κ × α)) :
    valuesAt key (items.filterMap fun i => (f i.2).map fun y => (i.1, y)) =
      (valuesAt key items).filterMap f := by
  induction items with
  | nil => rfl
  | cons i items ih =>
    simp only [valuesAt] at ih ⊢
    cases made : f i.2 with
    | none =>
      cases same : i.1 == key
      · simpa [made, same] using ih
      · simpa [made, same] using ih
    | some y =>
      cases same : i.1 == key
      · simpa [made, same] using ih
      · simpa [made, same] using ih

variable [LawfulBEq κ]

theorem mem_keysOf {key : κ} {items : List (κ × α)} :
    key ∈ keysOf items ↔ ∃ value, (key, value) ∈ items := by
  rw [keysOf, List.mem_eraseDups, List.mem_map]
  constructor
  · rintro ⟨⟨k, value⟩, mem, rfl⟩
    exact ⟨value, mem⟩
  · rintro ⟨value, mem⟩
    exact ⟨_, mem, rfl⟩

theorem mem_valuesAt {key : κ} {value : α} {items : List (κ × α)} :
    value ∈ valuesAt key items ↔ (key, value) ∈ items := by
  rw [valuesAt, List.mem_map]
  constructor
  · rintro ⟨⟨k, v⟩, mem, rfl⟩
    obtain ⟨here, same⟩ := List.mem_filter.1 mem
    obtain rfl : k = key := by simpa using same
    exact here
  · exact fun mem => ⟨(key, value), List.mem_filter.2 ⟨mem, by simp⟩, rfl⟩

theorem nodup_eraseDups (l : List κ) : l.eraseDups.Nodup := by
  induction h : l.length using Nat.strongRecOn generalizing l with
  | ind n ih =>
    cases l with
    | nil => simp
    | cons a l =>
      rw [List.eraseDups_cons, List.nodup_cons]
      constructor
      · rw [List.mem_eraseDups, List.mem_filter]
        simp
      · refine ih _ ?_ _ rfl
        have shorter := List.length_filter_le (fun b => !b == a) l
        rw [List.length_cons] at h
        omega

theorem nodup_keysOf (items : List (κ × α)) : (keysOf items).Nodup := nodup_eraseDups _

theorem keysOf_perm {items items' : List (κ × α)} (h : items.Perm items') :
    (keysOf items).Perm (keysOf items') := by
  refine (List.perm_ext_iff_of_nodup (nodup_keysOf _) (nodup_keysOf _)).2 fun key => ?_
  simp only [mem_keysOf, h.mem_iff]

section Rekeyed

variable {ι μ : Type} [BEq ι] [LawfulBEq ι] [BEq μ] [LawfulBEq μ]

theorem eraseDups_map (g : κ → μ) {l : List κ} (inj : ∀ a ∈ l, ∀ b ∈ l, g a = g b → a = b) :
    (l.map g).eraseDups = l.eraseDups.map g := by
  induction h : l.length using Nat.strongRecOn generalizing l with
  | ind n ih =>
    cases l with
    | nil => rfl
    | cons a l =>
      have others : (l.map g).filter (fun b => !b == g a) = (l.filter fun b => !b == a).map g := by
        rw [List.filter_map]
        refine congrArg _ (List.filter_congr fun b mem => congrArg Bool.not ?_)
        rw [Bool.eq_iff_iff, beq_iff_eq, beq_iff_eq]
        exact ⟨inj b (List.mem_cons_of_mem _ mem) a List.mem_cons_self, congrArg g⟩
      have within {b : κ} (mem : b ∈ l.filter fun b => !b == a) : b ∈ a :: l :=
        List.mem_cons_of_mem _ (List.mem_filter.1 mem).1
      have shorter := List.length_filter_le (fun b => !b == a) l
      rw [List.length_cons] at h
      rw [List.map_cons, List.eraseDups_cons, List.eraseDups_cons, List.map_cons, others,
        ih _ (by omega) (fun b mem c mem' => inj b (within mem) c (within mem')) rfl]

/-- Other names for the keys leave the groups as they are. -/
theorem collect_map (g : κ → μ) {items : List (κ × α)}
    (inj : ∀ i ∈ items, ∀ j ∈ items, g i.1 = g j.1 → i.1 = j.1) :
    collect (items.map fun i => (g i.1, i.2)) = (collect items).map fun c => (g c.1, c.2) := by
  have keys : keysOf (items.map fun i => (g i.1, i.2)) = (keysOf items).map g := by
    have names : (items.map fun i => (g i.1, i.2)).map (·.1) = (items.map (·.1)).map g := by
      rw [List.map_map, List.map_map]
      rfl
    rw [keysOf, keysOf, names]
    refine eraseDups_map g fun key mem key' mem' same => ?_
    obtain ⟨i, there, rfl⟩ := List.mem_map.1 mem
    obtain ⟨j, there', rfl⟩ := List.mem_map.1 mem'
    exact inj i there j there' same
  rw [collect_eq, collect_eq, keys, List.map_map, List.map_map]
  refine List.map_congr_left fun key mem => Prod.ext rfl ?_
  obtain ⟨value, mem⟩ := mem_keysOf.1 mem
  have same : items.filter ((fun i : μ × α => i.1 == g key) ∘ fun i => (g i.1, i.2)) =
      items.filter fun i => i.1 == key := by
    refine List.filter_congr fun i there => ?_
    rw [Bool.eq_iff_iff, Function.comp_apply, beq_iff_eq, beq_iff_eq]
    exact ⟨inj i there _ mem, congrArg g⟩
  simp only [Function.comp_apply, valuesAt, List.filter_map, List.map_map, same]
  rfl

theorem filterMap_keysOf_map (g : κ → μ) {items : List (κ × α)}
    (inj : ∀ i ∈ items, ∀ j ∈ items, g i.1 = g j.1 → i.1 = j.1) (f : μ → List α → Option β) :
    ((keysOf (items.map fun i => (g i.1, i.2))).filterMap fun key =>
        f key (valuesAt key (items.map fun i => (g i.1, i.2)))).Perm
      ((keysOf items).filterMap fun key => f (g key) (valuesAt key items)) := by
  have groups := congrArg (List.filterMap fun c => f c.1 c.2) (collect_map g inj)
  rw [collect_eq, collect_eq, List.map_map, List.filterMap_map, List.filterMap_map] at groups
  exact .of_eq groups

end Rekeyed

end Collect

variable {Q : Type}

theorem numbers_eq (rows : List (Instant × Option (Contribution Q))) :
    (rows.filterMap fun r => r.2.bind Contribution.number?) =
      (rows.filterMap fun r => (r.2.bind Contribution.number?).map fun x => (r.1, x)).map
        Prod.snd := by
  rw [List.map_filterMap]
  refine List.filterMap_congr fun r _ => ?_
  cases r.2.bind Contribution.number? <;> rfl

/-- A time and the number contributed at it. -/
abbrev Reading (Q : Type) := Instant × Q

theorem latest_readings (readings : List (Reading Q)) :
    ((readings.map fun v => (v.1, some (Contribution.number v.2))).filterMap fun r =>
      (r.2.bind Contribution.number?).map fun x => (r.1, x)) = readings := by
  rw [List.filterMap_map]
  exact List.filterMap_some

variable [Quantity Q]

/-- The number that a row contributes. -/
def TableRow.value? (m : Meter) (r : TableRow Q) : Option Q :=
  (r.contribution? m).bind Contribution.number?

namespace Aggregation

/-- The result of the numbers contributed to a group. -/
def resultOf? (a : Aggregation) (readings : List (Reading Q)) : Option Q :=
  a.result? (readings.map fun v => (v.1, some (.number v.2)))

theorem resultOf?_nil (a : Aggregation) : (a.resultOf? [] : Option Q) = none := by
  cases a <;> rfl

end Aggregation

/-- The numbers that rows contribute to a meter. -/
def Meter.readings (m : Meter) (rows : List (TableRow Q)) : List (Reading Q) :=
  rows.filterMap fun r => (r.value? m).map fun x => (r.time, x)

theorem latest_map (m : Meter) (rows : List (TableRow Q)) :
    ((rows.map fun r => (r.time, r.contribution? m)).filterMap fun r =>
      (r.2.bind Contribution.number?).map fun x => (r.1, x)) = m.readings rows := by
  rw [List.filterMap_map]
  rfl

/-- Whatever a row holds, it is counted. -/
theorem TableRow.exists_value {m : Meter} (count : m.aggregation = .count) (r : TableRow Q) :
    ∃ x, r.value? m = some x := by
  rw [TableRow.value?, TableRow.contribution?, count]
  cases r.number with
  | none => exact ⟨_, rfl⟩
  | some x => exact ⟨x, rfl⟩

theorem length_readings {m : Meter} (count : m.aggregation = .count) (rows : List (TableRow Q)) :
    (m.readings rows).length = rows.length := by
  induction rows with
  | nil => rfl
  | cons r rows ih =>
    obtain ⟨x, hx⟩ := r.exists_value count
    simp only [Meter.readings] at ih ⊢
    simp [hx, ih]

/-- Every row counts, and everything else looks at numbers alone. -/
theorem result?_eq {m : Meter} (numeric : m.aggregation.isNumeric = true)
    (rows : List (TableRow Q)) :
    m.aggregation.result? (rows.map fun r => (r.time, r.contribution? m)) =
      m.aggregation.resultOf? (m.readings rows) := by
  simp only [Aggregation.resultOf?, Aggregation.result?, numbers_eq, latest_map, latest_readings]
  cases h : m.aggregation with
  | uniqueCount => exact absurd numeric (by simp [h, Aggregation.isNumeric])
  | count =>
    have same := length_readings h rows
    have empty : (m.readings rows).isEmpty = rows.isEmpty := by
      rw [Bool.eq_iff_iff, List.isEmpty_iff_length_eq_zero, List.isEmpty_iff_length_eq_zero, same]
    simp only [List.length_map, List.isEmpty_map, same, empty]
  | _ => rfl

/-- A window in microseconds and the texts of the group columns. -/
abbrev GroupKey := Option (Int × Int) × List (Option String)

/-- A number with its time and the texts of its group. -/
abbrev Point (Q : Type) := List (Option String) × Reading Q

namespace Windowing

/-- The windows and the groups in which numbers count. -/
def keyed (w : Windowing) (points : List (Point Q)) : List (GroupKey × Reading Q) :=
  points.flatMap fun v => (w.windowsOf v.2.1).map fun window => ((window, v.1), v.2)

end Windowing

namespace Plan

/-- What the rows have to say to the plan. -/
def points (p : Plan) (rows : List (TableRow Q)) : List (Point Q) :=
  rows.filterMap fun r => (r.value? p.meter).map fun x => (p.groupTexts r, (r.time, x))

theorem keyed_points (p : Plan) (rows : List (TableRow Q)) :
    p.windowing.keyed (p.points rows) =
      (p.keyedRows rows).filterMap fun i =>
        ((i.2.value? p.meter).map fun x => (i.2.time, x)).map fun v => (i.1, v) := by
  induction rows with
  | nil => rfl
  | cons r rows ih =>
    have split : p.keyedRows (r :: rows) =
        ((p.windowing.windowsOf r.time).map fun w => ((w, p.groupTexts r), r)) ++
          p.keyedRows rows := rfl
    rw [split, List.filterMap_append, ← ih, List.filterMap_map]
    cases made : r.value? p.meter with
    | none =>
      have none : ∀ windows : List (Option (Int × Int)),
          windows.filterMap ((fun i : GroupKey × TableRow Q =>
            ((i.2.value? p.meter).map fun x => (i.2.time, x)).map fun v => (i.1, v)) ∘
              fun w => ((w, p.groupTexts r), r)) = [] := by
        intro windows
        refine List.filterMap_eq_nil_iff.2 fun w _ => ?_
        simp [made]
      simp only [points, Windowing.keyed, none, List.nil_append, List.filterMap_cons, made,
        Option.map_none]
    | some x =>
      have every : ∀ windows : List (Option (Int × Int)),
          windows.filterMap ((fun i : GroupKey × TableRow Q =>
            ((i.2.value? p.meter).map fun x => (i.2.time, x)).map fun v => (i.1, v)) ∘
              fun w => ((w, p.groupTexts r), r)) =
            windows.map fun w => ((w, p.groupTexts r), (r.time, x)) := by
        intro windows
        rw [← List.filterMap_eq_map]
        refine List.filterMap_congr fun w _ => ?_
        simp [made]
      simp only [points, Windowing.keyed, every, List.filterMap_cons, made, Option.map_some,
        List.flatMap_cons]

/-- The numbers of a group are the contributions of its rows. -/
theorem readings_valuesAt (p : Plan) (rows : List (TableRow Q)) (key : GroupKey) :
    p.meter.readings (valuesAt key (p.keyedRows rows)) =
      valuesAt key (p.windowing.keyed (p.points rows)) := by
  rw [keyed_points]
  exact (valuesAt_filterMap (fun r : TableRow Q => (r.value? p.meter).map fun x => (r.time, x)) key _).symm

end Plan

namespace Scanner

/-- The row of an answer for a window and a group, from the numbers contributed there. -/
def rowOf? (s : Scanner) (a : Aggregation) (key : GroupKey) (readings : List (Reading Q)) :
    Option (Row Q) :=
  let window := key.1.getD (0, 0)
  s.scanRow? ⟨some window.1, some window.2, a.resultOf? readings, key.2⟩

theorem rowOf?_nil (s : Scanner) (a : Aggregation) (key : GroupKey) :
    s.rowOf? a key ([] : List (Reading Q)) = none := by
  rw [rowOf?, Aggregation.resultOf?_nil]
  rfl

/-- Rows without windows take both ends from the query. -/
structure Bounded (s : Scanner) : Prop where
  window : s.window = none
  start : s.start.isSome
  stop : s.stop.isSome

theorem Bounded.scanRow? {s : Scanner} (h : s.Bounded) (start stop start' stop' : Int)
    (value : Option Q) (groups : List (Option String)) :
    s.scanRow? ⟨some start, some stop, value, groups⟩ =
      s.scanRow? ⟨some start', some stop', value, groups⟩ := by
  obtain ⟨first, hfirst⟩ := Option.isSome_iff_exists.1 h.start
  obtain ⟨last, hlast⟩ := Option.isSome_iff_exists.1 h.stop
  simp [Scanner.scanRow?, h.window, hfirst, hlast]

end Scanner

theorem minuteSpan_cons (t : Instant) (times : List Instant) :
    ∃ first last, minuteSpan (t :: times) = (some first, some last) := by
  exact ⟨_, _, rfl⟩

theorem scanRow?_rawRow {p : Plan} (numeric : p.meter.aggregation.isNumeric = true) {s : Scanner}
    {key : GroupKey} (bounded : key.1 = none → s.Bounded) (rows : List (TableRow Q)) :
    s.scanRow? (p.rawRow (key, rows)) = s.rowOf? p.meter.aggregation key (p.meter.readings rows) := by
  obtain ⟨window, texts⟩ := key
  cases window with
  | some w =>
    rw [Plan.rawRow, Scanner.rowOf?, result?_eq numeric]
    rfl
  | none =>
    cases rows with
    | nil =>
      have nothing : (p.rawRow ((none, texts), ([] : List (TableRow Q)))).value = none :=
        (result?_eq numeric []).trans (Aggregation.resultOf?_nil _)
      refine Eq.trans ?_ (s.rowOf?_nil p.meter.aggregation (none, texts)).symm
      rw [Scanner.scanRow?, nothing]
      rfl
    | cons r rows =>
      obtain ⟨first, last, span⟩ := minuteSpan_cons r.time (rows.map TableRow.time)
      rw [Plan.rawRow, Scanner.rowOf?, result?_eq numeric]
      simp only [List.map_cons, span]
      exact (bounded rfl).scanRow? _ _ _ _ _ _

theorem collect_same {κ α : Type} [BEq κ] [LawfulBEq κ] (key : κ) (first : α) (rest : List α) :
    collect ((first :: rest).map fun a => (key, a)) = [(key, first :: rest)] := by
  have keys : keysOf ((first :: rest).map fun a => (key, a)) = [key] := by
    have none : (rest.map fun _ => key).filter (fun k => !k == key) = [] := by
      refine List.filter_eq_nil_iff.2 fun k mem => ?_
      obtain ⟨_, -, rfl⟩ := List.mem_map.1 mem
      simp
    rw [keysOf, List.map_map, List.map_cons, List.eraseDups_cons]
    simp only [Function.comp_def, none, List.eraseDups_nil]
  have values : valuesAt key ((first :: rest).map fun a => (key, a)) = first :: rest := by
    rw [valuesAt, List.filter_eq_self.2, List.map_map]
    · exact List.map_id _
    · intro i mem
      obtain ⟨_, -, rfl⟩ := List.mem_map.1 mem
      simp
  rw [collect_eq, keys, List.map_singleton, values]

/-- A query without windows and groups has one group even of no rows, but that says nothing. -/
theorem filterMap_groups {p : Plan} (numeric : p.meter.aggregation.isNumeric = true) (s : Scanner)
    (rows : List (TableRow Q)) :
    (p.groups rows).filterMap (fun g => s.scanRow? (p.rawRow g)) =
      (collect (p.keyedRows rows)).filterMap fun g => s.scanRow? (p.rawRow g) := by
  unfold Plan.groups
  split
  · rename_i whole columns
    have keyed : p.keyedRows rows = rows.map fun r => ((none, []), r) := by
      simp only [Plan.keyedRows, Plan.groupTexts, whole, columns]
      exact List.map_eq_flatMap.symm
    rw [keyed]
    cases rows with
    | nil =>
      have value : (p.rawRow ((none, []), ([] : List (TableRow Q)))).value = none :=
        (result?_eq numeric []).trans (Aggregation.resultOf?_nil _)
      have nothing : s.scanRow? (p.rawRow ((none, []), ([] : List (TableRow Q)))) = none := by
        rw [Scanner.scanRow?, value]
        rfl
      rw [List.filterMap_cons, nothing]
      rfl
    | cons r rows => rw [collect_same]
  · rfl

/-- The rows of an answer, one for each window and group in which a number counts. -/
theorem scan_perm {p : Plan} (numeric : p.meter.aggregation.isNumeric = true) {s : Scanner}
    (bounded : ∀ t, none ∈ p.windowing.windowsOf t → s.Bounded) (rows : List (TableRow Q)) :
    (s.scan ((p.groups rows).map p.rawRow)).Perm
      ((keysOf (p.windowing.keyed (p.points rows))).filterMap fun key =>
        s.rowOf? p.meter.aggregation key
          (valuesAt key (p.windowing.keyed (p.points rows)))) := by
  refine (List.mergeSort_perm _ _).trans ?_
  rw [List.filterMap_map]
  show ((p.groups rows).filterMap fun g => s.scanRow? (p.rawRow g)).Perm _
  rw [filterMap_groups numeric, collect_eq, List.filterMap_map]
  have same : (keysOf (p.keyedRows rows)).filterMap
      ((fun g => s.scanRow? (p.rawRow g)) ∘ fun key => (key, valuesAt key (p.keyedRows rows))) =
      (keysOf (p.keyedRows rows)).filterMap fun key => s.rowOf? p.meter.aggregation key
        (valuesAt key (p.windowing.keyed (p.points rows))) := by
    refine List.filterMap_congr fun key mem => ?_
    obtain ⟨r, mem⟩ := mem_keysOf.1 mem
    obtain ⟨r', -, mem⟩ := List.mem_flatMap.1 mem
    obtain ⟨w, hw, is⟩ := List.mem_map.1 mem
    have window : w = key.1 := congrArg (fun i => i.1.1) is
    rw [Function.comp_apply, scanRow?_rawRow numeric ?_, p.readings_valuesAt]
    exact fun none => bounded r'.time (by rw [← none, ← window]; exact hw)
  rw [same]
  refine filterMap_perm_of_nodup (nodup_keysOf _) (nodup_keysOf _) fun key some => ?_
  have counts : valuesAt key (p.windowing.keyed (p.points rows)) ≠ [] := by
    intro none
    rw [none, Scanner.rowOf?_nil] at some
    exact absurd some (by simp)
  obtain ⟨v, hv⟩ := List.exists_mem_of_ne_nil _ counts
  refine ⟨fun _ => mem_keysOf.2 ⟨v, mem_valuesAt.1 hv⟩, fun _ => ?_⟩
  rw [← p.readings_valuesAt] at hv
  obtain ⟨r, hr, -⟩ := List.mem_filterMap.1 hv
  exact mem_keysOf.2 ⟨r, mem_valuesAt.1 hr⟩

namespace Compiler

/-- The answer to a query from one of the tables. -/
def answerFrom (c : Compiler) (db : Database Q) (source : Source) (m : Meter) (q : Query) :
    Except Error (List (Row Q)) :=
  match c.planFrom source m q with
  | .error e => .error e
  | .ok plan =>
    match db.fetch (.rows plan) with
    | .error e => .error (.store e)
    | .ok rows => .ok ((Scanner.ofQuery q plan.columns).scan rows)

end Compiler

end Metering
