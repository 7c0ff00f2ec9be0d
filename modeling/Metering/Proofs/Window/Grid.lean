import Mathlib.Data.Int.Range
import Mathlib.Data.List.Nodup
import Metering.Proofs.Calendar.Months
import Metering.Window

/-!
Windows in UTC. The windows of a size are numbered, and the one with the number `k` lasts from
`boundary k` up to `boundary (k + 1)`. Truncating an instant is going to the start of the window with its
number, and the windows that overlap a range have consecutive numbers (`windows_utc`).
-/
namespace Metering

open Calendar

theorem range_eq_nil {k l : Int} (h : l ≤ k) : Int.range k l = [] := by
  refine List.eq_nil_iff_forall_not_mem.2 fun n mem => ?_
  have bounds := Int.mem_range_iff.1 mem
  omega

theorem range_eq_cons {k l : Int} (h : k < l) : Int.range k l = k :: Int.range (k + 1) l := by
  obtain ⟨n, hn⟩ : ∃ n, (l - k).toNat = n + 1 := ⟨(l - k).toNat - 1, by omega⟩
  have rest : (l - (k + 1)).toNat = n := by omega
  rw [Int.range, Int.range, hn, rest, List.range_succ_eq_map, List.map_cons, List.map_map]
  refine congrArg₂ List.cons (by simp) (List.map_congr_left fun i _ => ?_)
  simp only [Function.comp_apply, Nat.succ_eq_add_one]
  omega

theorem nodup_range (k l : Int) : (Int.range k l).Nodup :=
  List.Nodup.map (fun _ _ h => Int.ofNat.inj (Int.add_left_cancel h)) List.nodup_range

theorem range_append {k l n : Int} (first : k ≤ l) (second : l ≤ n) :
    Int.range k l ++ Int.range l n = Int.range k n := by
  obtain ⟨d, rfl⟩ := Int.le.dest first
  induction d generalizing k with
  | zero => simp [range_eq_nil]
  | succ d ih =>
    have step : k + ↑(d + 1) = k + 1 + (d : Int) := by omega
    have some : k < k + 1 + (d : Int) := by omega
    rw [step] at second ⊢
    rw [range_eq_cons some, List.cons_append, ih (by omega) second, range_eq_cons (by omega : k < n)]

namespace WindowSize

/-- The start of the window with a number; the window with number 0 holds the first moments of 1970,
except for months, which are counted from the year 0. -/
def boundary : WindowSize → Int → Instant
  | .minute, k => ⟨k * 60000000000⟩
  | .hour, k => ⟨k * 3600000000000⟩
  | .day, k => .ofDayNumber k
  | .month, k => .ofDayNumber (monthStart k)

/-- The number of the window that holds an instant. -/
def number : WindowSize → Instant → Int
  | .minute, t => t.nanos / 60000000000
  | .hour, t => t.nanos / 3600000000000
  | .day, t => t.dayNumber
  | .month, t => (Date.ofDayNumber t.dayNumber).monthNumber

variable {size : WindowSize} {t u : Instant} {k l : Int}

theorem boundary_lt_succ (size : WindowSize) (k : Int) : size.boundary k < size.boundary (k + 1) := by
  have month := monthStart_lt_succ k
  cases size <;> simp only [boundary, Instant.ofDayNumber, Instant.lt_iff] <;> omega

theorem boundary_mono (size : WindowSize) (h : k ≤ l) : size.boundary k ≤ size.boundary l := by
  obtain ⟨n, rfl⟩ := Int.le.dest h
  induction n with
  | zero => exact Int.le_of_eq (by simp)
  | succ n ih =>
    have step := size.boundary_lt_succ (k + n)
    have ih := ih (by omega)
    rw [Int.natCast_succ, ← Int.add_assoc]
    simp only [Instant.le_iff, Instant.lt_iff] at ih step ⊢
    omega

theorem lt_of_boundary_lt (h : size.boundary k < size.boundary l) : k < l := by
  by_contra other
  have le := size.boundary_mono (Int.not_lt.1 other)
  simp only [Instant.le_iff, Instant.lt_iff] at le h
  omega

theorem boundary_lt_iff : size.boundary k < size.boundary l ↔ k < l := by
  constructor
  · exact lt_of_boundary_lt
  · intro h
    have step := size.boundary_lt_succ k
    have le := size.boundary_mono (show k + 1 ≤ l from h)
    simp only [Instant.le_iff, Instant.lt_iff] at le step ⊢
    omega

theorem boundary_le_iff : size.boundary k ≤ size.boundary l ↔ k ≤ l := by
  constructor
  · intro h
    by_contra other
    have lt : size.boundary l < size.boundary k := boundary_lt_iff.2 (Int.not_le.1 other)
    simp only [Instant.le_iff, Instant.lt_iff] at lt h
    omega
  · exact size.boundary_mono

theorem boundary_injective (h : size.boundary k = size.boundary l) : k = l := by
  have le := boundary_le_iff.1 (Int.le_of_eq (congrArg Instant.nanos h) : size.boundary k ≤ _)
  have ge := boundary_le_iff.1 (Int.le_of_eq (congrArg Instant.nanos h.symm) : size.boundary l ≤ _)
  omega

/-- An instant lies in the window with its number. -/
theorem boundary_number_le (size : WindowSize) (t : Instant) : size.boundary (size.number t) ≤ t := by
  have month := monthStart_le_dayNumber (Date.isValid_ofDayNumber t.dayNumber)
  rw [Date.dayNumber_ofDayNumber] at month
  cases size <;>
    simp only [boundary, number, Instant.ofDayNumber, Instant.dayNumber, Instant.le_iff] at month ⊢ <;>
    omega

theorem lt_boundary_number (size : WindowSize) (t : Instant) :
    t < size.boundary (size.number t + 1) := by
  have month := dayNumber_lt_monthStart (Date.isValid_ofDayNumber t.dayNumber)
  rw [Date.dayNumber_ofDayNumber] at month
  cases size <;>
    simp only [boundary, number, Instant.ofDayNumber, Instant.dayNumber, Instant.lt_iff] at month ⊢ <;>
    omega

theorem number_eq_iff : size.number t = k ↔ size.boundary k ≤ t ∧ t < size.boundary (k + 1) := by
  constructor
  · rintro rfl
    exact ⟨size.boundary_number_le t, size.lt_boundary_number t⟩
  · rintro ⟨start, stop⟩
    have low := size.boundary_number_le t
    have high := size.lt_boundary_number t
    have first : size.boundary k < size.boundary (size.number t + 1) := Int.lt_of_le_of_lt start high
    have last : size.boundary (size.number t) < size.boundary (k + 1) := Int.lt_of_le_of_lt low stop
    have first := boundary_lt_iff.1 first
    have last := boundary_lt_iff.1 last
    omega

theorem number_boundary (size : WindowSize) (k : Int) : size.number (size.boundary k) = k :=
  number_eq_iff.2 ⟨Int.le_refl _, size.boundary_lt_succ k⟩

theorem boundary_le_of_le_number (h : k ≤ size.number t) : size.boundary k ≤ t :=
  Int.le_trans (size.boundary_mono h) (size.boundary_number_le t)

theorem le_number_iff : k ≤ size.number t ↔ size.boundary k ≤ t := by
  constructor
  · exact boundary_le_of_le_number
  · intro h
    have lt : size.boundary k < size.boundary (size.number t + 1) :=
      Int.lt_of_le_of_lt h (size.lt_boundary_number t)
    have lt := boundary_lt_iff.1 lt
    omega

theorem number_lt_iff : size.number t < k ↔ t < size.boundary k := by
  have h : k ≤ size.number t ↔ size.boundary k ≤ t := le_number_iff
  simp only [Instant.le_iff, Instant.lt_iff] at h ⊢
  omega

theorem number_mono (h : t ≤ u) : size.number t ≤ size.number u :=
  le_number_iff.2 (Int.le_trans (size.boundary_number_le t) h)

/-- Windows start at whole microseconds. -/
theorem boundary_micros (size : WindowSize) (k : Int) :
    (size.boundary k).microsecondStart = size.boundary k := by
  ext
  cases size <;> simp only [boundary, Instant.ofDayNumber, Instant.microsecondStart, Instant.micros] <;>
    omega

theorem number_eq_of_micros (h : (size.boundary k).micros = (size.boundary l).micros) : k = l := by
  have start : (size.boundary k).microsecondStart = (size.boundary l).microsecondStart :=
    congrArg (fun n : Int => (⟨n * 1000⟩ : Instant)) h
  rw [boundary_micros, boundary_micros] at start
  exact boundary_injective start

/-- The place of a size among the sizes, from the shortest windows to the longest. -/
def rank : WindowSize → Nat
  | .minute => 0
  | .hour => 1
  | .day => 2
  | .month => 3

/-- A long window starts with a short one. -/
theorem exists_boundary {coarse : WindowSize} (h : size.rank ≤ coarse.rank) (k : Int) :
    ∃ l, size.boundary l = coarse.boundary k := by
  have day (n : Int) (fine : size.rank ≤ 2) : ∃ l, size.boundary l = .ofDayNumber n := by
    cases size with
    | minute => exact ⟨n * 1440, by ext; simp only [boundary, Instant.ofDayNumber]; omega⟩
    | hour => exact ⟨n * 24, by ext; simp only [boundary, Instant.ofDayNumber]; omega⟩
    | day => exact ⟨n, rfl⟩
    | month => simp [rank] at fine
  cases coarse with
  | minute =>
    cases size with
    | minute => exact ⟨k, rfl⟩
    | hour | day | month => simp [rank] at h
  | hour =>
    cases size with
    | minute => exact ⟨k * 60, by ext; simp only [boundary]; omega⟩
    | hour => exact ⟨k, rfl⟩
    | day | month => simp [rank] at h
  | day => exact day k h
  | month =>
    cases size with
    | month => exact ⟨k, rfl⟩
    | minute | hour | day => exact day (monthStart k) (by decide)

/-- Days start with an hour and a minute. -/
theorem exists_boundary_of_day (fine : size ≠ .month) (k : Int) :
    ∃ l, size.boundary l = WindowSize.day.boundary k := by
  refine exists_boundary ?_ k
  cases size with
  | month => exact absurd rfl fine
  | minute | hour | day => decide

/-- A short window lies in the long window that holds its start. -/
theorem number_boundary_number {coarse : WindowSize} (h : size.rank ≤ coarse.rank) (t : Instant) :
    coarse.number (size.boundary (size.number t)) = coarse.number t := by
  obtain ⟨k, start⟩ := exists_boundary h (coarse.number t)
  have inside : size.boundary k ≤ t := start ▸ coarse.boundary_number_le t
  refine number_eq_iff.2 ⟨?_, ?_⟩
  · rw [← start]
    exact size.boundary_mono (le_number_iff.2 inside)
  · exact Int.lt_of_le_of_lt (size.boundary_number_le t) (coarse.lt_boundary_number t)

theorem wall_utc (t : Instant) : Zone.utc.wall t = ⟨t.nanos⟩ := by
  simp [Zone.wall, Zone.offsetAt, Zone.offsetFrom, Zone.utc]

theorem resolve_utc (w : WallTime) : Zone.utc.resolve w = ⟨w.nanos⟩ := by
  simp [Zone.resolve, Zone.resolveWithin, Zone.gapSteps, Zone.earliest?, Zone.earliestFrom, Zone.utc,
    Zone.shifted]

/-- The reading at the start of a window is that of its boundary, on any clock. -/
theorem floorWall_eq (size : WindowSize) (w : WallTime) :
    size.floorWall w = ⟨(size.boundary (size.number ⟨w.nanos⟩)).nanos⟩ := by
  cases size with
  | minute => rfl
  | hour => rfl
  | day => rfl
  | month =>
    have valid := Date.isValid_ofDayNumber (⟨w.nanos⟩ : Instant).dayNumber
    simp only [boundary, number, Instant.ofDayNumber, monthStart_monthNumber valid]
    rfl

theorem truncate_utc (size : WindowSize) (t : Instant) :
    size.truncate .utc t = size.boundary (size.number t) := by
  have le := size.boundary_number_le t
  rw [truncate, wall_utc, resolve_utc, floorWall_eq]
  exact if_pos le

theorem next_utc (size : WindowSize) (k : Int) :
    size.next .utc (size.boundary k) = size.boundary (k + 1) := by
  cases size with
  | minute =>
    ext
    simp only [next, boundary, Instant.nanos_add, Span.minutes, Span.seconds]
    omega
  | hour =>
    ext
    simp only [next, boundary, Instant.nanos_add, Span.hours, Span.seconds]
    omega
  | day =>
    ext
    simp only [next, boundary, wall_utc, resolve_utc, Instant.ofDayNumber, WallTime.ofDayNumber,
      WallTime.dayNumber]
    omega
  | month =>
    have day : monthStart k * 86400000000000 / 86400000000000 = monthStart k := by omega
    have valid := Date.isValid_ofDayNumber (monthStart k)
    have same := number_boundary .month k
    simp only [number, boundary, Instant.ofDayNumber, Instant.dayNumber, day] at same
    ext
    simp only [next, boundary, wall_utc, resolve_utc, Instant.ofDayNumber, WallTime.ofDate,
      WallTime.date, WallTime.ofDayNumber, WallTime.dayNumber, day]
    rw [nextMonth_eq valid, same, monthStart]

/-- The number of the first window that starts at an instant or after it. -/
def endNumber (size : WindowSize) (t : Instant) : Int :=
  if size.boundary (size.number t) = t then size.number t else size.number t + 1

theorem ceil_utc (size : WindowSize) (t : Instant) :
    size.ceil .utc t = size.boundary (size.endNumber t) := by
  rw [ceil, truncate_utc, next_utc, endNumber]
  split
  · rename_i same
    exact same.symm
  · rfl

theorem lt_endNumber_iff : k < size.endNumber t ↔ size.boundary k < t := by
  have high := size.lt_boundary_number t
  unfold endNumber
  split
  · rename_i same
    have lt : k < size.number t ↔ size.boundary k < size.boundary (size.number t) :=
      boundary_lt_iff.symm
    rw [lt, same]
  · rename_i other
    have le := size.boundary_number_le t
    have lt : size.boundary (size.number t) < t := by
      rcases Int.lt_or_eq_of_le le with lt | same
      · exact lt
      · exact absurd (Instant.ext same) other
    constructor
    · intro h
      exact Int.lt_of_le_of_lt (size.boundary_mono (by omega)) lt
    · intro h
      have h := boundary_lt_iff.1 (Int.lt_trans h high : size.boundary k < _)
      exact h

theorem endNumber_boundary (size : WindowSize) (k : Int) : size.endNumber (size.boundary k) = k := by
  have lt : k < size.endNumber (size.boundary k) ↔ _ := lt_endNumber_iff
  have ge : k - 1 < size.endNumber (size.boundary k) ↔ _ := lt_endNumber_iff
  rw [boundary_lt_iff] at lt ge
  omega

theorem le_boundary_endNumber (size : WindowSize) (t : Instant) :
    t ≤ size.boundary (size.endNumber t) := by
  have h : size.endNumber t < size.endNumber t ↔ size.boundary (size.endNumber t) < t :=
    lt_endNumber_iff
  simp only [Instant.le_iff, Instant.lt_iff] at h ⊢
  omega

/-- The window with a number. -/
def window (size : WindowSize) (k : Int) : Period := ⟨size.boundary k, size.boundary (k + 1)⟩

theorem windowsFrom_utc (size : WindowSize) (k : Int) (stop : Instant) (acc : List Period) :
    size.windowsFrom .utc (size.boundary k) stop acc =
      ((Int.range k (size.endNumber stop)).map size.window).reverse ++ acc := by
  have before : k < size.endNumber stop ↔ size.boundary k < stop := lt_endNumber_iff
  unfold windowsFrom
  rw [next_utc]
  by_cases more : size.boundary k < stop
  · rw [dif_pos ⟨more, size.boundary_lt_succ k⟩, windowsFrom_utc size (k + 1) stop,
      range_eq_cons (before.2 more), List.map_cons, List.reverse_cons, List.append_assoc]
    rfl
  · rw [dif_neg fun h => more h.1, range_eq_nil (Int.not_lt.1 fun h => more (before.1 h))]
    rfl
termination_by (size.endNumber stop - k).toNat
decreasing_by
  have h := before.2 more
  omega

/-- The windows that overlap a range. -/
theorem windows_utc (size : WindowSize) (start stop : Instant) : size.windows .utc start stop =
    (Int.range (size.number start) (size.endNumber stop)).map size.window := by
  rw [windows, truncate_utc, windowsFrom_utc, List.append_nil, List.reverse_reverse]

theorem windows_boundaries (size : WindowSize) (i j : Int) :
    size.windows .utc (size.boundary i) (size.boundary j) = (Int.range i j).map size.window := by
  rw [windows_utc, number_boundary, endNumber_boundary]

end WindowSize

end Metering
