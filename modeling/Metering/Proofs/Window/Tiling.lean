import Metering.Proofs.Window.Local

/-!
Windows that tile a range. The windows of a range follow one another until its end is reached, as long
as each of them ends after it starts. Minutes and hours do. Days and months do unless the clock skips
the start of one in the range and the start is not found after the jump (`windows_tile`); then the list
ends too early (`not_tiles_dateLine`).
-/
namespace Metering

/-- Windows that follow one another from `start` on; only the last of them reaches `stop`. -/
inductive Tiles (stop : Instant) : Instant → List Period → Prop
  | done {start : Instant} : stop ≤ start → Tiles stop start []
  | window {start after : Instant} {rest : List Period} : start < stop → start < after →
      Tiles stop after rest → Tiles stop start (⟨start, after⟩ :: rest)

namespace Tiles

variable {start stop t : Instant} {ws : List Period}

theorem start_le (h : Tiles stop start ws) : ∀ w ∈ ws, start ≤ w.start := by
  induction h with
  | done => exact fun _ mem => absurd mem List.not_mem_nil
  | window _ forward _ ih =>
    intro w mem
    rcases List.mem_cons.1 mem with rfl | mem
    · exact Int.le_refl _
    · exact Int.le_trans (Int.le_of_lt forward) (ih w mem)

/-- An instant lies in exactly one of the windows. -/
theorem existsUnique (h : Tiles stop start ws) (low : start ≤ t) (high : t < stop) :
    ∃! w, w ∈ ws ∧ t ∈ w := by
  induction h with
  | done reached => exact absurd (Int.lt_of_lt_of_le high reached) (Int.not_lt.2 low)
  | @window start after rest _ forward tiles ih =>
    by_cases inside : t < after
    · refine ⟨⟨start, after⟩, ⟨List.mem_cons_self, low, inside⟩, ?_⟩
      rintro w ⟨mem, begun, -⟩
      rcases List.mem_cons.1 mem with rfl | mem
      · rfl
      · have later := Int.le_trans (tiles.start_le w mem) begun
        exact absurd inside (Int.not_lt.2 later)
    · obtain ⟨w, ⟨mem, holds⟩, only⟩ := ih (Int.not_lt.1 inside)
      refine ⟨w, ⟨List.mem_cons_of_mem _ mem, holds⟩, ?_⟩
      rintro v ⟨there, holds⟩
      rcases List.mem_cons.1 there with rfl | there
      · exact absurd holds.2 inside
      · exact only v ⟨there, holds⟩

end Tiles

/-- Windows that follow one another from `start` on. -/
inductive Consecutive : Instant → List Period → Prop
  | done {start : Instant} : Consecutive start []
  | window {start after : Instant} {rest : List Period} : start < after →
      Consecutive after rest → Consecutive start (⟨start, after⟩ :: rest)

namespace Consecutive

variable {start : Instant} {ws : List Period}

theorem bounds (h : Consecutive start ws) : ∀ w ∈ ws, start ≤ w.start ∧ w.start < w.stop := by
  induction h with
  | done => exact fun _ mem => absurd mem List.not_mem_nil
  | window forward _ ih =>
    intro w mem
    rcases List.mem_cons.1 mem with rfl | mem
    · exact ⟨Int.le_refl _, forward⟩
    · obtain ⟨later, some⟩ := ih w mem
      exact ⟨Int.le_trans (Int.le_of_lt forward) later, some⟩

/-- No window starts before an earlier one ends. -/
theorem pairwise (h : Consecutive start ws) : ws.Pairwise fun v w => v.stop ≤ w.start := by
  induction h with
  | done => exact .nil
  | window _ rest ih => exact .cons (fun w mem => (rest.bounds w mem).1) ih

theorem pairwise_start (h : Consecutive start ws) : ws.Pairwise fun v w => v.start < w.start :=
  h.pairwise.imp_of_mem fun mem _ apart => Int.lt_of_lt_of_le (h.bounds _ mem).2 apart

/-- An instant lies in one window at most. -/
theorem eq_of_mem {t : Instant} {v w : Period} (h : Consecutive start ws) (first : v ∈ ws)
    (second : w ∈ ws) (within : t ∈ v) (within' : t ∈ w) : v = w := by
  induction h with
  | done => exact absurd first List.not_mem_nil
  | @window start after rest _ others ih =>
    have later (u : Period) (mem : u ∈ rest) (holds : t ∈ u) : after ≤ t :=
      Int.le_trans (others.bounds u mem).1 holds.1
    rcases List.mem_cons.1 first with rfl | first <;> rcases List.mem_cons.1 second with rfl | second
    · rfl
    · exact absurd within.2 (Int.not_lt.2 (later w second within'))
    · exact absurd within'.2 (Int.not_lt.2 (later v first within))
    · exact ih first second

end Consecutive

namespace WindowSize

variable {size : WindowSize} {z : Zone} {k l : Int}

/-- However the clock of a zone runs, the windows of a range follow one another. -/
theorem windows_consecutive (size : WindowSize) (z : Zone) (start stop : Instant) :
    Consecutive (size.truncate z start) (size.windows z start stop) := by
  have listed (first : Instant) (acc : List Period) : ∃ ws,
      size.windowsFrom z first stop acc = ws.reverse ++ acc ∧ Consecutive first ws := by
    fun_induction windowsFrom size z first stop acc with
    | case1 first acc after h ih =>
      obtain ⟨ws, listed, follow⟩ := ih
      refine ⟨⟨first, after⟩ :: ws, ?_, .window h.2 follow⟩
      rw [listed, List.reverse_cons, List.append_assoc]
      rfl
    | case2 first acc after h => exact ⟨[], rfl, .done⟩
  obtain ⟨ws, is, follow⟩ := listed (size.truncate z start) []
  rwa [windows, is, List.append_nil, List.reverse_reverse]

/-- Windows are listed until the end of the range is reached, if none of them ends where it starts. -/
theorem windowsFrom_tiles {start stop : Instant} (Moves : Instant → Prop)
    (step : ∀ s < stop, Moves s → s < size.next z s ∧ Moves (size.next z s)) (moves : Moves start)
    (acc : List Period) :
    ∃ ws, size.windowsFrom z start stop acc = ws.reverse ++ acc ∧ Tiles stop start ws := by
  fun_induction windowsFrom size z start stop acc with
  | case1 start acc after h ih =>
    obtain ⟨ws, listed, tiles⟩ := ih (step start h.1 moves).2
    refine ⟨⟨start, after⟩ :: ws, ?_, .window h.1 h.2 tiles⟩
    rw [listed, List.reverse_cons, List.append_assoc]
    rfl
  | case2 start acc after h =>
    refine ⟨[], rfl, .done (Int.not_lt.1 fun before => ?_)⟩
    exact h ⟨before, (step start before moves).1⟩

/-- The numbers of the windows of a range: no less than where it starts, and at most one more than is
shown before it ends. -/
def Around (size : WindowSize) (z : Zone) (start stop : Instant) (k : Int) : Prop :=
  size.numberIn z start ≤ k ∧ ∃ p ∈ size.peaks z stop, k ≤ p + 1

instance (size : WindowSize) (z : Zone) (start stop : Instant) (k : Int) :
    Decidable (size.Around z start stop k) :=
  inferInstanceAs (Decidable (_ ∧ _))

/-- A start that the clock skips in a range is found after the jump, and before the next start. -/
def Finds (size : WindowSize) (z : Zone) (start stop : Instant) : Prop :=
  size.ByClock → z.Ordered ∧ ∀ k ∈ size.skipped z, size.Around z start stop k →
    k ≤ size.numberIn z (size.startIn z k) ∧ size.startIn z k < size.startIn z (k + 1)

instance (size : WindowSize) (z : Zone) (start stop : Instant) :
    Decidable (size.Finds z start stop) :=
  inferInstanceAs (Decidable (_ → _))

section Found

variable {start stop : Instant} (byClock : size.ByClock) (finds : size.Finds z start stop)
include byClock finds

theorem le_numberIn_startIn (around : size.Around z start stop k) :
    k ≤ size.numberIn z (size.startIn z k) := by
  obtain ⟨ordered, found⟩ := finds byClock
  have own : size.Found z k := fun mem => (found k mem around).1
  exact own.le_numberIn ordered

theorem startIn_lt_succ (around : size.Around z start stop k)
    (around' : size.Around z start stop (k + 1)) : size.startIn z k < size.startIn z (k + 1) := by
  obtain ⟨ordered, found⟩ := finds byClock
  by_cases mem : k ∈ size.skipped z
  · exact (found k mem around).2
  · have next := le_numberIn_startIn byClock finds around'
    by_contra other
    rcases Int.lt_or_eq_of_le (Int.not_lt.1 other) with before | same
    · have number := (startIn_of_not_skipped ordered mem).2 _ before
      omega
    · have number := numberIn_startIn ordered mem
      rw [← Instant.ext same] at number
      omega

theorem startIn_lt (h : k < l) (around : size.Around z start stop k)
    (around' : size.Around z start stop l) : size.startIn z k < size.startIn z l := by
  obtain ⟨n, rfl⟩ := Int.le.dest (show k + 1 ≤ l from h)
  clear h
  induction n with
  | zero => simpa using startIn_lt_succ byClock finds around (by simpa using around')
  | succ n ih =>
    rw [Int.natCast_succ, ← Int.add_assoc] at around' ⊢
    have last : size.Around z start stop (k + 1 + n) := by
      obtain ⟨low, -⟩ := around
      obtain ⟨-, p, mem, high⟩ := around'
      exact ⟨by omega, p, mem, by omega⟩
    exact Int.lt_trans (ih last) (startIn_lt_succ byClock finds last around')

/-- A window that starts in the range ends after it starts, at the start of another one. -/
theorem lt_next_startIn (around : size.Around z start stop k) (inside : size.startIn z k < stop) :
    size.startIn z k < size.next z (size.startIn z k) ∧
      size.Around z start stop (size.numberIn z (size.startIn z k) + 1) := by
  have number := le_numberIn_startIn byClock finds around
  have shown : ∃ p ∈ size.peaks z stop, size.numberIn z (size.startIn z k) ≤ p :=
    exists_peak (Int.le_of_lt inside)
  obtain ⟨p, mem, le⟩ := shown
  have around' : size.Around z start stop (size.numberIn z (size.startIn z k) + 1) := by
    obtain ⟨low, -⟩ := around
    exact ⟨by omega, p, mem, by omega⟩
  rw [next_eq byClock]
  exact ⟨startIn_lt byClock finds (by omega) around around', around'⟩

theorem lt_next_truncate (h : start < stop) :
    size.truncate z start < size.next z (size.truncate z start) ∧
      size.Around z start stop (size.numberIn z (size.truncate z start) + 1) := by
  have shown : ∃ p ∈ size.peaks z stop, size.numberIn z start ≤ p := exists_peak (Int.le_of_lt h)
  obtain ⟨p, mem, le⟩ := shown
  have own : size.Around z start stop (size.numberIn z start) := ⟨Int.le_refl _, p, mem, by omega⟩
  have other : size.Around z start stop (size.numberIn z start + 1) :=
    ⟨by omega, p, mem, by omega⟩
  rcases truncate_cases size z start with found | ⟨is, before⟩
  · have inside := Int.lt_of_le_of_lt (truncate_le size z start) h
    rw [found] at inside ⊢
    exact lt_next_startIn byClock finds own inside
  · rw [is, next_eq byClock]
    exact ⟨Int.lt_trans before (startIn_lt byClock finds (by omega) own other), other⟩

end Found

/--
The windows of a range follow one another, the first starts at the start of the range or before it, and
the last is the first to reach the end. So each instant of the range lies in exactly one of them.
-/
theorem windows_tile {start stop : Instant} (h : start < stop) (finds : size.Finds z start stop) :
    ∃ first ≤ start, Tiles stop first (size.windows z start stop) ∧
      ∀ t, start ≤ t → t < stop → ∃! w, w ∈ size.windows z start stop ∧ t ∈ w := by
  have listed : ∃ ws, size.windowsFrom z (size.truncate z start) stop [] = ws.reverse ++ [] ∧
      Tiles stop (size.truncate z start) ws := by
    by_cases byClock : size.ByClock
    · refine windowsFrom_tiles (fun s => s < stop → s < size.next z s ∧
        size.Around z start stop (size.numberIn z s + 1)) ?_ ?_ []
      · intro s inside moves
        obtain ⟨forward, around⟩ := moves inside
        refine ⟨forward, fun inside => ?_⟩
        rw [next_eq byClock] at inside ⊢
        exact lt_next_startIn byClock finds around inside
      · exact fun _ => lt_next_truncate byClock finds h
    · refine windowsFrom_tiles (fun _ => True) (fun s _ _ => ⟨?_, trivial⟩) trivial []
      exact lt_next_of_fixed byClock z s
  obtain ⟨ws, is, tiles⟩ := listed
  have whole : size.windows z start stop = ws := by
    rw [windows, is, List.append_nil, List.reverse_reverse]
  have first := truncate_le size z start
  rw [whole]
  exact ⟨_, first, tiles, fun t low high => tiles.existsUnique (Int.le_trans first low) high⟩

/-- A summer in a zone whose clock skips midnight when it starts and shows an hour again when it ends. -/
def summer : Zone := ⟨"America/Sao_Paulo", -10800, [⟨1541300400, -7200⟩, ⟨1550368800, -10800⟩]⟩

theorem days_tile_summer : ∃ first ≤ Instant.ofSeconds 1541214000,
    Tiles (.ofSeconds 1541400000) first
        (WindowSize.day.windows summer (.ofSeconds 1541214000) (.ofSeconds 1541400000)) ∧
      ∀ t, Instant.ofSeconds 1541214000 ≤ t → t < .ofSeconds 1541400000 →
        ∃! w, w ∈ WindowSize.day.windows summer (.ofSeconds 1541214000) (.ofSeconds 1541400000) ∧
          t ∈ w :=
  windows_tile (by decide) (by decide +kernel)

/-- A zone that went to the other side of the date line, and so skipped the whole of 30 December 2011. -/
def dateLine : Zone := ⟨"Pacific/Apia", -36000, [⟨1325239200, 50400⟩]⟩

/-- The next day is looked for in UTC, where it starts before the day that it should follow ends. -/
theorem windows_dateLine :
    WindowSize.day.windows dateLine (.ofSeconds 1325160000) (.ofSeconds 1325376000) =
      [⟨.ofSeconds 1325152800, .ofSeconds 1325203200⟩] := by
  have start : WindowSize.day.truncate dateLine (.ofSeconds 1325160000) = .ofSeconds 1325152800 := by
    decide +kernel
  have next : WindowSize.day.next dateLine (.ofSeconds 1325152800) = .ofSeconds 1325203200 := by
    decide +kernel
  have stuck : WindowSize.day.next dateLine (.ofSeconds 1325203200) = .ofSeconds 1325203200 := by
    decide +kernel
  rw [windows, start, windowsFrom, next, dif_pos (by decide), windowsFrom, stuck, dif_neg (by decide)]
  rfl

theorem not_tiles_dateLine :
    ¬ ∃ first ≤ Instant.ofSeconds 1325160000, Tiles (.ofSeconds 1325376000) first
      (WindowSize.day.windows dateLine (.ofSeconds 1325160000) (.ofSeconds 1325376000)) := by
  rw [windows_dateLine]
  rintro ⟨first, -, tiles⟩
  cases tiles with
  | window _ _ rest =>
    cases rest with
    | done reached => exact absurd reached (by decide)
end WindowSize

end Metering
