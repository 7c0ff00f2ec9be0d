import Metering.Cache.Gaps
import Metering.Proofs.Calendar.Instant
import Metering.Proofs.Window.Tiling

/-!
What still has to be computed of a range. Putting periods together where they touch keeps what they
cover (`mem_joinAdjacent_iff`) and leaves no two that touch (`pairwise_joinAdjacent`). The windows of a
range follow one another however the clock of its zone runs, and are not empty, so this holds of those
without a stored row: what is put together of them is the uncovered part of the range and no more
(`uncovered_exact`).
-/
namespace Metering

variable {ps : List Period}

/-- A period in front either stays apart from what comes of the others, or touches the first of it. -/
theorem joinAdjacent_cons_cases (p : Period) (ps : List Period) :
    ((∀ q ∈ (joinAdjacent ps).head?, p.stop ≠ q.start) ∧ joinAdjacent (p :: ps) = p :: joinAdjacent ps) ∨
      ∃ q qs, joinAdjacent ps = q :: qs ∧ p.stop = q.start ∧
        joinAdjacent (p :: ps) = ⟨p.start, q.stop⟩ :: qs := by
  cases joined : joinAdjacent ps with
  | nil =>
    left
    simp [joinAdjacent, joined]
  | cons q qs =>
    by_cases touch : p.stop = q.start
    · right
      exact ⟨q, qs, rfl, touch, by simp [joinAdjacent, joined, touch]⟩
    · left
      simp [joinAdjacent, joined, touch]

/-- A joined period starts where one of its parts does and ends where one does. -/
theorem ends_of_mem_joinAdjacent {q : Period} (mem : q ∈ joinAdjacent ps) :
    (∃ p ∈ ps, p.start = q.start) ∧ ∃ p ∈ ps, p.stop = q.stop := by
  induction ps generalizing q with
  | nil => exact absurd mem List.not_mem_nil
  | cons p ps ih =>
    have later {r : Period} (mem : r ∈ joinAdjacent ps) :
        (∃ s ∈ p :: ps, s.start = r.start) ∧ ∃ s ∈ p :: ps, s.stop = r.stop := by
      obtain ⟨⟨s, there, begins⟩, u, here, stops⟩ := ih mem
      exact ⟨⟨s, List.mem_cons_of_mem _ there, begins⟩, u, List.mem_cons_of_mem _ here, stops⟩
    rcases joinAdjacent_cons_cases p ps with ⟨-, is⟩ | ⟨r, rs, joined, -, is⟩
    · rw [is] at mem
      rcases List.mem_cons.1 mem with rfl | mem
      · exact ⟨⟨q, List.mem_cons_self, rfl⟩, q, List.mem_cons_self, rfl⟩
      · exact later mem
    · rw [is] at mem
      rw [joined] at later
      rcases List.mem_cons.1 mem with rfl | mem
      · exact ⟨⟨p, List.mem_cons_self, rfl⟩, (later List.mem_cons_self).2⟩
      · exact later (List.mem_cons_of_mem _ mem)

section NonEmpty

variable (some : ∀ p ∈ ps, p.start < p.stop)
include some

theorem lt_of_mem_joinAdjacent {q : Period} (mem : q ∈ joinAdjacent ps) : q.start < q.stop := by
  induction ps generalizing q with
  | nil => exact absurd mem List.not_mem_nil
  | cons p ps ih =>
    obtain ⟨first, others⟩ := List.forall_mem_cons.1 some
    have later {r : Period} (mem : r ∈ joinAdjacent ps) : r.start < r.stop := ih others mem
    rcases joinAdjacent_cons_cases p ps with ⟨-, is⟩ | ⟨r, rs, joined, touch, is⟩
    · rw [is] at mem
      rcases List.mem_cons.1 mem with rfl | mem
      · exact first
      · exact later mem
    · rw [is] at mem
      rw [joined] at later
      rcases List.mem_cons.1 mem with rfl | mem
      · rw [touch] at first
        exact Int.lt_trans first (later List.mem_cons_self)
      · exact later (List.mem_cons_of_mem _ mem)

/-- No two joined periods touch, since the parts are in order. -/
theorem pairwise_joinAdjacent (apart : ps.Pairwise fun p q => p.stop ≤ q.start) :
    (joinAdjacent ps).Pairwise fun p q => p.stop < q.start := by
  induction ps with
  | nil => exact .nil
  | cons p ps ih =>
    obtain ⟨before, apart⟩ := List.pairwise_cons.1 apart
    obtain ⟨-, others⟩ := List.forall_mem_cons.1 some
    have rest := ih others apart
    rcases joinAdjacent_cons_cases p ps with ⟨gap, is⟩ | ⟨q, qs, joined, -, is⟩
    · rw [is]
      cases joined : joinAdjacent ps with
      | nil => exact List.pairwise_singleton _ _
      | cons q qs =>
        have mem : q ∈ joinAdjacent ps := joined ▸ List.mem_cons_self
        have forward := lt_of_mem_joinAdjacent others mem
        obtain ⟨⟨s, there, begins⟩, -⟩ := ends_of_mem_joinAdjacent mem
        have le : p.stop ≤ q.start := begins ▸ before s there
        have first : p.stop < q.start := by
          refine Int.lt_iff_le_and_ne.2 ⟨le, fun same => gap q ?_ (Instant.ext same)⟩
          rw [joined]
          rfl
        rw [joined] at rest
        refine .cons (fun r mem => ?_) rest
        rcases List.mem_cons.1 mem with rfl | mem
        · exact first
        · have after := (List.pairwise_cons.1 rest).1 r mem
          exact Int.lt_trans first (Int.lt_trans forward after)
    · rw [is]
      rw [joined] at rest
      obtain ⟨after, rest⟩ := List.pairwise_cons.1 rest
      exact .cons after rest

/-- Each part lies within one of the joined periods. -/
theorem exists_joinAdjacent {p : Period} (mem : p ∈ ps) :
    ∃ q ∈ joinAdjacent ps, q.start ≤ p.start ∧ p.stop ≤ q.stop := by
  induction ps with
  | nil => exact absurd mem List.not_mem_nil
  | cons first ps ih =>
    obtain ⟨whole, others⟩ := List.forall_mem_cons.1 some
    rcases joinAdjacent_cons_cases first ps with ⟨-, is⟩ | ⟨q, qs, joined, touch, is⟩
    · rw [is]
      rcases List.mem_cons.1 mem with rfl | mem
      · exact ⟨p, List.mem_cons_self, Int.le_refl _, Int.le_refl _⟩
      · obtain ⟨r, there, within⟩ := ih others mem
        exact ⟨r, List.mem_cons_of_mem _ there, within⟩
    · have begun : first.start < q.start := touch ▸ whole
      have forward : q.start < q.stop :=
        lt_of_mem_joinAdjacent others (joined ▸ List.mem_cons_self)
      rw [is]
      rcases List.mem_cons.1 mem with rfl | mem
      · refine ⟨_, List.mem_cons_self, Int.le_refl _, ?_⟩
        rw [touch]
        exact Int.le_of_lt forward
      · obtain ⟨r, there, low, high⟩ := ih others mem
        rw [joined] at there
        rcases List.mem_cons.1 there with rfl | there
        · exact ⟨_, List.mem_cons_self, Int.le_trans (Int.le_of_lt begun) low, high⟩
        · exact ⟨r, List.mem_cons_of_mem _ there, low, high⟩

/-- Joining periods neither adds an instant nor loses one. -/
theorem mem_joinAdjacent_iff {t : Instant} :
    (∃ q ∈ joinAdjacent ps, t ∈ q) ↔ ∃ p ∈ ps, t ∈ p := by
  constructor
  · induction ps with
    | nil => exact id
    | cons p ps ih =>
      obtain ⟨-, others⟩ := List.forall_mem_cons.1 some
      have later (mem : ∃ q ∈ joinAdjacent ps, t ∈ q) : ∃ s ∈ p :: ps, t ∈ s := by
        obtain ⟨s, there, holds⟩ := ih others mem
        exact ⟨s, List.mem_cons_of_mem _ there, holds⟩
      rintro ⟨q, mem, low, high⟩
      rcases joinAdjacent_cons_cases p ps with ⟨-, is⟩ | ⟨r, rs, joined, touch, is⟩
      · rw [is] at mem
        rcases List.mem_cons.1 mem with rfl | mem
        · exact ⟨q, List.mem_cons_self, low, high⟩
        · exact later ⟨q, mem, low, high⟩
      · rw [is] at mem
        rw [joined] at later
        rcases List.mem_cons.1 mem with rfl | mem
        · by_cases inside : t < p.stop
          · exact ⟨p, List.mem_cons_self, low, inside⟩
          · rw [touch] at inside
            exact later ⟨r, List.mem_cons_self, Int.not_lt.1 inside, high⟩
        · exact later ⟨q, List.mem_cons_of_mem _ mem, low, high⟩
  · rintro ⟨p, mem, low, high⟩
    obtain ⟨q, there, before, after⟩ := exists_joinAdjacent some mem
    exact ⟨q, there, Int.le_trans before low, Int.lt_of_lt_of_le high after⟩

end NonEmpty

section Windows

variable {size : WindowSize} {z : Zone} {range p : Period} {covered : List Instant} {t : Instant}

/-- The windows that are left to compute, each cut at the end of the range. -/
def missingWindows (size : WindowSize) (z : Zone) (range : Period) (covered : List Instant) :
    List Period :=
  ((size.windows z range.start range.stop).filter fun w =>
    w.start ∈ range ∧ w.start ∉ covered).map fun w => ⟨w.start, min w.stop range.stop⟩

theorem mem_missingWindows_iff : p ∈ missingWindows size z range covered ↔
    ∃ w ∈ size.windows z range.start range.stop, w.start ∈ range ∧ w.start ∉ covered ∧
      p = ⟨w.start, min w.stop range.stop⟩ := by
  simp only [missingWindows, List.mem_map, List.mem_filter, decide_eq_true_eq, and_assoc, @eq_comm _ p]

theorem bounds_of_mem_missingWindows (mem : p ∈ missingWindows size z range covered) :
    range.start ≤ p.start ∧ p.start < p.stop ∧ p.stop ≤ range.stop := by
  obtain ⟨w, listed, ⟨low, high⟩, -, rfl⟩ := mem_missingWindows_iff.1 mem
  have forward := ((size.windows_consecutive z range.start range.stop).bounds w listed).2
  exact ⟨low, Instant.lt_min forward high, (Instant.min_bounds w.stop range.stop).2.1⟩

theorem pairwise_missingWindows (size : WindowSize) (z : Zone) (range : Period) (covered : List Instant) :
    (missingWindows size z range covered).Pairwise fun p q => p.stop ≤ q.start := by
  have apart := (size.windows_consecutive z range.start range.stop).pairwise
  refine List.Pairwise.map _ (fun v w before => ?_) (apart.filter _)
  exact Int.le_trans (Instant.min_bounds v.stop range.stop).1 before

/-- An instant is left to compute if its window is. -/
theorem exists_missingWindows_iff : (∃ p ∈ missingWindows size z range covered, t ∈ p) ↔
    ∃ w ∈ size.windows z range.start range.stop, w.start ∈ range ∧ w.start ∉ covered ∧
      t ∈ w ∧ t < range.stop := by
  constructor
  · rintro ⟨p, mem, low, high⟩
    obtain ⟨w, listed, inside, uncovered, rfl⟩ := mem_missingWindows_iff.1 mem
    obtain ⟨before, before', -⟩ := Instant.min_bounds w.stop range.stop
    exact ⟨w, listed, inside, uncovered, ⟨low, Int.lt_of_lt_of_le high before⟩,
      Int.lt_of_lt_of_le high before'⟩
  · rintro ⟨w, listed, inside, uncovered, ⟨low, high⟩, before⟩
    exact ⟨_, mem_missingWindows_iff.2 ⟨w, listed, inside, uncovered, rfl⟩, low, Instant.lt_min high before⟩

end Windows

/--
The periods of a range that still have to be computed. They lie in the range in order, none is empty and
no two touch. A window that starts in the range lies in one of them, cut at the end of the range, if it
starts at none of the instants; otherwise no instant of it lies in any of them. And they hold the
instants of such windows only.
-/
theorem uncovered_exact (size : WindowSize) (z : Zone) (range : Period) (covered : List Instant) :
    let windows := size.windows z range.start range.stop
    let periods := uncovered size z range covered
    (∀ p ∈ periods, range.start ≤ p.start ∧ p.start < p.stop ∧ p.stop ≤ range.stop) ∧
      periods.Pairwise (fun p q => p.stop < q.start) ∧
      (∀ w ∈ windows, w.start ∈ range →
        (w.start ∉ covered → ∃ p ∈ periods, p.start ≤ w.start ∧ min w.stop range.stop ≤ p.stop) ∧
        (w.start ∈ covered → ∀ p ∈ periods, ∀ t, t ∈ w → t ∉ p)) ∧
      ∀ t, (∃ p ∈ periods, t ∈ p) ↔
        ∃ w ∈ windows, w.start ∈ range ∧ w.start ∉ covered ∧ t ∈ w ∧ t < range.stop := by
  intro windows periods
  have joined : periods = joinAdjacent (missingWindows size z range covered) := rfl
  rw [joined]
  have some : ∀ p ∈ missingWindows size z range covered, p.start < p.stop :=
    fun p mem => (bounds_of_mem_missingWindows mem).2.1
  have only (t : Instant) := (mem_joinAdjacent_iff some (t := t)).trans exists_missingWindows_iff
  refine ⟨?_, pairwise_joinAdjacent some (pairwise_missingWindows size z range covered), ?_, only⟩
  · intro p mem
    obtain ⟨⟨s, there, begins⟩, u, here, stops⟩ := ends_of_mem_joinAdjacent mem
    refine ⟨begins ▸ (bounds_of_mem_missingWindows there).1, lt_of_mem_joinAdjacent some mem, ?_⟩
    exact stops ▸ (bounds_of_mem_missingWindows here).2.2
  · intro w listed inside
    constructor
    · intro unknown
      have missing := mem_missingWindows_iff.2 ⟨w, listed, inside, unknown, rfl⟩
      exact exists_joinAdjacent some missing
    · intro known p mem t holds holds'
      obtain ⟨v, listed', -, unknown, within, -⟩ := (only t).1 ⟨p, mem, holds'⟩
      have follow := size.windows_consecutive z range.start range.stop
      have same : v = w := follow.eq_of_mem listed' listed within holds
      exact unknown (same ▸ known)

end Metering
