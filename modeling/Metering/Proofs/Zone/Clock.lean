import Mathlib.Logic.Basic
import Metering.Proofs.Calendar.Instant
import Metering.Zone.Basic

/-!
What the clock of a zone shows over time. A change of offset makes the clock jump: ahead, so that some
readings are never shown, or back, so that some are shown again. A reading that no jump skips is found
where the clock first comes to it (`earliest?_of_not_skipped`), however often the zone changes.
-/
namespace Metering.Zone

/-- A change of offset, with the offset before it. -/
structure Jump where
  before : Int
  change : Change
deriving DecidableEq

namespace Jump

/-- The reading that the clock would have come to without the change. -/
def leaves (j : Jump) : Instant := .ofSeconds (j.change.second + j.before)

/-- The first reading after the change. -/
def lands (j : Jump) : Instant := .ofSeconds (j.change.second + j.change.offset)

/-- Whether a reading is passed over. -/
def Skips (j : Jump) (w : WallTime) : Prop := j.leaves.nanos ≤ w.nanos ∧ w.nanos < j.lands.nanos

end Jump

def jumpsFrom (offset : Int) : List Change → List Jump
  | [] => []
  | c :: rest => ⟨offset, c⟩ :: jumpsFrom c.offset rest

/-- All jumps of the clock of a zone. -/
def jumps (z : Zone) : List Jump := jumpsFrom z.initial z.changes

/-- The reading at an instant under some changes. -/
def readingFrom (offset : Int) (changes : List Change) (t : Instant) : Int :=
  t.nanos + offsetFrom offset changes t.second * 1000000000

theorem readingFrom_before {offset : Int} {c : Change} {rest : List Change} {t : Instant}
    (h : t.second < c.second) :
    readingFrom offset (c :: rest) t = t.nanos + offset * 1000000000 := by
  rw [readingFrom, offsetFrom, if_pos h]

theorem readingFrom_after {offset : Int} {c : Change} {rest : List Change} {t : Instant}
    (h : c.second ≤ t.second) : readingFrom offset (c :: rest) t = readingFrom c.offset rest t := by
  rw [readingFrom, offsetFrom, if_neg (Int.not_lt.2 h), readingFrom]

theorem nanos_shifted (w : WallTime) (offset : Int) :
    (shifted w offset).nanos + offset * 1000000000 = w.nanos := by
  simp only [shifted]
  omega

/-- The first instant from `start` on at which the clock shows a reading, and it showed less before. -/
def FirstAt (w : WallTime) (start offset : Int) (changes : List Change) (t : Instant) : Prop :=
  start ≤ t.second ∧ readingFrom offset changes t = w.nanos ∧
    ∀ u : Instant, start ≤ u.second → u < t → readingFrom offset changes u < w.nanos

theorem second_mono {t u : Instant} (h : t ≤ u) : t.second ≤ u.second := by
  simp only [Instant.le_iff, Instant.second] at h ⊢
  omega

/-- Within a span of one offset the clock shows each reading once. -/
theorem firstAt_shifted {w : WallTime} {start offset : Int} {changes : List Change}
    (within : ∀ u ≤ shifted w offset, readingFrom offset changes u = u.nanos + offset * 1000000000)
    (begun : start ≤ (shifted w offset).second) :
    FirstAt w start offset changes (shifted w offset) := by
  have shown := nanos_shifted w offset
  refine ⟨begun, ?_, fun u _ lt => ?_⟩
  · rw [within _ (Int.le_refl _), shown]
  · rw [within u (Int.le_of_lt lt)]
    simp only [Instant.lt_iff] at lt
    omega

/-- What the clock shows before a change is less than a reading that lies beyond the change. -/
theorem FirstAt.cons {w : WallTime} {start offset : Int} {c : Change} {rest : List Change} {t : Instant}
    (beyond : c.second ≤ (shifted w offset).second) (later : start ≤ c.second)
    (h : FirstAt w c.second c.offset rest t) : FirstAt w start offset (c :: rest) t := by
  obtain ⟨begun, shown, before⟩ := h
  refine ⟨Int.le_trans later begun, ?_, fun u _ lt => ?_⟩
  · rw [readingFrom_after begun, shown]
  · by_cases h : u.second < c.second
    · have reading := nanos_shifted w offset
      rw [readingFrom_before h]
      simp only [Instant.second] at h beyond
      omega
    · rw [readingFrom_after (Int.not_lt.1 h)]
      exact before u (Int.not_lt.1 h) lt

/-- A reading beyond a change that does not skip it comes after the change. -/
theorem second_shifted_of_not_skipped {w : WallTime} {offset : Int} {c : Change}
    (beyond : c.second ≤ (shifted w offset).second) (shown : ¬ Jump.Skips ⟨offset, c⟩ w) :
    c.second ≤ (shifted w c.offset).second := by
  simp only [Jump.Skips, Jump.leaves, Jump.lands, Instant.ofSeconds, Instant.second, shifted]
    at beyond shown ⊢
  omega

theorem earliestAfter_firstAt {w : WallTime} {start offset : Int} {changes : List Change}
    (begun : start ≤ (shifted w offset).second) (later : ∀ c ∈ changes, start ≤ c.second)
    (ordered : changes.Pairwise fun c d => c.second ≤ d.second)
    (shown : ∀ j ∈ jumpsFrom offset changes, ¬ j.Skips w) :
    ∃ t, earliestFrom.earliestAfter w start offset changes = some t ∧
      FirstAt w start offset changes t := by
  induction changes generalizing start offset with
  | nil =>
    rw [earliestFrom.earliestAfter, if_pos begun]
    exact ⟨_, rfl, firstAt_shifted (fun _ _ => rfl) begun⟩
  | cons c rest ih =>
    obtain ⟨first, others⟩ := List.forall_mem_cons.1 shown
    obtain ⟨next, ordered⟩ := List.pairwise_cons.1 ordered
    rw [earliestFrom.earliestAfter]
    split
    · rename_i within
      refine ⟨_, rfl, firstAt_shifted (fun u le => readingFrom_before ?_) begun⟩
      exact Int.lt_of_le_of_lt (second_mono le) within.2
    · rename_i without
      have beyond : c.second ≤ (shifted w offset).second := Int.not_lt.1 fun h => without ⟨begun, h⟩
      obtain ⟨t, found, firstAt⟩ :=
        ih (second_shifted_of_not_skipped beyond first) next ordered others
      exact ⟨t, found, firstAt.cons beyond (later c List.mem_cons_self)⟩

/-- The changes of a zone are in the order of time. -/
def Ordered (z : Zone) : Prop := z.changes.Pairwise fun c d => c.second ≤ d.second

instance (z : Zone) : Decidable z.Ordered := inferInstanceAs (Decidable (List.Pairwise _ _))

theorem earliestFrom_eq {w : WallTime} {start offset : Int} (changes : List Change)
    (begun : start ≤ (shifted w offset).second) :
    earliestFrom w offset changes = earliestFrom.earliestAfter w start offset changes := by
  cases changes with
  | nil => rw [earliestFrom, earliestFrom.earliestAfter, if_pos begun]
  | cons c rest => simp only [earliestFrom, earliestFrom.earliestAfter, begun, true_and]

/-- Before all changes there is a second as early as one wants. -/
theorem exists_start {changes : List Change} (ordered : changes.Pairwise fun c d => c.second ≤ d.second)
    (bound : Int) : ∃ start ≤ bound, ∀ c ∈ changes, start ≤ c.second := by
  cases changes with
  | nil => exact ⟨bound, Int.le_refl _, fun _ mem => absurd mem List.not_mem_nil⟩
  | cons c rest =>
    obtain ⟨next, -⟩ := List.pairwise_cons.1 ordered
    refine ⟨min bound c.second, by omega, List.forall_mem_cons.2 ⟨by omega, fun d mem => ?_⟩⟩
    have later := next d mem
    omega

/-- A reading that no jump skips is found where the clock first comes to it. -/
theorem earliest?_of_not_skipped {z : Zone} (ordered : z.Ordered) {w : WallTime}
    (shown : ∀ j ∈ z.jumps, ¬ j.Skips w) :
    ∃ t, z.earliest? w = some t ∧ z.wall t = w ∧ ∀ u < t, (z.wall u).nanos < w.nanos := by
  have found (bound : Int) : ∃ t, z.earliest? w = some t ∧
      ∃ start ≤ bound, FirstAt w start z.initial z.changes t := by
    obtain ⟨start, le, first⟩ := exists_start ordered (min bound (shifted w z.initial).second)
    have begun : start ≤ (shifted w z.initial).second := by omega
    obtain ⟨t, is, firstAt⟩ := earliestAfter_firstAt begun first ordered shown
    rw [earliest?, earliestFrom_eq z.changes begun]
    exact ⟨t, is, start, by omega, firstAt⟩
  obtain ⟨t, is, _, _, -, reading, -⟩ := found 0
  refine ⟨t, is, congrArg WallTime.mk reading, fun u lt => ?_⟩
  obtain ⟨t', is', start, le, -, -, less⟩ := found u.second
  obtain rfl : t = t' := Option.some.inj (is.symm.trans is')
  exact less u le lt

/-- The clock jumps where its offset changes, and nowhere else. -/
theorem offsetAt_succ {z : Zone} {t : Instant}
    (quiet : ∀ c ∈ z.changes, Instant.ofSeconds c.second ≠ ⟨t.nanos + 1⟩) :
    z.offsetAt ⟨t.nanos + 1⟩ = z.offsetAt t := by
  have step (offset : Int) (changes : List Change)
      (quiet : ∀ c ∈ changes, Instant.ofSeconds c.second ≠ ⟨t.nanos + 1⟩) :
      offsetFrom offset changes (⟨t.nanos + 1⟩ : Instant).second =
        offsetFrom offset changes t.second := by
    induction changes generalizing offset with
    | nil => rfl
    | cons c rest ih =>
      obtain ⟨first, others⟩ := List.forall_mem_cons.1 quiet
      have same : (⟨t.nanos + 1⟩ : Instant).second < c.second ↔ t.second < c.second := by
        have apart : c.second * 1000000000 ≠ t.nanos + 1 := fun h => first (Instant.ext h)
        simp only [Instant.second]
        omega
      rw [offsetFrom, offsetFrom]
      exact if_congr same rfl (ih c.offset others)
  exact step z.initial z.changes quiet

end Metering.Zone
