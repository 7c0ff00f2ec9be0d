import Metering.Proofs.Window.Partition

/-!
Days and months that follow one another by the clock. Where each of them starts at its first showing and the
clock is not taken back to an earlier one (`WindowSize.Runs`), an instant lies in the window of its number,
and the windows of a range are those with the numbers from one end to the other (`Runs.windows_eq`).
-/
namespace Metering

namespace Zone

/-- A reading in whole microseconds is found at a whole microsecond. -/
theorem dvd_resolve (z : Zone) {w : WallTime} (whole : (1000 : Int) ∣ w.nanos) :
    (1000 : Int) ∣ (z.resolve w).nanos := by
  have shifted (w : WallTime) (whole : (1000 : Int) ∣ w.nanos) (offset : Int) :
      (1000 : Int) ∣ (Zone.shifted w offset).nanos := by
    simp only [Zone.shifted]
    omega
  have after (w : WallTime) (whole : (1000 : Int) ∣ w.nanos) (start offset : Int) (changes : List Change)
      (t : Instant) (found : earliestFrom.earliestAfter w start offset changes = some t) :
      (1000 : Int) ∣ t.nanos := by
    induction changes generalizing start offset with
    | nil =>
      simp only [earliestFrom.earliestAfter, Option.ite_none_right_eq_some, Option.some.injEq] at found
      exact found.2 ▸ shifted w whole offset
    | cons c rest ih =>
      rw [earliestFrom.earliestAfter] at found
      split at found
      · exact Option.some.inj found ▸ shifted w whole offset
      · exact ih _ _ found
  have first (w : WallTime) (whole : (1000 : Int) ∣ w.nanos) (t : Instant)
      (found : z.earliest? w = some t) : (1000 : Int) ∣ t.nanos := by
    rw [earliest?] at found
    cases changes : z.changes with
    | nil =>
      rw [changes] at found
      exact Option.some.inj found ▸ shifted w whole z.initial
    | cons c rest =>
      rw [changes, earliestFrom] at found
      split at found
      · exact Option.some.inj found ▸ shifted w whole z.initial
      · exact after w whole _ _ _ t found
  have within (fallback : WallTime) (known : (1000 : Int) ∣ fallback.nanos) (steps : Nat) (w : WallTime)
      (whole : (1000 : Int) ∣ w.nanos) : (1000 : Int) ∣ (z.resolveWithin fallback steps w).nanos := by
    induction steps generalizing w with
    | zero => exact known
    | succ steps ih =>
      rw [resolveWithin]
      cases found : z.earliest? w with
      | some t => exact first w whole t found
      | none =>
        refine ih _ ?_
        simp only [Span.minutes, Span.seconds]
        omega
  exact within w whole gapSteps w whole

end Zone

namespace WindowSize

variable {size : WindowSize} {z : Zone} {i j k l : Int} {t u : Instant} {p : Period}

/-- Windows start at whole microseconds by any clock. -/
theorem startIn_kept (size : WindowSize) (z : Zone) (k : Int) :
    (size.startIn z k).microsecondStart = size.startIn z k := by
  have boundary := size.boundary_micros k
  have whole : (1000 : Int) ∣ (size.startIn z k).nanos := by
    refine z.dvd_resolve ?_
    simp only [Instant.ext_iff, Instant.microsecondStart, Instant.micros] at boundary ⊢
    omega
  ext
  simp only [Instant.microsecondStart, Instant.micros]
  omega

/-- At no change inside a range is the clock taken back to an earlier window. -/
def Forward (size : WindowSize) (z : Zone) (p : Period) : Prop :=
  ∀ c ∈ z.changes, p.start < .ofSeconds c.second → Instant.ofSeconds c.second < p.stop →
    size.numberIn z (justBefore (.ofSeconds c.second)) ≤ size.numberIn z (.ofSeconds c.second)

instance (size : WindowSize) (z : Zone) (p : Period) : Decidable (size.Forward z p) :=
  inferInstanceAs (Decidable (∀ c ∈ z.changes, _))

/-- Numbers do not fall in a range in which the clock is not taken back. -/
theorem Forward.mono (forward : size.Forward z p) (low : p.start ≤ t) (le : t ≤ u) (high : u < p.stop) :
    size.numberIn z t ≤ size.numberIn z u := by
  obtain ⟨n, hn⟩ := Int.le.dest (show t.nanos ≤ u.nanos from le)
  induction n generalizing u with
  | zero =>
    obtain rfl : t = u := Instant.ext (by omega)
    exact Int.le_refl _
  | succ n ih =>
    have step : (⟨(justBefore u).nanos + 1⟩ : Instant) = u := by
      ext
      simp only [justBefore]
      omega
    have earlier : size.numberIn z t ≤ size.numberIn z (justBefore u) := by
      refine ih ?_ ?_ ?_
      all_goals
        simp only [justBefore, Instant.le_iff, Instant.lt_iff] at high ⊢
        omega
    refine Int.le_trans earlier ?_
    by_cases quiet : ∀ c ∈ z.changes, Instant.ofSeconds c.second ≠ u
    · rw [← step] at quiet
      have rises : size.numberIn z (justBefore u) ≤ _ := numberIn_le_succ quiet
      rwa [step] at rises
    · push Not at quiet
      obtain ⟨c, mem, rfl⟩ := quiet
      refine forward c mem (Int.lt_of_le_of_lt low ?_) high
      omega

/-- From one window to another each starts at its first showing, and the clock is not taken back. -/
structure Runs (size : WindowSize) (z : Zone) (i j : Int) : Prop where
  shown : ∀ k, i ≤ k → k ≤ j → size.FirstShown z k
  forward : size.Forward z ⟨size.startIn z i, size.startIn z j⟩

namespace Runs

variable (h : size.Runs z i j)
include h

theorem startIn_lt (low : i ≤ k) (lt : k < l) (high : l ≤ j) : size.startIn z k < size.startIn z l := by
  by_contra other
  have reached := (h.shown k low (by omega)).upTo _ (Int.not_lt.1 other)
  rw [(h.shown l (by omega) high).1] at reached
  omega

theorem startIn_le (low : i ≤ k) (le : k ≤ l) (high : l ≤ j) : size.startIn z k ≤ size.startIn z l := by
  rcases Int.lt_or_eq_of_le le with lt | rfl
  · exact Int.le_of_lt (h.startIn_lt low lt high)
  · exact Int.le_refl _

/-- Some of the windows that run from one to another do so too. -/
theorem part (low : i ≤ k) (le : k ≤ l) (high : l ≤ j) : size.Runs z k l where
  shown n first last := h.shown n (Int.le_trans low first) (Int.le_trans last high)
  forward c mem after before := by
    have first := h.startIn_le (Int.le_refl i) low (Int.le_trans le high)
    have last := h.startIn_le (Int.le_trans low le) high (Int.le_refl j)
    exact h.forward c mem (Int.lt_of_le_of_lt first after) (Int.lt_of_lt_of_le before last)

/-- The numbers of the instants from a window on. -/
theorem le_numberIn_iff (low : i ≤ k) (high : k ≤ j) (last : t < size.startIn z j) :
    k ≤ size.numberIn z t ↔ size.startIn z k ≤ t := by
  constructor
  · exact (h.shown k low high).startIn_le
  · intro le
    have rises := h.forward.mono (h.startIn_le (Int.le_refl i) low high) le last
    rwa [(h.shown k low high).1] at rises

theorem numberIn_bounds (forward : i ≤ j) (first : size.startIn z i ≤ t) (last : t < size.startIn z j) :
    i ≤ size.numberIn z t ∧ size.numberIn z t < j :=
  ⟨(h.le_numberIn_iff (Int.le_refl i) forward last).2 first,
    (h.shown j forward (Int.le_refl j)).numberIn_lt last⟩

/-- An instant lies in the window of its number. -/
theorem numberIn_eq_iff (low : i ≤ k) (high : k < j) (last : t < size.startIn z j) :
    size.numberIn z t = k ↔ size.startIn z k ≤ t ∧ t < size.startIn z (k + 1) := by
  have begun := h.le_numberIn_iff low (by omega) last
  have ended := h.le_numberIn_iff (k := k + 1) (by omega) (by omega) last
  simp only [Instant.le_iff, Instant.lt_iff] at begun ended ⊢
  omega

theorem truncate_eq (forward : i ≤ j) (first : size.startIn z i ≤ t) (last : t < size.startIn z j) :
    size.truncate z t = size.startIn z (size.numberIn z t) := by
  obtain ⟨low, high⟩ := h.numberIn_bounds forward first last
  exact (h.shown _ low (by omega)).truncate_eq_startIn

theorem inRange (first : (size.startIn z i).InRange) (last : (size.startIn z j).InRange) (low : i ≤ k)
    (high : k ≤ j) : (size.startIn z k).InRange :=
  ⟨Int.le_trans first.1 (h.startIn_le (Int.le_refl i) low high),
    Int.lt_of_le_of_lt (h.startIn_le low high (Int.le_refl j)) last.2⟩

variable (byClock : size.ByClock)
include byClock

theorem next_startIn (low : i ≤ k) (high : k ≤ j) :
    size.next z (size.startIn z k) = size.startIn z (k + 1) := by
  rw [next_eq byClock, (h.shown k low high).1]

theorem windowsFrom_eq {k : Int} (low : i ≤ k) (high : k ≤ j) (acc : List Period) :
    size.windowsFrom z (size.startIn z k) (size.startIn z j) acc =
      ((Int.range k j).map fun n => ⟨size.startIn z n, size.startIn z (n + 1)⟩).reverse ++ acc := by
  unfold windowsFrom
  rw [h.next_startIn byClock low high]
  by_cases more : k < j
  · have next := h.startIn_lt low (Int.lt_succ k) more
    rw [dif_pos ⟨h.startIn_lt low more (Int.le_refl j), next⟩, windowsFrom_eq (by omega) (by omega),
      range_eq_cons more, List.map_cons, List.reverse_cons, List.append_assoc]
    rfl
  · obtain rfl : k = j := by omega
    rw [dif_neg fun h => Int.lt_irrefl _ h.1, range_eq_nil (Int.le_refl k)]
    rfl
termination_by (j - k).toNat

/-- The windows from an instant to the end of the range. -/
theorem windows_eq (forward : i ≤ j) (begun : size.startIn z i ≤ t) (ended : t < size.startIn z j) :
    size.windows z t (size.startIn z j) =
      (Int.range (size.numberIn z t) j).map fun k => ⟨size.startIn z k, size.startIn z (k + 1)⟩ := by
  obtain ⟨low, high⟩ := h.numberIn_bounds forward begun ended
  rw [windows, h.truncate_eq forward begun ended, h.windowsFrom_eq byClock low (by omega), List.append_nil,
    List.reverse_reverse]

end Runs

end WindowSize

end Metering
