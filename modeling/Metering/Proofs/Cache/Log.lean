import Metering.Proofs.Cache.Session

/-!
What a session is asked. The log of a program has each request with its answer, in order, and the log of
one program after another is one log after the other (`trace_bind`). Logs tell from outside what a call
looked up, which periods it computed for the store and which of them it stored.
-/
namespace Metering

/-- A request with its answer. -/
structure Exchange (Q : Type) where
  request : CacheRequest Q
  answer : request.Answer

abbrev Log (Q : Type) := List (Exchange Q)

namespace Session

variable {Q α β : Type} [Quantity Q]

/-- What a program asks and is told, one request after another. -/
def log (c : Compiler) (outage : Outage) :
    Program (CacheRequest Q) CacheRequest.Answer α → Session Q → Log Q
  | .done _, _ => []
  | .ask r next, σ =>
    ⟨r, (respond c outage r σ).1⟩ ::
      log c outage (next (respond c outage r σ).1) (respond c outage r σ).2

/-- What is asked on the way to an answer that may be an error. -/
def trace (c : Compiler) (outage : Outage) (p : Caching Q α) (σ : Session Q) : Log Q :=
  log c outage (ExceptT.run p) σ

variable {c : Compiler} {outage : Outage}

theorem log_bind (p : Program (CacheRequest Q) CacheRequest.Answer α)
    (f : α → Program (CacheRequest Q) CacheRequest.Answer β) (σ : Session Q) :
    log c outage (p.bind f) σ =
      log c outage p σ ++ log c outage (f (execute c outage p σ).1) (execute c outage p σ).2 := by
  induction p generalizing σ with
  | done a => rfl
  | ask r next ih =>
    rw [Program.bind, log, log, List.cons_append, ih]
    rfl

/-- A failure asks nothing more. -/
theorem trace_bind (p : Caching Q α) (f : α → Caching Q β) (σ : Session Q) :
    trace c outage (p >>= f) σ = trace c outage p σ ++ match perform c outage p σ with
      | (.ok a, σ) => trace c outage (f a) σ
      | (.error _, _) => [] := by
  have split : ExceptT.run (p >>= f) = (ExceptT.run p).bind (ExceptT.bindCont f) := rfl
  rw [trace, split, log_bind, trace, perform]
  rcases execute c outage (ExceptT.run p) σ with ⟨x, σ'⟩
  cases x <;> rfl

theorem trace_done (x : Except Error α) (σ : Session Q) :
    trace c outage (ExceptT.mk (Program.done x) : Caching Q α) σ = [] := rfl

theorem trace_run (m : Meter) (q : Query) (σ : Session Q) :
    trace c outage (Caching.run m q) σ = [⟨.run m q, c.answer σ.db m q⟩] := rfl

theorem trace_lookup (space hash : String) (range : Period) (σ : Session Q) :
    trace c outage (Caching.lookup space hash range) σ =
      [⟨.lookup space hash range, σ.read outage space hash range⟩] := by
  refine congrArg (List.cons _) ?_
  rw [respond]
  dsimp only
  cases σ.read outage space hash range <;> rfl

theorem trace_store (space hash : String) (rows : List (Row Q)) (σ : Session Q) :
    trace c outage (Caching.store space hash rows) σ =
      [⟨.store space hash rows, (σ.write outage space hash rows).1⟩] := rfl

/-- A part of a call that leaves a database behind and asks nothing but what it may. -/
structure Leaves (c : Compiler) (outage : Outage) (db : Database Q) (P : Exchange Q → Prop)
    (p : Caching Q α) (σ : Session Q) : Prop where
  db : (perform c outage p σ).2.db = db
  asks : ∀ e ∈ trace c outage p σ, P e

namespace Leaves

variable {db : Database Q} {P : Exchange Q → Prop} {p : Caching Q α} {f : α → Caching Q β}
  {σ σ' : Session Q}

theorem pure {a : α} (here : σ.db = db) : Leaves c outage db P (pure a : Caching Q α) σ :=
  ⟨here, fun _ mem => absurd mem List.not_mem_nil⟩

theorem run {m : Meter} {q : Query} (here : σ.db = db)
    (may : P ⟨.run m q, c.answer σ.db m q⟩) : Leaves c outage db P (Caching.run m q) σ := by
  refine ⟨here, ?_⟩
  rw [trace_run, List.forall_mem_singleton]
  exact may

theorem bind_ok {a : α} (made : perform c outage p σ = (.ok a, σ'))
    (asks : ∀ e ∈ trace c outage p σ, P e) (rest : Leaves c outage db P (f a) σ') :
    Leaves c outage db P (p >>= f) σ := by
  constructor
  · rw [perform_bind, made]
    exact rest.db
  · rw [trace_bind, made, List.forall_mem_append]
    exact ⟨asks, rest.asks⟩

theorem bind_error {e : Error} (made : perform c outage p σ = (.error e, σ'))
    (asks : ∀ e ∈ trace c outage p σ, P e) (here : σ'.db = db) :
    Leaves c outage db P (p >>= f) σ := by
  constructor
  · rw [perform_bind, made]
    exact here
  · rw [trace_bind, made, List.append_nil]
    exact asks

/-- A first part that leaves the database as the second part will. -/
theorem bind (first : Leaves c outage db P p σ)
    (rest : ∀ a σ', σ'.db = db → Leaves c outage db P (f a) σ') :
    Leaves c outage db P (p >>= f) σ := by
  obtain ⟨here, asks⟩ := first
  cases made : perform c outage p σ with
  | mk x σ' =>
    rw [made] at here
    cases x with
    | ok a => exact bind_ok made asks (rest a σ' here)
    | error e => exact bind_error made asks here

end Leaves

end Session

namespace Log

variable {Q : Type}

/-- Whether a period is computed in windows, out of a range whose stored rows were looked up. -/
structure Computes (log : Log Q) (space hash : String) (m : Meter) (q : Query) (size : WindowSize)
    (p : Period) (answer : Except Error (List (Row Q))) : Prop where
  range : ∃ range found, ⟨.lookup space hash range, found⟩ ∈ log ∧ p.start ∈ range
  run : ⟨.run m (q.spanning (some size) p), answer⟩ ∈ log

/-- Whether a period is computed in windows and the rows are stored. -/
structure Fills (log : Log Q) (space hash : String) (m : Meter) (q : Query) (size : WindowSize)
    (p : Period) (rows : List (Row Q)) : Prop where
  computed : log.Computes space hash m q size p (.ok rows)
  stored : ∃ stored, ⟨.store space hash stored, .ok ()⟩ ∈ log

theorem Fills.append {log : Log Q} {space hash : String} {m : Meter} {q : Query} {size : WindowSize}
    {p : Period} {rows : List (Row Q)} (h : log.Fills space hash m q size p rows) (rest : Log Q) :
    Fills (log ++ rest) space hash m q size p rows := by
  obtain ⟨⟨⟨range, found, looked, inside⟩, run⟩, stored, written⟩ := h
  exact ⟨⟨⟨range, found, List.mem_append_left _ looked, inside⟩, List.mem_append_left _ run⟩,
    stored, List.mem_append_left _ written⟩

/-- Whether a window is found by each lookup around it, and is not computed. -/
structure Reuses (log : Log Q) (space hash : String) (w : Period) : Prop where
  found : ∀ range answer, ⟨.lookup space hash range, answer⟩ ∈ log →
    range.start ≤ w.start → w.stop ≤ range.stop →
      ∃ rows, answer = .ok rows ∧ ∃ r ∈ rows, r.start = w.start
  spared : ∀ m q size p answer, log.Computes space hash m q size p answer →
    w ∉ size.windows .utc p.start p.stop

/-- Without a lookup nothing is computed for the store. -/
theorem reuses_of_no_lookup {log : Log Q}
    (none : ∀ space hash range answer, ⟨.lookup space hash range, answer⟩ ∉ log)
    (space hash : String) (w : Period) : log.Reuses space hash w := by
  constructor
  · intro range answer looked
    exact absurd looked (none _ _ _ _)
  · intro m q size p answer computed
    obtain ⟨range, rows, looked, -⟩ := computed.range
    exact absurd looked (none _ _ _ _)

end Log

end Metering
