import Metering.Cache.Answer
import Metering.Proofs.Query.Answer

/-!
Answering through a store that fails now and then. A session counts the requests to the store; an outage
says which of them fail. A failed lookup finds nothing, a failed write changes nothing, and neither is
seen in an answer other than by what is computed again.
-/
namespace Metering

/-- A database, and how many lookups and writes of stored rows there have been. -/
structure Session (Q : Type) where
  asked : Nat
  db : Database Q

/-- The lookups and writes that fail, by their number, and how. -/
abbrev Outage := Nat → Option StoreError

/-- A store of which all lookups and writes succeed. -/
def Outage.never : Outage := fun _ => none

/-- The database with other stored rows. -/
def Database.withCached {Q : Type} (db : Database Q) (t : CacheTable Q) : Database Q :=
  { db with tables := { db.tables with cached := t } }

namespace Session

variable {Q α β : Type} [Quantity Q]

/-- The database after a request to the store. -/
def next (σ : Session Q) (db : Database Q) : Session Q := ⟨σ.asked + 1, db⟩

/-- The answer to a lookup. -/
def read (outage : Outage) (σ : Session Q) (space hash : String) (range : Period) :
    Except StoreError (List (Row Q)) :=
  match outage σ.asked with
  | some e => .error e
  | none => σ.db.lookup space hash range

/-- The answer to a write, and the database after it: the same if the write fails. -/
def write (outage : Outage) (σ : Session Q) (space hash : String) (rows : List (Row Q)) :
    Except StoreError Unit × Database Q :=
  match outage σ.asked with
  | some e => (.error e, σ.db)
  | none => σ.db.store space hash rows

def respond (c : Compiler) (outage : Outage) : (r : CacheRequest Q) → StateM (Session Q) r.Answer
  | .run m q => fun σ => (c.answer σ.db m q, σ)
  | .lookup space hash range => fun σ => (σ.read outage space hash range, σ.next σ.db)
  | .store space hash rows => fun σ =>
    ((σ.write outage space hash rows).1, σ.next (σ.write outage space hash rows).2)

/-- What comes of a program, and the session after it. -/
def execute (c : Compiler) (outage : Outage) (p : Program (CacheRequest Q) CacheRequest.Answer α)
    (σ : Session Q) : α × Session Q :=
  Id.run ((p.run (respond c outage)).run σ)

/-- What comes of an answer that may be an error, and the session after it. -/
def perform (c : Compiler) (outage : Outage) (p : Caching Q α) (σ : Session Q) :
    Except Error α × Session Q :=
  execute c outage (ExceptT.run p) σ

variable {c : Compiler} {outage : Outage}

theorem execute_ask (r : CacheRequest Q)
    (next : r.Answer → Program (CacheRequest Q) CacheRequest.Answer α) (σ : Session Q) : execute c outage (.ask r next) σ =
      execute c outage (next (respond c outage r σ).1) (respond c outage r σ).2 := rfl

theorem execute_bind (p : Program (CacheRequest Q) CacheRequest.Answer α)
    (f : α → Program (CacheRequest Q) CacheRequest.Answer β) (σ : Session Q) :
    execute c outage (p.bind f) σ =
      execute c outage (f (execute c outage p σ).1) (execute c outage p σ).2 := by
  rw [execute, Program.run_bind]
  rfl

theorem perform_done (x : Except Error α) (σ : Session Q) :
    perform c outage (ExceptT.mk (Program.done x) : Caching Q α) σ = (x, σ) := rfl

theorem perform_bind (p : Caching Q α) (f : α → Caching Q β) (σ : Session Q) :
    perform c outage (p >>= f) σ = match perform c outage p σ with
      | (.ok a, σ) => perform c outage (f a) σ
      | (.error e, σ) => (.error e, σ) := by
  have split : ExceptT.run (p >>= f) = (ExceptT.run p).bind (ExceptT.bindCont f) := rfl
  have after (x : Except Error α) (σ : Session Q) :
      execute c outage (ExceptT.bindCont f x) σ = match (x, σ) with
        | (.ok a, σ) => perform c outage (f a) σ
        | (.error e, σ) => (.error e, σ) := by
    cases x <;> rfl
  rw [perform, split, execute_bind, after]
  rfl

/-- What comes of two steps is the error of the first, or what comes of the second after the first. -/
theorem perform_bind_cases {p : Caching Q α} {f : α → Caching Q β} {σ σ' : Session Q}
    {result : Except Error β} (made : perform c outage (p >>= f) σ = (result, σ')) :
    (∃ e, perform c outage p σ = (.error e, σ') ∧ result = .error e) ∨
      ∃ a τ, perform c outage p σ = (.ok a, τ) ∧ perform c outage (f a) τ = (result, σ') := by
  rw [perform_bind] at made
  cases first : perform c outage p σ with
  | mk x τ =>
    rw [first] at made
    cases x with
    | ok a => exact .inr ⟨a, τ, rfl, made⟩
    | error e =>
      obtain ⟨rfl, rfl⟩ := Prod.mk.inj made
      exact .inl ⟨e, rfl, rfl⟩

/-- An answer that takes two steps is the answer of the second after that of the first. -/
theorem of_perform_bind {p : Caching Q α} {f : α → Caching Q β} {σ σ' : Session Q} {b : β}
    (made : perform c outage (p >>= f) σ = (.ok b, σ')) :
    ∃ a τ, perform c outage p σ = (.ok a, τ) ∧ perform c outage (f a) τ = (.ok b, σ') := by
  rcases perform_bind_cases made with ⟨e, -, ⟨⟩⟩ | answered
  exact answered

theorem perform_run (m : Meter) (q : Query) (σ : Session Q) :
    perform c outage (Caching.run m q) σ = (c.answer σ.db m q, σ) := rfl

/-- The rows that a lookup finds, none if it fails. -/
def found (outage : Outage) (σ : Session Q) (space hash : String) (range : Period) : List (Row Q) :=
  match σ.read outage space hash range with
  | .ok rows => rows
  | .error _ => []

theorem perform_lookup (space hash : String) (range : Period) (σ : Session Q) :
    perform c outage (Caching.lookup space hash range) σ =
      (.ok (σ.found outage space hash range), σ.next σ.db) := by
  rw [perform, Caching.lookup, ExceptT.run_mk, execute_ask, respond, found]
  dsimp only
  cases σ.read outage space hash range <;> rfl

end Session

/-- Queries do not look at stored rows. -/
theorem answer_withCached {Q : Type} [Quantity Q] (c : Compiler) (db : Database Q)
    (t : CacheTable Q) (m : Meter) (q : Query) :
    c.answer (db.withCached t) m q = c.answer db m q := by
  have same : (db.withCached t).fetch = db.fetch := by
    funext r
    cases r <;> rfl
  rw [Compiler.answer, Compiler.answer, same]

namespace Session

variable {Q : Type} {db : Database Q} {t : CacheTable Q} {size : WindowSize} {σ : Session Q}

/-- A lookup between whole microseconds, in an open database. -/
theorem lookup_kept (db : Database Q) (t : CacheTable Q) (space hash : String) {range : Period}
    (first : range.start.microsecondStart = range.start)
    (last : range.stop.microsecondStart = range.stop) :
    (db.withCached t).lookup space hash range = db.whenOpen (.ok (t.lookup space hash range)) := by
  rw [Database.lookup, Tables.lookupRows, first, last]
  rfl

theorem lookup_boundaries (db : Database Q) (t : CacheTable Q) (size : WindowSize)
    (space hash : String) (i j : Int) :
    (db.withCached t).lookup space hash ⟨size.boundary i, size.boundary j⟩ =
      db.whenOpen (.ok (t.lookup space hash ⟨size.boundary i, size.boundary j⟩)) :=
  lookup_kept db t space hash (size.boundary_micros i) (size.boundary_micros j)

section Working

variable (here : σ.db = db.withCached t) (isOpen : db.isOpen = true)
include here isOpen

theorem read_never (space hash : String) (i j : Int) :
    σ.read .never space hash ⟨size.boundary i, size.boundary j⟩ =
      .ok (t.lookup space hash ⟨size.boundary i, size.boundary j⟩) := by
  show σ.db.lookup space hash ⟨size.boundary i, size.boundary j⟩ = _
  rw [here, lookup_boundaries, Database.whenOpen, if_pos isOpen]

theorem write_never (space hash : String) (rows : List (Row Q)) :
    σ.write .never space hash rows =
      (.ok (), db.withCached (t.store space hash (rows.map Tables.keepRow))) := by
  show σ.db.store space hash rows = _
  rw [here, Database.store, Database.write]
  exact if_pos isOpen

end Working

end Session

end Metering
