/-!
Computations that ask their surroundings for things: for the rows of a query, for a stored record, for
a write. A program names each request where it needs the answer, so that what a component asks, in
which order, and what it does when an answer is a failure can be read off the program itself. The same
program is run against a database, against a record of past answers, or one request at a time.
-/
namespace Metering

/-- Ends with a result, or asks and goes on with the answer. -/
inductive Program (Request : Type) (Answer : Request → Type) (α : Type) where
  | done (result : α)
  | ask (request : Request) (next : Answer request → Program Request Answer α)

namespace Program

variable {Request : Type} {Answer : Request → Type} {α β γ : Type}

def bind : Program Request Answer α → (α → Program Request Answer β) → Program Request Answer β
  | done a, f => f a
  | ask r next, f => ask r fun answer => (next answer).bind f

instance : Monad (Program Request Answer) where
  pure := done
  bind := bind

/-- A single request. -/
def request (r : Request) : Program Request Answer (Answer r) := ask r done

/-- The result when each request is answered by an action. -/
def run {m : Type → Type} [Monad m] (answer : (r : Request) → m (Answer r)) :
    Program Request Answer α → m α
  | done a => pure a
  | ask r next => do (next (← answer r)).run answer

/-- What remains of a program when its requests are answered up to the first that has to wait. -/
def runUntil {m : Type → Type} [Monad m] (answer : (r : Request) → m (Answer r))
    (waits : Request → Bool) : Program Request Answer α → m (Program Request Answer α)
  | done a => pure (done a)
  | ask r next => if waits r then pure (ask r next) else do (next (← answer r)).runUntil answer waits

/-- The program with each request replaced by a program that finds its answer. -/
def via {Request' : Type} {Answer' : Request' → Type}
    (answer : (r : Request) → Program Request' Answer' (Answer r)) :
    Program Request Answer α → Program Request' Answer' α
  | done a => done a
  | ask r next => (answer r).bind fun a => (next a).via answer

/-- Whether every request that can come up has a property. -/
def EveryRequest (P : Request → Prop) : Program Request Answer α → Prop
  | done _ => True
  | ask r next => P r ∧ ∀ a, (next a).EveryRequest P

theorem bind_done (p : Program Request Answer α) : p.bind done = p := by
  induction p with
  | done a => rfl
  | ask r next ih => simp only [bind, ih]

theorem bind_assoc (p : Program Request Answer α) (f : α → Program Request Answer β)
    (g : β → Program Request Answer γ) : (p.bind f).bind g = p.bind fun a => (f a).bind g := by
  induction p with
  | done a => rfl
  | ask r next ih => simp only [bind, ih]

instance : LawfulMonad (Program Request Answer) :=
  LawfulMonad.mk' _ bind_done (fun _ _ => rfl) bind_assoc

theorem run_bind {m : Type → Type} [Monad m] [LawfulMonad m]
    (answer : (r : Request) → m (Answer r)) (p : Program Request Answer α)
    (f : α → Program Request Answer β) :
    (p.bind f).run answer = p.run answer >>= fun a => (f a).run answer := by
  induction p with
  | done a => simp [bind, run]
  | ask r next ih => simp [bind, run, ih]

/-- A program can stop at any request and go on from there. -/
theorem runUntil_run {m : Type → Type} [Monad m] [LawfulMonad m]
    (answer : (r : Request) → m (Answer r)) (waits : Request → Bool)
    (p : Program Request Answer α) :
    (p.runUntil answer waits >>= fun rest => rest.run answer) = p.run answer := by
  induction p with
  | done a => simp [runUntil, run]
  | ask r next ih =>
    unfold runUntil
    split
    · simp
    · simp [run, ih]

/-- Running after a replacement is running with the replacements. -/
theorem run_via {Request' : Type} {Answer' : Request' → Type} {m : Type → Type} [Monad m]
    [LawfulMonad m] (outer : (r : Request') → m (Answer' r))
    (inner : (r : Request) → Program Request' Answer' (Answer r)) (p : Program Request Answer α) :
    (p.via inner).run outer = p.run fun r => (inner r).run outer := by
  induction p with
  | done a => rfl
  | ask r next ih => simp [via, run, run_bind, ih]

theorem everyRequest_bind {P : Request → Prop} {p : Program Request Answer α}
    {f : α → Program Request Answer β} (hp : p.EveryRequest P) (hf : ∀ a, (f a).EveryRequest P) :
    (p.bind f).EveryRequest P := by
  induction p with
  | done a => exact hf a
  | ask r next ih => exact ⟨hp.1, fun a => ih a (hp.2 a)⟩

end Program

end Metering
