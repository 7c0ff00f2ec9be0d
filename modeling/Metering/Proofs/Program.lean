import Metering.Program

/-!
What can be said of a program before any of its requests is answered. `Program.Ensures` follows a state
that the answers change: each request is one that may be made in its state, and however the requests are
answered, the end is as expected. `Program.AsksAtMost` bounds the requests on every way to the end.
`Program.Executes` is one such way; what is ensured holds at its end (`Program.Executes.ensures`).
-/
namespace Metering

namespace Program

variable {Request Request' S : Type} {Answer : Request → Type} {Answer' : Request' → Type}
variable {α β : Type}

/-- Every request that comes up may be made, and every end that is come to is as expected. -/
def Ensures (may : S → Request → Prop) (answers : S → (r : Request) → Answer r → S → Prop)
    (ends : S → α → Prop) : S → Program Request Answer α → Prop
  | σ, done a => ends σ a
  | σ, ask r next => may σ r ∧ ∀ a σ', answers σ r a σ' → Ensures may answers ends σ' (next a)

variable {may : S → Request → Prop} {answers : S → (r : Request) → Answer r → S → Prop}
variable {ends : S → α → Prop} {σ : S}

theorem Ensures.bind {ends' : S → β → Prop} {p : Program Request Answer α}
    {f : α → Program Request Answer β} (first : Ensures may answers ends σ p)
    (second : ∀ σ a, ends σ a → Ensures may answers ends' σ (f a)) :
    Ensures may answers ends' σ (p.bind f) := by
  induction p generalizing σ with
  | done a => exact second σ a first
  | ask r next ih =>
    constructor
    · exact first.1
    · intro a σ' answered
      exact ih a (first.2 a σ' answered)

theorem Ensures.mono {ends' : S → α → Prop} {p : Program Request Answer α}
    (h : Ensures may answers ends σ p) (weaker : ∀ σ a, ends σ a → ends' σ a) :
    Ensures may answers ends' σ p := by
  induction p generalizing σ with
  | done a => exact weaker σ a h
  | ask r next ih =>
    constructor
    · exact h.1
    · intro a σ' answered
      exact ih a (h.2 a σ' answered)

/-- Each request may be replaced by a program that finds an answer to it. -/
theorem Ensures.via {may' : S → Request' → Prop}
    {answers' : S → (r : Request') → Answer' r → S → Prop}
    {inner : (r : Request) → Program Request' Answer' (Answer r)} {p : Program Request Answer α}
    (h : Ensures may answers ends σ p)
    (found : ∀ σ r, may σ r → Ensures may' answers' (fun σ' a => answers σ r a σ') σ (inner r)) :
    Ensures may' answers' ends σ (p.via inner) := by
  induction p generalizing σ with
  | done a => exact h
  | ask r next ih =>
    refine (found σ r h.1).bind ?_
    intro σ' a answered
    exact ih a (h.2 a σ' answered)

/-- Whether no way through a program makes more than so many requests. -/
def AsksAtMost : Nat → Program Request Answer α → Prop
  | _, done _ => True
  | 0, ask _ _ => False
  | n + 1, ask _ next => ∀ a, AsksAtMost n (next a)

theorem AsksAtMost.mono {p : Program Request Answer α} {m n : Nat} (h : AsksAtMost m p)
    (le : m ≤ n) : AsksAtMost n p := by
  induction p generalizing m n with
  | done a => cases n <;> trivial
  | ask r next ih =>
    cases m with
    | zero => exact h.elim
    | succ m =>
      cases n with
      | zero => omega
      | succ n =>
        intro a
        exact ih a (h a) (by omega)

theorem AsksAtMost.bind {p : Program Request Answer α} {f : α → Program Request Answer β}
    {m n : Nat} (first : AsksAtMost m p) (second : ∀ a, AsksAtMost n (f a)) :
    AsksAtMost (m + n) (p.bind f) := by
  induction p generalizing m with
  | done a => exact (second a).mono (by omega)
  | ask r next ih =>
    cases m with
    | zero => exact first.elim
    | succ m =>
      rw [Nat.add_right_comm]
      intro a
      exact ih a (first a)

/-- The second of two programs starts with the result and the state that the first one ends with. -/
theorem run_bind_apply (answer : (r : Request) → StateM S (Answer r)) (p : Program Request Answer α)
    (f : α → Program Request Answer β) (σ : S) :
    (p.bind f).run answer σ = (f (p.run answer σ).1).run answer (p.run answer σ).2 := by
  rw [run_bind]
  rfl

/-- One way through a program, with the state at its end and the result. -/
inductive Executes (answers : S → (r : Request) → Answer r → S → Prop) :
    S → Program Request Answer α → S → α → Prop
  | done {σ : S} {a : α} : Executes answers σ (done a) σ a
  | ask {σ τ σ' : S} {r : Request} {next : Answer r → Program Request Answer α} {b : Answer r} {a : α}
      (answered : answers σ r b τ) (rest : Executes answers τ (next b) σ' a) :
      Executes answers σ (ask r next) σ' a

variable {answers : S → (r : Request) → Answer r → S → Prop} {σ σ' : S}

theorem executes_bind {p : Program Request Answer α} {f : α → Program Request Answer β} {b : β} :
    Executes answers σ (p.bind f) σ' b ↔
      ∃ τ a, Executes answers σ p τ a ∧ Executes answers τ (f a) σ' b := by
  constructor
  · intro ran
    induction p generalizing σ with
    | done a => exact ⟨σ, a, .done, ran⟩
    | ask r next ih =>
      cases ran with
      | @ask _ ρ _ _ _ c _ answered rest =>
        obtain ⟨τ, a, first, second⟩ := ih c rest
        exact ⟨τ, a, .ask answered first, second⟩
  · rintro ⟨τ, a, first, second⟩
    induction first with
    | done => exact second
    | ask answered _ ih => exact .ask answered (ih second)

/-- What a program asks for through other requests is what it asks for. -/
theorem executes_via {wrap : Request → Request'}
    {answers' : S → (r : Request') → Answer' r → S → Prop}
    {p : Program Request (fun r => Answer' (wrap r)) α} {a : α} :
    Executes answers' σ (p.via fun r => .ask (wrap r) .done) σ' a ↔
      Executes (fun σ r => answers' σ (wrap r)) σ p σ' a := by
  constructor
  · intro ran
    induction p generalizing σ with
    | done b =>
      cases ran
      exact .done
    | ask r next ih =>
      cases ran with
      | ask answered rest => exact .ask answered (ih _ rest)
  · intro ran
    induction ran with
    | done => exact .done
    | ask answered _ ih => exact .ask answered ih

/-- What is ensured of a program holds at the end of each way through it, also if the answers are those of
another state that the first one goes along with. -/
theorem Executes.ensures {S' : Type} {answers' : S' → (r : Request) → Answer r → S' → Prop}
    {may : S → Request → Prop} {ends : S → α → Prop} {p : Program Request Answer α} {τ τ' : S'} {a : α}
    (ran : Executes answers' τ p τ' a) (along : S' → S → Prop) (start : along τ σ)
    (h : Ensures may answers ends σ p)
    (goesAlong : ∀ {τ σ r b τ'}, along τ σ → may σ r → answers' τ r b τ' →
      ∃ σ', answers σ r b σ' ∧ along τ' σ') : ∃ σ', along τ' σ' ∧ ends σ' a := by
  induction ran generalizing σ with
  | done => exact ⟨σ, start, h⟩
  | ask answered _ ih =>
    obtain ⟨σ', answered', along'⟩ := goesAlong start h.1 answered
    exact ih along' (h.2 _ σ' answered')

end Program

end Metering
