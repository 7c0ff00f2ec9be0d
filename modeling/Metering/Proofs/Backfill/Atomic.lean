import Metering.Deployment
import Metering.Proofs.Backfill.Discipline
import Metering.Proofs.Database.Replace
import Metering.Proofs.Program
import Metering.Proofs.Registry.Saved

/-!
A step against a deployment whose registry and database may fail it at any request. Whatever fails, one
transition is made and stored, or nothing is stored (`step_atomic`). The table of numbers may then be a
chunk ahead of the stored progress, and since a chunk can be imported again without a trace, repeating
the step comes to what it would have come to at once.
-/
namespace Metering

namespace Deployment

variable {Q : Type} [Quantity Q] {σ τ : Deployment Q} {m : Meter} {α β : Type}

/-- The answer to a request when nothing fails. -/
def respond (σ : Deployment Q) (r : BackfillRequest) : r.Answer × Deployment Q := answerBackfill r σ

/-- What a program comes to when nothing fails. -/
def perform (p : Backfilling α) (σ : Deployment Q) : α × Deployment Q := p.run answerBackfill σ

theorem perform_ask (r : BackfillRequest) (next : r.Answer → Backfilling α) (σ : Deployment Q) :
    perform (.ask r next) σ = perform (next (σ.respond r).1) (σ.respond r).2 := rfl

theorem perform_bind (p : Backfilling α) (f : α → Backfilling β) (σ : Deployment Q) :
    perform (p.bind f) σ = perform (f (perform p σ).1) (perform p σ).2 := by
  rw [perform, Program.run_bind]
  rfl

/-- How a request may be answered: in full, or by a failure of the registry or the database. A chunk may
have been replaced before the failure; the other failures change nothing. -/
inductive Answers (σ : Deployment Q) : (r : BackfillRequest) → r.Answer → Deployment Q → Prop
  | works (r : BackfillRequest) : Answers σ r (σ.respond r).1 (σ.respond r).2
  | unread {space id : String} (e : StoreError) : Answers σ (.stored space id) (.error e) σ
  | unsurveyed {selection : Selection} (e : StoreError) : Answers σ (.earliest selection) (.error e) σ
  | uncopied {i : ChunkImport} (e : StoreError) : Answers σ (.copy i) (.error e) σ
  | unconfirmed {i : ChunkImport} (e : StoreError) :
      Answers σ (.copy i) (.error e) (σ.respond (.copy i)).2
  | unsaved {space id : String} {p : Progress} (e : StoreError) :
      Answers σ (.save space id p) (.error e) σ

/-- The meter as the registry has it. -/
def stored (σ : Deployment Q) (m : Meter) : Except StoreError Meter :=
  (σ.registry.answer (.get m.space m.id)).1

theorem respond_stored (σ : Deployment Q) (m : Meter) :
    σ.respond (.stored m.space m.id) = (σ.stored m, σ) := by
  have same := σ.registry.answer_get m.space m.id
  show ((σ.registry.answer (.get m.space m.id)).1,
    { σ with registry := (σ.registry.answer (.get m.space m.id)).2 }) = _
  rw [same]
  rfl

theorem respond_earliest (σ : Deployment Q) (selection : Selection) :
    σ.respond (.earliest selection) = (σ.database.earliestStored selection, σ) := rfl

theorem respond_copy_ok {i : ChunkImport} {db : Database Q}
    (done : σ.database.importChunk i = (.ok (), db)) :
    σ.respond (.copy i) = (.ok (), { σ with database := db }) := by
  show ((σ.database.importChunk i).1, { σ with database := (σ.database.importChunk i).2 }) = _
  rw [done]
  rfl

/-- An import that fails leaves the database as it is. -/
theorem respond_copy_error {i : ChunkImport} {e : StoreError} {db : Database Q}
    (failed : σ.database.importChunk i = (.error e, db)) : σ.respond (.copy i) = (.error e, σ) := by
  have same : db = σ.database := by
    rw [← Database.replaceChunk_sound] at failed
    exact Database.replaceChunk_error failed
  show ((σ.database.importChunk i).1, { σ with database := (σ.database.importChunk i).2 }) = _
  rw [failed, same]
  rfl

theorem respond_save_ok {space id : String} {p : Progress} {r : Registry}
    (saved : σ.registry.answer (.setProgress space id p) = (.ok (), r)) :
    σ.respond (.save space id p) = (.ok (), { σ with registry := r }) := by
  show ((σ.registry.answer (.setProgress space id p)).1,
    { σ with registry := (σ.registry.answer (.setProgress space id p)).2 }) = _
  rw [saved]
  rfl

theorem respond_save_error {space id : String} {p : Progress} {e : StoreError} {r : Registry}
    (refused : σ.registry.answer (.setProgress space id p) = (.error e, r)) :
    σ.respond (.save space id p) = (.error e, σ) := by
  have same : r = σ.registry := Registry.answer_setProgress_error refused
  show ((σ.registry.answer (.setProgress space id p)).1,
    { σ with registry := (σ.registry.answer (.setProgress space id p)).2 }) = _
  rw [refused, same]
  rfl

/-- A deployment in which a step has claimed its meter. -/
def claimed (σ : Deployment Q) (m : Meter) : Deployment Q :=
  { σ with claims := (m.space, m.id) :: σ.claims }

theorem respond_claim_busy (busy : (m.space, m.id) ∈ σ.claims) :
    σ.respond (.claim m.space m.id) = (false, σ) := by
  have taken : σ.claims.contains (m.space, m.id) = true := by simpa using busy
  show (if σ.claims.contains (m.space, m.id) then (false, σ) else (true, σ.claimed m)) = _
  rw [if_pos taken]

theorem respond_claim_free (free : (m.space, m.id) ∉ σ.claims) :
    σ.respond (.claim m.space m.id) = (true, σ.claimed m) := by
  have untaken : ¬ σ.claims.contains (m.space, m.id) = true := by simpa using free
  show (if σ.claims.contains (m.space, m.id) then (false, σ) else (true, σ.claimed m)) = _
  rw [if_neg untaken]

/-- Releasing a meter that was free before gives back the claims of before. -/
theorem respond_release (free : (m.space, m.id) ∉ σ.claims)
    (held : τ.claims = (m.space, m.id) :: σ.claims) :
    τ.respond (.release m.space m.id) = ((), { τ with claims := σ.claims }) := by
  have others : (σ.claims.filter fun c => c ≠ (m.space, m.id)) = σ.claims :=
    List.filter_eq_self.2 fun c mem => decide_eq_true fun same => free (same ▸ mem)
  show ((), { τ with claims := τ.claims.filter fun c => c ≠ (m.space, m.id) }) = _
  rw [held, List.filter_cons_of_neg (by simp), others]

end Deployment

namespace Backfill

open Deployment (Answers respond perform)

variable {Q : Type} [Quantity Q] {s : BackfillSettings} {m n : Meter} {p : Progress} {now : Instant}
  {σ τ : Deployment Q}

/-- A database in which the first pending chunk has been replaced. -/
inductive Copies (m : Meter) (p : Progress) (now : Instant) (db : Database Q) : Database Q → Prop
  | mk {cutover earliest : Instant} {chunk : Period} {rest : List Period} {i : ChunkImport}
      {after : Database Q} (fixed : p.cutover = some cutover) (planned : p.earliest = some earliest)
      (pending : p.pending = chunk :: rest) (ended : chunk.stop ≤ now)
      (made : ChunkImport.make m chunk cutover = .ok i) (done : db.importChunk i = (.ok (), after)) :
      Copies m p now db after

/-- The transitions of progress, each with what it does to the database. -/
inductive Transition (s : BackfillSettings) (m : Meter) (now : Instant) (p : Progress)
    (db : Database Q) : Progress → Database Q → Prop
  | fix (unfixed : p.cutover = none) : Transition s m now p db (p.withCutover (s.cutover now)) db
  | plan {cutover : Instant} {found : Option Instant} (fixed : p.cutover = some cutover)
      (unplanned : p.earliest = none) (surveyed : db.earliestStored m.events = .ok found) :
      Transition s m now p db (p.withPlan (importStart found cutover now)
        (dailyChunks (importStart found cutover now).startOfDay cutover)) db
  | shorten {after : Database Q} (copies : Copies m p now db after) :
      Transition s m now p db p.withoutFirstChunk after
  | complete {cutover earliest : Instant} (fixed : p.cutover = some cutover)
      (planned : p.earliest = some earliest) (pending : p.pending = [])
      (settled : cutover + s.settleDelay ≤ now) : Transition s m now p db p.complete db

/-- A deployment that is as it was, or whose database is a chunk ahead. -/
def Ahead (m : Meter) (p : Progress) (now : Instant) (σ τ : Deployment Q) : Prop :=
  τ = σ ∨ ∃ db, Copies m p now σ.database db ∧ τ = { σ with database := db }

/-- What a transition leaves, whatever fails. -/
def EndsTransition (s : BackfillSettings) (m : Meter) (now : Instant) (p : Progress) (σ τ : Deployment Q) :
    Except Error StepResult → Prop
  | .ok (.moved q _) => ∃ db, Transition s m now p σ.database q db ∧ τ = { σ with database := db }
  | .ok (.stayed _ _) => τ = σ
  | .error _ => Ahead m p now σ τ

/-- What is left when the database has been asked to copy a chunk. -/
theorem copy_ends {cutover earliest : Instant} {chunk : Period} {rest : List Period} {i : ChunkImport}
    {a : Except StoreError Unit} (fixed : p.cutover = some cutover) (planned : p.earliest = some earliest)
    (pending : p.pending = chunk :: rest) (ended : chunk.stop ≤ now)
    (made : ChunkImport.make m chunk cutover = .ok i) (answered : Answers σ (.copy i) a τ) :
    EndsTransition s m now p σ τ (copied p chunk a) := by
  cases result : σ.database.importChunk i with
  | mk outcome db =>
    cases outcome with
    | error e =>
      have left := Deployment.respond_copy_error result
      cases answered with
      | works =>
        rw [left]
        exact .inl rfl
      | uncopied e => exact .inl rfl
      | unconfirmed e =>
        rw [left]
        exact .inl rfl
    | ok done =>
      have copies : Copies m p now σ.database db := ⟨fixed, planned, pending, ended, made, result⟩
      have left := Deployment.respond_copy_ok result
      cases answered with
      | works =>
        rw [left]
        exact ⟨db, .shorten copies, rfl⟩
      | uncopied e => exact .inl rfl
      | unconfirmed e =>
        rw [left]
        exact .inr ⟨db, copies, rfl⟩

theorem transition_ends (s : BackfillSettings) (m : Meter) (p : Progress) (now : Instant)
    (σ : Deployment Q) : Program.Ensures (fun _ _ => True) Answers
      (EndsTransition s m now p σ) σ (transition s m p now) := by
  have stage := transition_stage s m p now
  generalize transition s m p now = t at stage ⊢
  cases stage with
  | fix unfixed => exact ⟨σ.database, .fix unfixed, rfl⟩
  | plan fixed unplanned =>
    refine ⟨trivial, fun a τ answered => ?_⟩
    cases answered with
    | works =>
      rw [Deployment.respond_earliest]
      cases surveyed : σ.database.earliestStored m.events with
      | error e => exact .inl rfl
      | ok found => exact ⟨σ.database, .plan fixed unplanned surveyed, rfl⟩
    | unsurveyed e => exact .inl rfl
  | wait => exact rfl
  | refuse => exact .inl rfl
  | copy fixed planned pending ended made =>
    exact ⟨trivial, fun a τ answered => copy_ends fixed planned pending ended made answered⟩
  | complete fixed planned pending settled =>
    exact ⟨σ.database, .complete fixed planned pending settled, rfl⟩

/-- The definition that a caller has afterwards: with the progress that it had, or with that which the
registry has. -/
def CopyOf (σ : Deployment Q) (m n : Meter) : Prop :=
  n = m ∨ ∃ known, σ.stored m = .ok known ∧ n = { m with progress := known.progress }

/-- What a failure leaves of a step that holds its claim. -/
inductive Left (m : Meter) (now : Instant) (σ : Deployment Q) : Deployment Q → Meter → Prop
  | untold : Left m now σ σ m
  | told {known : Meter} {τ : Deployment Q} (told : σ.stored m = .ok known)
      (unready : (known.progress.getD .initial).ready = false)
      (ahead : Ahead { m with progress := known.progress } (known.progress.getD .initial) now σ τ) :
      Left m now σ τ { m with progress := known.progress }

/-- A step that made a transition, from the progress of `known` to `q`, and stored it. -/
structure Moved (s : BackfillSettings) (m : Meter) (now : Instant) (σ τ : Deployment Q) (known : Meter)
    (q : Progress) : Prop where
  told : σ.stored m = .ok known
  unready : (known.progress.getD .initial).ready = false
  transition : Transition s { m with progress := known.progress } now
    (known.progress.getD .initial) σ.database q τ.database
  saved : σ.registry.answer (.setProgress m.space m.id q) = (.ok (), τ.registry)
  snapshot : τ.snapshot = σ.snapshot
  claims : τ.claims = σ.claims

/-- What is left when a step that holds its claim has ended. -/
def EndsAdvance (s : BackfillSettings) (m : Meter) (now : Instant) (σ τ : Deployment Q) :
    Meter × Except Error StepOutcome → Prop
  | (n, .error _) => Left m now σ τ n
  | (n, .ok outcome) => outcome.consumed = 0 ∧ τ = σ ∧ CopyOf σ m n ∨
      outcome.consumed = 1 ∧ ∃ known q, Moved s m now σ τ known q ∧ n = { m with progress := some q }

theorem settle_ends {known : Meter} (told : σ.stored m = .ok known)
    (unready : (known.progress.getD .initial).ready = false) {result : Except Error StepResult}
    (ends : EndsTransition s { m with progress := known.progress } now (known.progress.getD .initial)
      σ τ result) :
    Program.Ensures (fun _ _ => True) Answers (EndsAdvance s m now σ) τ
      (settle { m with progress := known.progress } result) := by
  unfold settle
  split
  · exact .told told unready ends
  · exact .inl ⟨rfl, ends, .inr ⟨known, told, rfl⟩⟩
  · rename_i q action
    obtain ⟨db, transition, rfl⟩ := ends
    have ahead : Ahead { m with progress := known.progress } (known.progress.getD .initial) now σ
        { σ with database := db } := by
      cases transition with
      | shorten copies => exact .inr ⟨db, copies, rfl⟩
      | fix | plan | complete => exact .inl rfl
    have failed : Left m now σ { σ with database := db } { m with progress := known.progress } :=
      .told told unready ahead
    refine ⟨trivial, fun a τ answered => ?_⟩
    cases answered with
    | unsaved e => exact failed
    | works =>
      cases saved : σ.registry.answer (.setProgress m.space m.id q) with
      | mk outcome r =>
        cases outcome with
        | error e =>
          have left := Deployment.respond_save_error (σ := { σ with database := db }) saved
          rw [left]
          exact failed
        | ok done =>
          have left := Deployment.respond_save_ok (σ := { σ with database := db }) saved
          rw [left]
          exact .inr ⟨rfl, known, q, ⟨told, unready, transition, saved, rfl, rfl⟩, rfl⟩

theorem advance_ends (s : BackfillSettings) (m : Meter) (now : Instant) (σ : Deployment Q) :
    Program.Ensures (fun _ _ => True) Answers (EndsAdvance s m now σ) σ (advance s m now) := by
  unfold advance
  refine ⟨trivial, fun a τ answered => ?_⟩
  cases answered with
  | unread e => exact .untold
  | works =>
    rw [Deployment.respond_stored]
    cases told : σ.stored m with
    | error e => exact .untold
    | ok known =>
      dsimp only
      split
      · exact .inl ⟨rfl, rfl, .inr ⟨known, told, rfl⟩⟩
      · rename_i h
        have unready : (known.progress.getD .initial).ready = false := by simpa using h
        exact (transition_ends s _ _ now σ).bind fun τ result => settle_ends told unready

/-- A transition that failed comes to the same when it is tried again. -/
theorem transition_again (ahead : Ahead m p now σ τ) :
    perform (transition s m p now) τ = perform (transition s m p now) σ := by
  rcases ahead with rfl | ⟨db, @⟨cutover, earliest, chunk, rest, i, _, fixed, planned, pending, ended,
    made, done⟩, rfl⟩
  · rfl
  · have late : ¬ now < chunk.stop := Int.not_lt.2 ended
    have first := Deployment.respond_copy_ok done
    have again := Deployment.respond_copy_ok (σ := { σ with database := db })
      (Database.importChunk_again done)
    simp only [transition, fixed, planned, pending, made, if_neg late, Deployment.perform_ask, first,
      again]

theorem Ahead.kept (ahead : Ahead m p now σ τ) :
    τ.registry = σ.registry ∧ τ.snapshot = σ.snapshot ∧ τ.claims = σ.claims := by
  rcases ahead with rfl | ⟨db, -, rfl⟩
  · exact ⟨rfl, rfl, rfl⟩
  · exact ⟨rfl, rfl, rfl⟩

/-- A step that has ended still holds its claim, and no other. -/
theorem EndsAdvance.claims {result : Meter × Except Error StepOutcome}
    (ends : EndsAdvance s m now σ τ result) : τ.claims = σ.claims := by
  obtain ⟨n, e | outcome⟩ := result
  · cases ends with
    | untold => rfl
    | told _ _ ahead => exact ahead.kept.2.2
  · rcases ends with ⟨-, rfl, -⟩ | ⟨-, known, q, moved, -⟩
    · rfl
    · exact moved.claims

theorem perform_advance {known : Meter} (told : σ.stored m = .ok known)
    (unready : (known.progress.getD .initial).ready = false) :
    perform (advance s m now) σ =
      perform ((transition s { m with progress := known.progress }
        (known.progress.getD .initial) now).bind (settle { m with progress := known.progress })) σ := by
  have unfinished : ¬ (known.progress.getD .initial).ready = true := by simpa using unready
  simp only [advance, Deployment.perform_ask, Deployment.respond_stored, told, if_neg unfinished]

/-- A step that failed while it held its claim comes to the same when it is tried again. -/
theorem advance_again (left : Left m now σ τ n) :
    perform (advance s n now) τ = perform (advance s m now) σ := by
  cases left with
  | untold => rfl
  | @told known τ told unready ahead =>
    have again : τ.stored { m with progress := known.progress } = .ok known := by
      rw [Deployment.stored, ahead.kept.1]
      exact told
    rw [perform_advance told unready, perform_advance again unready, Deployment.perform_bind,
      Deployment.perform_bind, transition_again ahead]

/-- What a step leaves that failed. -/
structure Failed (s : BackfillSettings) (m : Meter) (budget : Nat) (now : Instant)
    (σ τ : Deployment Q) (n : Meter) : Prop where
  registry : τ.registry = σ.registry
  snapshot : τ.snapshot = σ.snapshot
  claims : τ.claims = σ.claims
  /-- The first pending chunk may have been replaced. -/
  database : τ.database = σ.database ∨ ∃ known, σ.stored m = .ok known ∧
    Copies { m with progress := known.progress } (known.progress.getD .initial) now σ.database
      τ.database
  copy : CopyOf σ m n
  /-- Repeating it without failures comes to what it would have come to without this one. -/
  again : perform (step s n budget now) τ = perform (step s m budget now) σ

/-- What a step leaves. -/
def EndsAtomically (s : BackfillSettings) (m : Meter) (budget : Nat) (now : Instant) (σ τ : Deployment Q) :
    Meter × Except Error StepOutcome → Prop
  | (n, .error _) => Failed s m budget now σ τ n
  | (n, .ok outcome) => outcome.consumed = 0 ∧ τ = σ ∧ CopyOf σ m n ∨
      outcome.consumed = 1 ∧ ∃ known q, Moved s m now σ τ known q ∧
        n = { m with progress := some q } ∧ τ.registry.HasProgress m.space m.id q ∧
        (q.InRange → τ.stored m = .ok { known with progress := some q })

section Step

variable {budget : Nat} (numeric : m.aggregation.isNumeric = true)
  (unready : m.progress.any Progress.ready = false) (some : budget ≠ 0)
  (free : (m.space, m.id) ∉ σ.claims)

include numeric unready some free in
theorem perform_step : perform (step s m budget now) σ =
    perform (.ask (.release m.space m.id) fun _ => .done (perform (advance s m now) (σ.claimed m)).1)
      (perform (advance s m now) (σ.claimed m)).2 := by
  simp only [step, numeric, unready, not_true_eq_false, Bool.false_eq_true, if_false, if_neg some,
    Deployment.perform_ask, Deployment.respond_claim_free free, Deployment.perform_bind]

include numeric unready some free in
theorem step_failed (left : Left m now (σ.claimed m) τ n) :
    Failed s m budget now σ { τ with claims := σ.claims } n := by
  have redone := advance_again (s := s) left
  cases left with
  | untold => exact ⟨rfl, rfl, rfl, .inl rfl, .inl rfl, rfl⟩
  | @told known τ told stillUnready ahead =>
    obtain ⟨registry, snapshot, claims⟩ := ahead.kept
    refine ⟨registry, snapshot, rfl, ?_, .inr ⟨known, told, rfl⟩, ?_⟩
    · rcases ahead with rfl | ⟨db, copies, rfl⟩
      · exact .inl rfl
      · exact .inr ⟨known, told, copies⟩
    · -- claiming the meter again leads back to where the step failed
      have reclaimed : ({ τ with claims := σ.claims } : Deployment Q).claimed
          { m with progress := known.progress } = τ :=
        congrArg (fun c => ({ τ with claims := c } : Deployment Q)) claims.symm
      have unfinished : known.progress.any Progress.ready = false := by
        cases is : known.progress with
        | none => rfl
        | some p =>
          rw [is] at stillUnready
          exact stillUnready
      rw [perform_step (m := { m with progress := known.progress })
          (σ := { τ with claims := σ.claims }) numeric unfinished some free, reclaimed, redone,
        perform_step numeric unready some free]

end Step

/-- A transition that was stored is what the registry has. -/
theorem Moved.released {known : Meter} {q : Progress} (moved : Moved s m now (σ.claimed m) τ known q) :
    Moved s m now σ { τ with claims := σ.claims } known q ∧
      τ.registry.HasProgress m.space m.id q ∧
      (q.InRange → τ.stored m = .ok { known with progress := some q }) :=
  ⟨⟨moved.told, moved.unready, moved.transition, moved.saved, moved.snapshot, rfl⟩,
    Registry.hasProgress_of_saved moved.saved, Registry.get_of_saved moved.told moved.saved⟩

/--
A step is atomic. Whatever the registry, the database and the caller's copy of the meter hold, and
whichever requests fail: a step that fails leaves the stored progress as it was and the table at most a
chunk ahead, and repeating it makes up for the failure; one that succeeds has stored one transition or
none. Claims are given back in each case.
-/
theorem step_atomic (s : BackfillSettings) (m : Meter) (budget : Nat) (now : Instant)
    (σ : Deployment Q) : Program.Ensures (fun _ _ => True) Answers
      (EndsAtomically s m budget now σ) σ (step s m budget now) := by
  unfold step
  split
  · exact .inl ⟨rfl, rfl, .inl rfl⟩
  rename_i numeric
  split
  · exact .inl ⟨rfl, rfl, .inl rfl⟩
  rename_i unready
  split
  · exact .inl ⟨rfl, rfl, .inl rfl⟩
  rename_i some
  refine ⟨trivial, fun a τ answered => ?_⟩
  cases answered with
  | works =>
    by_cases free : (m.space, m.id) ∈ σ.claims
    · rw [Deployment.respond_claim_busy free]
      exact .inl ⟨rfl, rfl, .inl rfl⟩
    · rw [Deployment.respond_claim_free free]
      refine (advance_ends s m now (σ.claimed m)).bind fun τ result ends =>
        ⟨trivial, fun a τ' answered => ?_⟩
      have released := Deployment.respond_release free ends.claims
      cases answered with
      | works =>
        rw [released]
        obtain ⟨n, e | outcome⟩ := result
        · exact step_failed (by simpa using numeric) (by simpa using unready) some free ends
        · rcases ends with ⟨none, rfl, copy⟩ | ⟨one, known, q, moved, copy⟩
          · exact .inl ⟨none, rfl, copy⟩
          · obtain ⟨moved, held, read⟩ := moved.released
            exact .inr ⟨one, known, q, moved, copy, held, read⟩

end Backfill

end Metering
