import Metering.Proofs.Backfill.Chunks
import Metering.Proofs.Backfill.Engine
import Metering.Proofs.Program

/-!
How far a run gets with its budget. A run never stores more transitions than its budget, whatever its
requests are answered, and when it ends well its outcome tells how many it stored. Once everything up to
the cutover is over and nothing fails, a run with a budget for the transitions that are left ends with
a ready table: no chunk has to be waited for, and each transition leaves fewer of them
(`run_within_budget`).
-/
namespace Metering

namespace Backfill

open Program (Ensures AsksAtMost)

variable {s : BackfillSettings} {m : Meter} {now cutover : Instant} {found : Option Instant}
variable {α : Type}

/-- The answers of a registry and a database that do what they are asked. -/
def Succeeds (found : Option Instant) : (r : BackfillRequest) → r.Answer → Prop
  | .claim .., _ => True
  | .release .., _ => True
  | .stored .., a => ∃ m, a = .ok m
  | .earliest _, a => a = .ok found
  | .copy _, a => a = .ok ()
  | .save .., a => a = .ok ()

/-- What a request is answered when nothing fails and the earliest event is the one that was found. -/
def Works (found : Option Instant) (σ : Engine) (r : BackfillRequest) (a : r.Answer) (σ' : Engine) :
    Prop :=
  σ.Answers r a σ' ∧ Succeeds found r a

def Answerable (found : Option Instant) (σ : Engine) (r : BackfillRequest) : Prop :=
  ∃ a σ', Works found σ r a σ'

/-- The transitions to a ready table once the cutover is fixed. -/
def transitionsLeft (found : Option Instant) (now cutover : Instant) (p : Progress) : Nat :=
  match p.earliest with
  | none => 1 + (dailyChunks (importStart found cutover now).startOfDay cutover).length + 1
  | some _ => p.pending.length + 1

/-- A transition that leaves less to do, unless the table is ready with it. -/
structure Nearer (found : Option Instant) (now cutover : Instant) (p q : Progress)
    (action : StepAction) : Prop where
  wellFormed : q.WellFormed
  fixed : q.cutover = some cutover
  ready : q.ready = true → action = .ready
  fewer : q.ready = false → transitionsLeft found now cutover q < transitionsLeft found now cutover p

theorem Nearer.plan {p : Progress} (unready : p.ready = false) (fixed : p.cutover = some cutover)
    (unplanned : p.earliest = none) (wellFormed : p.WellFormed) {action : StepAction} :
    Nearer found now cutover p (p.withPlan (importStart found cutover now)
      (dailyChunks (importStart found cutover now).startOfDay cutover)) action where
  wellFormed := (MayStore.plan (s := .default) unready fixed unplanned).wellFormed rfl wellFormed
  fixed := fixed
  ready ready := absurd (unready.symm.trans ready) (by simp)
  fewer _ := by
    simp only [transitionsLeft, unplanned, Progress.withPlan]
    omega

theorem Nearer.shorten {p : Progress} (unready : p.ready = false) (fixed : p.cutover = some cutover)
    {earliest : Instant} (planned : p.earliest = some earliest) {chunk : Period} {rest : List Period}
    (pending : p.pending = chunk :: rest) (ended : chunk.stop ≤ now) (wellFormed : p.WellFormed)
    {action : StepAction} : Nearer found now cutover p p.withoutFirstChunk action where
  wellFormed :=
    (MayStore.shorten (s := .default) unready fixed planned pending ended).wellFormed rfl wellFormed
  fixed := fixed
  ready ready := absurd (unready.symm.trans ready) (by simp)
  fewer _ := by
    simp only [transitionsLeft, planned, Progress.withoutFirstChunk, pending, List.drop_one,
      List.tail_cons, List.length_cons]
    omega

theorem Nearer.complete {p : Progress} (unready : p.ready = false)
    (fixed : p.cutover = some cutover) {earliest : Instant} (planned : p.earliest = some earliest)
    (pending : p.pending = []) (wellFormed : p.WellFormed) :
    Nearer found now cutover p p.complete .ready where
  wellFormed := by
    have may : MayStore .default now (.knows p) p.complete :=
      .complete unready fixed planned pending
    exact may.wellFormed rfl wellFormed
  fixed := fixed
  ready _ := rfl
  fewer unready := absurd unready (by simp [Progress.complete])

/-- A pending chunk is over when the time to settle is. -/
theorem ended_of_settled {p : Progress} (wellFormed : p.WellFormed)
    (fixed : p.cutover = some cutover) {earliest : Instant} (planned : p.earliest = some earliest)
    {chunk : Period} {rest : List Period} (pending : p.pending = chunk :: rest)
    (delay : ⟨0⟩ ≤ s.settleDelay) (settled : cutover + s.settleDelay ≤ now) : chunk.stop ≤ now := by
  have suffix := wellFormed.pending_suffix earliest cutover planned fixed
  rw [pending] at suffix
  have inside := (frontier_of_suffix suffix).2.1
  simp only [Instant.le_iff, Span.le_iff, Instant.nanos_add] at *
  omega

/-- What a transition comes to when nothing fails and nothing has to be waited for. -/
def EndsNearer (found : Option Instant) (now cutover : Instant) (p : Progress) (σ σ' : Engine)
    (result : Except Error StepResult) : Prop :=
  σ' = σ ∧ ∃ q action, result = .ok (.moved q action) ∧ Nearer found now cutover p q action

theorem transition_nearer {σ : Engine} {p : Progress} (unready : p.ready = false)
    (wellFormed : p.WellFormed) (fixed : p.cutover = some cutover) (valid : m.validate = .ok ())
    (numeric : m.aggregation.isNumeric) (delay : ⟨0⟩ ≤ s.settleDelay)
    (settled : cutover + s.settleDelay ≤ now) :
    Ensures (Answerable found) (Works found) (EndsNearer found now cutover p σ) σ
      (transition s m p now) := by
  unfold transition
  rw [fixed]
  cases planned : p.earliest with
  | none =>
    constructor
    · exact ⟨.ok found, σ, .surveyed, rfl⟩
    · rintro a σ' ⟨answers, rfl⟩
      cases answers
      exact ⟨rfl, _, _, rfl, Nearer.plan unready fixed planned wellFormed⟩
  | some earliest =>
    cases pending : p.pending with
    | nil =>
      dsimp only
      rw [if_neg (show ¬ now < cutover + s.settleDelay from Int.not_lt.2 settled)]
      exact ⟨rfl, _, _, rfl, Nearer.complete unready fixed planned pending wellFormed⟩
    | cons chunk rest =>
      have ended := ended_of_settled wellFormed fixed planned pending delay settled
      dsimp only
      rw [if_neg (show ¬ now < chunk.stop from Int.not_lt.2 ended),
        ChunkImport.make_eq_ok.2 ⟨valid, numeric, rfl⟩]
      constructor
      · exact ⟨.ok (), σ, .copied, rfl⟩
      · rintro a σ' ⟨answers, rfl⟩
        cases answers
        exact ⟨rfl, _, _, rfl,
          Nearer.shorten unready fixed planned pending ended wellFormed⟩

/-- What a step comes to when nothing fails: the table was ready already, or a transition is stored. -/
inductive EndsStep (m : Meter) (found : Option Instant) (now cutover : Instant) (p : Progress)
    (σ : Engine) : Meter × Except Error StepOutcome → Prop where
  | already {n : Meter} (ready : (σ.progress (keyOf m)).ready = true) :
      EndsStep m found now cutover p σ (n, .ok ⟨0, true, .ready⟩)
  | moved {action : StepAction}
      (nearer : Nearer found now cutover p (σ.progress (keyOf m)) action) :
      EndsStep m found now cutover p σ ({ m with progress := some (σ.progress (keyOf m)) },
        .ok ⟨1, (σ.progress (keyOf m)).ready, action⟩)

theorem settle_nearer {σ : Engine} {p q : Progress} {action : StepAction}
    (nearer : Nearer found now cutover p q action) (before : Option Progress) :
    Ensures (Answerable found) (Works found) (EndsStep m found now cutover p) σ
      (settle { m with progress := before } (.ok (.moved q action))) := by
  constructor
  · exact ⟨.ok (), _, .saved, rfl⟩
  · rintro a σ' ⟨answers, rfl⟩
    cases answers with
    | saved =>
      let σ' : Engine := { σ with
        history := fun k => if k = keyOf m then q :: σ.history k else σ.history k }
      have stored : σ'.progress (keyOf m) = q := by simp [σ', Engine.progress, Engine.stored]
      have ends : EndsStep m found now cutover p σ' _ := .moved (stored.symm ▸ nearer)
      rw [stored] at ends
      exact ends

section Working

variable (valid : m.validate = .ok ()) (numeric : m.aggregation.isNumeric)
variable (delay : ⟨0⟩ ≤ s.settleDelay) (settled : cutover + s.settleDelay ≤ now)
variable {σ : Engine} (wellFormed : (σ.progress (keyOf m)).WellFormed)
variable (fixed : (σ.progress (keyOf m)).cutover = some cutover)
include valid numeric delay settled wellFormed fixed

theorem advance_nearer :
    Ensures (Answerable found) (Works found)
      (EndsStep m found now cutover (σ.progress (keyOf m))) σ (advance s m now) := by
  unfold advance
  constructor
  · exact ⟨.ok { m with progress := σ.stored (keyOf m) }, σ, .read rfl, _, rfl⟩
  · rintro a σ' ⟨answers, stored, rfl⟩
    cases answers with
    | read current =>
      have known : stored.progress.getD .initial = σ.progress (keyOf m) := by
        rw [current]
        rfl
      dsimp only
      rw [known]
      split
      · rename_i ready
        exact .already ready
      · rename_i unready
        have unready : (σ.progress (keyOf m)).ready = false := by simpa using unready
        let read : Meter := { m with progress := stored.progress }
        have ends : Ensures (Answerable found) (Works found)
            (EndsNearer found now cutover (σ.progress (keyOf m)) σ) σ
            (transition s read (σ.progress (keyOf m)) now) :=
          transition_nearer unready wellFormed fixed valid numeric delay settled
        refine ends.bind ?_
        rintro σ' result ⟨rfl, q, action, rfl, nearer⟩
        exact settle_nearer nearer stored.progress

/-- A step that is not told that the table is ready already makes its transition. -/
theorem step_nearer (free : keyOf m ∉ σ.claims) (unaware : m.progress.any Progress.ready = false)
    (budget : Nat) :
    Ensures (Answerable found) (Works found)
      (fun σ' result => keyOf m ∉ σ'.claims ∧
        EndsStep m found now cutover (σ.progress (keyOf m)) σ' result) σ
      (step s m (budget + 1) now) := by
  unfold step
  rw [if_neg (by simpa using numeric), if_neg (by simp [unaware]), if_neg (Nat.succ_ne_zero _)]
  constructor
  · exact ⟨true, _, .granted free, trivial⟩
  · rintro a σ' ⟨answers, -⟩
    cases answers with
    | busy taken => exact absurd taken free
    | granted =>
      let held : Engine := { σ with claims := keyOf m :: σ.claims }
      refine (advance_nearer valid numeric delay settled (σ := held) wellFormed fixed).bind ?_
      intro σ' result ends
      constructor
      · exact ⟨(), _, .released, trivial⟩
      · rintro a σ'' ⟨answers, -⟩
        cases answers with
        | released =>
          constructor
          · simp [keyOf]
          · cases ends with
            | already ready => exact .already ready
            | moved nearer => exact .moved nearer

end Working

/-- The run ends with a ready table, which the registry knows of unless the copy was ahead of it. -/
def EndsReady (m : Meter) (most : Nat) (σ : Engine) (result : Meter × Except Error StepOutcome) :
    Prop :=
  (∃ consumed ≤ most, result.2 = .ok ⟨consumed, true, .ready⟩) ∧
    (m.progress.any Progress.ready = false → (σ.progress (keyOf m)).ready = true)

theorem runFrom_ready (valid : m.validate = .ok ()) (numeric : m.aggregation.isNumeric)
    (delay : ⟨0⟩ ≤ s.settleDelay) (settled : cutover + s.settleDelay ≤ now) {σ : Engine}
    (wellFormed : (σ.progress (keyOf m)).WellFormed)
    (fixed : (σ.progress (keyOf m)).cutover = some cutover) (free : keyOf m ∉ σ.claims)
    (consumed : Nat) {budget : Nat}
    (enough : transitionsLeft found now cutover (σ.progress (keyOf m)) ≤ budget) :
    Ensures (Answerable found) (Works found) (EndsReady m (consumed + budget)) σ
      (runFrom s now consumed budget m) := by
  induction budget generalizing m σ consumed with
  | zero =>
    simp only [transitionsLeft] at enough
    split at enough <;> omega
  | succ budget ih =>
    unfold runFrom
    cases unaware : m.progress.any Progress.ready with
    | true =>
      have told : step s m (budget + 1) now = .done (m, .ok ⟨0, true, .ready⟩) := by
        simp [step, numeric, unaware]
      rw [told]
      exact ⟨⟨consumed, by omega, rfl⟩, by simp [unaware]⟩
    | false =>
      refine (step_nearer valid numeric delay settled wellFormed fixed free unaware budget).bind ?_
      rintro σ' result ⟨free, ends⟩
      cases ends with
      | already ready => exact ⟨⟨consumed, by omega, rfl⟩, fun _ => ready⟩
      | moved nearer =>
        cases unready : (σ'.progress (keyOf m)).ready with
        | true =>
          obtain rfl := nearer.ready unready
          exact ⟨⟨consumed + 1, by omega, rfl⟩, fun _ => unready⟩
        | false =>
          have fewer := nearer.fewer unready
          have rest := ih (m := { m with progress := some (σ'.progress (keyOf m)) }) (σ := σ')
            valid numeric nearer.wellFormed nearer.fixed free (consumed + 1)
            (Nat.le_of_lt_succ (Nat.lt_of_lt_of_le fewer enough))
          refine rest.mono ?_
          rintro σ result ⟨⟨n, le, ok⟩, ready⟩
          exact ⟨⟨n, by omega, ok⟩, fun _ => ready (by simpa using unready)⟩

/-- What is persisted when a request is answered. A save whose failure is reported may have been. -/
inductive Persists (n : Nat) : (r : BackfillRequest) → r.Answer → Nat → Prop where
  | saved {space id : String} {p : Progress} {a : Except StoreError Unit} :
      Persists n (.save space id p) a (n + 1)
  | unsaved {space id : String} {p : Progress} {e : StoreError} :
      Persists n (.save space id p) (.error e) n
  | other {r : BackfillRequest} {a : r.Answer} (not : ∀ space id p, r ≠ .save space id p) :
      Persists n r a n

/-- Whether a program ends as expected when so many transitions were persisted before. -/
abbrev Counts (ends : Nat → α → Prop) (n : Nat) (p : Backfilling α) : Prop :=
  Ensures (fun _ _ => True) Persists ends n p

/-- No more than the most were persisted, and an outcome tells how many after the first ones. -/
def EndsWithin (before most n : Nat) (result : Meter × Except Error StepOutcome) : Prop :=
  n ≤ most ∧ ∀ outcome, result.2 = .ok outcome → n = before + outcome.consumed

theorem persists_of_not_save {n n' : Nat} {r : BackfillRequest} {a : r.Answer}
    (h : Persists n r a n') (not : ∀ space id p, r ≠ .save space id p) : n' = n := by
  cases h with
  | saved => exact absurd rfl (not _ _ _)
  | unsaved => rfl
  | other => rfl

theorem transition_counts (n : Nat) (p : Progress) :
    Counts (fun n' _ => n' = n) n (transition s m p now) := by
  have stage := transition_stage s m p now
  generalize transition s m p now = t at stage ⊢
  cases stage with
  | fix | wait | refuse | complete => exact rfl
  | plan => exact ⟨trivial, fun a n' h => persists_of_not_save h nofun⟩
  | copy => exact ⟨trivial, fun a n' h => persists_of_not_save h nofun⟩

theorem settle_counts (n : Nat) (result : Except Error StepResult) :
    Counts (EndsWithin n (n + 1)) n (settle m result) := by
  unfold settle
  split
  · exact ⟨by omega, by simp⟩
  · exact ⟨by omega, fun outcome is => by cases is; rfl⟩
  · refine ⟨trivial, fun a n' h => ?_⟩
    cases a with
    | error e =>
      refine ⟨?_, by simp⟩
      cases h with
      | saved => exact Nat.le_refl _
      | unsaved => exact Nat.le_succ _
      | other not => exact absurd rfl (not _ _ _)
    | ok u =>
      cases h with
      | saved => exact ⟨Nat.le_refl _, fun outcome is => by cases is; rfl⟩
      | other not => exact absurd rfl (not _ _ _)

theorem advance_counts (n : Nat) : Counts (EndsWithin n (n + 1)) n (advance s m now) := by
  unfold advance
  refine ⟨trivial, fun a n' h => ?_⟩
  obtain rfl := persists_of_not_save h (by simp)
  cases a with
  | error e => exact ⟨by omega, by simp⟩
  | ok stored =>
    dsimp only
    split
    · exact ⟨by omega, fun outcome is => by cases is; rfl⟩
    · refine (transition_counts n' _).bind ?_
      rintro n result rfl
      exact settle_counts n result

theorem step_counts (n budget : Nat) : Counts (EndsWithin n (n + 1)) n (step s m budget now) := by
  have stays (done : Bool) (action : StepAction) :
      EndsWithin n (n + 1) n (m, .ok ⟨0, done, action⟩) :=
    ⟨by omega, fun outcome is => by cases is; rfl⟩
  unfold step
  split
  · exact stays _ _
  · split
    · exact stays _ _
    · split
      · exact stays _ _
      · refine ⟨trivial, fun a n' h => ?_⟩
        obtain rfl := persists_of_not_save h (by simp)
        cases a with
        | false => exact stays _ _
        | true =>
          refine (advance_counts n').bind fun n result ends => ⟨trivial, fun a n'' h => ?_⟩
          obtain rfl := persists_of_not_save h (by simp)
          exact ends

theorem step_without_budget (s : BackfillSettings) (m : Meter) (now : Instant) :
    ∃ done action, step s m 0 now = .done (m, .ok ⟨0, done, action⟩) := by
  unfold step
  split
  · exact ⟨_, _, rfl⟩
  · split
    · exact ⟨_, _, rfl⟩
    · exact ⟨_, _, rfl⟩

theorem runFrom_counts (consumed budget : Nat) :
    Counts (EndsWithin 0 (consumed + budget)) consumed (runFrom s now consumed budget m) := by
  induction budget generalizing m consumed with
  | zero =>
    obtain ⟨done, action, stays⟩ := step_without_budget s m now
    unfold runFrom
    rw [stays]
    exact ⟨Nat.le_refl _, fun outcome is => by cases is; simp⟩
  | succ budget ih =>
    unfold runFrom
    refine (step_counts consumed (budget + 1)).bind ?_
    rintro n ⟨m, e | outcome⟩ ⟨most, told⟩
    · exact ⟨by omega, by simp⟩
    · have told := told outcome rfl
      dsimp only
      split
      · exact ⟨by omega, fun result is => by cases is; simpa using told⟩
      · rename_i goesOn
        obtain rfl : n = consumed + 1 := by
          have moved : outcome.consumed ≠ 0 := fun none => goesOn (.inr none)
          omega
        exact (ih (consumed + 1)).mono fun n result ends => ⟨by have := ends.1; omega, ends.2⟩

theorem transition_asks (p : Progress) : AsksAtMost 1 (transition s m p now) := by
  have stage := transition_stage s m p now
  generalize transition s m p now = t at stage ⊢
  cases stage with
  | fix | wait | refuse | complete => trivial
  | plan | copy => exact fun _ => trivial

theorem settle_asks (result : Except Error StepResult) : AsksAtMost 1 (settle m result) := by
  unfold settle
  split
  · trivial
  · trivial
  · intro a
    cases a <;> trivial

theorem step_asks (budget : Nat) : AsksAtMost 5 (step s m budget now) := by
  unfold step
  split
  · trivial
  · split
    · trivial
    · split
      · trivial
      · intro a
        cases a with
        | false => trivial
        | true =>
          refine AsksAtMost.bind (m := 3) (n := 1) ?_ fun result a => trivial
          intro a
          cases a with
          | error e => trivial
          | ok stored =>
            dsimp only
            split
            · trivial
            · exact (transition_asks _).bind fun result => settle_asks result

theorem runFrom_asks (consumed budget : Nat) :
    AsksAtMost (5 * budget) (runFrom s now consumed budget m) := by
  induction budget generalizing m consumed with
  | zero =>
    obtain ⟨done, action, stays⟩ := step_without_budget s m now
    unfold runFrom
    rw [stays]
    trivial
  | succ budget ih =>
    unfold runFrom
    rw [Nat.mul_succ, Nat.add_comm]
    refine (step_asks (budget + 1)).bind ?_
    rintro ⟨m, e | outcome⟩
    · exact AsksAtMost.mono (m := 0) trivial (Nat.zero_le _)
    · dsimp only
      split
      · exact AsksAtMost.mono (m := 0) trivial (Nat.zero_le _)
      · exact ih (consumed + 1)

/--
With everything up to the cutover over and nothing that fails, a run of a valid meter ends with a ready
table if its budget is for the transitions that are left. Whatever the answers are, a run makes a
bounded number of requests, persists no more transitions than its budget, and tells how many when it
ends well.
-/
theorem run_within_budget (s : BackfillSettings) :
    (∀ (σ₀ σ : Engine) (m : Meter) (found : Option Instant) (now cutover : Instant) (budget : Nat),
      σ₀.Idle → σ₀.history (keyOf m) = [] → Engine.Reaches s σ₀ σ →
      (σ.progress (keyOf m)).cutover = some cutover → keyOf m ∉ σ.claims →
      m.validate = .ok () → m.aggregation.isNumeric = true →
      ⟨0⟩ ≤ s.settleDelay → cutover + s.settleDelay ≤ now →
      transitionsLeft found now cutover (σ.progress (keyOf m)) ≤ budget →
      Ensures (Answerable found) (Works found) (EndsReady m budget) σ (run s m budget now)) ∧
    ∀ (m : Meter) (budget : Nat) (now : Instant),
      AsksAtMost (5 * budget) (run s m budget now) ∧
        Counts (EndsWithin 0 budget) 0 (run s m budget now) := by
  constructor
  · intro σ₀ σ m found now cutover budget idle fresh reaches fixed free valid numeric delay settled
      enough
    have climbs := ((idle.sound fresh).reaches reaches).climbs
    have ready := runFrom_ready valid numeric delay settled climbs.wellFormed_head fixed free 0 enough
    rwa [Nat.zero_add] at ready
  · intro m budget now
    have counts : Counts (EndsWithin 0 (0 + budget)) 0 (runFrom s now 0 budget m) :=
      runFrom_counts 0 budget
    rw [Nat.zero_add] at counts
    exact ⟨runFrom_asks 0 budget, counts⟩

/-- The progress of a meter whose cutover was fixed a minute ahead. -/
def afterFirstStep : Progress := ⟨some (.ofSeconds 60), none, [], false⟩

/-- An engine on which the first step of the one meter is over. -/
theorem reaches_afterFirstStep : ∃ σ, Engine.Reaches .default .unused σ ∧
    σ.stored (keyOf Engine.requestCount) = some afterFirstStep ∧ σ.claims = [] := by
  have reaches := (((((Relation.ReflTransGen.refl (r := Engine.Next .default)
    (a := Engine.unused)).tail
    (.step Engine.requestCount 1 .epoch)).tail
    (.answer (i := 0) rfl rfl (.granted List.not_mem_nil))).tail
    (.answer (i := 0) rfl rfl (.read (m := Engine.requestCount) rfl))).tail
    (.answer (i := 0) rfl rfl (.saved (a := .ok ())))).tail
    (.answer (i := 0) rfl rfl .released)
  exact ⟨_, reaches, rfl, rfl⟩

theorem chunks_of_minute : dailyChunks .epoch (.ofSeconds 60) = [⟨.epoch, .ofSeconds 60⟩] := by
  rw [dailyChunks_of_lt (by decide), dailyChunks_of_le (by decide)]
  rfl

theorem transitionsLeft_afterFirstStep :
    transitionsLeft (some .epoch) (.ofSeconds 660) (.ofSeconds 60) afterFirstStep = 3 := by
  have start : (importStart (some .epoch) (.ofSeconds 60) (.ofSeconds 660)).startOfDay = .epoch := by
    decide
  simp only [transitionsLeft, afterFirstStep, start, chunks_of_minute, List.length_cons,
    List.length_nil]

/-- A budget of three for the plan, the one chunk and the last transition. -/
theorem run_ready_after_three : ∃ σ, Engine.Reaches .default .unused σ ∧
    transitionsLeft (some .epoch) (.ofSeconds 660) (.ofSeconds 60)
      (σ.progress (keyOf Engine.requestCount)) = 3 ∧
    Ensures (Answerable (some .epoch)) (Works (some .epoch)) (EndsReady Engine.requestCount 3) σ
      (run .default Engine.requestCount 3 (.ofSeconds 660)) := by
  obtain ⟨σ, reaches, stored, claims⟩ := reaches_afterFirstStep
  have progress : σ.progress (keyOf Engine.requestCount) = afterFirstStep := by
    rw [Engine.progress, stored]
    rfl
  have left := transitionsLeft_afterFirstStep
  rw [← progress] at left
  refine ⟨σ, reaches, left, (run_within_budget .default).1 .unused σ Engine.requestCount
    (some .epoch) (.ofSeconds 660) (.ofSeconds 60) 3 ⟨rfl, rfl⟩ rfl reaches ?_ ?_ ?_ rfl ?_ ?_
    (Nat.le_of_eq left)⟩
  · rw [progress]
    rfl
  · rw [claims]
    exact List.not_mem_nil
  · decide
  · decide
  · decide

/-- A meter of sums that does not say what to sum. -/
def pathless : Meter := { Engine.requestCount with aggregation := .sum }

/-- A meter that was redefined to count distinct values, which the table of numbers cannot do. -/
def distinct : Meter :=
  { Engine.requestCount with aggregation := .uniqueCount, valuePath := some "$.user" }

/--
A run does not end with a ready table, for all its budget, if the definition is not valid or is not one
for the table of numbers, nor if another step has the claim of the meter.
-/
theorem run_not_ready : ∃ σ σ' : Engine,
    Engine.Reaches .default .unused σ ∧ Engine.Reaches .default .unused σ' ∧
    σ.stored (keyOf Engine.requestCount) = some afterFirstStep ∧
    σ'.stored (keyOf Engine.requestCount) = some afterFirstStep ∧
    ¬ Ensures (Answerable (some .epoch)) (Works (some .epoch)) (EndsReady pathless 3) σ
      (run .default pathless 3 (.ofSeconds 660)) ∧
    ¬ Ensures (Answerable (some .epoch)) (Works (some .epoch)) (EndsReady distinct 3) σ
      (run .default distinct 3 (.ofSeconds 660)) ∧
    ¬ Ensures (Answerable (some .epoch)) (Works (some .epoch)) (EndsReady Engine.requestCount 3) σ'
      (run .default Engine.requestCount 3 (.ofSeconds 660)) := by
  obtain ⟨σ, reaches, stored, claims⟩ := reaches_afterFirstStep
  have free : keyOf pathless ∉ σ.claims := by simp [claims]
  have claimed := (reaches.tail (.step Engine.requestCount 1 .epoch)).tail
    (.answer (i := σ.tasks.length) List.getElem?_concat_length rfl (.granted free))
  refine ⟨σ, _, reaches, claimed, stored, stored, ?_, ?_, ?_⟩
  · intro ready
    have planning := (ready.2 true _ ⟨.granted free, trivial⟩).2
      (.ok { pathless with progress := some afterFirstStep }) _ ⟨.read stored.symm, _, rfl⟩
    have planned := ((planning.2 (.ok (some .epoch)) _ ⟨.surveyed, rfl⟩).2
      (.ok ()) _ ⟨.saved, rfl⟩).2 () _ ⟨.released, trivial⟩
    have current := congrArg (fun chunks => some (Progress.mk (some (.ofSeconds 60)) (some .epoch)
      chunks false)) chunks_of_minute.symm
    have importing := (planned.2 true _ ⟨.granted (by simp [pathless]), trivial⟩).2
      (.ok { pathless with progress := some ⟨some (.ofSeconds 60), some .epoch,
        [⟨.epoch, .ofSeconds 60⟩], false⟩ }) _ ⟨.read current, _, rfl⟩
    obtain ⟨⟨consumed, -, refused⟩, -⟩ := importing.2 () _ ⟨.released, trivial⟩
    cases refused
  · intro ready
    obtain ⟨⟨consumed, -, unsupported⟩, -⟩ := ready
    cases unsupported
  · intro ready
    obtain ⟨⟨consumed, -, busy⟩, -⟩ := ready.2 false _ ⟨.busy List.mem_cons_self, trivial⟩
    cases busy

end Backfill

end Metering
