import Mathlib.Data.List.Chain
import Mathlib.Logic.Relation
import Metering.Proofs.Backfill.Discipline

/-!
Any number of tasks that step and run on one engine at the same time. A task stops at each of its
requests, and any other task may go on in the meantime; the copy of the definition that it was given
may be out of date, and any call of the registry or of the database may fail.

Whatever the tasks do, the records of progress that the registry is given for a meter are
well-formed, each is further along than the one before it, and what is settled once stays as it is
(`climbs_of_reaches`). The claims carry the proof: a task inside a step has the only claim of its
meter, so what it was told is still what the registry holds.
-/
namespace Metering

namespace Progress

/-- The stages are passed in order, and what is pending is the rest of the plan. -/
structure WellFormed (p : Progress) : Prop where
  cutover_of_earliest : p.earliest.isSome → p.cutover.isSome
  pending_of_unplanned : p.earliest = none → p.pending = []
  pending_suffix : ∀ earliest cutover, p.earliest = some earliest → p.cutover = some cutover →
    p.pending <:+ dailyChunks earliest.startOfDay cutover
  complete_of_ready : p.ready = true →
    p.cutover.isSome ∧ p.earliest.isSome ∧ p.pending = []

/-- What the earlier record has settled stands in the later one. -/
structure Keeps (earlier later : Progress) : Prop where
  cutover : ∀ t, earlier.cutover = some t → later.cutover = some t
  earliest : ∀ t, earlier.earliest = some t → later.earliest = some t
  ready : earlier.ready = true → later = earlier

theorem Keeps.trans {p q r : Progress} (first : Keeps p q) (second : Keeps q r) : Keeps p r where
  cutover t h := second.cutover t (first.cutover t h)
  earliest t h := second.earliest t (first.earliest t h)
  ready h := by
    have same := first.ready h
    rw [second.ready (same ▸ h), same]

theorem wellFormed_initial : initial.WellFormed where
  cutover_of_earliest := by simp [initial]
  pending_of_unplanned := by simp [initial]
  pending_suffix := by simp [initial]
  complete_of_ready := by simp [initial]

end Progress

namespace Backfill

variable {s : BackfillSettings} {now : Instant}

theorem MayStore.told {st : Standing} {q : Progress} (may : MayStore s now st q) :
    ∃ p, st.told? = some p := by
  cases may <;> exact ⟨_, rfl⟩

theorem MayStore.wellFormed {st : Standing} {p q : Progress} (may : MayStore s now st q)
    (told : st.told? = some p) (h : p.WellFormed) : q.WellFormed := by
  cases may with
  | fix unready unfixed =>
    cases told
    have unplanned : p.earliest = none := by
      cases he : p.earliest with
      | none => rfl
      | some t => simpa [unfixed] using h.cutover_of_earliest (by simp [he])
    exact ⟨by simp [Progress.withCutover], h.pending_of_unplanned,
      by simp [Progress.withCutover, unplanned], by simp [Progress.withCutover, unready]⟩
  | plan unready fixed unplanned =>
    cases told
    refine ⟨by simp [Progress.withPlan, fixed], by simp [Progress.withPlan], ?_,
      by simp [Progress.withPlan, unready]⟩
    intro earliest cutover he hc
    simp only [Progress.withPlan, Option.some.injEq] at he hc ⊢
    rw [fixed, Option.some.injEq] at hc
    subst he hc
    exact List.suffix_rfl
  | shorten unready fixed planned pending ended =>
    cases told
    refine ⟨by simp [Progress.withoutFirstChunk, fixed], ?_, ?_,
      by simp [Progress.withoutFirstChunk, unready]⟩
    · intro he
      simp [Progress.withoutFirstChunk, planned] at he
    · intro earliest cutover he hc
      exact (List.drop_suffix 1 _).trans (h.pending_suffix earliest cutover he hc)
  | complete unready fixed planned pending =>
    cases told
    exact ⟨h.cutover_of_earliest, h.pending_of_unplanned, h.pending_suffix,
      by simp [Progress.complete, fixed, planned, pending]⟩

theorem MayStore.keeps {st : Standing} {p q : Progress} (may : MayStore s now st q)
    (told : st.told? = some p) : p.Keeps q := by
  cases may with
  | fix unready unfixed =>
    cases told
    exact ⟨by simp [unfixed], by simp [Progress.withCutover], by simp [unready]⟩
  | plan unready fixed unplanned =>
    cases told
    exact ⟨by simp [Progress.withPlan], by simp [unplanned], by simp [unready]⟩
  | shorten unready fixed planned pending ended =>
    cases told
    exact ⟨by simp [Progress.withoutFirstChunk], by simp [Progress.withoutFirstChunk],
      by simp [unready]⟩
  | complete unready fixed planned pending =>
    cases told
    exact ⟨by simp [Progress.complete], by simp [Progress.complete], by simp [unready]⟩

/-- Each stage comes before the number of chunks, so that a plan may add chunks and still be ahead. -/
theorem MayStore.isBehind {st : Standing} {p q : Progress} (may : MayStore s now st q)
    (told : st.told? = some p) : p.isBehind q = true := by
  cases may with
  | fix unready unfixed =>
    cases told
    simp [Progress.isBehind, Progress.withCutover, Progress.rank, unready, unfixed,
      List.cons_lt_cons_iff]
  | plan unready fixed unplanned =>
    cases told
    simp [Progress.isBehind, Progress.withPlan, Progress.rank, unready, fixed, unplanned,
      List.cons_lt_cons_iff]
  | shorten unready fixed planned pending ended =>
    cases told
    simp [Progress.isBehind, Progress.withoutFirstChunk, Progress.rank, pending]
  | complete unready fixed planned pending =>
    cases told
    simp [Progress.isBehind, Progress.complete, Progress.rank, unready, List.cons_lt_cons_iff]

/-- A call of a step or a run that has got to one of its requests, or to its end. -/
structure Task where
  meter : Meter
  now : Instant
  standing : Standing
  rest : Backfilling (Meter × Except Error StepOutcome)

/-- A meter by its namespace and id. -/
abbrev Key := String × String

def keyOf (m : Meter) : Key := (m.space, m.id)

/-- What the tasks of one engine share. -/
structure Engine where
  /-- The records of progress that the registry was given for a meter, the latest first. -/
  history : Key → List Progress
  claims : List Key
  tasks : List Task

namespace Engine

def stored (σ : Engine) (k : Key) : Option Progress := (σ.history k).head?

def progress (σ : Engine) (k : Key) : Progress := (σ.stored k).getD .initial

/-- How a request may be answered, and what is shared afterwards. -/
inductive Answers (σ : Engine) : (r : BackfillRequest) → r.Answer → Engine → Prop where
  | granted {space id : String} (free : (space, id) ∉ σ.claims) :
      Answers σ (.claim space id) true { σ with claims := (space, id) :: σ.claims }
  | busy {space id : String} (taken : (space, id) ∈ σ.claims) :
      Answers σ (.claim space id) false σ
  | released {space id : String} :
      Answers σ (.release space id) ()
        { σ with claims := σ.claims.filter fun c => c ≠ (space, id) }
  | read {space id : String} {m : Meter} (current : m.progress = σ.stored (space, id)) :
      Answers σ (.stored space id) (.ok m) σ
  | unread {space id : String} {e : StoreError} : Answers σ (.stored space id) (.error e) σ
  | surveyed {selection : Selection} {a : Except StoreError (Option Instant)} :
      Answers σ (.earliest selection) a σ
  | copied {i : ChunkImport} {a : Except StoreError Unit} : Answers σ (.copy i) a σ
  | saved {space id : String} {p : Progress} {a : Except StoreError Unit} :
      Answers σ (.save space id p) a
        { σ with history := fun k => if k = (space, id) then p :: σ.history k else σ.history k }
  | unsaved {space id : String} {p : Progress} {e : StoreError} :
      Answers σ (.save space id p) (.error e) σ

/-- A new task begins, or one of the tasks gets an answer and goes on to its next request. -/
inductive Next (s : BackfillSettings) (σ : Engine) : Engine → Prop where
  | step (m : Meter) (budget : Nat) (now : Instant) :
      Next s σ { σ with tasks := σ.tasks ++ [⟨m, now, .outside, step s m budget now⟩] }
  | run (m : Meter) (budget : Nat) (now : Instant) :
      Next s σ { σ with tasks := σ.tasks ++ [⟨m, now, .outside, run s m budget now⟩] }
  | answer {i : Nat} {t : Task} {r : BackfillRequest}
      {next : r.Answer → Backfilling (Meter × Except Error StepOutcome)} {a : r.Answer}
      {σ' : Engine} (found : σ.tasks[i]? = some t) (asks : t.rest = .ask r next)
      (answers : Answers σ r a σ') :
      Next s σ { σ' with tasks := σ.tasks.set i ⟨t.meter, t.now, t.standing.after r a, next a⟩ }

/-- Runs of any length. -/
def Reaches (s : BackfillSettings) : Engine → Engine → Prop := Relation.ReflTransGen (Next s)

/-- No task has begun. -/
structure Idle (σ : Engine) : Prop where
  claims : σ.claims = []
  tasks : σ.tasks = []

end Engine

/-- The task works on a meter and has its claim. -/
def Task.Holds (t : Task) (k : Key) : Prop := keyOf t.meter = k ∧ t.standing ≠ .outside

/-- Later records are ahead of earlier ones and keep what these have settled. -/
structure Climbs (history : List Progress) : Prop where
  wellFormed : ∀ p ∈ history, p.WellFormed
  behind : (history ++ [Progress.initial]).IsChain fun later earlier => earlier.isBehind later = true
  keeps : history.Pairwise fun later earlier => earlier.Keeps later

theorem Climbs.nil : Climbs [] where
  wellFormed := by simp
  behind := by simp
  keeps := .nil

theorem Climbs.wellFormed_head {history : List Progress} (h : Climbs history) :
    (history.head?.getD Progress.initial).WellFormed := by
  cases history with
  | nil => exact Progress.wellFormed_initial
  | cons p rest => exact h.wellFormed p List.mem_cons_self

theorem Climbs.keeps_head {history : List Progress} (h : Climbs history) :
    ∀ p ∈ history, p.Keeps (history.head?.getD Progress.initial) := by
  cases history with
  | nil => simp
  | cons q rest =>
    intro p hp
    rcases List.mem_cons.1 hp with rfl | hp
    · exact ⟨fun _ => id, fun _ => id, fun _ => rfl⟩
    · exact (List.pairwise_cons.1 h.keeps).1 p hp

theorem Climbs.cons {history : List Progress} (h : Climbs history) {st : Standing} {q : Progress}
    (may : MayStore s now st q) (told : st.told? = some (history.head?.getD Progress.initial)) :
    Climbs (q :: history) where
  wellFormed := by
    intro p hp
    rcases List.mem_cons.1 hp with rfl | hp
    · exact may.wellFormed told h.wellFormed_head
    · exact h.wellFormed p hp
  behind := by
    have behind := may.isBehind told
    cases history with
    | nil => simpa using behind
    | cons p rest => exact List.isChain_cons_cons.2 ⟨behind, h.behind⟩
  keeps := List.pairwise_cons.2
    ⟨fun p hp => (h.keeps_head p hp).trans (may.keeps told), h.keeps⟩

/-- What holds between any two requests for one of the meters. -/
structure Engine.Sound (s : BackfillSettings) (k : Key) (σ : Engine) : Prop where
  orderly : ∀ t ∈ σ.tasks, Orderly s t.meter t.now (EndsOutside t.meter) t.standing t.rest
  claimed : ∀ t ∈ σ.tasks, t.Holds k → k ∈ σ.claims
  alone : ∀ (i j : Nat) (t u : Task), σ.tasks[i]? = some t → σ.tasks[j]? = some u →
    t.Holds k → u.Holds k → i = j
  told : ∀ t ∈ σ.tasks, t.Holds k → ∀ p, t.standing.told? = some p → p = σ.progress k
  climbs : Climbs (σ.history k)

namespace Engine

variable {k : Key} {σ : Engine}

theorem Idle.sound (h : σ.Idle) (fresh : σ.history k = []) : σ.Sound s k where
  orderly := by simp [h.tasks]
  claimed := by simp [h.tasks]
  alone := by simp [h.tasks]
  told := by simp [h.tasks]
  climbs := fresh ▸ Climbs.nil

theorem not_holds_outside {m : Meter} {now : Instant}
    {rest : Backfilling (Meter × Except Error StepOutcome)} :
    ¬ (⟨m, now, .outside, rest⟩ : Task).Holds k :=
  fun h => h.2 rfl

theorem Sound.begin (h : σ.Sound s k) {m : Meter} {now : Instant}
    {rest : Backfilling (Meter × Except Error StepOutcome)}
    (orderly : Orderly s m now (EndsOutside m) .outside rest) :
    Sound s k { σ with tasks := σ.tasks ++ [⟨m, now, .outside, rest⟩] } := by
  have old : ∀ t ∈ σ.tasks ++ [⟨m, now, .outside, rest⟩], t.Holds k → t ∈ σ.tasks := by
    intro t ht holds
    rcases List.mem_append.1 ht with ht | ht
    · exact ht
    · rw [List.mem_singleton.1 ht] at holds
      exact absurd holds not_holds_outside
  have oldAt : ∀ (i : Nat) (t : Task),
      (σ.tasks ++ [(⟨m, now, .outside, rest⟩ : Task)])[i]? = some t → t.Holds k →
        σ.tasks[i]? = some t := by
    intro i t hi holds
    rw [List.getElem?_append] at hi
    split at hi
    · exact hi
    · have ht := List.mem_singleton.1 (List.mem_of_getElem? hi)
      rw [ht] at holds
      exact absurd holds not_holds_outside
  refine ⟨?_, ?_, ?_, ?_, h.climbs⟩
  · intro t ht
    rcases List.mem_append.1 ht with ht | ht
    · exact h.orderly t ht
    · rw [List.mem_singleton.1 ht]
      exact orderly
  · exact fun t ht holds => h.claimed t (old t ht holds) holds
  · exact fun i j t u hi hj ht hu => h.alone i j t u (oldAt i t hi ht) (oldAt j u hj hu) ht hu
  · exact fun t ht holds => h.told t (old t ht holds) holds

theorem Answers.elsewhere {m : Meter} {st : Standing} {r : BackfillRequest} {a : r.Answer}
    {σ' : Engine} (may : MayAsk s m now st r) (answers : Answers σ r a σ') (other : keyOf m ≠ k) :
    (k ∈ σ.claims → k ∈ σ'.claims) ∧ σ'.history k = σ.history k := by
  have ne : k ≠ (m.space, m.id) := fun h => other h.symm
  cases may with
  | claim =>
    cases answers with
    | granted free => exact ⟨List.mem_cons_of_mem _, rfl⟩
    | busy taken => exact ⟨id, rfl⟩
  | release inside =>
    cases answers
    exact ⟨fun h => List.mem_filter.2 ⟨h, by simpa using ne⟩, rfl⟩
  | read => cases answers <;> exact ⟨id, rfl⟩
  | survey =>
    cases answers
    exact ⟨id, rfl⟩
  | copy =>
    cases answers
    exact ⟨id, rfl⟩
  | save may =>
    cases answers with
    | saved => exact ⟨id, if_neg ne⟩
    | unsaved => exact ⟨id, rfl⟩

theorem getElem?_set_cases {tasks : List Task} {i j : Nat} {u v : Task}
    (h : (tasks.set i u)[j]? = some v) : (j = i ∧ v = u) ∨ (i ≠ j ∧ tasks[j]? = some v) := by
  by_cases hj : i = j
  · subst hj
    have inside := (List.getElem?_eq_some_iff.1 h).1
    rw [List.length_set] at inside
    rw [List.getElem?_set_self inside] at h
    exact .inl ⟨rfl, (Option.some.inj h).symm⟩
  · rw [List.getElem?_set_ne hj] at h
    exact .inr ⟨hj, h⟩

theorem mem_set_cases {tasks : List Task} {i : Nat} {u v : Task} (h : v ∈ tasks.set i u) :
    v = u ∨ ∃ j : Nat, i ≠ j ∧ tasks[j]? = some v := by
  obtain ⟨j, hj⟩ := List.getElem?_of_mem h
  rcases getElem?_set_cases hj with ⟨-, rfl⟩ | ⟨ne, hj⟩
  · exact .inl rfl
  · exact .inr ⟨j, ne, hj⟩

/-- A task goes on, and no other task notices. -/
theorem Sound.resume (h : σ.Sound s k) {i : Nat} {u : Task} {σ' : Engine}
    (orderly : Orderly s u.meter u.now (EndsOutside u.meter) u.standing u.rest)
    (others : ∀ (j : Nat) (v : Task), σ.tasks[j]? = some v → i ≠ j → v.Holds k →
      k ∈ σ'.claims ∧ σ'.history k = σ.history k ∧ ¬ u.Holds k)
    (own : u.Holds k → k ∈ σ'.claims ∧ ∀ p, u.standing.told? = some p → p = σ'.progress k)
    (climbs : Climbs (σ'.history k)) : Sound s k { σ' with tasks := σ.tasks.set i u } := by
  refine ⟨?_, ?_, ?_, ?_, climbs⟩
  · intro v hv
    rcases mem_set_cases hv with rfl | ⟨j, -, hj⟩
    · exact orderly
    · exact h.orderly v (List.mem_of_getElem? hj)
  · intro v hv holds
    rcases mem_set_cases hv with rfl | ⟨j, ne, hj⟩
    · exact (own holds).1
    · exact (others j v hj ne holds).1
  · intro j l v w hv hw holdsV holdsW
    rcases getElem?_set_cases hv with ⟨rfl, rfl⟩ | ⟨ne, oldV⟩
    · rcases getElem?_set_cases hw with ⟨rfl, -⟩ | ⟨ne, oldW⟩
      · rfl
      · exact absurd holdsV (others l w oldW ne holdsW).2.2
    · rcases getElem?_set_cases hw with ⟨rfl, rfl⟩ | ⟨-, oldW⟩
      · exact absurd holdsW (others j v oldV ne holdsV).2.2
      · exact h.alone j l v w oldV oldW holdsV holdsW
  · intro v hv holds p told
    rcases mem_set_cases hv with rfl | ⟨j, ne, hj⟩
    · exact (own holds).2 p told
    · have same := h.told v (List.mem_of_getElem? hj) holds p told
      rw [same]
      simp only [progress, stored, (others j v hj ne holds).2.1]

/-- The task that has the claim is told the truth, and stores what follows from it. -/
theorem Answers.inside {m : Meter} {st : Standing} {r : BackfillRequest} {a : r.Answer}
    {σ' : Engine} (may : MayAsk s m now st r) (answers : Answers σ r a σ') (hk : keyOf m = k)
    (inside : st ≠ .outside) (claimed : k ∈ σ.claims) (climbs : Climbs (σ.history k))
    (told : ∀ p, st.told? = some p → p = σ.progress k) :
    (st.after r a ≠ .outside → k ∈ σ'.claims ∧
      ∀ p, (st.after r a).told? = some p → p = σ'.progress k) ∧ Climbs (σ'.history k) := by
  subst hk
  cases may with
  | claim => exact absurd rfl inside
  | release =>
    cases answers
    exact ⟨fun h => absurd rfl h, climbs⟩
  | read =>
    cases answers with
    | read current =>
      refine ⟨fun _ => ⟨claimed, fun p hp => ?_⟩, climbs⟩
      cases hp
      rw [current]
      rfl
    | unread => exact ⟨fun _ => ⟨claimed, told⟩, climbs⟩
  | survey =>
    cases answers with
    | surveyed =>
      cases a with
      | error e => exact ⟨fun _ => ⟨claimed, told⟩, climbs⟩
      | ok found => exact ⟨fun _ => ⟨claimed, told⟩, climbs⟩
  | copy =>
    cases answers with
    | copied =>
      cases a with
      | error e => exact ⟨fun _ => ⟨claimed, told⟩, climbs⟩
      | ok u => exact ⟨fun _ => ⟨claimed, told⟩, climbs⟩
  | save store =>
    rename_i q
    cases answers with
    | saved =>
      obtain ⟨p, hp⟩ := store.told
      have grown : Climbs (q :: σ.history (keyOf m)) :=
        climbs.cons store (hp.trans (congrArg some (told p hp)))
      refine ⟨fun _ => ⟨claimed, ?_⟩, by simpa [keyOf] using grown⟩
      cases a with
      | error e => simp [Standing.after, Standing.told?]
      | ok u =>
        intro p hp
        cases hp
        simp [progress, stored, keyOf]
    | unsaved => exact ⟨fun _ => ⟨claimed, by simp [Standing.after, Standing.told?]⟩, climbs⟩

theorem Sound.answer (h : σ.Sound s k) {i : Nat} {t : Task} {r : BackfillRequest}
    {next : r.Answer → Backfilling (Meter × Except Error StepOutcome)} {a : r.Answer}
    {σ' : Engine} (found : σ.tasks[i]? = some t) (asks : t.rest = .ask r next)
    (answers : Answers σ r a σ') :
    Sound s k { σ' with tasks := σ.tasks.set i ⟨t.meter, t.now, t.standing.after r a, next a⟩ } := by
  have mem := List.mem_of_getElem? found
  obtain ⟨may, goesOn⟩ : Orderly s t.meter t.now (EndsOutside t.meter) t.standing (.ask r next) :=
    asks ▸ h.orderly t mem
  by_cases hk : keyOf t.meter = k
  · by_cases inside : t.standing = .outside
    · -- Only the claim can be asked for, and it is granted only if no task holds it.
      rw [inside] at may
      cases may with
      | release ne => exact absurd rfl ne
      | save store => exact absurd store.told (by simp [Standing.told?])
      | claim =>
      subst hk
      cases answers with
      | busy taken =>
        refine h.resume (goesOn false) ?_ ?_ h.climbs
        · intro j v hv ne other
          exact ⟨taken, rfl, fun holds => holds.2 (by simpa [Standing.after] using inside)⟩
        · exact fun holds => absurd inside (by simpa [Standing.after] using holds.2)
      | granted free =>
        refine h.resume (goesOn true) ?_ ?_ h.climbs
        · intro j v hv ne other
          exact absurd (h.claimed v (List.mem_of_getElem? hv) other) free
        · exact fun holds => ⟨List.mem_cons_self, by simp [Standing.after, Standing.told?]⟩
    · have holds : t.Holds k := ⟨hk, inside⟩
      obtain ⟨own, climbs⟩ :=
        answers.inside may hk inside (h.claimed t mem holds) h.climbs (h.told t mem holds)
      refine h.resume (goesOn a) ?_ (fun after => own after.2) climbs
      intro j v hv ne other
      exact absurd (h.alone i j t v found hv holds other) ne
  · obtain ⟨claims, history⟩ := answers.elsewhere may hk
    refine h.resume (goesOn a) ?_ (fun holds => absurd holds.1 hk) (history ▸ h.climbs)
    intro j v hv ne other
    exact ⟨claims (h.claimed v (List.mem_of_getElem? hv) other), history, fun holds => hk holds.1⟩

theorem Sound.next (h : σ.Sound s k) {σ' : Engine} (next : Next s σ σ') : σ'.Sound s k := by
  cases next with
  | step m budget now => exact h.begin (step_orderly (.refl m) budget)
  | run m budget now => exact h.begin (run_orderly (.refl m) budget)
  | answer found asks answers => exact h.answer found asks answers

theorem Sound.reaches (h : σ.Sound s k) {σ' : Engine} (reaches : Reaches s σ σ') :
    σ'.Sound s k := by
  induction reaches with
  | refl => exact h
  | tail _ next ih => exact ih.next next

/-- Whatever the tasks do, the registry is given only well-formed records, each ahead of the last. -/
theorem climbs_of_reaches {σ₀ : Engine} (idle : σ₀.Idle) (fresh : σ₀.history k = [])
    (reaches : Reaches s σ₀ σ) : Climbs (σ.history k) :=
  ((idle.sound fresh).reaches reaches).climbs

/-- An engine without any task, and a registry without any progress. -/
def unused : Engine := ⟨fun _ => [], [], []⟩

def requestCount : Meter where
  space := "shop"
  id := "requests"
  slug := "requests"
  aggregation := .count
  eventType := "request"
  valuePath := none
  dimensions := .empty
  since := none
  progress := none

/-- The first step of a meter, up to the answer to its save. -/
theorem climbs_after_first_step : ∃ σ, Reaches .default unused σ ∧
    σ.history ("shop", "requests") = [⟨some ⟨60000000000⟩, none, [], false⟩] ∧
    Climbs (σ.history ("shop", "requests")) := by
  have reaches := ((((Relation.ReflTransGen.refl (r := Next .default) (a := unused)).tail
    (.step requestCount 1 ⟨0⟩)).tail
    (.answer (i := 0) rfl rfl (.granted (List.not_mem_nil)))).tail
    (.answer (i := 0) rfl rfl (.read (m := requestCount) rfl))).tail
    (.answer (i := 0) rfl rfl (.saved (a := .ok ())))
  exact ⟨_, reaches, rfl, climbs_of_reaches ⟨rfl, rfl⟩ rfl reaches⟩

end Engine

end Backfill

end Metering
