import Mathlib.Algebra.Ring.Nat
import Metering.Proofs.Backfill.Visit

/-!
What a pass over the meters leaves. A meter is stepped on its own shelf of the registry and on no other, so
a pass is made up of visits that could each have been made alone (`tick_accounts`). A visit that ends well
is counted and shows in the snapshot. One that fails after it has stored something is not counted, and
leaves the snapshot behind (`tick_uncounted`).
-/
namespace Metering

namespace Backfill

open Program (Executes)
open Progress (lags lags_self)

/-- The requests of a step of the meter with a key. -/
def AboutKey (k : Key) : BackfillRequest → Prop
  | .claim space id | .release space id | .stored space id | .save space id _ => (space, id) = k
  | .earliest _ | .copy _ => True

/-- The shelves of the registry and the snapshot of it. -/
structure Ledger where
  shelves : Key → Shelf
  snapshot : Snapshot

/-- How a request of a pass may be answered when nothing else writes. -/
inductive Ledger.Answers (σ : Ledger) : (r : TickRequest) → r.Answer → Ledger → Prop where
  | held : Answers σ (.meters .snapshot) σ.snapshot σ
  | applied {space id : String} {p : Progress} :
      Answers σ (.meters (.apply space id p)) () { σ with snapshot := σ.snapshot.setProgress space id p }
  | answered {r : BackfillRequest} {a : r.Answer} {k : Key} {b : Shelf} (about : AboutKey k r)
      (answers : (σ.shelves k).Answers r a b) :
      Answers σ (.backfill r) a { σ with shelves := Function.update σ.shelves k b }

/-- The snapshot after the progress of a visit was applied to it. -/
def Visit.publish (v : Visit) (snapshot : Snapshot) : Snapshot :=
  match v.cached with
  | some p => if v.cached = v.meter.progress then snapshot
      else snapshot.setProgress v.meter.space v.meter.id p
  | none => snapshot

/-- What a visit leaves. -/
def Ledger.visited (σ : Ledger) (v : Visit) : Ledger where
  shelves := Function.update σ.shelves v.key v.shelf
  snapshot := v.publish σ.snapshot

variable {s : BackfillSettings} {m : Meter} {now : Instant} {stepsPerTick : Nat}

theorem MayAsk.aboutKey {st : Standing} {r : BackfillRequest} (h : MayAsk s m now st r) :
    AboutKey (keyOf m) r := by
  cases h <;> first | rfl | trivial

theorem Orderly.everyRequest {α : Type} {ends : Standing → α → Prop} {st : Standing}
    {p : Backfilling α} (h : Orderly s m now ends st p) : p.EveryRequest (AboutKey (keyOf m)) := by
  induction p generalizing st with
  | done a => trivial
  | ask r next ih => exact ⟨h.1.aboutKey, fun a => ih a (h.2 a)⟩

/-- A request that is about two meters has the same answers on every shelf, and leaves them all. -/
theorem AboutKey.eq_or {k k' : Key} {r : BackfillRequest} (about : AboutKey k r)
    (about' : AboutKey k' r) : k' = k ∨
      ∀ {b b' : Shelf} {a : r.Answer}, b.Answers r a b' → b' = b ∧ ∀ c : Shelf, c.Answers r a c := by
  cases r with
  | claim | release | stored | save => exact .inl (about'.symm.trans about)
  | earliest =>
    refine .inr fun answers => ?_
    cases answers
    exact ⟨rfl, fun _ => .surveyed⟩
  | copy =>
    refine .inr fun answers => ?_
    cases answers
    exact ⟨rfl, fun _ => .copied⟩

/-- A request about a meter is answered from its shelf, and leaves the other shelves. -/
theorem Ledger.answers_iff {σ σ' : Ledger} {k : Key} {r : BackfillRequest} {a : r.Answer}
    (about : AboutKey k r) : Ledger.Answers σ (.backfill r) a σ' ↔
      ∃ b, (σ.shelves k).Answers r a b ∧ σ' = { σ with shelves := Function.update σ.shelves k b } := by
  constructor
  · intro answers
    cases answers with
    | answered about' answers =>
      rcases about.eq_or about' with rfl | anywhere
      · exact ⟨_, answers, rfl⟩
      · obtain ⟨rfl, answered⟩ := anywhere answers
        refine ⟨_, answered _, ?_⟩
        rw [Function.update_eq_self, Function.update_eq_self]
  · rintro ⟨b, answers, rfl⟩
    exact .answered about answers

/-- A program that is about one meter runs on its shelf. -/
theorem executes_on_shelf {α : Type} {k : Key} {p : Backfilling α} (about : p.EveryRequest (AboutKey k))
    {σ σ' : Ledger} {a : α} :
    Executes (fun σ r => Ledger.Answers σ (.backfill r)) σ p σ' a ↔
      ∃ b, Executes Shelf.Answers (σ.shelves k) p b a ∧
        σ' = { σ with shelves := Function.update σ.shelves k b } := by
  induction p generalizing σ with
  | done c =>
    constructor
    · intro ran
      cases ran
      exact ⟨_, .done, by rw [Function.update_eq_self]⟩
    · rintro ⟨b, ran, rfl⟩
      cases ran
      rw [Function.update_eq_self]
      exact .done
  | ask r next ih =>
    constructor
    · intro ran
      cases ran with
      | ask answered rest =>
        obtain ⟨b, answers, rfl⟩ := (Ledger.answers_iff about.1).1 answered
        obtain ⟨b', ran, rfl⟩ := (ih _ (about.2 _)).1 rest
        simp only [Function.update_self, Function.update_idem] at ran ⊢
        exact ⟨b', .ask answers ran, rfl⟩
    · rintro ⟨b', ran, rfl⟩
      cases ran with
      | @ask _ b _ _ _ c _ answers rest =>
        refine .ask ((Ledger.answers_iff about.1).2 ⟨b, answers, rfl⟩) ((ih c (about.2 c)).2 ⟨b', ?_, ?_⟩)
        · simpa only [Function.update_self] using rest
        · simp only [Function.update_idem]

theorem executes_publish {v : Visit} (same : SameDefinition v.meter v.result.1) {σ σ' : Ledger} :
    Executes Ledger.Answers σ (publish v.meter.progress v.result) σ' () ↔
      σ' = { σ with snapshot := v.publish σ.snapshot } := by
  have nothing (is : publish v.meter.progress v.result = .done ())
      (kept : v.publish σ.snapshot = σ.snapshot) :
      Executes Ledger.Answers σ (publish v.meter.progress v.result) σ' () ↔
        σ' = { σ with snapshot := v.publish σ.snapshot } := by
    rw [is, kept]
    constructor
    · intro ran
      cases ran
      rfl
    · rintro rfl
      exact .done
  have kept (is : v.cached = v.meter.progress) : v.publish σ.snapshot = σ.snapshot := by
    unfold Visit.publish
    split
    · rw [if_pos is]
    · rfl
  obtain ⟨m, ⟨n, result⟩, shelf⟩ := v
  obtain ⟨p, is⟩ : SameDefinition m n := same
  subst is
  cases result with
  | error e => exact nothing rfl (kept rfl)
  | ok outcome =>
    cases p with
    | none => exact nothing rfl (kept rfl)
    | some p =>
      by_cases unchanged : some p = m.progress
      · exact nothing (if_pos unchanged) (kept unchanged)
      · have asks : publish m.progress ({ m with progress := some p }, .ok outcome) =
            .ask (.meters (.apply m.space m.id p)) .done := if_neg unchanged
        have shown : Visit.publish ⟨m, ({ m with progress := some p }, .ok outcome), shelf⟩ σ.snapshot =
            σ.snapshot.setProgress m.space m.id p := if_neg unchanged
        rw [asks, shown]
        constructor
        · intro ran
          cases ran with
          | ask answered rest =>
            cases answered
            cases rest
            rfl
        · rintro rfl
          exact .ask .applied .done

/-- A pass visits its first meter alone, and goes on with what the visit left. -/
theorem executes_visit {α : Type} {rest : Meter × Except Error StepOutcome → Ticking α}
    {σ σ' : Ledger} {a : α} :
    Executes Ledger.Answers σ (((run s m stepsPerTick now).via fun r => .ask (.backfill r) .done).bind
        fun result => (publish m.progress result).bind fun _ => rest result) σ' a ↔
      ∃ v : Visit, v.meter = m ∧ v.Alone s stepsPerTick now σ.shelves ∧
        Executes Ledger.Answers (σ.visited v) (rest v.result) σ' a := by
  have about : (run s m stepsPerTick now).EveryRequest (AboutKey (keyOf m)) :=
    (run_orderly (.refl m) stepsPerTick).everyRequest
  rw [Program.executes_bind]
  constructor
  · rintro ⟨τ, result, ran, after⟩
    obtain ⟨b, alone, rfl⟩ := (executes_on_shelf about).1 (Program.executes_via.1 ran)
    let v : Visit := ⟨m, result, b⟩
    have visit : v.Alone s stepsPerTick now σ.shelves := alone
    obtain ⟨τ', _, published, after⟩ := Program.executes_bind.1 after
    obtain rfl := (executes_publish (v := v) visit.known.1).1 published
    exact ⟨v, rfl, visit, after⟩
  · rintro ⟨v, rfl, visit, after⟩
    refine ⟨{ σ with shelves := Function.update σ.shelves v.key v.shelf }, v.result, ?_, ?_⟩
    · exact Program.executes_via.2 ((executes_on_shelf about).2 ⟨v.shelf, visit, rfl⟩)
    · exact Program.executes_bind.2 ⟨_, (), (executes_publish visit.known.1).2 rfl, after⟩

/-- Visits leave the shelves of other meters. -/
theorem shelves_visits (σ : Ledger) {k : Key} {visits : List Visit}
    (elsewhere : k ∉ visits.map Visit.key) :
    (visits.foldl Ledger.visited σ).shelves k = σ.shelves k := by
  induction visits generalizing σ with
  | nil => rfl
  | cons v visits ih =>
    rw [List.map_cons, List.mem_cons, not_or] at elsewhere
    rw [List.foldl_cons, ih (σ.visited v) elsewhere.2]
    exact Function.update_of_ne elsewhere.1 _ _

theorem shelf_of_visit (σ : Ledger) {visits : List Visit} (once : (visits.map Visit.key).Nodup)
    {v : Visit} (mem : v ∈ visits) : (visits.foldl Ledger.visited σ).shelves v.key = v.shelf := by
  induction visits generalizing σ with
  | nil => exact absurd mem List.not_mem_nil
  | cons w visits ih =>
    obtain ⟨apart, once⟩ := List.nodup_cons.1 once
    rcases List.mem_cons.1 mem with rfl | mem
    · rw [List.foldl_cons, shelves_visits _ apart]
      exact Function.update_self _ _ _
    · exact ih _ once mem

theorem alone_iff_of_ne {σ : Ledger} {v w : Visit} (other : w.key ≠ v.key) :
    w.Alone s stepsPerTick now (σ.visited v).shelves ↔ w.Alone s stepsPerTick now σ.shelves := by
  have same : (σ.visited v).shelves w.key = σ.shelves w.key := Function.update_of_ne other _ _
  rw [Visit.Alone, Visit.Alone, same]

/-- The summary after some visits. -/
def summed (summary : TickSummary) (visits : List Visit) : TickSummary :=
  (visits.map Visit.result).foldl TickSummary.add summary

theorem executes_tickEach {meters : List Meter} (once : (meters.map keyOf).Nodup) {σ σ' : Ledger}
    {summary summary' : TickSummary} :
    Executes Ledger.Answers σ (tickEach s stepsPerTick now summary meters) σ' summary' ↔
      ∃ visits : List Visit, visits.map Visit.meter = meters ∧
        (∀ v ∈ visits, v.Alone s stepsPerTick now σ.shelves) ∧
        σ' = visits.foldl Ledger.visited σ ∧ summary' = summed summary visits := by
  induction meters generalizing σ summary with
  | nil =>
    constructor
    · intro ran
      cases ran
      exact ⟨[], rfl, by simp, rfl, rfl⟩
    · rintro ⟨visits, none, -, rfl, rfl⟩
      rw [List.map_eq_nil_iff.1 none]
      exact .done
  | cons m meters ih =>
    obtain ⟨apart, once⟩ := List.nodup_cons.1 once
    have other {v w : Visit} {visits : List Visit} (first : v.meter = m)
        (rest : visits.map Visit.meter = meters) (mem : w ∈ visits) : w.key ≠ v.key := by
      intro same
      refine apart ?_
      rw [← first, ← rest, List.map_map]
      exact List.mem_map.2 ⟨w, mem, same⟩
    rw [tickEach, executes_visit]
    constructor
    · rintro ⟨v, first, visit, after⟩
      obtain ⟨visits, rest, alone, rfl, rfl⟩ := (ih once).1 after
      refine ⟨v :: visits, by rw [List.map_cons, first, rest], ?_, rfl, rfl⟩
      intro w mem
      rcases List.mem_cons.1 mem with rfl | mem
      · exact visit
      · exact (alone_iff_of_ne (other first rest mem)).1 (alone w mem)
    · rintro ⟨_ | ⟨v, visits⟩, all, alone, rfl, rfl⟩
      · cases all
      · obtain ⟨first, rest⟩ := List.cons.inj all
        refine ⟨v, first, alone v List.mem_cons_self, (ih once).2 ⟨visits, rest, ?_, rfl, rfl⟩⟩
        intro w mem
        exact (alone_iff_of_ne (other first rest mem)).2 (alone w (List.mem_cons_of_mem v mem))

/-- The meter as the snapshot has it afterwards. -/
def Visit.entry (v : Visit) : Meter := { v.meter with progress := v.cached }

theorem setProgress_middle {before : Snapshot} {m : Meter} (apart : keyOf m ∉ before.map keyOf)
    (after : Snapshot) (p : Progress) :
    Snapshot.setProgress m.space m.id p (before ++ m :: after) =
      before ++ { m with progress := some p } :: after := by
  induction before with
  | nil => exact if_pos (Snapshot.isNamed_iff.2 rfl)
  | cons n before ih =>
    rw [List.map_cons, List.mem_cons, not_or] at apart
    have unnamed : ¬ Snapshot.isNamed m.space m.id n = true :=
      fun named => apart.1 (Snapshot.isNamed_iff.1 named).symm
    rw [List.cons_append, Snapshot.setProgress, if_neg unnamed, ih apart.2]
    rfl

theorem publish_middle {v : Visit} {before : Snapshot} (apart : v.key ∉ before.map keyOf)
    (after : Snapshot) : v.publish (before ++ v.meter :: after) = before ++ v.entry :: after := by
  have kept (same : v.cached = v.meter.progress) : v.entry = v.meter := by
    rw [Visit.entry, same]
  unfold Visit.publish
  split
  · rename_i p shown
    split
    · rename_i same
      rw [kept same]
    · rw [setProgress_middle apart, Visit.entry, shown]
  · rename_i none
    have same : v.cached = v.meter.progress := by
      rw [none]
      cases held : v.meter.progress with
      | none => rfl
      | some p =>
        rw [Visit.cached, held] at none
        split at none
        · exact none.symm
        · cases progress : v.result.1.progress <;> rw [progress] at none <;> cases none
    rw [kept same]

theorem snapshot_visits {σ : Ledger} (before : Snapshot) {visits : List Visit}
    (held : σ.snapshot = before ++ visits.map Visit.meter) (once : (σ.snapshot.map keyOf).Nodup) :
    (visits.foldl Ledger.visited σ).snapshot = before ++ visits.map Visit.entry := by
  induction visits generalizing σ before with
  | nil => exact held
  | cons v visits ih =>
    rw [List.map_cons] at held
    have apart : v.key ∉ before.map keyOf := by
      intro mem
      rw [held, List.map_append, List.map_cons] at once
      exact (List.nodup_append.1 once).2.2 _ mem _ List.mem_cons_self rfl
    have visited : (σ.visited v).snapshot = (before ++ [v.entry]) ++ visits.map Visit.meter := by
      rw [List.append_assoc]
      exact (congrArg v.publish held).trans (publish_middle apart _)
    have keys : (σ.visited v).snapshot.map keyOf = σ.snapshot.map keyOf := by
      rw [visited, held]
      simp [Visit.entry, keyOf]
    rw [List.foldl_cons, ih _ visited (keys.symm ▸ once), List.append_assoc]
    rfl

/-- What a visit adds to the steps of a summary. -/
def Visit.counted (v : Visit) : Nat := if v.failed then 0 else v.shelf.stored.length

theorem steps_summed {shelves : Key → Shelf} {visits : List Visit} (summary : TickSummary)
    (alone : ∀ v ∈ visits, v.Alone s stepsPerTick now shelves)
    (empty : ∀ k, (shelves k).stored = []) :
    (summed summary visits).steps = summary.steps + (visits.map Visit.counted).sum := by
  induction visits generalizing summary with
  | nil => rfl
  | cons v visits ih =>
    have counts := (alone v List.mem_cons_self).counts (empty v.key)
    have added : (summary.add v.result).steps = summary.steps + v.counted := by
      obtain ⟨m, ⟨n, e | outcome⟩, shelf⟩ := v
      · rfl
      · exact congrArg (summary.steps + ·) (counts.2 outcome rfl)
    have rest := ih (summary.add v.result) fun w mem => alone w (List.mem_cons_of_mem v mem)
    rw [List.map_cons, List.sum_cons, ← Nat.add_assoc, ← added]
    exact rest

/-- A pass that is made up of visits, each of which could have been made alone. -/
structure Accounts (s : BackfillSettings) (stepsPerTick : Nat) (now : Instant) (σ σ' : Ledger)
    (summary : TickSummary) (visits : List Visit) : Prop where
  meters : visits.map Visit.meter = σ.snapshot
  alone : ∀ v ∈ visits, v.Alone s stepsPerTick now σ.shelves
  shelves : ∀ v ∈ visits, σ'.shelves v.key = v.shelf
  untouched : ∀ k, k ∉ σ.snapshot.map keyOf → σ'.shelves k = σ.shelves k
  snapshot : σ'.snapshot = visits.map Visit.entry
  summary : summary = summed .empty visits

theorem accounts_visits {σ : Ledger} (once : (σ.snapshot.map keyOf).Nodup) {visits : List Visit}
    (meters : visits.map Visit.meter = σ.snapshot)
    (alone : ∀ v ∈ visits, v.Alone s stepsPerTick now σ.shelves) :
    Accounts s stepsPerTick now σ (visits.foldl Ledger.visited σ) (summed .empty visits) visits := by
  have keys : visits.map Visit.key = σ.snapshot.map keyOf := by
    rw [← meters, List.map_map]
    rfl
  exact ⟨meters, alone, fun v mem => shelf_of_visit σ (keys.symm ▸ once) mem,
    fun k elsewhere => shelves_visits σ (keys.symm ▸ elsewhere), snapshot_visits [] meters.symm once, rfl⟩

/-- The visits tell what there is afterwards. -/
theorem Accounts.unique {σ σ' σ'' : Ledger} {summary summary' : TickSummary} {visits : List Visit}
    (h : Accounts s stepsPerTick now σ σ' summary visits)
    (h' : Accounts s stepsPerTick now σ σ'' summary' visits) : σ' = σ'' ∧ summary = summary' := by
  have shelves : σ'.shelves = σ''.shelves := by
    funext k
    by_cases visited : k ∈ σ.snapshot.map keyOf
    · rw [← h.meters, List.map_map] at visited
      obtain ⟨v, mem, rfl⟩ := List.mem_map.1 visited
      exact (h.shelves v mem).trans (h'.shelves v mem).symm
    · rw [h.untouched k visited, h'.untouched k visited]
  obtain ⟨_, _⟩ := σ'
  obtain ⟨_, _⟩ := σ''
  exact ⟨congr (congrArg Ledger.mk shelves) (h.snapshot.trans h'.snapshot.symm),
    h.summary.trans h'.summary.symm⟩

theorem executes_tick {σ σ' : Ledger} {summary : TickSummary} (once : (σ.snapshot.map keyOf).Nodup) :
    Executes Ledger.Answers σ (tick s stepsPerTick now) σ' summary ↔
      ∃ visits, Accounts s stepsPerTick now σ σ' summary visits := by
  constructor
  · intro ran
    cases ran with
    | ask answered rest =>
      cases answered
      obtain ⟨visits, meters, alone, rfl, rfl⟩ := (executes_tickEach once).1 rest
      exact ⟨visits, accounts_visits once meters alone⟩
  · rintro ⟨visits, accounts⟩
    have visited := accounts_visits once accounts.meters accounts.alone
    obtain ⟨rfl, rfl⟩ := accounts.unique visited
    exact .ask Ledger.Answers.held
      ((executes_tickEach once).2 ⟨visits, accounts.meters, accounts.alone, rfl, rfl⟩)

/-- No meter of the snapshot is behind its record in the registry. -/
def Ledger.Current (σ : Ledger) : Prop :=
  ∀ m ∈ σ.snapshot, ∀ n, (σ.shelves (keyOf m)).record = some n → lags m.progress n.progress = false

/--
A pass over any meters, however its requests are answered. What it comes to is what the runs of its meters
come to when each is made alone, so a failure makes no difference to the other meters. No meter has more
transitions stored than it may, and those of runs that end well are counted. Where no run fails after it
has stored something, all of them are counted, and no meter of the snapshot falls behind the registry.
-/
theorem tick_accounts (s : BackfillSettings) (stepsPerTick : Nat) (now : Instant) {σ : Ledger}
    (once : (σ.snapshot.map keyOf).Nodup) (empty : ∀ k, (σ.shelves k).stored = []) (σ' : Ledger)
    (summary : TickSummary) :
    (Executes Ledger.Answers σ (tick s stepsPerTick now) σ' summary ↔
      ∃ visits, Accounts s stepsPerTick now σ σ' summary visits) ∧
    ∀ visits, Accounts s stepsPerTick now σ σ' summary visits →
      (∀ k, (σ'.shelves k).stored.length ≤ stepsPerTick) ∧
      summary.steps = (visits.map Visit.counted).sum ∧
      (∀ v ∈ visits, ∀ n, (σ'.shelves v.key).record = some n → lags v.cached n.progress = true →
        v.failed = true ∧ v.shelf.stored ≠ [] ∨ (v.failed = true ∨ v.result.1 = v.meter) ∧
          ∃ n, (σ.shelves v.key).record = some n ∧ lags v.meter.progress n.progress = true) ∧
      ((∀ v ∈ visits, v.failed = true → v.shelf.stored = []) →
        summary.steps = (σ.snapshot.map fun m => (σ'.shelves (keyOf m)).stored.length).sum ∧
          (σ.Current → σ'.Current)) := by
  refine ⟨executes_tick once, fun visits accounts => ?_⟩
  have steps : summary.steps = (visits.map Visit.counted).sum := by
    rw [accounts.summary, steps_summed _ accounts.alone empty]
    exact Nat.zero_add _
  have behind : ∀ v ∈ visits, ∀ n, (σ'.shelves v.key).record = some n →
      lags v.cached n.progress = true →
        v.failed = true ∧ v.shelf.stored ≠ [] ∨ (v.failed = true ∨ v.result.1 = v.meter) ∧
          ∃ n, (σ.shelves v.key).record = some n ∧ lags v.meter.progress n.progress = true := by
    intro v mem n held
    rw [accounts.shelves v mem] at held
    exact (accounts.alone v mem).behind (empty v.key) held
  refine ⟨fun k => ?_, steps, behind, fun clean => ⟨?_, fun current m mem n held => ?_⟩⟩
  · by_cases visited : k ∈ σ.snapshot.map keyOf
    · rw [← accounts.meters, List.map_map] at visited
      obtain ⟨v, mem, rfl⟩ := List.mem_map.1 visited
      show (σ'.shelves v.key).stored.length ≤ stepsPerTick
      rw [accounts.shelves v mem]
      exact ((accounts.alone v mem).counts (empty v.key)).1
    · rw [accounts.untouched k visited, empty]
      exact Nat.zero_le _
  · rw [steps, ← accounts.meters, List.map_map]
    refine congrArg List.sum (List.map_congr_left fun v mem => ?_)
    show v.counted = (σ'.shelves v.key).stored.length
    rw [accounts.shelves v mem, Visit.counted]
    split
    · rename_i failed
      rw [clean v mem failed]
      rfl
    · rfl
  · rw [accounts.snapshot] at mem
    obtain ⟨v, visited, rfl⟩ := List.mem_map.1 mem
    rw [← Bool.not_eq_true]
    intro lagging
    rcases behind v visited n held lagging with ⟨failed, some⟩ | ⟨-, n, before, lagged⟩
    · exact some (clean v visited failed)
    · have among : v.meter ∈ σ.snapshot := accounts.meters ▸ List.mem_map_of_mem visited
      rw [current v.meter among n before] at lagged
      cases lagged

/-- A registry of some meters, all of them in the snapshot as they are. -/
def Ledger.fresh (meters : List Meter) : Ledger where
  shelves k := ⟨meters.find? fun m => keyOf m = k, []⟩
  snapshot := meters

theorem Ledger.current_fresh {meters : List Meter} (once : (meters.map keyOf).Nodup) :
    (Ledger.fresh meters).Current := by
  intro m mem n held
  have found : meters.find? (fun n => keyOf n = keyOf m) = some n := held
  have same : keyOf n = keyOf m := by simpa using List.find?_some found
  rw [Snapshot.eq_of_keyOf once mem (List.mem_of_find?_eq_some found) same]
  exact lags_self _

/-- A second meter of the shop. -/
def visitCount : Meter := { Engine.requestCount with id := "visits", slug := "visits" }

/-- One meter cannot be read; the other fixes its cutover. -/
theorem tick_accounts_unread : ∃ σ' summary,
    Executes Ledger.Answers (.fresh [Engine.requestCount, visitCount]) (tick .default 1 .epoch) σ' summary ∧
    summary.failed = 1 ∧ summary.steps = 1 ∧
    (σ'.shelves (keyOf visitCount)).stored = [afterFirstStep] ∧ σ'.Current := by
  let σ : Ledger := .fresh [Engine.requestCount, visitCount]
  let unread : Visit := ⟨Engine.requestCount, (Engine.requestCount, .error (.store .io)),
    ⟨some Engine.requestCount, []⟩⟩
  let fixed : Meter := { visitCount with progress := some afterFirstStep }
  let moved : Visit := ⟨visitCount, (fixed, .ok ⟨1, false, .outOfBudget⟩), ⟨some fixed, [afterFirstStep]⟩⟩
  have once : (σ.snapshot.map keyOf).Nodup := by decide
  have alone : ∀ v ∈ [unread, moved], v.Alone .default 1 .epoch σ.shelves := by
    intro v mem
    rcases List.mem_cons.1 mem with rfl | mem
    · exact .ask (.claimed (a := true)) (.ask .unread (.ask .released .done))
    · rw [List.mem_singleton.1 mem]
      exact .ask (.claimed (a := true)) (.ask (.read fun n held => Option.some.inj held)
        (.ask (.saved (a := .ok ()) rfl) (.ask .released .done)))
  have meters : [unread, moved].map Visit.meter = σ.snapshot := rfl
  have accounts := accounts_visits once meters alone
  obtain ⟨executes, told⟩ := tick_accounts .default 1 .epoch once (fun _ => rfl)
    ([unread, moved].foldl Ledger.visited σ) (summed .empty [unread, moved])
  obtain ⟨-, -, -, clean⟩ := told _ accounts
  have unfailed : ∀ v ∈ [unread, moved], v.failed = true → v.shelf.stored = [] := by
    intro v mem failed
    rcases List.mem_cons.1 mem with rfl | mem
    · rfl
    · rw [List.mem_singleton.1 mem] at failed
      cases failed
  refine ⟨_, _, executes.2 ⟨_, accounts⟩, rfl, rfl, ?_, (clean unfailed).2 (Ledger.current_fresh once)⟩
  rw [show keyOf visitCount = moved.key from rfl, accounts.shelves moved (by simp)]

/-- The meter fixes its cutover and then fails to look for its first event. The cutover is stored, but it is
not counted, and the snapshot is behind it. -/
theorem tick_uncounted : ∃ σ' summary,
    Executes Ledger.Answers (.fresh [Engine.requestCount]) (tick .default 2 .epoch) σ' summary ∧
    Ledger.Current (.fresh [Engine.requestCount]) ∧ summary.steps = 0 ∧
    (σ'.shelves (keyOf Engine.requestCount)).stored = [afterFirstStep] ∧
    σ'.snapshot = [Engine.requestCount] ∧ ¬ σ'.Current := by
  let σ : Ledger := .fresh [Engine.requestCount]
  let fixed : Meter := { Engine.requestCount with progress := some afterFirstStep }
  let failed : Visit := ⟨Engine.requestCount, (fixed, .error (.store .io)), ⟨some fixed, [afterFirstStep]⟩⟩
  have once : (σ.snapshot.map keyOf).Nodup := by decide
  have alone : failed.Alone .default 2 .epoch σ.shelves :=
    .ask (.claimed (a := true)) (.ask (.read fun n held => Option.some.inj held)
      (.ask (.saved (a := .ok ()) rfl) (.ask .released
        (.ask (.claimed (a := true)) (.ask (.read fun n held => Option.some.inj held)
          (.ask (.surveyed (a := .error .io)) (.ask .released .done)))))))
  have meters : [failed].map Visit.meter = σ.snapshot := rfl
  have accounts := accounts_visits once meters (List.forall_mem_singleton.2 alone)
  have stored := accounts.shelves failed List.mem_cons_self
  refine ⟨_, _, (executes_tick once).2 ⟨_, accounts⟩, Ledger.current_fresh once, rfl, ?_, rfl, ?_⟩
  · exact congrArg Shelf.stored stored
  · intro current
    have lagging := current Engine.requestCount List.mem_cons_self fixed (congrArg Shelf.record stored)
    exact absurd lagging (by decide)

end Backfill

end Metering
