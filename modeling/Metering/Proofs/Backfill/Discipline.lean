import Metering.Backfill.Step

/-!
The discipline of a step. A step asks for the claim before anything else, reads the stored progress
once it has the claim, and stores only progress that follows from what it has been told since. When it
ends it holds no claim. `step_orderly` and `run_orderly` say so for every answer that the registry, the
database and the other steps may give.
-/
namespace Metering

namespace Backfill

/-- What a step has been told since it holds the claim of its meter. -/
inductive Standing where
  | outside
  | claimed
  | knows (p : Progress)
  | surveyed (p : Progress) (found : Option Instant)
  | copied (p : Progress)

namespace Standing

/-- The progress that the registry is known to hold. -/
def told? : Standing → Option Progress
  | outside => none
  | claimed => none
  | knows p => some p
  | surveyed p _ => some p
  | copied p => some p

/-- The standing after an answer. An answer that fails tells nothing, and after a save that fails it
is open what the registry holds. -/
def after (st : Standing) (r : BackfillRequest) (a : r.Answer) : Standing :=
  match r, a with
  | .claim .., true => claimed
  | .claim .., false => st
  | .release .., _ => outside
  | .stored .., .ok m => knows (m.progress.getD .initial)
  | .stored .., .error _ => st
  | .earliest _, .ok found =>
    match st with
    | knows p => surveyed p found
    | _ => st
  | .earliest _, .error _ => st
  | .copy _, .ok _ =>
    match st with
    | knows p => copied p
    | _ => st
  | .copy _, .error _ => st
  | .save _ _ p, .ok _ => knows p
  | .save .., .error _ => claimed

end Standing

/-- Where the import of a meter starts, by what was found in the database. -/
def importStart (found : Option Instant) (cutover now : Instant) : Instant :=
  found.getD (BackfillSettings.fallbackStart cutover now)

/-- The progress that a step may store, by what it has been told. -/
inductive MayStore (s : BackfillSettings) (now : Instant) : Standing → Progress → Prop where
  | fix {p : Progress} (unready : p.ready = false) (unfixed : p.cutover = none) :
      MayStore s now (.knows p) (p.withCutover (s.cutover now))
  | plan {p : Progress} {found : Option Instant} {cutover : Instant} (unready : p.ready = false)
      (fixed : p.cutover = some cutover) (unplanned : p.earliest = none) :
      MayStore s now (.surveyed p found) (p.withPlan (importStart found cutover now)
        (dailyChunks (importStart found cutover now).startOfDay cutover))
  | shorten {p : Progress} {cutover earliest : Instant} {chunk : Period} {rest : List Period}
      (unready : p.ready = false) (fixed : p.cutover = some cutover)
      (planned : p.earliest = some earliest) (pending : p.pending = chunk :: rest)
      (ended : chunk.stop ≤ now) : MayStore s now (.copied p) p.withoutFirstChunk
  | complete {p : Progress} {cutover earliest : Instant} (unready : p.ready = false)
      (fixed : p.cutover = some cutover) (planned : p.earliest = some earliest)
      (pending : p.pending = []) : MayStore s now (.knows p) p.complete

/-- What the span of the events comes to. -/
def planned (p : Progress) (cutover now : Instant) :
    Except StoreError (Option Instant) → Except Error StepResult
  | .error e => .error (.store e)
  | .ok found =>
    let chunks := dailyChunks (importStart found cutover now).startOfDay cutover
    .ok (.moved (p.withPlan (importStart found cutover now) chunks)
      (.planned (importStart found cutover now) chunks.length))

/-- What the copy of the first pending chunk comes to. -/
def copied (p : Progress) (chunk : Period) : Except StoreError Unit → Except Error StepResult
  | .error e => .error (.store e)
  | .ok _ => .ok (.moved p.withoutFirstChunk (.imported chunk))

/-- The stages of an import, each with what its transition is: an end, or one request. -/
inductive Stage (s : BackfillSettings) (m : Meter) (p : Progress) (now : Instant) :
    Backfilling (Except Error StepResult) → Prop where
  | fix (unfixed : p.cutover = none) :
      Stage s m p now (.done (.ok (.moved (p.withCutover (s.cutover now)) (.initialized (s.cutover now)))))
  | plan {cutover : Instant} (fixed : p.cutover = some cutover) (unplanned : p.earliest = none) :
      Stage s m p now (.ask (.earliest m.events) fun a => .done (planned p cutover now a))
  | wait {cutover t : Instant} (fixed : p.cutover = some cutover) :
      Stage s m p now (.done (.ok (.stayed (.waiting t) false)))
  | refuse {e : Error} : Stage s m p now (.done (.error e))
  | copy {cutover earliest : Instant} {chunk : Period} {rest : List Period}
      (fixed : p.cutover = some cutover) (planned : p.earliest = some earliest)
      (pending : p.pending = chunk :: rest) (ended : chunk.stop ≤ now)
      (made : ChunkImport.make m chunk cutover = .ok ⟨m, chunk, cutover⟩) :
      Stage s m p now (.ask (.copy ⟨m, chunk, cutover⟩) fun a => .done (copied p chunk a))
  | complete {cutover earliest : Instant} (fixed : p.cutover = some cutover)
      (planned : p.earliest = some earliest) (pending : p.pending = [])
      (settled : cutover + s.settleDelay ≤ now) : Stage s m p now (.done (.ok (.moved p.complete .ready)))

theorem transition_stage (s : BackfillSettings) (m : Meter) (p : Progress) (now : Instant) :
    Stage s m p now (transition s m p now) := by
  unfold transition
  split
  · rename_i unfixed
    exact .fix unfixed
  · rename_i cutover fixed unplanned
    refine Eq.mp (congrArg (fun next => Stage s m p now (.ask (.earliest m.events) next))
      (funext fun answer => ?_)) (.plan fixed unplanned)
    cases answer <;> rfl
  · rename_i cutover earliest chunk rest fixed planned pending
    split
    · exact .wait fixed
    · rename_i past
      split
      · exact .refuse
      · rename_i i made
        obtain ⟨valid, numeric, rfl⟩ := ChunkImport.make_eq_ok.1 made
        refine Eq.mp (congrArg (fun next => Stage s m p now (.ask (.copy ⟨m, chunk, cutover⟩) next))
          (funext fun answer => ?_)) (.copy fixed planned pending (Int.not_lt.1 past) made)
        cases answer <;> rfl
  · rename_i cutover earliest fixed planned pending
    dsimp only
    split
    · exact .wait fixed
    · rename_i past
      exact .complete fixed planned pending (Int.not_lt.1 past)

/-- The requests that a step of a meter may make, by what it has been told. -/
inductive MayAsk (s : BackfillSettings) (m : Meter) (now : Instant) :
    Standing → BackfillRequest → Prop where
  | claim : MayAsk s m now .outside (.claim m.space m.id)
  | release {st : Standing} (inside : st ≠ .outside) : MayAsk s m now st (.release m.space m.id)
  | read : MayAsk s m now .claimed (.stored m.space m.id)
  | survey {p : Progress} : MayAsk s m now (.knows p) (.earliest m.events)
  | copy {p : Progress} {cutover earliest : Instant} {chunk : Period} {rest : List Period}
      (fixed : p.cutover = some cutover) (planned : p.earliest = some earliest)
      (pending : p.pending = chunk :: rest) (ended : chunk.stop ≤ now) (found : Option Progress) :
      MayAsk s m now (.knows p) (.copy ⟨{ m with progress := found }, chunk, cutover⟩)
  | save {st : Standing} {p : Progress} (may : MayStore s now st p) :
      MayAsk s m now st (.save m.space m.id p)

variable {s : BackfillSettings} {m : Meter} {now : Instant} {α β : Type}

/-- Every request is one that may be made, whatever the answers are, and the end is as expected. -/
def Orderly (s : BackfillSettings) (m : Meter) (now : Instant) (ends : Standing → α → Prop) :
    Standing → Backfilling α → Prop
  | st, .done a => ends st a
  | st, .ask r next => MayAsk s m now st r ∧ ∀ a, Orderly s m now ends (st.after r a) (next a)

theorem Orderly.bind {P : Standing → α → Prop} {R : Standing → β → Prop} {st : Standing}
    {p : Backfilling α} {f : α → Backfilling β} (first : Orderly s m now P st p)
    (second : ∀ st a, P st a → Orderly s m now R st (f a)) : Orderly s m now R st (p.bind f) := by
  induction p generalizing st with
  | done a => exact second st a first
  | ask r next ih => exact ⟨first.1, fun a => ih a (first.2 a)⟩

/-- Both definitions are the same but for their progress. -/
def SameDefinition (m n : Meter) : Prop := ∃ p, n = { m with progress := p }

theorem SameDefinition.refl (m : Meter) : SameDefinition m m := ⟨m.progress, rfl⟩

theorem SameDefinition.withProgress {n : Meter} (h : SameDefinition m n) (p : Option Progress) :
    SameDefinition m { n with progress := p } := by
  obtain ⟨q, rfl⟩ := h
  exact ⟨p, rfl⟩

/-- What a transition comes to may be stored. -/
def MayEnd (s : BackfillSettings) (now : Instant) (st : Standing) : Except Error StepResult → Prop
  | .ok (.moved p _) => MayStore s now st p
  | _ => True

theorem transition_orderly {n : Meter} (same : SameDefinition m n) {p : Progress}
    (unready : p.ready = false) :
    Orderly s m now (fun st result => st ≠ .outside ∧ MayEnd s now st result) (.knows p)
      (transition s n p now) := by
  obtain ⟨found, rfl⟩ := same
  have stage := transition_stage s { m with progress := found } p now
  generalize transition s { m with progress := found } p now = t at stage ⊢
  cases stage with
  | fix unfixed => exact ⟨nofun, .fix unready unfixed⟩
  | plan fixed unplanned =>
    refine ⟨.survey, fun a => ?_⟩
    cases a with
    | error e => exact ⟨nofun, trivial⟩
    | ok found => exact ⟨nofun, .plan unready fixed unplanned⟩
  | wait => exact ⟨nofun, trivial⟩
  | refuse => exact ⟨nofun, trivial⟩
  | copy fixed planned pending ended =>
    refine ⟨.copy fixed planned pending ended found, fun a => ?_⟩
    cases a with
    | error e => exact ⟨nofun, trivial⟩
    | ok u => exact ⟨nofun, .shorten unready fixed planned pending ended⟩
  | complete fixed planned pending => exact ⟨nofun, .complete unready fixed planned pending⟩

/-- A step ends with a copy of the definition that it was given. -/
def EndsInside (m : Meter) (st : Standing) (result : Meter × Except Error StepOutcome) : Prop :=
  st ≠ .outside ∧ SameDefinition m result.1

/-- A step ends without a claim, with a copy of the definition that it was given. -/
def EndsOutside (m : Meter) (st : Standing) (result : Meter × Except Error StepOutcome) : Prop :=
  st = .outside ∧ SameDefinition m result.1

theorem settle_orderly {n : Meter} (same : SameDefinition m n) {st : Standing}
    (inside : st ≠ .outside) {result : Except Error StepResult} (may : MayEnd s now st result) :
    Orderly s m now (EndsInside m) st (settle n result) := by
  unfold settle
  split
  · exact ⟨inside, same⟩
  · exact ⟨inside, same⟩
  · rename_i p action
    obtain ⟨found, rfl⟩ := same
    refine ⟨.save may, fun a => ?_⟩
    cases a with
    | error e => exact ⟨by simp [Standing.after], found, rfl⟩
    | ok u => exact ⟨by simp [Standing.after], some p, rfl⟩

theorem advance_orderly {n : Meter} (same : SameDefinition m n) :
    Orderly s m now (EndsInside m) .claimed (advance s n now) := by
  unfold advance
  refine ⟨?_, fun a => ?_⟩
  · obtain ⟨found, rfl⟩ := same
    exact .read
  cases a with
  | error e => exact ⟨by simp [Standing.after], same⟩
  | ok stored =>
    simp only [Standing.after]
    split
    · exact ⟨by simp, same.withProgress _⟩
    · rename_i unready
      refine (transition_orderly (same.withProgress _) (by simpa using unready)).bind ?_
      exact fun st result h => settle_orderly (same.withProgress _) h.1 h.2

theorem step_orderly {n : Meter} (same : SameDefinition m n) (budget : Nat) :
    Orderly s m now (EndsOutside m) .outside (step s n budget now) := by
  unfold step
  split
  · exact ⟨rfl, same⟩
  · split
    · exact ⟨rfl, same⟩
    · split
      · exact ⟨rfl, same⟩
      · refine ⟨?_, fun a => ?_⟩
        · obtain ⟨found, rfl⟩ := same
          exact .claim
        cases a with
        | false => exact ⟨rfl, same⟩
        | true =>
          refine (advance_orderly same).bind fun st result h => ⟨?_, fun _ => ⟨rfl, h.2⟩⟩
          obtain ⟨found, rfl⟩ := same
          exact .release h.1

theorem runFrom_orderly {n : Meter} (same : SameDefinition m n) (consumed budget : Nat) :
    Orderly s m now (EndsOutside m) .outside (runFrom s now consumed budget n) := by
  induction budget generalizing n consumed with
  | zero =>
    refine (step_orderly same 0).bind fun st result h => ?_
    rcases result with ⟨n, e | outcome⟩
    · exact h
    · exact h
  | succ budget ih =>
    refine (step_orderly same (budget + 1)).bind fun st result h => ?_
    obtain ⟨rfl, same⟩ := h
    rcases result with ⟨n, e | outcome⟩
    · exact ⟨rfl, same⟩
    · dsimp only
      split
      · exact ⟨rfl, same⟩
      · exact ih same (consumed + 1)

theorem run_orderly {n : Meter} (same : SameDefinition m n) (budget : Nat) :
    Orderly s m now (EndsOutside m) .outside (run s n budget now) :=
  runFrom_orderly same 0 budget

end Backfill

end Metering
