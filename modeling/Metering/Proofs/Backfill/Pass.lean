import Metering.Backfill.Tick
import Metering.Proofs.Backfill.Engine
import Metering.Proofs.Meter.Progress
import Metering.Proofs.Program

/-!
What a pass over the meters knows about the registry. It stores progress only over progress that it
has read itself or stored before, and further along than that; and it applies to the snapshot only what
it knows the registry to hold (`tick_knows`). That holds for every answer to its requests.
-/
namespace Metering

namespace Backfill

open Program (Ensures)
open Progress (lags lags_of_isBehind)

/-- What a pass has been told. -/
structure Told where
  /-- The meters that the snapshot gave. -/
  listed : List Key
  /-- The progress of a meter as the registry was last heard to hold it. -/
  known : Option (Key × Option Progress)

namespace Told

def nothing : Told := ⟨[], none⟩

/-- What is known after an answer. After a save that failed it is open what the registry holds. -/
def after (K : Told) (r : TickRequest) (a : r.Answer) : Told :=
  match r, a with
  | .meters .snapshot, (meters : Snapshot) => ⟨meters.map keyOf, none⟩
  | .backfill (.stored space id), .ok (m : Meter) => { K with known := some ((space, id), m.progress) }
  | .backfill (.save space id p), .ok _ => { K with known := some ((space, id), some p) }
  | .backfill (.save ..), .error _ => { K with known := none }
  | _, _ => K

/-- The requests that a pass may make, by what it has been told. -/
inductive Allows (K : Told) : TickRequest → Prop where
  | snapshot : Allows K (.meters .snapshot)
  | apply {space id : String} {p : Progress} (known : K.known = some ((space, id), some p)) :
      Allows K (.meters (.apply space id p))
  | claim {space id : String} : Allows K (.backfill (.claim space id))
  | release {space id : String} : Allows K (.backfill (.release space id))
  | read {space id : String} (listed : (space, id) ∈ K.listed) :
      Allows K (.backfill (.stored space id))
  | survey {selection : Selection} : Allows K (.backfill (.earliest selection))
  | copy {i : ChunkImport} : Allows K (.backfill (.copy i))
  | save {space id : String} {p : Option Progress} {q : Progress}
      (known : K.known = some ((space, id), p)) (climbs : lags (some q) p = false) :
      Allows K (.backfill (.save space id q))

end Told

variable {s : BackfillSettings} {m : Meter} {now : Instant} {α : Type}

/-- A pass makes only requests that it may, and ends as expected. -/
abbrev Knows (ends : Told → α → Prop) (K : Told) (p : Ticking α) : Prop :=
  Ensures Told.Allows (fun K r a K' => K' = K.after r a) ends K p

/-- The same of the part of a pass that steps a meter. -/
abbrev KnowsStep (ends : Told → α → Prop) (K : Told) (p : Backfilling α) : Prop :=
  Ensures (fun K r => K.Allows (.backfill r)) (fun K r a K' => K' = K.after (.backfill r) a) ends K p

/-- New progress of a transition is ahead of the progress that it started from. -/
theorem transition_knows (K : Told) {p : Progress} (unready : p.ready = false) :
    KnowsStep (fun K' result => K' = K ∧
      ∀ q action, result = .ok (.moved q action) → p.isBehind q = true) K
      (transition s m p now) := by
  have stage := transition_stage s m p now
  generalize transition s m p now = t at stage ⊢
  cases stage with
  | fix unfixed =>
    refine ⟨rfl, ?_⟩
    rintro _ _ ⟨⟩
    exact (MayStore.fix unready unfixed).isBehind rfl
  | plan fixed unplanned =>
    refine ⟨.survey, ?_⟩
    rintro (e | found) _ rfl
    · exact ⟨rfl, nofun⟩
    · refine ⟨rfl, ?_⟩
      rintro _ _ ⟨⟩
      have may : MayStore s now (.surveyed p found) _ := .plan unready fixed unplanned
      exact may.isBehind rfl
  | wait => exact ⟨rfl, nofun⟩
  | refuse => exact ⟨rfl, nofun⟩
  | copy fixed planned pending ended =>
    refine ⟨.copy, ?_⟩
    rintro (e | u) _ rfl
    · exact ⟨rfl, nofun⟩
    · refine ⟨rfl, ?_⟩
      rintro _ _ ⟨⟩
      exact (MayStore.shorten (s := s) unready fixed planned pending ended).isBehind rfl
  | complete fixed planned pending =>
    refine ⟨rfl, ?_⟩
    rintro _ _ ⟨⟩
    have may : MayStore s now (.knows p) p.complete := .complete unready fixed planned pending
    exact may.isBehind rfl

/-- A copy of the definition that was given, with the progress that the registry is known to hold if it
went well. -/
structure EndsKnown (m : Meter) (K K' : Told) (result : Meter × Except Error StepOutcome) : Prop where
  same : SameDefinition m result.1
  listed : K'.listed = K.listed
  known : ∀ outcome, result.2 = .ok outcome →
    result.1 = m ∧ K' = K ∨ K'.known = some (keyOf m, result.1.progress)

theorem advance_knows {K : Told} (listed : keyOf m ∈ K.listed) :
    KnowsStep (EndsKnown m K) K (advance s m now) := by
  unfold advance
  refine ⟨.read listed, ?_⟩
  rintro a _ rfl
  cases a with
  | error e => exact ⟨.refl m, rfl, by simp⟩
  | ok stored =>
    dsimp only
    split
    · exact ⟨(SameDefinition.refl m).withProgress _, rfl, fun _ _ => .inr rfl⟩
    · rename_i unready
      refine (transition_knows _ (by simpa using unready)).bind ?_
      rintro _ result ⟨rfl, climbs⟩
      unfold settle
      split
      · exact ⟨(SameDefinition.refl m).withProgress _, rfl, by simp⟩
      · exact ⟨(SameDefinition.refl m).withProgress _, rfl, fun _ _ => .inr rfl⟩
      · rename_i q action
        refine ⟨.save rfl (lags_of_isBehind (climbs q action rfl)), ?_⟩
        rintro a _ rfl
        cases a with
        | error e => exact ⟨(SameDefinition.refl m).withProgress _, rfl, by simp⟩
        | ok u => exact ⟨(SameDefinition.refl m).withProgress _, rfl, fun _ _ => .inr rfl⟩

theorem step_knows {K : Told} (listed : keyOf m ∈ K.listed) (budget : Nat) :
    KnowsStep (EndsKnown m K) K (step s m budget now) := by
  have stays (outcome : StepOutcome) : EndsKnown m K K (m, .ok outcome) :=
    ⟨.refl m, rfl, fun _ _ => .inl ⟨rfl, rfl⟩⟩
  unfold step
  split
  · exact stays _
  · split
    · exact stays _
    · split
      · exact stays _
      · refine ⟨.claim, ?_⟩
        rintro a _ rfl
        cases a with
        | false => exact stays _
        | true =>
          refine (advance_knows listed).bind ?_
          intro K' result ends
          refine ⟨.release, ?_⟩
          rintro a _ rfl
          exact ends

theorem EndsKnown.trans {K K' K'' : Told} {n : Meter} {outcome : StepOutcome}
    {result : Meter × Except Error StepOutcome} (first : EndsKnown m K K' (n, .ok outcome))
    (second : EndsKnown n K' K'' result) : EndsKnown m K K'' result where
  same := by
    obtain ⟨p, rfl⟩ := first.same
    obtain ⟨q, is⟩ := second.same
    exact ⟨q, is⟩
  listed := second.listed.trans first.listed
  known outcome' is := by
    obtain ⟨p, rfl⟩ := first.same
    rcases second.known outcome' is with ⟨same, rfl⟩ | known
    · rw [same]
      exact first.known outcome rfl
    · exact .inr known

/-- The number of transitions in an outcome is no part of what is known. -/
theorem EndsKnown.withOutcome {K K' : Told} {n : Meter} {outcome : StepOutcome}
    (h : EndsKnown m K K' (n, .ok outcome)) (outcome' : StepOutcome) :
    EndsKnown m K K' (n, .ok outcome') :=
  ⟨h.same, h.listed, fun _ _ => h.known outcome rfl⟩

theorem runFrom_knows {K : Told} (listed : keyOf m ∈ K.listed) (consumed budget : Nat) :
    KnowsStep (EndsKnown m K) K (runFrom s now consumed budget m) := by
  induction budget generalizing m K consumed with
  | zero =>
    unfold runFrom
    refine (step_knows listed 0).bind ?_
    rintro K' ⟨n, e | outcome⟩ ends
    · exact ends
    · exact ends.withOutcome _
  | succ budget ih =>
    unfold runFrom
    refine (step_knows listed (budget + 1)).bind ?_
    rintro K' ⟨n, e | outcome⟩ ends
    · exact ends
    · dsimp only
      split
      · exact ends.withOutcome _
      · have still : keyOf n ∈ K'.listed := by
          obtain ⟨p, rfl⟩ := ends.same
          exact ends.listed.symm ▸ listed
        exact (ih still (consumed + 1)).mono fun K'' result rest => ends.trans rest

theorem publish_knows {K K' : Told} {result : Meter × Except Error StepOutcome}
    (ends : EndsKnown m K K' result) :
    Knows (fun K'' _ => K''.listed = K.listed) K' (publish m.progress result) := by
  obtain ⟨n, e | outcome⟩ := result
  · exact ends.listed
  · obtain ⟨p, rfl⟩ := ends.same
    unfold publish
    cases p with
    | none => exact ends.listed
    | some p =>
      dsimp only
      split
      · exact ends.listed
      · rename_i changed
        rcases ends.known outcome rfl with ⟨same, -⟩ | known
        · exact absurd (congrArg Meter.progress same) changed
        · refine ⟨.apply known, ?_⟩
          rintro a _ rfl
          exact ends.listed

theorem tickEach_knows (stepsPerTick : Nat) (summary : TickSummary) {K : Told} {meters : List Meter}
    (listed : ∀ m ∈ meters, keyOf m ∈ K.listed) :
    Knows (fun _ _ => True) K (tickEach s stepsPerTick now summary meters) := by
  induction meters generalizing K summary with
  | nil => trivial
  | cons m meters ih =>
    have ran : Knows (EndsKnown m K) K
        ((run s m stepsPerTick now).via fun r => .ask (.backfill r) .done) := by
      refine (runFrom_knows (listed m List.mem_cons_self) 0 stepsPerTick).via ?_
      intro K r may
      exact ⟨may, fun _ _ is => is⟩
    refine ran.bind ?_
    intro K' result ends
    refine (publish_knows ends).bind ?_
    intro K'' _ same
    refine ih _ fun n hn => ?_
    rw [same]
    exact listed n (List.mem_cons_of_mem m hn)

/-- A pass stores only progress that climbs, and applies only progress that is stored. -/
theorem tick_knows (s : BackfillSettings) (stepsPerTick : Nat) (now : Instant) :
    Knows (fun _ _ => True) .nothing (tick s stepsPerTick now) := by
  refine ⟨.snapshot, ?_⟩
  rintro meters _ rfl
  refine tickEach_knows stepsPerTick _ fun m hm => ?_
  exact List.mem_map_of_mem hm

end Backfill

end Metering
