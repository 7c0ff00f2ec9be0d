import Metering.Proofs.Config.Lengths
import Metering.Proofs.Backfill.Engine
import Metering.Proofs.Program

/-!
How far ahead a step fixes the cutover. `step_fixes` follows a step of any meter: the only cutover that
it stores or answers with is the one of its settings and its clock, and it fixes that whenever it reads
that none is fixed. With the settings of a configuration that is accepted this leaves time to read the
snapshot anew before the cutover, and nothing is lost by giving up fractions of seconds, because the
delay and the interval between two refreshes are whole seconds (`Config.step_leavesRefresh`).
-/
namespace Metering

namespace Backfill

open Program

variable {s : BackfillSettings} {m : Meter} {now : Instant} {P : Instant → Prop}

/-- What the registry had, once it has told. -/
inductive Reads : Option Progress → (r : BackfillRequest) → r.Answer → Option Progress → Prop where
  | stored {found : Option Progress} {space id : String} (n : Meter) :
      Reads found (.stored space id) (.ok n) (some (n.progress.getD .initial))
  | failed {found : Option Progress} {space id : String} (e : StoreError) :
      Reads found (.stored space id) (.error e) found
  | other {found : Option Progress} {r : BackfillRequest} {a : r.Answer}
      (not : ∀ space id, r ≠ .stored space id) : Reads found r a found

/-- Progress with the cutover that was read, or with one as expected where there was none. -/
def Fixes (P : Instant → Prop) (p q : Progress) : Prop :=
  match p.cutover with
  | some cutover => q.cutover = some cutover
  | none => ∃ cutover, q = p.withCutover cutover ∧ P cutover

/-- Only progress that fixes the cutover as expected is stored. -/
def SavesFixed (P : Instant → Prop) (found : Option Progress) : BackfillRequest → Prop
  | .save _ _ q => ∃ p, found = some p ∧ Fixes P p q
  | _ => True

/-- A step that succeeds answers with a cutover as expected if it read that there was none, and with
none otherwise. -/
def EndsFixed (P : Instant → Prop) (found : Option Progress)
    (result : Meter × Except Error StepOutcome) : Prop :=
  ∀ outcome, result.2 = .ok outcome →
    match outcome.action with
    | .initialized cutover => P cutover ∧ ∃ p, found = some p ∧ p.ready = false ∧ p.cutover = none ∧
        result.1.progress = some (p.withCutover cutover)
    | _ => ∀ p, found = some p → p.ready = false → p.cutover.isSome

/-- What a transition comes to, by the progress that it started from. -/
def MovesFixed (P : Instant → Prop) (p : Progress) : Except Error StepResult → Prop
  | .error _ => True
  | .ok (.stayed action _) => p.cutover.isSome ∧ ∀ cutover, action ≠ .initialized cutover
  | .ok (.moved q (.initialized cutover)) => p.cutover = none ∧ q = p.withCutover cutover ∧ P cutover
  | .ok (.moved q _) => p.cutover.isSome ∧ q.cutover = p.cutover

theorem eq_of_reads {found found' : Option Progress} {r : BackfillRequest} {a : r.Answer}
    (h : Reads found r a found') (not : ∀ space id, r ≠ .stored space id) : found' = found := by
  cases h with
  | stored => exact absurd rfl (not _ _)
  | failed => rfl
  | other => rfl

theorem transition_fixes (expected : P (s.cutover now)) (p : Progress) :
    Ensures (SavesFixed P) Reads (fun found result => found = some p ∧ MovesFixed P p result) (some p)
      (transition s m p now) := by
  have stage := transition_stage s m p now
  generalize transition s m p now = t at stage ⊢
  cases stage with
  | fix unfixed => exact ⟨rfl, unfixed, rfl, expected⟩
  | plan fixed =>
    refine ⟨trivial, fun a found h => ?_⟩
    obtain rfl := eq_of_reads h nofun
    cases a with
    | error e => exact ⟨rfl, trivial⟩
    | ok start => exact ⟨rfl, by rw [fixed]; rfl, rfl⟩
  | wait fixed => exact ⟨rfl, by rw [fixed]; rfl, nofun⟩
  | refuse => exact ⟨rfl, trivial⟩
  | copy fixed =>
    refine ⟨trivial, fun a found h => ?_⟩
    obtain rfl := eq_of_reads h nofun
    cases a with
    | error e => exact ⟨rfl, trivial⟩
    | ok u => exact ⟨rfl, by rw [fixed]; rfl, rfl⟩
  | complete fixed => exact ⟨rfl, by rw [fixed]; rfl, rfl⟩

theorem fixes_of_moves {p q : Progress} {action : StepAction}
    (h : MovesFixed P p (.ok (.moved q action))) : Fixes P p q := by
  unfold Fixes
  cases action with
  | initialized cutover =>
    obtain ⟨unfixed, rfl, expected⟩ := h
    rw [unfixed]
    exact ⟨cutover, rfl, expected⟩
  | _ =>
    obtain ⟨fixed, same⟩ := h
    obtain ⟨cutover, is⟩ := Option.isSome_iff_exists.1 fixed
    rw [is]
    exact same.trans is

theorem settle_fixes {p : Progress} (unready : p.ready = false) {result : Except Error StepResult}
    (h : MovesFixed P p result) :
    Ensures (SavesFixed P) Reads (EndsFixed P) (some p) (settle m result) := by
  unfold settle
  split
  · intro outcome is
    cases is
  · rename_i action done
    obtain ⟨fixed, stays⟩ := h
    intro outcome is
    cases is
    cases action with
    | initialized cutover => exact absurd rfl (stays cutover)
    | _ =>
      rintro _ ⟨⟩ -
      exact fixed
  · rename_i q action
    refine ⟨⟨p, rfl, fixes_of_moves h⟩, fun a found read => ?_⟩
    obtain rfl := eq_of_reads read nofun
    cases a with
    | error e =>
      intro outcome is
      cases is
    | ok u =>
      intro outcome is
      cases is
      cases action with
      | initialized cutover =>
        obtain ⟨unfixed, rfl, expected⟩ := h
        exact ⟨expected, p, rfl, unready, unfixed, rfl⟩
      | _ =>
        rintro _ ⟨⟩ -
        exact h.1

theorem advance_fixes (expected : P (s.cutover now)) :
    Ensures (SavesFixed P) Reads (EndsFixed P) none (advance s m now) := by
  unfold advance
  refine ⟨trivial, fun a found read => ?_⟩
  cases a with
  | error e =>
    intro outcome is
    cases is
  | ok stored =>
    cases read with
    | other not => exact absurd rfl (not _ _)
    | stored =>
      dsimp only
      split
      · rename_i ready
        intro outcome is
        cases is
        rintro _ ⟨⟩ unready
        rw [ready] at unready
        cases unready
      · rename_i unready
        refine (transition_fixes expected _).bind fun found result h => ?_
        obtain ⟨rfl, moves⟩ := h
        exact settle_fixes (by simpa using unready) moves

/-- A step fixes the cutover that its settings and its clock give, whatever it is told. -/
theorem step_fixes (expected : P (s.cutover now)) (m : Meter) (budget : Nat) :
    Ensures (SavesFixed P) Reads (EndsFixed P) none (step s m budget now) := by
  unfold step
  split
  · rintro outcome ⟨⟩ _ ⟨⟩
  · split
    · rintro outcome ⟨⟩ _ ⟨⟩
    · split
      · rintro outcome ⟨⟩ _ ⟨⟩
      · refine ⟨trivial, fun a found read => ?_⟩
        obtain rfl := eq_of_reads read nofun
        cases a with
        | false => rintro outcome ⟨⟩ _ ⟨⟩
        | true =>
          refine (advance_fixes expected).bind fun found result ends => ⟨trivial, fun a found' read => ?_⟩
          obtain rfl := eq_of_reads read nofun
          exact ends

end Backfill

namespace Config

/-- A cutover is later than the next refresh, and of refreshes that are made from some time on, one
interval apart, there is one before it. -/
structure LeavesRefresh (c : Config) (now cutover : Instant) : Prop where
  later : now + Span.seconds c.refreshSeconds < cutover
  refreshed : ∀ start ≤ now, ∃ n : Nat, now < start + Span.seconds (n * c.refreshSeconds) ∧
    start + Span.seconds (n * c.refreshSeconds) < cutover

variable {c : Config} {now : Instant}

/-- A delay of whole seconds that is longer than the interval is longer by what is cut off. -/
theorem Accepted.lt_cutover (accepted : c.Accepted) {n : Int}
    (whole : c.backfill.cutoverDelay = Span.seconds n) :
    now + Span.seconds c.refreshSeconds < c.backfill.cutover now := by
  have ahead := accepted.ahead
  unfold BackfillSettings.cutover
  rw [whole] at ahead ⊢
  simp only [Span.lt_iff, Span.seconds] at ahead
  unfold Instant.truncateToSecond
  split
  · simp only [Instant.lt_iff, Instant.nanos_add, Instant.ofSeconds, Instant.second, Span.seconds]
    omega
  · simp only [Instant.lt_iff, Instant.nanos_add, Span.seconds]
    omega

theorem Accepted.leavesRefresh (accepted : c.Accepted) {cutover : Instant}
    (later : now + Span.seconds c.refreshSeconds < cutover) : c.LeavesRefresh now cutover where
  later := later
  refreshed start begun := by
    have positive : 0 < (c.refreshSeconds : Int) * 1000000000 := by
      have := accepted.refresh
      omega
    -- the intervals that have passed in full, and one more
    obtain ⟨past, is⟩ : ∃ past : Nat, (now.nanos - start.nanos) / (c.refreshSeconds * 1000000000) = past :=
      Int.eq_ofNat_of_zero_le (Int.ediv_nonneg (Int.sub_nonneg.2 begun) (Int.le_of_lt positive))
    have passed := Int.ediv_mul_le (now.nanos - start.nanos) (Int.ne_of_gt positive)
    have next := Int.lt_ediv_add_one_mul_self (now.nanos - start.nanos) positive
    rw [is, ← Int.mul_assoc] at passed
    rw [is, ← Int.mul_assoc, Int.add_mul] at next
    simp only [Instant.lt_iff, Instant.nanos_add, Span.seconds] at later
    refine ⟨past + 1, ?_⟩
    simp only [Instant.lt_iff, Instant.nanos_add, Span.seconds, Int.natCast_add, Int.add_mul]
    omega

/-- Whatever the registry and the database answer, a step under an accepted configuration only fixes a
cutover that leaves time for a refresh. -/
theorem step_leavesRefresh {p : Places} {f : ConfigFile} (made : ofLayers p f = .ok c)
    (accepted : c.fault? = none) (m : Meter) (budget : Nat) (now : Instant) :
    Program.Ensures (Backfill.SavesFixed (c.LeavesRefresh now)) Backfill.Reads
      (Backfill.EndsFixed (c.LeavesRefresh now)) none (Backfill.step c.backfill m budget now) := by
  have accepted := fault?_eq_none_iff.1 accepted
  have leaves : c.LeavesRefresh now (c.backfill.cutover now) := by
    rcases ofLayers_cases p f with ⟨-, d, is, takes⟩ | ⟨-, fails⟩
    · rw [made] at is
      cases is
      exact accepted.leavesRefresh (accepted.lt_cutover takes.delay)
    · rw [made] at fails
      cases fails
  exact Backfill.step_fixes leaves m budget

/-- A delay of one second more than the interval, and a clock that shows the last nanosecond of 1969. -/
theorem step_leavesRefresh_closely :
    ∃ c, ofLayers .none { ConfigFile.empty with cutoverSeconds := some 31 } = .ok c ∧
      c.fault? = none ∧
      Program.Ensures (Backfill.SavesFixed (c.LeavesRefresh ⟨-1⟩)) Backfill.Reads
        (Backfill.EndsFixed (c.LeavesRefresh ⟨-1⟩)) none
        (Backfill.step c.backfill Backfill.Engine.requestCount 1 ⟨-1⟩) := by
  obtain ⟨c, loads⟩ : ∃ c, ofLayers .none { ConfigFile.empty with cutoverSeconds := some 31 } >>=
      checked = .ok c := ⟨_, rfl⟩
  cases made : ofLayers .none { ConfigFile.empty with cutoverSeconds := some 31 } with
  | error e =>
    rw [made] at loads
    cases loads
  | ok d =>
    rw [made, ok_bind] at loads
    have accepted := fault?_eq_none_iff.2 (checked_eq_ok_iff.1 loads).1
    exact ⟨d, rfl, accepted, step_leavesRefresh made accepted Backfill.Engine.requestCount 1 ⟨-1⟩⟩

end Config

end Metering
