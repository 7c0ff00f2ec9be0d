import Metering.Filter.Admit
import Metering.Filter.Validation
import Metering.Proofs.Sql.Condition
import Metering.Query.Statement

/-!
Filters and the conditions that are made of them. The condition of a filter is read as its own tree,
without the members that have no condition (`condition?_means`). For the values of a field that tree holds
when the filter lets them through (`holds_predicate?`), which is what the filter means as long as its
combinations by `or` have members, of which all constrain the field or none does: a member without a
condition holds for every value, and is left out (`passes?_eq_holds`).
-/
namespace Metering

namespace Filter

open Sql (Means Names Operand Predicate)

variable {α : Type}

mutual

/-- Whether every clause of a filter, at any depth, has a property. -/
def EveryClause (P : Clause α → Prop) : Filter α → Prop
  | mk cs => EachClause P cs

def EachClause (P : Clause α → Prop) : List (Clause α) → Prop
  | [] => True
  | c :: cs => c.Every P ∧ EachClause P cs

def Clause.Every (P : Clause α → Prop) : Clause α → Prop
  | .comparison c w => P (.comparison c w)
  | .pattern p text => P (.pattern p text)
  | .within ws => P (.within ws)
  | .notWithin ws => P (.notWithin ws)
  | .all fs => P (.all fs) ∧ EachFilter P fs
  | .any fs => P (.any fs) ∧ EachFilter P fs

def EachFilter (P : Clause α → Prop) : List (Filter α) → Prop
  | [] => True
  | f :: fs => f.EveryClause P ∧ EachFilter P fs

end

mutual

/-- Whether a filter constrains its field. Of several clauses the first one counts. -/
def constrains : Filter α → Bool
  | mk cs => firstConstrains cs

def firstConstrains : List (Clause α) → Bool
  | [] => false
  | c :: _ => c.constrains

def Clause.constrains : Clause α → Bool
  | .comparison _ _ => true
  | .pattern _ _ => true
  | .within _ => true
  | .notWithin ws => !ws.isEmpty
  | .all fs => someConstrains fs
  | .any fs => someConstrains fs

def someConstrains : List (Filter α) → Bool
  | [] => false
  | f :: fs => f.constrains || someConstrains fs

end

section Predicates

variable [Bindable α] [Operand α]

mutual

/-- What the condition of a filter says. Members without a condition are left out, and a combination of
one condition is that condition. -/
def predicate? : Filter α → Option (Predicate α)
  | mk cs => firstPredicate? cs

def firstPredicate? : List (Clause α) → Option (Predicate α)
  | [] => none
  | c :: _ => c.predicate?

def Clause.predicate? : Clause α → Option (Predicate α)
  | .comparison c w => some (.comparison c (Operand.bound w))
  | .pattern p text => some (.pattern p text)
  | .within ws => some (if ws.isEmpty then .never else .within (ws.map Operand.bound))
  | .notWithin ws => if ws.isEmpty then none else some (.notWithin (ws.map Operand.bound))
  | .all fs => Sql.combined? .all (predicates fs)
  | .any fs => Sql.combined? .any (predicates fs)

def predicates : List (Filter α) → List (Predicate α)
  | [] => []
  | f :: fs => f.predicate?.toList ++ predicates fs

end

end Predicates

/-- A combination by `or` has members, and all of them constrain the field or none does. -/
def Clause.Balanced : Clause α → Prop
  | .any fs => fs ≠ [] ∧ ((∀ f ∈ fs, f.constrains = true) ∨ ∀ f ∈ fs, f.constrains = false)
  | _ => True

/-- The database has the values of a clause as they are. -/
def Clause.Exact [Bindable α] [Operand α] : Clause α → Prop
  | .comparison _ w => Operand.bound w = w
  | .within ws => ws.map Operand.bound = ws
  | .notWithin ws => ws.map Operand.bound = ws
  | _ => True

section Validation

variable {onText : Bool} {maxDepth depth : Nat}

/-- A well-formed filter has no second clause. -/
theorem of_validateAt_cons {c : Clause α} {cs : List (Clause α)}
    (valid : validateAt onText maxDepth depth (mk (c :: cs)) = .ok ()) :
    cs = [] ∧ validateClause onText maxDepth depth c = .ok () := by
  rw [validateAt] at valid
  split at valid
  · cases valid
  · split at valid
    · cases valid
    · rename_i sound
      constructor
      · cases cs with
        | nil => rfl
        | cons c' cs =>
          have several : 1 < ((c :: c' :: cs).map Clause.operator).length := by simp
          rw [nodeFault?, if_pos several] at sound
          cases sound
      · rw [validateClauses] at valid
        split at valid
        · cases valid
        · assumption

theorem of_validateEach_cons {f : Filter α} {fs : List (Filter α)}
    (valid : validateEach onText maxDepth depth (f :: fs) = .ok ()) :
    validateAt onText maxDepth depth f = .ok () ∧ validateEach onText maxDepth depth fs = .ok () := by
  rw [validateEach] at valid
  split at valid
  · cases valid
  · rename_i first
    exact ⟨first, valid⟩

end Validation

/-- Results that some may lack, in front of others that agree. -/
theorem forall₂_of_rel {β γ : Type} {R : β → γ → Prop} {x : Option β} {y : Option γ} {xs : List β}
    {ys : List γ} (first : Option.Rel R x y) (others : List.Forall₂ R xs ys) :
    List.Forall₂ R (x.toList ++ xs) (y.toList ++ ys) := by
  cases first with
  | none => exact others
  | some agree => exact .cons agree others

section Conditions

variable [Bindable α] [Operand α] {d : Dialect} {field : Sql}

mutual

/-- The condition of a filter is read as what it says. -/
theorem condition?_means (names : Names d field) :
    (f : Filter α) → Option.Rel (Means d field) (condition? d field f) f.predicate?
  | mk [] => .none
  | mk (c :: _) => clauseCondition?_means names c

theorem clauseCondition?_means (names : Names d field) :
    (c : Clause α) → Option.Rel (Means d field) (clauseCondition? d field c) c.predicate?
  | .comparison c w => .some (Sql.means_comparison names c w)
  | .pattern p text => .some (Sql.means_pattern names p text)
  | .within [] => .some Sql.means_never
  | .within (w :: ws) => .some (Sql.means_within names (List.cons_ne_nil w ws))
  | .notWithin [] => .none
  | .notWithin (w :: ws) => .some (Sql.means_notWithin names (List.cons_ne_nil w ws))
  | .all fs => Sql.combine_all (conditions_mean names fs)
  | .any fs => Sql.combine_any (conditions_mean names fs)

theorem conditions_mean (names : Names d field) :
    (fs : List (Filter α)) → List.Forall₂ (Means d field) (conditions d field fs) (predicates fs)
  | [] => .nil
  | f :: fs => by
    rw [conditions, predicates]
    exact forall₂_of_rel (condition?_means names f) (conditions_mean names fs)

end

end Conditions

section Verdicts

variable [Comparable α] {v : α}

theorem holds_joined_all (ps : List (Predicate α)) :
    (Predicate.joined .all ps).holds v = (ps.map fun p => p.holds v).all id := by
  have every (ps : List (Predicate α)) :
      Predicate.everyHolds ps v = (ps.map fun p => p.holds v).all id := by
    induction ps with
    | nil => rfl
    | cons p ps ih => rw [Predicate.everyHolds, ih, List.map_cons, List.all_cons, id_eq]
  match ps with
  | [] => rfl
  | [p] => exact (Bool.and_true _).symm
  | p :: q :: ps => exact every (p :: q :: ps)

theorem holds_joined_any (ps : List (Predicate α)) :
    (Predicate.joined .any ps).holds v = (ps.map fun p => p.holds v).any id := by
  have some (ps : List (Predicate α)) :
      Predicate.someHolds ps v = (ps.map fun p => p.holds v).any id := by
    induction ps with
    | nil => rfl
    | cons p ps ih => rw [Predicate.someHolds, ih, List.map_cons, List.any_cons, id_eq]
  match ps with
  | [] => rfl
  | [p] => exact (Bool.or_false _).symm
  | p :: q :: ps => exact some (p :: q :: ps)

/-- A combination holds by what holds of its members. -/
theorem holds_combined? (make : List (Predicate α) → Predicate α) (decides : List Bool → Bool)
    (joined : ∀ ps, (Predicate.joined make ps).holds v = decides (ps.map fun p => p.holds v))
    {ps : List (Predicate α)} {bs : List Bool} (each : ps.map (fun p => p.holds v) = bs) :
    (Sql.combined? make ps).map (fun p => p.holds v) =
      if bs.isEmpty then none else some (decides bs) := by
  rw [Sql.combined?, ← each, List.isEmpty_map]
  split
  · rfl
  · rw [Option.map_some, joined]

variable [Bindable α] [Operand α]

mutual

/-- What the condition of a filter says holds for the values that the filter lets through. -/
theorem holds_predicate? : (f : Filter α) → f.EveryClause Clause.Exact →
    f.predicate?.map (fun p => p.holds v) = f.verdict? (some v)
  | mk [], _ => rfl
  | mk (c :: _), exact => holds_clausePredicate? c exact.1

theorem holds_clausePredicate? : (c : Clause α) → c.Every Clause.Exact →
    c.predicate?.map (fun p => p.holds v) = clauseVerdict? c (some v)
  | .comparison c w, exact => by
    rw [Clause.predicate?, show Operand.bound w = w from exact]
    rfl
  | .pattern p text, _ => by
    refine congrArg some ?_
    unfold Predicate.holds Clause.holds
    cases Comparable.patternText? (α := α) <;> rfl
  | .within [], _ => rfl
  | .within (w :: ws), exact => by
    rw [Clause.predicate?, show (w :: ws).map Operand.bound = w :: ws from exact]
    rfl
  | .notWithin [], _ => rfl
  | .notWithin (w :: ws), exact => by
    rw [Clause.predicate?, show (w :: ws).map Operand.bound = w :: ws from exact]
    rfl
  | .all fs, exact => by
    have each := holds_predicates fs exact.2
    exact holds_combined? .all (fun bs => bs.all id) holds_joined_all each
  | .any fs, exact => by
    have each := holds_predicates fs exact.2
    exact holds_combined? .any (fun bs => bs.any id) holds_joined_any each

theorem holds_predicates : (fs : List (Filter α)) → EachFilter Clause.Exact fs →
    (predicates fs).map (fun p => p.holds v) = verdicts fs (some v)
  | [], _ => rfl
  | f :: fs, exact => by
    rw [predicates, verdicts, List.map_append, holds_predicates fs exact.2, ← holds_predicate? f exact.1]
    cases f.predicate? <;> rfl

end

end Verdicts

section Settling

variable [Comparable α] {v : α} {onText : Bool} {maxDepth : Nat}

/-- A verdict is what is meant, unless there is none, and then every value is meant to pass. -/
inductive Settles : Bool → Bool → Option Bool → Prop where
  | given (holds : Bool) : Settles true holds (some holds)
  | none : Settles false true none

/-- What is left out of a combination by `and` holds anyway. -/
theorem settles_all {fs : List (Filter α)}
    (each : ∀ f ∈ fs, Settles f.constrains (f.holds v) (f.verdict? (some v))) :
    Settles (someConstrains fs) (everyHolds fs v)
      (if (verdicts fs (some v)).isEmpty then none else some ((verdicts fs (some v)).all id)) := by
  induction fs with
  | nil => exact .none
  | cons f fs ih =>
    rw [List.forall_mem_cons] at each
    obtain ⟨first, others⟩ := each
    have rest := ih others
    rw [someConstrains, everyHolds, verdicts]
    generalize f.constrains = constrains, f.holds v = holds, f.verdict? (some v) = verdict at first
    cases first with
    | none => exact rest
    | given =>
      -- the later members have their verdicts, or hold and have none
      have whole : everyHolds fs v = (verdicts fs (some v)).all id := by
        generalize everyHolds fs v = every, someConstrains fs = others, verdicts fs (some v) = bs at rest
        cases bs with
        | nil =>
          cases rest
          rfl
        | cons b bs =>
          cases rest
          rfl
      rw [whole]
      exact .given _

theorem verdicts_of_all_constrain {fs : List (Filter α)}
    (each : ∀ f ∈ fs, Settles f.constrains (f.holds v) (f.verdict? (some v)))
    (constrain : ∀ f ∈ fs, f.constrains = true) :
    verdicts fs (some v) = fs.map fun f => f.holds v := by
  induction fs with
  | nil => rfl
  | cons f fs ih =>
    rw [List.forall_mem_cons] at each constrain
    have first := each.1
    rw [constrain.1] at first
    rw [verdicts, List.map_cons, ih each.2 constrain.2]
    generalize f.holds v = holds, f.verdict? (some v) = verdict at first
    cases first
    rfl

theorem someHolds_eq_any (fs : List (Filter α)) (v : α) : someHolds fs v = fs.any fun f => f.holds v := by
  induction fs with
  | nil => rfl
  | cons f fs ih => rw [someHolds, List.any_cons, ih]

theorem verdicts_of_none_constrain {fs : List (Filter α)}
    (each : ∀ f ∈ fs, Settles f.constrains (f.holds v) (f.verdict? (some v)))
    (free : ∀ f ∈ fs, f.constrains = false) :
    verdicts fs (some v) = [] ∧ someConstrains fs = false ∧ ∀ f ∈ fs, f.holds v = true := by
  induction fs with
  | nil => exact ⟨rfl, rfl, nofun⟩
  | cons f fs ih =>
    rw [List.forall_mem_cons] at each free
    have first := each.1
    rw [free.1] at first
    obtain ⟨none, unconstrained, hold⟩ := ih each.2 free.2
    rw [verdicts, someConstrains, none, unconstrained, free.1, List.forall_mem_cons]
    generalize f.holds v = holds, f.verdict? (some v) = verdict at first
    cases first
    exact ⟨rfl, rfl, rfl, hold⟩

theorem settles_any {fs : List (Filter α)}
    (each : ∀ f ∈ fs, Settles f.constrains (f.holds v) (f.verdict? (some v)))
    (balanced : (Clause.any fs).Balanced) :
    Settles (someConstrains fs) (someHolds fs v)
      (if (verdicts fs (some v)).isEmpty then none else some ((verdicts fs (some v)).any id)) := by
  obtain ⟨members, constrain | free⟩ := balanced
  -- nothing is left out, or everything is and every value passes
  · have some : someConstrains fs = true := by
      cases fs with
      | nil => exact absurd rfl members
      | cons f fs => rw [someConstrains, constrain f List.mem_cons_self, Bool.true_or]
    have any : ((fs.map fun f => f.holds v).any id) = someHolds fs v := by
      rw [List.any_map, someHolds_eq_any]
      rfl
    have nonempty : (fs.map fun f => f.holds v).isEmpty = false := by
      rw [List.isEmpty_map, List.isEmpty_eq_false_iff]
      exact members
    rw [some, verdicts_of_all_constrain each constrain, nonempty, any]
    exact .given _
  · obtain ⟨none, unconstrained, hold⟩ := verdicts_of_none_constrain each free
    have holds : someHolds fs v = true := by
      cases fs with
      | nil => exact absurd rfl members
      | cons f fs => rw [someHolds, hold f List.mem_cons_self, Bool.true_or]
    rw [none, unconstrained, holds]
    exact .none

mutual

theorem verdict?_settles : (f : Filter α) → {depth : Nat} →
    validateAt onText maxDepth depth f = .ok () → f.EveryClause Clause.Balanced →
    Settles f.constrains (f.holds v) (f.verdict? (some v))
  | mk [], _, _, _ => .none
  | mk (c :: cs), _, valid, balanced => by
    obtain ⟨rfl, only⟩ := of_validateAt_cons valid
    have settles := clauseVerdict?_settles c only balanced.1
    rw [holds, allHold, allHold, Bool.and_true]
    exact settles

theorem clauseVerdict?_settles : (c : Clause α) → {depth : Nat} →
    validateClause onText maxDepth depth c = .ok () → c.Every Clause.Balanced →
    Settles c.constrains (c.holds v) (clauseVerdict? c (some v))
  | .comparison _ _, _, _, _ => .given _
  | .pattern _ _, _, _, _ => .given _
  | .within _, _, _, _ => .given _
  | .notWithin [], _, _, _ => .none
  | .notWithin (_ :: _), _, _, _ => .given _
  | .all fs, _, valid, balanced => by
    rw [validateClause] at valid
    exact settles_all (verdicts_settle fs valid balanced.2)
  | .any fs, _, valid, balanced => by
    rw [validateClause] at valid
    exact settles_any (verdicts_settle fs valid balanced.2) balanced.1

theorem verdicts_settle : (fs : List (Filter α)) → {depth : Nat} →
    validateEach onText maxDepth depth fs = .ok () → EachFilter Clause.Balanced fs →
    ∀ f ∈ fs, Settles f.constrains (f.holds v) (f.verdict? (some v))
  | [], _, _, _ => nofun
  | f :: fs, _, valid, balanced => by
    obtain ⟨first, others⟩ := of_validateEach_cons valid
    rw [List.forall_mem_cons]
    exact ⟨verdict?_settles f first balanced.1, verdicts_settle fs others balanced.2⟩

end

end Settling

section Meaning

variable [Comparable α] [Bindable α] [Operand α]

/-- Whether a database finds that a value passes. A filter without a condition is not asked about. -/
def passes? (f : Filter α) (d : Dialect) (field : Sql) (v : α) : Option Bool :=
  match f.condition? d field with
  | none => some true
  | some q => ((d.statement q).predicate? d field).map fun p : Predicate α => p.holds v

/-- A database lets the values through that the filter does. -/
theorem passes?_eq_admits {f : Filter α} (exact : f.EveryClause Clause.Exact) {d : Dialect} {field : Sql}
    (names : Names d field) (v : α) : f.passes? d field v = some (f.admits (some v)) := by
  have means := condition?_means names f
  have holds := holds_predicate? (v := v) f exact
  unfold passes? admits
  rw [← holds]
  generalize f.condition? d field = condition, f.predicate? = predicate at means ⊢
  cases means with
  | none => rfl
  | some means =>
    dsimp only
    rw [means.predicate?]
    rfl

/-- A database lets a value through exactly when the filter holds for it. -/
theorem passes?_eq_holds {f : Filter α} {maxDepth : Nat} (valid : f.validate maxDepth = .ok ())
    (balanced : f.EveryClause Clause.Balanced) (exact : f.EveryClause Clause.Exact) {d : Dialect}
    {field : Sql} (names : Names d field) (v : α) : f.passes? d field v = some (f.holds v) := by
  have settles := verdict?_settles (v := v) f valid balanced
  rw [passes?_eq_admits exact names v, admits]
  generalize f.holds v = holds, f.verdict? (some v) = verdict, f.constrains = constrains at settles ⊢
  cases settles with
  | none => rfl
  | given => rfl

/-- Dimensions are fields that conditions can be on. -/
theorem names_dimension (d : Dialect) (source : Source) (name path : String) :
    Names d (d.dimension source name path) := by
  have data : Sql.Binds (Sql.plain "data") [] := Sql.binds_plain (by decide)
  have groups : Sql.Binds (Sql.plain "group_by") [] := Sql.binds_plain (by decide)
  cases source with
  | events => exact Sql.names_emptyAsNull (Dialect.binds_jsonText data.carries path).carries d
  | numbers => exact Sql.names_emptyAsNull (Dialect.binds_mapValue groups name).carries d

/-- Alternatives in which some members have no condition of their own. -/
def nested : TextFilter :=
  mk [.any [mk [.comparison .equal "gpt"],
    mk [.all [mk [.notWithin []], mk [.pattern .like "c%"], mk [.notWithin ["cat", "cow"]]]],
    mk [.within []]]]

theorem passes?_nested :
    nested.passes? .duckdb (Dialect.duckdb.dimension .events "model" "$.model") "crab" = some true ∧
    nested.passes? .clickhouse (Dialect.clickhouse.dimension .numbers "model" "$.model") "cow" =
      some false := by
  have valid : nested.validate 8 = .ok () := rfl
  have balanced : nested.EveryClause Clause.Balanced := by
    simp [nested, EveryClause, EachClause, Clause.Every, EachFilter, Clause.Balanced, constrains,
      firstConstrains, Clause.constrains, someConstrains]
  have exact : nested.EveryClause Clause.Exact := by
    simp [nested, EveryClause, EachClause, Clause.Every, EachFilter, Clause.Exact, Operand.bound]
  have crab : nested.holds "crab" = true := by
    simp [nested, holds, allHold, Clause.holds, someHolds, everyHolds, Comparison.holds,
      Comparable.equal, Comparable.patternText?, PatternMatch.holds, likeMatches]
  have cow : nested.holds "cow" = false := by
    simp [nested, holds, allHold, Clause.holds, someHolds, everyHolds, Comparison.holds,
      Comparable.equal, Comparable.patternText?, PatternMatch.holds, likeMatches]
  rw [← crab, ← cow]
  constructor
  · exact passes?_eq_holds valid balanced exact (names_dimension _ _ _ _) "crab"
  · exact passes?_eq_holds valid balanced exact (names_dimension _ _ _ _) "cow"

/-- An alternative with a member that every value passes. -/
def halfOpen : TextFilter := mk [.any [mk [], mk [.comparison .equal "a"]]]

def noMembers : TextFilter := mk [.any []]

def beforeHalfMicrosecond : Filter Instant := mk [.comparison .less ⟨500⟩]

/-- A member without a condition is left out of an alternative, an alternative without members has no
condition, and an instant loses what is less than a microsecond. -/
theorem passes?_differs :
    (halfOpen.validate 8 = .ok () ∧ halfOpen.holds "b" = true ∧
      halfOpen.passes? .duckdb "model" "b" = some false) ∧
    (noMembers.validate 8 = .ok () ∧ noMembers.holds "b" = false ∧
      noMembers.passes? .duckdb "model" "b" = some true) ∧
    (beforeHalfMicrosecond.validate 8 = .ok () ∧ beforeHalfMicrosecond.holds .epoch = true ∧
      beforeHalfMicrosecond.passes? .duckdb "time" .epoch = some false) := by
  refine ⟨⟨rfl, ?_, ?_⟩, ⟨rfl, rfl, rfl⟩, ⟨rfl, ?_, ?_⟩⟩
  · decide
  · decide +kernel
  · decide
  · decide +kernel

end Meaning

end Filter

end Metering
