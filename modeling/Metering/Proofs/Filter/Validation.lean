import Metering.Filter.Validation

/-!
Which filters validation accepts. The nodes of a filter are listed from the outside in and from left to
right (`nodes`). A filter is accepted when it nests no deeper than the limit and each of its nodes sets at
most one operator, no pattern unless the field is text; for any other filter the error is that of the first
node that offends, and of a node that offends in several ways it tells the depth before the operators
(`validate_iff_wellFormed`).
-/
namespace Metering

namespace Filter

variable {α : Type}

/-- A node of a filter: its depth, which is one for the outermost node, and the operators that it sets. -/
structure Node where
  depth : Nat
  operators : List Operator

mutual

/-- The nodes of a filter whose outermost node lies at a depth. -/
def nodesAt (depth : Nat) : Filter α → List Node
  | mk cs => ⟨depth, cs.map Clause.operator⟩ :: nodesBelowEach depth cs

def nodesBelowEach (depth : Nat) : List (Clause α) → List Node
  | [] => []
  | c :: cs => c.nodesBelow depth ++ nodesBelowEach depth cs

def Clause.nodesBelow (depth : Nat) : Clause α → List Node
  | .comparison _ _ => []
  | .pattern _ _ => []
  | .within _ => []
  | .notWithin _ => []
  | .all fs => nodesOf (depth + 1) fs
  | .any fs => nodesOf (depth + 1) fs

def nodesOf (depth : Nat) : List (Filter α) → List Node
  | [] => []
  | f :: fs => f.nodesAt depth ++ nodesOf depth fs

end

/-- The nodes of a filter from the outside in and from left to right. -/
def nodes (f : Filter α) : List Node := f.nodesAt 1

mutual

/-- How deep a filter nests; a flat one has depth one. -/
def nesting : Filter α → Nat
  | mk cs => nestingOfEach cs + 1

def nestingOfEach : List (Clause α) → Nat
  | [] => 0
  | c :: cs => max c.nesting (nestingOfEach cs)

def Clause.nesting : Clause α → Nat
  | .comparison _ _ => 0
  | .pattern _ _ => 0
  | .within _ => 0
  | .notWithin _ => 0
  | .all fs => nestingOf fs
  | .any fs => nestingOf fs

def nestingOf : List (Filter α) → Nat
  | [] => 0
  | f :: fs => max f.nesting (nestingOf fs)

end

/-- Whether patterns apply to the values of a type. -/
def TakesPatterns (α : Type) [Comparable α] : Prop := (Comparable.patternText? (α := α)).isSome = true

/-- Of the types that filters compare, patterns apply to texts alone. -/
theorem takesPatterns_only_text :
    TakesPatterns String ∧ ¬ TakesPatterns Int ∧ ¬ TakesPatterns Float ∧ ¬ TakesPatterns Instant :=
  ⟨rfl, Bool.false_ne_true, Bool.false_ne_true, Bool.false_ne_true⟩

structure WellFormed [Comparable α] (maxDepth : Nat) (f : Filter α) : Prop where
  shallow : f.nesting ≤ maxDepth
  single : ∀ n ∈ f.nodes, n.operators.length ≤ 1
  applicable : ¬ TakesPatterns α → ∀ n ∈ f.nodes, ∀ op ∈ n.operators, op.isPattern = false

/-- What is wrong with a node, and the error that says so. -/
inductive Node.Offends (onText : Prop) (maxDepth : Nat) (n : Node) : FilterError → Prop where
  | depth (deep : maxDepth < n.depth) : Offends onText maxDepth n (.tooComplex maxDepth)
  | operators (shallow : n.depth ≤ maxDepth) (many : 1 < n.operators.length) :
      Offends onText maxDepth n (.manyOperators n.operators)
  | pattern {op : Operator} (shallow : n.depth ≤ maxDepth) (single : n.operators = [op])
      (noText : ¬ onText) (isPattern : op.isPattern = true) :
      Offends onText maxDepth n (.patternOnNonText op)

section Faults

theorem eq_singleton_of_mem {ops : List Operator} (single : ops.length ≤ 1) {op : Operator}
    (mem : op ∈ ops) : ops = [op] := by
  match ops with
  | [only] => rw [List.mem_singleton.1 mem]
  | _ :: _ :: _ => simp at single

variable (onText : Bool) (maxDepth : Nat)

/-- The fault of a node at its depth. -/
def Node.fault? (n : Node) : Option FilterError :=
  if maxDepth < n.depth then some (.tooComplex maxDepth) else nodeFault? onText n.operators

/-- The fault of the first node that has one. -/
def firstFault (ns : List Node) : Except FilterError Unit :=
  match ns.findSome? (Node.fault? onText maxDepth) with
  | some e => .error e
  | none => .ok ()

variable {onText maxDepth}

theorem firstFault_append (ns ms : List Node) : firstFault onText maxDepth (ns ++ ms) =
    match firstFault onText maxDepth ns with
    | .error e => .error e
    | .ok () => firstFault onText maxDepth ms := by
  unfold firstFault
  rw [List.findSome?_append]
  cases ns.findSome? (Node.fault? onText maxDepth) <;> rfl

theorem firstFault_eq_error {ns : List Node} {e : FilterError} :
    firstFault onText maxDepth ns = .error e ↔ ∃ before n after, ns = before ++ n :: after ∧
      n.fault? onText maxDepth = some e ∧ ∀ x ∈ before, x.fault? onText maxDepth = none := by
  rw [← List.findSome?_eq_some_iff, firstFault]
  cases ns.findSome? (Node.fault? onText maxDepth) <;> simp

theorem firstFault_eq_ok {ns : List Node} :
    firstFault onText maxDepth ns = .ok () ↔ ∀ n ∈ ns, n.fault? onText maxDepth = none := by
  rw [← List.findSome?_eq_none_iff, firstFault]
  cases ns.findSome? (Node.fault? onText maxDepth) <;> simp

theorem Node.fault?_eq_some {n : Node} {e : FilterError} :
    n.fault? onText maxDepth = some e ↔ n.Offends (onText = true) maxDepth e := by
  constructor
  · intro h
    unfold fault? nodeFault? at h
    split at h
    · rename_i deep
      cases h
      exact .depth deep
    · rename_i deep
      have shallow := Nat.not_lt.1 deep
      split at h
      · rename_i many
        cases h
        exact .operators shallow many
      · rename_i many
        split at h
        · cases h
        · rename_i noText
          obtain ⟨op, found, rfl⟩ := Option.map_eq_some_iff.1 h
          have mem := List.mem_of_find?_eq_some found
          have only := eq_singleton_of_mem (Nat.not_lt.1 many) mem
          exact .pattern shallow only noText (List.find?_some found)
  · intro h
    cases h with
    | depth deep => exact if_pos deep
    | operators shallow many =>
      rw [fault?, if_neg (Nat.not_lt.2 shallow), nodeFault?, if_pos many]
    | pattern shallow single noText isPattern =>
      rw [fault?, if_neg (Nat.not_lt.2 shallow), nodeFault?, single, if_neg (by simp), if_neg noText,
        List.find?_cons_of_pos isPattern]
      rfl

mutual

/-- Validation goes through the nodes in their order and stops at the first fault. -/
theorem validateAt_eq (depth : Nat) : (f : Filter α) →
    validateAt onText maxDepth depth f = firstFault onText maxDepth (f.nodesAt depth)
  | mk cs => by
    have rest := validateClauses_eq depth cs
    rw [validateAt, nodesAt, firstFault, List.findSome?_cons, Node.fault?]
    split
    · rfl
    · cases nodeFault? onText (cs.map Clause.operator) with
      | some e => rfl
      | none => exact rest

theorem validateClauses_eq (depth : Nat) : (cs : List (Clause α)) →
    validateClauses onText maxDepth depth cs = firstFault onText maxDepth (nodesBelowEach depth cs)
  | [] => rfl
  | c :: cs => by
    rw [validateClauses, validateClause_eq depth c, validateClauses_eq depth cs]
    exact (firstFault_append _ _).symm

theorem validateClause_eq (depth : Nat) : (c : Clause α) →
    validateClause onText maxDepth depth c = firstFault onText maxDepth (c.nodesBelow depth)
  | .comparison _ _ => rfl
  | .pattern _ _ => rfl
  | .within _ => rfl
  | .notWithin _ => rfl
  | .all fs => validateEach_eq (depth + 1) fs
  | .any fs => validateEach_eq (depth + 1) fs

theorem validateEach_eq (depth : Nat) : (fs : List (Filter α)) →
    validateEach onText maxDepth depth fs = firstFault onText maxDepth (nodesOf depth fs)
  | [] => rfl
  | f :: fs => by
    rw [validateEach, validateAt_eq depth f, validateEach_eq depth fs]
    exact (firstFault_append _ _).symm

end

end Faults

section Nesting

variable {maxDepth : Nat}

mutual

/-- The deepest nodes lie as deep as the filter nests. -/
theorem depths_le_iff (depth : Nat) : (f : Filter α) →
    ((∀ n ∈ f.nodesAt depth, n.depth ≤ maxDepth) ↔ depth + f.nesting ≤ maxDepth + 1)
  | mk cs => by
    rw [nodesAt, List.forall_mem_cons, nesting]
    constructor
    · rintro ⟨own, below⟩
      have inside := (depthsBelowEach_le_iff depth cs own).1 below
      omega
    · intro inside
      have own : depth ≤ maxDepth := by omega
      exact ⟨own, (depthsBelowEach_le_iff depth cs own).2 (by omega)⟩

theorem depthsBelowEach_le_iff (depth : Nat) : (cs : List (Clause α)) → depth ≤ maxDepth →
    ((∀ n ∈ nodesBelowEach depth cs, n.depth ≤ maxDepth) ↔ depth + nestingOfEach cs ≤ maxDepth)
  | [], h => by simp [nodesBelowEach, nestingOfEach, h]
  | c :: cs, h => by
    rw [nodesBelowEach, List.forall_mem_append, depthsBelow_le_iff depth c h,
      depthsBelowEach_le_iff depth cs h, nestingOfEach]
    omega

theorem depthsBelow_le_iff (depth : Nat) : (c : Clause α) → depth ≤ maxDepth →
    ((∀ n ∈ c.nodesBelow depth, n.depth ≤ maxDepth) ↔ depth + c.nesting ≤ maxDepth)
  | .comparison _ _, h => by simp [Clause.nodesBelow, Clause.nesting, h]
  | .pattern _ _, h => by simp [Clause.nodesBelow, Clause.nesting, h]
  | .within _, h => by simp [Clause.nodesBelow, Clause.nesting, h]
  | .notWithin _, h => by simp [Clause.nodesBelow, Clause.nesting, h]
  | .all fs, h => depthsOf_le_iff depth fs h
  | .any fs, h => depthsOf_le_iff depth fs h

theorem depthsOf_le_iff (depth : Nat) : (fs : List (Filter α)) → depth ≤ maxDepth →
    ((∀ n ∈ nodesOf (depth + 1) fs, n.depth ≤ maxDepth) ↔ depth + nestingOf fs ≤ maxDepth)
  | [], h => by simp [nodesOf, nestingOf, h]
  | f :: fs, h => by
    rw [nodesOf, List.forall_mem_append, depths_le_iff (depth + 1) f,
      depthsOf_le_iff depth fs h, nestingOf]
    omega

end

end Nesting

/-- In a well-formed filter no node offends. -/
theorem wellFormed_iff [Comparable α] {maxDepth : Nat} {f : Filter α} : f.WellFormed maxDepth ↔
    ∀ n ∈ f.nodes, ∀ e, ¬ n.Offends (TakesPatterns α) maxDepth e := by
  have depths : (∀ n ∈ f.nodes, n.depth ≤ maxDepth) ↔ f.nesting ≤ maxDepth := by
    rw [nodes, depths_le_iff]
    omega
  constructor
  · intro sound n mem e offends
    cases offends with
    | depth deep => exact absurd (depths.2 sound.shallow n mem) (Nat.not_le.2 deep)
    | operators _ many => exact absurd (sound.single n mem) (Nat.not_le.2 many)
    | @pattern op _ only noText isPattern =>
      have noPattern := sound.applicable noText n mem op (only ▸ List.mem_singleton_self op)
      exact absurd isPattern (ne_true_of_eq_false noPattern)
  · intro clear
    have shallow (n : Node) (mem : n ∈ f.nodes) : n.depth ≤ maxDepth :=
      Nat.not_lt.1 fun deep => clear n mem _ (.depth deep)
    have single (n : Node) (mem : n ∈ f.nodes) : n.operators.length ≤ 1 :=
      Nat.not_lt.1 fun many => clear n mem _ (.operators (shallow n mem) many)
    refine ⟨depths.1 shallow, single, fun noText n mem op set => ?_⟩
    refine eq_false_of_ne_true fun isPattern => ?_
    have only := eq_singleton_of_mem (single n mem) set
    exact clear n mem _ (.pattern (shallow n mem) only noText isPattern)

/--
A filter is accepted if it is well-formed. Of any other filter the error is that of the first node that
offends.
-/
theorem validate_iff_wellFormed [Comparable α] (f : Filter α) (maxDepth : Nat) :
    (f.validate maxDepth = .ok () ↔ f.WellFormed maxDepth) ∧
    ∀ e, f.validate maxDepth = .error e ↔ ∃ before n after, f.nodes = before ++ n :: after ∧
      n.Offends (TakesPatterns α) maxDepth e ∧
      ∀ x ∈ before, ∀ e, ¬ x.Offends (TakesPatterns α) maxDepth e := by
  have validated : f.validate maxDepth =
      firstFault (Comparable.patternText? (α := α)).isSome maxDepth f.nodes := validateAt_eq 1 f
  have clear (n : Node) : n.fault? (Comparable.patternText? (α := α)).isSome maxDepth = none ↔
      ∀ e, ¬ n.Offends (TakesPatterns α) maxDepth e := by
    simp only [TakesPatterns, ← Node.fault?_eq_some, Option.eq_none_iff_forall_ne_some, ne_eq]
  rw [validated]
  constructor
  · rw [firstFault_eq_ok, wellFormed_iff]
    exact forall₂_congr fun n _ => clear n
  · intro e
    rw [firstFault_eq_error]
    simp only [clear, Node.fault?_eq_some, TakesPatterns]

/-- A node with two operators comes before one that lies too deep. -/
example : validate (mk [.all [mk [.comparison .equal "a", .comparison .unequal "b"],
    mk [.any [mk [.comparison .equal "c"]]]]]) 2 =
      .error (.manyOperators [.comparison .equal, .comparison .unequal]) := rfl

end Filter

end Metering
