import Metering.Filter.Basic

/-!
Well-formed filters: nesting within a limit, at most one operator at each node, and patterns only on
text. `Filter.validate` reports the first node that offends, from the outside in and left to right.
-/
namespace Metering

inductive FilterError where
  | tooComplex (maxDepth : Nat)
  | manyOperators (operators : List Filter.Operator)
  | patternOnNonText (operator : Filter.Operator)
deriving DecidableEq, Repr

namespace FilterError

/-- The fault of one node, in words; nesting has wordings of its own. -/
def reason : FilterError → String
  | tooComplex maxDepth => "nesting exceeds " ++ toString maxDepth ++ " levels"
  | manyOperators operators =>
    "only one operator may be set, found: " ++ ", ".intercalate (operators.map Filter.Operator.name)
  | patternOnNonText operator => operator.name ++ " is only supported on string fields"

def message : FilterError → String
  | tooComplex maxDepth => "Filter too complex: " ++ (tooComplex maxDepth).reason
  | e => "Invalid filter: " ++ e.reason

end FilterError

namespace Filter

variable {α : Type}

/-- The fault of a node by itself: too many operators, or a pattern on a field that is not text. -/
def nodeFault? (onText : Bool) (operators : List Operator) : Option FilterError :=
  if 1 < operators.length then some (.manyOperators operators)
  else if onText then none
  else (operators.find? Operator.isPattern).map .patternOnNonText

mutual

def validateAt (onText : Bool) (maxDepth depth : Nat) : Filter α → Except FilterError Unit
  | mk cs =>
    if maxDepth < depth then .error (.tooComplex maxDepth)
    else
      match nodeFault? onText (cs.map Clause.operator) with
      | some fault => .error fault
      | none => validateClauses onText maxDepth depth cs

def validateClauses (onText : Bool) (maxDepth depth : Nat) :
    List (Clause α) → Except FilterError Unit
  | [] => .ok ()
  | c :: cs =>
    match validateClause onText maxDepth depth c with
    | .error e => .error e
    | .ok () => validateClauses onText maxDepth depth cs

def validateClause (onText : Bool) (maxDepth depth : Nat) : Clause α → Except FilterError Unit
  | .all fs => validateEach onText maxDepth (depth + 1) fs
  | .any fs => validateEach onText maxDepth (depth + 1) fs
  | _ => .ok ()

def validateEach (onText : Bool) (maxDepth depth : Nat) :
    List (Filter α) → Except FilterError Unit
  | [] => .ok ()
  | f :: fs =>
    match validateAt onText maxDepth depth f with
    | .error e => .error e
    | .ok () => validateEach onText maxDepth depth fs

end

/-- A filter without nesting has depth one. -/
def validate [Comparable α] (f : Filter α) (maxDepth : Nat) : Except FilterError Unit :=
  validateAt (Comparable.patternText? (α := α)).isSome maxDepth 1 f

end Filter

end Metering
