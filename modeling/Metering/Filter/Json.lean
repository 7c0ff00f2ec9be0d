import Metering.Filter.Basic
import Metering.Json.Decode
import Metering.Json.Writer

/-!
Filters as JSON objects with one optional field for each operator. Fields that are missing or null are
unset, and an unset operator is not written.
-/
namespace Metering.Filter

open Json

variable {α : Type}

def fieldNames : List String :=
  ["eq", "ne", "gt", "gte", "lt", "lte", "like", "notLike", "ilike", "notIlike", "in", "notIn",
    "and", "or"]

/-- The clause of a field, if the field is set. -/
def clauseField {β : Type} (r : Record) (name : String) (read : Tree → Option β)
    (clause : β → Clause α) : Option (List (Clause α)) :=
  (r.optional name read).map fun v => (v.map clause).toList

/-- A filter of at most `fuel` nested ones. -/
def ofTreeWithin (read : Tree → Option α) : Nat → Tree → Option (Filter α)
  | 0, _ => none
  | fuel + 1, t => do
    let r ← t.record? fieldNames
    let nested := Tree.array? (ofTreeWithin read fuel)
    let clauses ← [
      clauseField r "eq" read (.comparison .equal),
      clauseField r "ne" read (.comparison .unequal),
      clauseField r "gt" read (.comparison .greater),
      clauseField r "gte" read (.comparison .atLeast),
      clauseField r "lt" read (.comparison .less),
      clauseField r "lte" read (.comparison .atMost),
      clauseField r "like" Tree.string? (.pattern .like),
      clauseField r "notLike" Tree.string? (.pattern .notLike),
      clauseField r "ilike" Tree.string? (.pattern .ilike),
      clauseField r "notIlike" Tree.string? (.pattern .notIlike),
      clauseField r "in" (Tree.array? read) .within,
      clauseField r "notIn" (Tree.array? read) .notWithin,
      clauseField r "and" nested .all,
      clauseField r "or" nested .any].mapM id
    return .mk clauses.flatten

/-- Filters nest no deeper than the objects that hold them. -/
def ofTree? (read : Tree → Option α) (t : Tree) : Option (Filter α) :=
  ofTreeWithin read (nestingLimit + 1) t

mutual

def toValue (write : α → Value) : Filter α → Value
  | mk cs => .object (clauseFields write cs)

def clauseFields (write : α → Value) : List (Clause α) → List (String × Value)
  | [] => []
  | c :: cs => (c.operator.name, c.toValue write) :: clauseFields write cs

def Clause.toValue (write : α → Value) : Clause α → Value
  | .comparison _ v => write v
  | .pattern _ text => .string text
  | .within vs => .array (vs.map write)
  | .notWithin vs => .array (vs.map write)
  | .all fs => .array (listValues write fs)
  | .any fs => .array (listValues write fs)

def listValues (write : α → Value) : List (Filter α) → List Value
  | [] => []
  | f :: fs => f.toValue write :: listValues write fs

end

end Metering.Filter
