import Metering.Calendar.Instant

/-!
Conditions on one field. A filter is a list of clauses, at most one of each operator and in the order
of the operators; a well-formed filter has no more than one clause, and a filter without clauses holds
for every value. `Filter.holds` says what a filter means.
-/
namespace Metering

namespace Filter

inductive Comparison where
  | equal
  | unequal
  | greater
  | atLeast
  | less
  | atMost
deriving DecidableEq, Repr

inductive PatternMatch where
  | like
  | notLike
  | ilike
  | notIlike
deriving DecidableEq, Repr

/-- The operators in their order. -/
inductive Operator where
  | comparison (c : Comparison)
  | pattern (p : PatternMatch)
  | within
  | notWithin
  | all
  | any
deriving DecidableEq, Repr

def Comparison.name : Comparison → String
  | .equal => "eq"
  | .unequal => "ne"
  | .greater => "gt"
  | .atLeast => "gte"
  | .less => "lt"
  | .atMost => "lte"

def PatternMatch.name : PatternMatch → String
  | .like => "like"
  | .notLike => "notLike"
  | .ilike => "ilike"
  | .notIlike => "notIlike"

def Operator.name : Operator → String
  | .comparison c => c.name
  | .pattern p => p.name
  | .within => "in"
  | .notWithin => "notIn"
  | .all => "and"
  | .any => "or"

def Operator.isPattern : Operator → Bool
  | .pattern _ => true
  | _ => false

end Filter

mutual

inductive Filter (α : Type) where
  | mk (clauses : List (Filter.Clause α))

inductive Filter.Clause (α : Type) where
  | comparison (c : Filter.Comparison) (value : α)
  | pattern (p : Filter.PatternMatch) (text : String)
  | within (values : List α)
  | notWithin (values : List α)
  | all (filters : List (Filter α))
  | any (filters : List (Filter α))

end

namespace Filter

variable {α : Type}

def clauses : Filter α → List (Clause α)
  | mk cs => cs

instance : Inhabited (Filter α) := ⟨mk []⟩

def Clause.operator : Clause α → Operator
  | .comparison c _ => .comparison c
  | .pattern p _ => .pattern p
  | .within _ => .within
  | .notWithin _ => .notWithin
  | .all _ => .all
  | .any _ => .any

def operators (f : Filter α) : List Operator := f.clauses.map Clause.operator

def isEmpty (f : Filter α) : Bool := f.clauses.isEmpty

/-- The values that filters compare. -/
class Comparable (α : Type) where
  equal : α → α → Bool
  less : α → α → Bool
  /-- Whether patterns apply, and to which text. -/
  patternText? : Option (α → String)

instance : Comparable String where
  equal a b := a == b
  less a b := decide (a < b)
  patternText? := some id

instance : Comparable Int where
  equal a b := a == b
  less a b := decide (a < b)
  patternText? := none

instance : Comparable Float where
  equal a b := a == b
  less a b := a < b
  patternText? := none

instance : Comparable Instant where
  equal a b := a == b
  less a b := decide (a < b)
  patternText? := none

def Comparison.holds [Comparable α] (c : Comparison) (x y : α) : Bool :=
  match c with
  | .equal => Comparable.equal x y
  | .unequal => !Comparable.equal x y
  | .greater => Comparable.less y x
  | .atLeast => Comparable.less y x || Comparable.equal x y
  | .less => Comparable.less x y
  | .atMost => Comparable.less x y || Comparable.equal x y

/-- A percent sign stands for any text, an underscore for any character, all else for itself. -/
def likeMatches : List Char → List Char → Bool
  | [], text => text.isEmpty
  | '%' :: pattern, [] => likeMatches pattern []
  | '%' :: pattern, c :: text => likeMatches pattern (c :: text) || likeMatches ('%' :: pattern) text
  | _ :: _, [] => false
  | p :: pattern, c :: text => (p == '_' || p == c) && likeMatches pattern text
termination_by pattern text => (pattern.length, text.length)

def PatternMatch.holds (p : PatternMatch) (text pattern : String) : Bool :=
  let exact := likeMatches pattern.toList text.toList
  let folded := likeMatches (pattern.toList.map Char.toLower) (text.toList.map Char.toLower)
  match p with
  | .like => exact
  | .notLike => !exact
  | .ilike => folded
  | .notIlike => !folded

mutual

/-- Whether a value passes a filter: every clause must hold. -/
def holds [Comparable α] : Filter α → α → Bool
  | mk cs, v => allHold cs v

def Clause.holds [Comparable α] : Clause α → α → Bool
  | .comparison c w, v => c.holds v w
  | .pattern p text, v =>
    match Comparable.patternText? (α := α) with
    | some toText => p.holds (toText v) text
    | none => false
  | .within ws, v => ws.any (Comparable.equal v)
  | .notWithin ws, v => !ws.any (Comparable.equal v)
  | .all fs, v => everyHolds fs v
  | .any fs, v => someHolds fs v

def allHold [Comparable α] : List (Clause α) → α → Bool
  | [], _ => true
  | c :: cs, v => c.holds v && allHold cs v

def everyHolds [Comparable α] : List (Filter α) → α → Bool
  | [], _ => true
  | f :: fs, v => f.holds v && everyHolds fs v

def someHolds [Comparable α] : List (Filter α) → α → Bool
  | [], _ => false
  | f :: fs, v => f.holds v || someHolds fs v

end

end Filter

abbrev TextFilter := Filter String

end Metering
