import Metering.Quantity

/-!
The ways in which a meter turns the values of its events into one number.
-/
namespace Metering

inductive Aggregation where
  | sum
  | count
  | average
  | minimum
  | maximum
  | uniqueCount
  | latest
deriving DecidableEq, Repr

namespace Aggregation

def all : List Aggregation := [.sum, .count, .average, .minimum, .maximum, .uniqueCount, .latest]

def name : Aggregation → String
  | .sum => "SUM"
  | .count => "COUNT"
  | .average => "AVG"
  | .minimum => "MIN"
  | .maximum => "MAX"
  | .uniqueCount => "UNIQUE_COUNT"
  | .latest => "LATEST"

/-- The name read without regard to the case of ASCII letters. -/
def ofName? (s : String) : Option Aggregation :=
  all.find? fun a => a.name.map Char.toLower == s.map Char.toLower

/-- A count needs no value; all others read one from the event. -/
def needsValue : Aggregation → Bool
  | .count => false
  | _ => true

/-- Results of adjacent windows give the result of the wider one. -/
def isCombinable : Aggregation → Bool
  | .sum | .count | .minimum | .maximum => true
  | .average | .uniqueCount | .latest => false

/-- The table of numbers holds enough to compute the result. -/
def isNumeric : Aggregation → Bool
  | .uniqueCount => false
  | _ => true

def combine? {Q : Type} [Quantity Q] (a : Aggregation) (x y : Q) : Option Q :=
  match a with
  | .sum | .count => some (Quantity.add x y)
  | .minimum => some (Quantity.least x y)
  | .maximum => some (Quantity.greatest x y)
  | .average | .uniqueCount | .latest => none

theorem combine?_isSome {Q : Type} [Quantity Q] (a : Aggregation) (x y : Q) :
    (a.combine? x y).isSome = a.isCombinable := by
  cases a <;> rfl

end Aggregation

end Metering
