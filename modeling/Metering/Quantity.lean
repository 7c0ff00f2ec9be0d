import Metering.Decimal.Text

/-!
The numbers that usage is measured in. Queries, caches and merges need only the operations below, so
they work for floats, which is what runs, and for numbers that add up without rounding.
-/
namespace Metering

class Quantity (α : Type) where
  ofNat : Nat → α
  add : α → α → α
  /-- The smaller of two; an undefined one gives way to the other. -/
  least : α → α → α
  /-- The greater of two; an undefined one gives way to the other. -/
  greatest : α → α → α
  /-- A total divided by a count. -/
  share : α → Nat → α
  /-- Stands for a value that has not been computed. -/
  undefined : α
  isUndefined : α → Bool
  isFinite : α → Bool
  /-- The finite number that a text spells. -/
  read? : List Char → Option α

instance : Quantity Float where
  ofNat := Float.ofNat
  add a b := a + b
  least a b := if a.isNaN then b else if b.isNaN then a else if b < a then b else a
  greatest a b := if a.isNaN then b else if b.isNaN then a else if a < b then b else a
  share a n := a / Float.ofNat n
  undefined := 0 / 0
  isUndefined := Float.isNaN
  isFinite := Float.isFinite
  read? cs := (Decimal.readFloat? cs).filter Float.isFinite

end Metering
