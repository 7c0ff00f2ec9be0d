import Metering.Meter.Row

/-!
Groups of rows. Rows are in one group when their subject, customer and dimensions give the same key;
a dimension without a value is written `nil` there.
-/
namespace Metering

namespace Row

variable {Q : Type}

def keyPart (label : String) : Option String → String
  | none => ""
  | some value => label ++ "=" ++ value ++ ";"

def groupKey (r : Row Q) : String :=
  keyPart "subject" r.subject ++ keyPart "customer" r.customer ++
    String.join (r.groups.toList.map fun g => keyPart "group" (some (g.1 ++ "=" ++ g.2.getD "nil")))

/-- The rows with their keys, one list for each key, in the order of keys. -/
def byGroup (rows : List (Row Q)) : KeyMap (List (Row Q)) :=
  (rows.reverse.foldl (fun groups r =>
    groups.insert r.groupKey (r :: (groups.get? r.groupKey).getD [])) ∅)

/-- The order of windows, then of groups. -/
def before (r s : Row Q) : Bool :=
  r.start < s.start ∨ (r.start = s.start ∧ r.groupKey ≤ s.groupKey)

def sorted (rows : List (Row Q)) : List (Row Q) := rows.mergeSort before

end Row

end Metering
