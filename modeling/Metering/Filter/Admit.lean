import Metering.Filter.Basic

/-!
What a filter in a statement lets through. A filter that does not constrain its field lets everything
through, also inside a combination of filters, where it is left out. A field without a value passes no
filter that constrains it. Of several clauses in one filter the first one counts.
-/
namespace Metering.Filter

variable {α : Type} [Comparable α]

mutual

/-- Whether the field meets the filter; nothing if the filter does not constrain it. -/
def verdict? : Filter α → Option α → Option Bool
  | mk cs, v => firstVerdict? cs v

def firstVerdict? : List (Clause α) → Option α → Option Bool
  | [], _ => none
  | c :: _, v => clauseVerdict? c v

def clauseVerdict? : Clause α → Option α → Option Bool
  | .comparison c w, v => some (v.any fun x => c.holds x w)
  | .pattern p text, v => some (v.any fun x => (Clause.pattern p text).holds x)
  | .within ws, v => some (v.any fun x => ws.any (Comparable.equal x))
  | .notWithin ws, v =>
    if ws.isEmpty then none else some (v.any fun x => !ws.any (Comparable.equal x))
  | .all fs, v =>
    let each := verdicts fs v
    if each.isEmpty then none else some (each.all id)
  | .any fs, v =>
    let each := verdicts fs v
    if each.isEmpty then none else some (each.any id)

def verdicts : List (Filter α) → Option α → List Bool
  | [], _ => []
  | f :: fs, v => (verdict? f v).toList ++ verdicts fs v

end

def admits (f : Filter α) (v : Option α) : Bool := (f.verdict? v).getD true

end Metering.Filter
