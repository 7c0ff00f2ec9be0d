import Metering.Filter.Basic
import Metering.KeyMap
import Metering.Window

/-!
What a query asks of a meter.
-/
namespace Metering

/-- A customer and the subjects that belong to it. -/
structure Customer where
  id : String
  subjects : List String
deriving DecidableEq, Repr

structure Query where
  start : Option Instant
  stop : Option Instant
  window : Option WindowSize
  zoneName : Option String
  subjects : List String
  customers : List Customer
  /-- A filter for each of some dimensions. -/
  filters : KeyMap TextFilter
  groupBy : List String
  cachable : Bool

namespace Query

def any : Query := ⟨none, none, none, none, [], [], ∅, [], false⟩

def zone? (q : Query) : Option Zone := Zone.requested? q.zoneName

end Query

end Metering
