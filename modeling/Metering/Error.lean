import Metering.Filter.Validation
import Metering.Meter.Basic
import Metering.Store.Error
import Metering.Window

/-!
Why a request fails: by its own fault, or by a failure of storage. Each failure is a cause, put into
words by `Error.message`.
-/
namespace Metering

/-- Faults of a query that is well-formed by itself. -/
inductive QueryFault where
  | reversed (start stop : Instant)
  | subjectsReversed
  | notNumeric (aggregation : Aggregation)
  | notImportable (aggregation : Aggregation)
  | customersMissing
  | unboundedWindows (size : WindowSize) (zone backend : String)
  | tooManyWindows (count : Nat) (size : WindowSize) (limit : Nat)
deriving DecidableEq

def QueryFault.message : QueryFault → String
  | reversed start stop =>
    "from (" ++ start.toOffsetText ++ ") must not be after to (" ++ stop.toOffsetText ++ ")"
  | subjectsReversed => "from must not be after to"
  | notNumeric a => a.name ++ " meters cannot be served from the numeric table"
  | notImportable a => a.name ++ " meters cannot be imported into the numeric table"
  | customersMissing => "grouping by customer_id requires a customer filter"
  | unboundedWindows size zone backend =>
    size.name ++ " windows in " ++ zone ++ " need both from and to on the " ++ backend ++ " backend"
  | tooManyWindows count size limit =>
    toString count ++ " " ++ size.name ++ " windows exceed the limit of " ++ toString limit

inductive Error where
  | meterNotFound (name : String)
  | filter (fault : FilterError)
  | windowSize (text : String)
  | aggregation (text : String)
  | definition (slug : String) (fault : Meter.Fault)
  | unknownDimension (name : String)
  | timeZone (name : String)
  | query (fault : QueryFault)
  | store (failure : StoreError)
deriving DecidableEq

namespace Error

def message : Error → String
  | meterNotFound name => "Meter not found: " ++ name
  | filter (.tooComplex maxDepth) =>
    "Filter exceeds maximum nesting depth of " ++ toString maxDepth
  | filter fault => "Invalid filter: " ++ fault.reason
  | windowSize text => "Invalid window size: " ++ text
  | aggregation text => "Invalid aggregation: " ++ text
  | definition slug fault => "Invalid meter definition " ++ slug ++ ": " ++ fault.message
  | unknownDimension name => "Unknown group by dimension: " ++ name
  | timeZone name => "Invalid time zone: " ++ name
  | query fault => "Invalid query: " ++ fault.message
  | store failure => failure.message

/-- A word for the kind of failure. -/
def kind : Error → String
  | meterNotFound _ => "MeterNotFound"
  | filter (.tooComplex _) => "FilterTooComplex"
  | filter _ => "InvalidFilter"
  | windowSize _ => "InvalidWindowSize"
  | aggregation _ => "InvalidAggregation"
  | definition .. => "InvalidMeterDefinition"
  | unknownDimension _ => "UnknownGroupByDimension"
  | timeZone _ => "InvalidTimezone"
  | query _ => "InvalidQuery"
  | store failure => failure.kind

/-- Whether the meter or the request itself is at fault. -/
def isConfiguration : Error → Bool
  | meterNotFound _ | store _ => false
  | _ => true

def isNotFound : Error → Bool
  | meterNotFound _ => true
  | store failure => failure.isNotFound
  | _ => false

/-- Whether another attempt may succeed. -/
def isTransient : Error → Bool
  | store failure => failure.isTransient
  | _ => false

end Error

def Meter.validate (m : Meter) : Except Error Unit :=
  match m.fault? with
  | some fault => .error (.definition m.slug fault)
  | none => .ok ()

/-- The zone of an optional name, or the failure to know it. -/
def Zone.request (name : Option String) : Except Error Zone :=
  match Zone.requested? name with
  | some z => .ok z
  | none => .error (.timeZone (name.getD ""))

def WindowSize.request (s : String) : Except Error WindowSize :=
  match WindowSize.ofName? s with
  | some size => .ok size
  | none => .error (.windowSize s)

def Aggregation.request (s : String) : Except Error Aggregation :=
  match Aggregation.ofName? s with
  | some a => .ok a
  | none => .error (.aggregation s)

end Metering
