import Metering.KeyMap
import Metering.Meter.Aggregation
import Metering.Meter.Progress
import Metering.Text.Quoted

/-!
Meters: a named aggregation over the events of one type. `Meter.validate` says which definitions are
usable and names the first fault of one that is not.
-/
namespace Metering

structure Meter where
  /-- The namespace that the meter and its events belong to. -/
  space : String
  id : String
  /-- A second name, by which the meter can be found as well. -/
  slug : String
  aggregation : Aggregation
  eventType : String
  /-- The path of the value in an event's data. -/
  valuePath : Option String
  /-- The path of each dimension in an event's data. -/
  dimensions : KeyMap String
  /-- Events before this instant do not count. -/
  since : Option Instant
  progress : Option Progress
deriving DecidableEq

namespace Meter

/-- The name under which a query groups by the subject of events. -/
def subjectDimension : String := "subject"

/-- The name under which a query groups by the customers of its filter. -/
def customerDimension : String := "customer_id"

inductive Fault where
  | blank (field : String)
  | valueNotAllowed (aggregation : Aggregation)
  | valueRequired (aggregation : Aggregation)
  | valuePath (path : String)
  | dimensionName (dimension : String)
  | reservedDimension (dimension : String)
  | dimensionPath (dimension path : String)
deriving DecidableEq

def Fault.message : Fault → String
  | blank field => field ++ " must not be empty"
  | valueNotAllowed a => "value_property is not allowed for " ++ a.name ++ " meters"
  | valueRequired a => "value_property is required for " ++ a.name ++ " meters"
  | valuePath path => "invalid value_property path: " ++ path
  | dimensionName d => "group_by dimension must be a non-empty identifier: " ++ Text.quoted d
  | reservedDimension d => "group_by dimension " ++ d ++ " is reserved"
  | dimensionPath d path => "invalid group_by path for " ++ d ++ ": " ++ path

/-- A dollar sign and something after it. -/
def isPath (path : String) : Bool :=
  match path.toList with
  | '$' :: _ :: _ => true
  | _ => false

/-- ASCII letters, digits and underscores, at least one. -/
def isIdentifier (name : String) : Bool :=
  name ≠ "" && name.toList.all fun c => c.isAlphanum || c == '_'

def blankFault? (m : Meter) : Option Fault :=
  ([("namespace", m.space), ("id", m.id), ("slug", m.slug), ("event_type", m.eventType)].find?
    fun f => Text.isBlankText f.2).map fun f => .blank f.1

def valueFault? (m : Meter) : Option Fault :=
  match m.valuePath with
  | none => if m.aggregation.needsValue then some (.valueRequired m.aggregation) else none
  | some path =>
    if ¬ m.aggregation.needsValue then some (.valueNotAllowed m.aggregation)
    else if isPath path then none
    else some (.valuePath path)

def dimensionFault? (dimension path : String) : Option Fault :=
  if ¬ isIdentifier dimension then some (.dimensionName dimension)
  else if dimension = subjectDimension ∨ dimension = customerDimension then
    some (.reservedDimension dimension)
  else if isPath path then none
  else some (.dimensionPath dimension path)

/-- The first fault: of the names, then of the value, then of each dimension in order. -/
def fault? (m : Meter) : Option Fault :=
  m.blankFault? <|> m.valueFault? <|>
    m.dimensions.toList.findSome? fun d => dimensionFault? d.1 d.2

/-- Whether the events of a namespace and a type count for a meter. -/
def covers (m : Meter) (space type : String) : Bool :=
  space == m.space && type == m.eventType

/-- Whether the table of numbers is complete and can answer queries. -/
def usesNumbers (m : Meter) : Bool :=
  m.aggregation.isNumeric && m.progress.any Progress.ready

end Meter

end Metering
