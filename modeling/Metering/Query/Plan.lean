import Metering.Error
import Metering.Query.Basic
import Metering.Sql.Dialect

/-!
Plans: what a query reads, from which of the two tables, under which conditions, in which windows and
groups. `Compiler.planFrom` checks a query against its meter and settles all of this; a plan can then be
written in SQL or run over tables held in memory, and both take it from the same record.
-/
namespace Metering

/-- Where the values of a meter are read. -/
inductive Source where
  /-- The data of the events themselves. -/
  | events
  /-- The table of numbers. -/
  | numbers
deriving DecidableEq, Repr

/-- The table of numbers answers for a meter once it is complete. -/
def Source.ofMeter (m : Meter) : Source := if m.usesNumbers then .numbers else .events

inductive GroupColumn where
  | subject
  | customer
  | dimension (name : String)
deriving DecidableEq, Repr

inductive Windowing where
  /-- One window over everything. -/
  | whole
  /-- Windows that the database aligns to a zone. -/
  | aligned (size : WindowSize) (zone : Zone)
  /-- Windows listed by their starts and ends in microseconds. -/
  | listed (windows : List (Int × Int))

inductive Condition where
  | space (name : String)
  | eventType (name : String)
  | meterId (id : String)
  | notBefore (t : Instant)
  | before (t : Instant)
  | subjectIn (subjects : List String)
  | never
  | dimension (name path : String) (filter : TextFilter)

/-- The later of two optional lower bounds. -/
def laterBound : Option Instant → Option Instant → Option Instant
  | some a, some b => some (max a b)
  | some a, none => some a
  | none, b => b

/-- Texts in order, each once. -/
def sortedUnique (xs : List String) : List String :=
  (KeyMap.ofList (xs.map fun x => (x, ()))).keys

namespace Query

/-- The instant before which no event counts. -/
def lowerBound (q : Query) (m : Meter) : Option Instant := laterBound q.start m.since

/-- All subjects that the filters of a query name. -/
def filteredSubjects (q : Query) : List String :=
  sortedUnique (q.subjects ++ q.customers.flatMap Customer.subjects)

def subjectCondition (q : Query) : List Condition :=
  if q.subjects.isEmpty ∧ q.customers.isEmpty then []
  else if q.filteredSubjects.isEmpty then [.never]
  else [.subjectIn q.filteredSubjects]

/-- The filters on dimensions that the meter has. -/
def dimensionConditions (q : Query) (m : Meter) : List Condition :=
  q.filters.toList.filterMap fun f => (m.dimensions.get? f.1).map fun path => .dimension f.1 path f.2

def conditions (q : Query) (source : Source) (m : Meter) : List Condition :=
  let owner : Condition := match source with
    | .events => .eventType m.eventType
    | .numbers => .meterId m.id
  [.space m.space, owner] ++ ((q.lowerBound m).map .notBefore).toList ++
    (q.stop.map .before).toList ++ q.subjectCondition ++ q.dimensionConditions m

/-- The column of a name in the list of groups. -/
def groupColumn (q : Query) (m : Meter) (name : String) : Except Error GroupColumn :=
  if name = Meter.subjectDimension then .ok .subject
  else if name = Meter.customerDimension then
    if q.customers.isEmpty then .error (.query .customersMissing) else .ok .customer
  else if m.dimensions.contains name then .ok (.dimension name)
  else .error (.unknownDimension name)

/-- One column for each distinct name, in the order of first mention. -/
def groupColumns (q : Query) (m : Meter) : Except Error (List GroupColumn) :=
  q.groupBy.eraseDups.mapM (q.groupColumn m)

/-- Every filter must be on a dimension of the meter and well-formed. -/
def validateFilters (q : Query) (m : Meter) (maxDepth : Nat) : Except Error Unit :=
  q.filters.toList.forM fun f =>
    if m.dimensions.contains f.1 then
      match f.2.validate maxDepth with
      | .error e => .error (.filter e)
      | .ok () => .ok ()
    else .error (.unknownDimension f.1)

/-- Bounds that are both given must be in order. -/
def validateRange (q : Query) : Except Error Unit :=
  match q.start, q.stop with
  | some start, some stop =>
    if stop < start then .error (.query (.reversed start stop)) else .ok ()
  | _, _ => .ok ()

end Query

/-- The greatest number of windows that a query may list. -/
def windowLimit : Nat := 50000

/-- The windows of a range in microseconds; an empty range has one window that holds nothing. -/
def listedWindows (d : Dialect) (size : WindowSize) (z : Zone) (start stop : Option Instant) :
    Except Error (List (Int × Int)) :=
  match start, stop with
  | some start, some stop =>
    let windows := size.windows z start stop
    if windowLimit < windows.length then
      .error (.query (.tooManyWindows windows.length size windowLimit))
    else if windows.isEmpty then .ok [(start.micros, start.micros)]
    else .ok (windows.map fun w => (w.start.micros, w.stop.micros))
  | _, _ => .error (.query (.unboundedWindows size z.name d.name))

def Windowing.make (d : Dialect) (m : Meter) (q : Query) (z : Zone) : Except Error Windowing :=
  match q.window with
  | none => .ok .whole
  | some size =>
    if d.alignsZone z.name then .ok (.aligned size z)
    else (listedWindows d size z (q.lowerBound m) q.stop).map .listed

/-- The windows of a query: one over everything, windows that the database aligns, or a list. -/
theorem Windowing.make_cases {d : Dialect} {m : Meter} {q : Query} {z : Zone} {windowing : Windowing}
    (made : Windowing.make d m q z = .ok windowing) : q.window = none ∧ windowing = .whole ∨
      ∃ size, q.window = some size ∧ (windowing = .aligned size z ∨
        ∃ windows, listedWindows d size z (q.lowerBound m) q.stop = .ok windows ∧
          windowing = .listed windows) := by
  unfold Windowing.make at made
  split at made
  · rename_i none
    exact .inl ⟨none, (Except.ok.inj made).symm⟩
  · rename_i size some
    refine .inr ⟨size, some, ?_⟩
    split at made
    · exact .inl (Except.ok.inj made).symm
    · cases listed : listedWindows d size z (q.lowerBound m) q.stop with
      | error e =>
        rw [listed] at made
        cases made
      | ok windows =>
        rw [listed] at made
        exact .inr ⟨windows, rfl, (Except.ok.inj made).symm⟩

/-- The rows of a table that meet all of some conditions. -/
structure Selection where
  source : Source
  conditions : List Condition

structure Plan where
  meter : Meter
  selection : Selection
  windowing : Windowing
  columns : List GroupColumn
  customers : List Customer

/-- Compiles queries for one dialect. -/
structure Compiler where
  dialect : Dialect
  /-- How deep filters may nest. -/
  maxDepth : Nat

namespace Compiler

/-- The plan of a query over one of the tables, or the first fault of the meter or the query. -/
def planFrom (c : Compiler) (source : Source) (m : Meter) (q : Query) : Except Error Plan := do
  m.validate
  if source = .numbers ∧ ¬ m.aggregation.isNumeric then
    throw (.query (.notNumeric m.aggregation))
  let z ← Zone.request q.zoneName
  q.validateRange
  let columns ← q.groupColumns m
  q.validateFilters m c.maxDepth
  let windowing ← Windowing.make c.dialect m q z
  return ⟨m, ⟨source, q.conditions source m⟩, windowing, columns, q.customers⟩

/-- When a query has a plan, and which. -/
theorem planFrom_eq_ok {c : Compiler} {source : Source} {m : Meter} {q : Query} {p : Plan} :
    c.planFrom source m q = .ok p ↔ m.validate = .ok () ∧
      (source = .numbers → m.aggregation.isNumeric = true) ∧
      ∃ z columns windowing, Zone.request q.zoneName = .ok z ∧ q.validateRange = .ok () ∧
        q.groupColumns m = .ok columns ∧ q.validateFilters m c.maxDepth = .ok () ∧
        Windowing.make c.dialect m q z = .ok windowing ∧
        p = ⟨m, ⟨source, q.conditions source m⟩, windowing, columns, q.customers⟩ := by
  unfold planFrom
  cases m.validate with
  | error e => simp [bind, Except.bind]
  | ok _ =>
  by_cases refused : source = .numbers ∧ ¬ m.aggregation.isNumeric = true
  · simp [refused, bind, Except.bind, throw, throwThe, MonadExceptOf.throw]
  have answers : source = .numbers → m.aggregation.isNumeric = true := fun numbers =>
    Decidable.byContradiction fun other => refused ⟨numbers, other⟩
  rw [if_neg refused]
  cases Zone.request q.zoneName with
  | error e => simp [bind, Except.bind]
  | ok z =>
  cases q.validateRange with
  | error e => simp [bind, Except.bind]
  | ok _ =>
  cases q.groupColumns m with
  | error e => simp [bind, Except.bind]
  | ok columns =>
  cases q.validateFilters m c.maxDepth with
  | error e => simp [bind, Except.bind]
  | ok _ =>
  cases made : Windowing.make c.dialect m q z with
  | error e => simp [bind, Except.bind, made]
  | ok windowing =>
    simp only [bind, Except.bind, pure, Except.pure, made]
    constructor
    · intro planned
      exact ⟨trivial, answers, z, columns, windowing, rfl, trivial, rfl, trivial, made,
        (Except.ok.inj planned).symm⟩
    · rintro ⟨-, -, z', columns', windowing', ⟨⟩, -, ⟨⟩, -, made', rfl⟩
      rw [Except.ok.inj (made.symm.trans made')]

/-- The plan of a query over the table that answers for the meter. -/
def plan (c : Compiler) (m : Meter) (q : Query) : Except Error Plan :=
  c.planFrom (Source.ofMeter m) m q

end Compiler

namespace Query

/-- Whether windows would have to be listed but a bound for the list is missing. -/
def missesWindowBounds (d : Dialect) (m : Meter) (q : Query) : Except Error Bool := do
  let z ← Zone.request q.zoneName
  return q.window.isSome && !d.alignsZone z.name && ((q.lowerBound m).isNone || q.stop.isNone)

/-- The rows that a query reads, whatever its windows and groups are. -/
def selection (q : Query) (m : Meter) : Except Error Selection := do
  m.validate
  return ⟨Source.ofMeter m, q.conditions (Source.ofMeter m) m⟩

end Query

namespace Meter

/-- The events of a meter. -/
def events (m : Meter) : Selection := ⟨.events, [.space m.space, .eventType m.eventType]⟩

/-- The events of a meter in a range. -/
def eventsWithin (m : Meter) (start stop : Option Instant) : Except Error Selection := do
  m.validate
  match start, stop with
  | some start, some stop => if stop < start then throw (.query .subjectsReversed)
  | _, _ => pure ()
  let bounds : List Condition :=
    ((laterBound start m.since).map .notBefore).toList ++ (stop.map .before).toList
  return { m.events with conditions := m.events.conditions ++ bounds }

end Meter

/-- The copying of a meter's events into the table of numbers. -/
structure ChunkImport where
  meter : Meter
  /-- The storing times of the events. -/
  chunk : Period
  /-- Events stored from here on are left to live ingestion. -/
  cutover : Instant

def ChunkImport.make (m : Meter) (chunk : Period) (cutover : Instant) :
    Except Error ChunkImport := do
  m.validate
  if ¬ m.aggregation.isNumeric then throw (.query (.notImportable m.aggregation))
  return ⟨m, chunk, cutover⟩

theorem ChunkImport.make_eq_ok {m : Meter} {chunk : Period} {cutover : Instant} {i : ChunkImport} :
    ChunkImport.make m chunk cutover = .ok i ↔
      m.validate = .ok () ∧ m.aggregation.isNumeric = true ∧ i = ⟨m, chunk, cutover⟩ := by
  rw [ChunkImport.make]
  cases m.validate with
  | error e => simp [bind, Except.bind]
  | ok _ =>
    by_cases numeric : m.aggregation.isNumeric = true
    · simp [numeric, bind, Except.bind, pure, Except.pure, eq_comm]
    · simp [numeric, bind, Except.bind, throw, throwThe, MonadExceptOf.throw]

end Metering
