import Metering.Proofs.KeyMap
import Metering.Proofs.Query.Parameters
import Metering.Proofs.Sql.Blank

/-!
Meters that differ in the texts of their paths only. What they compile to has the same parameters and the
same tokens apart from the texts of literals (`Meter.OtherPaths.statements`), whatever quotes, backslashes
and question marks the paths hold.
-/
namespace Metering

open Sql

/-- Two results with the same error, or with values in a relation. -/
inductive Both {ε α β : Type} (related : α → β → Prop) : Except ε α → Except ε β → Prop where
  | error (e : ε) : Both related (.error e) (.error e)
  | ok {a : α} {b : β} (h : related a b) : Both related (.ok a) (.ok b)

theorem Both.map {ε α β γ δ : Type} {related : α → β → Prop} {related' : γ → δ → Prop} {f : α → γ}
    {g : β → δ} (kept : ∀ a b, related a b → related' (f a) (g b)) {x : Except ε α} {y : Except ε β}
    (h : Both related x y) : Both related' (x.map f) (y.map g) := by
  cases h with
  | error e => exact .error e
  | ok h => exact .ok (kept _ _ h)

theorem Both.of_eq {ε α : Type} {related : α → α → Prop} (all : ∀ a, related a a) {x y : Except ε α}
    (same : y = x) : Both related x y := by
  subst same
  cases y with
  | error e => exact .error e
  | ok a => exact .ok (all a)

/-- A meter, and the same one with other texts as its paths. -/
structure Meter.OtherPaths (m n : Meter) : Prop where
  space : n.space = m.space
  id : n.id = m.id
  slug : n.slug = m.slug
  aggregation : n.aggregation = m.aggregation
  eventType : n.eventType = m.eventType
  value : n.valuePath.isSome = m.valuePath.isSome
  dimensions : n.dimensions.keys = m.dimensions.keys
  since : n.since = m.since
  progress : n.progress = m.progress

namespace Dialect

/-- A path is a literal of its dimension. -/
theorem blank_dimension (d : Dialect) (source : Source) (name path : String) :
    (d.dimension source name path).blank = (d.dimension source name "").blank := by
  cases source with
  | events => simp [dimension]
  | numbers => rfl

end Dialect

namespace Condition

def withoutPath : Condition → Condition
  | .dimension name _ filter => .dimension name "" filter
  | c => c

theorem blank_condition? (d : Dialect) (source : Source) (c : Condition) :
    (d.condition? source c).map blank = (d.condition? source c.withoutPath).map blank := by
  cases c with
  | dimension name path filter =>
    rw [withoutPath, Dialect.condition?, Dialect.condition?, Filter.blank_condition?,
      Filter.blank_condition?, Dialect.blank_dimension]
  | _ => rfl

end Condition

namespace Dialect

theorem blank_allConditions (d : Dialect) (s : Selection) : (d.allConditions s).blank =
    join " AND " ((s.conditions.map Condition.withoutPath).filterMap fun c =>
      (d.condition? s.source c).map blank) := by
  rw [allConditions, blank_join, List.map_filterMap, List.filterMap_map]
  congr 2
  funext c
  exact c.blank_condition? d s.source

end Dialect

/-- Two selections that differ in the texts of paths. -/
structure Selection.OtherPaths (s s' : Selection) : Prop where
  source : s'.source = s.source
  conditions : s'.conditions.map Condition.withoutPath = s.conditions.map Condition.withoutPath

theorem Selection.OtherPaths.blank {s s' : Selection} (h : s.OtherPaths s') (d : Dialect) :
    (d.allConditions s').blank = (d.allConditions s).blank := by
  rw [Dialect.blank_allConditions, Dialect.blank_allConditions, h.source, h.conditions]

/-- Two plans that differ in the texts of paths. -/
structure Plan.OtherPaths (p p' : Plan) : Prop where
  meter : p.meter.OtherPaths p'.meter
  selection : p.selection.OtherPaths p'.selection
  windowing : p'.windowing = p.windowing
  columns : p'.columns = p.columns
  customers : p'.customers = p.customers

namespace Meter.OtherPaths

variable {m n : Meter} {q : Query} {d : Dialect}

theorem ofMeter (h : m.OtherPaths n) : Source.ofMeter n = Source.ofMeter m := by
  have numbers : n.usesNumbers = m.usesNumbers := by
    rw [Meter.usesNumbers, h.aggregation, h.progress, Meter.usesNumbers]
  rw [Source.ofMeter, numbers, Source.ofMeter]

theorem contains (h : m.OtherPaths n) (name : String) :
    n.dimensions.contains name = m.dimensions.contains name := by
  rw [KeyMap.contains_eq, KeyMap.contains_eq, h.dimensions]

/-- What is made of a path without looking at its text. -/
theorem map_get? (h : m.OtherPaths n) {α : Type} (name : String) (a : α) :
    (n.dimensions.get? name).map (fun _ => a) = (m.dimensions.get? name).map fun _ => a := by
  have same := h.contains name
  unfold KeyMap.contains at same
  cases here : n.dimensions.get? name <;> cases there : m.dimensions.get? name <;>
    simp [here, there] at same ⊢

theorem conditions (h : m.OtherPaths n) (q : Query) (source : Source) :
    (q.conditions source n).map Condition.withoutPath =
      (q.conditions source m).map Condition.withoutPath := by
  have lower : q.lowerBound n = q.lowerBound m := by rw [Query.lowerBound, h.since, Query.lowerBound]
  have filters : (q.dimensionConditions n).map Condition.withoutPath =
      (q.dimensionConditions m).map Condition.withoutPath := by
    simp only [Query.dimensionConditions, List.map_filterMap, Option.map_map, Function.comp_def,
      Condition.withoutPath, h.map_get?]
  simp only [Query.conditions, List.map_append, filters, lower, h.space, h.eventType, h.id]

theorem selection (h : m.OtherPaths n) (q : Query) (source : Source) :
    (Selection.mk source (q.conditions source m)).OtherPaths ⟨source, q.conditions source n⟩ :=
  ⟨rfl, h.conditions q source⟩

theorem groupColumns (h : m.OtherPaths n) (q : Query) : q.groupColumns n = q.groupColumns m := by
  have each : q.groupColumn n = q.groupColumn m := by
    funext name
    rw [Query.groupColumn, Query.groupColumn, h.contains]
  rw [Query.groupColumns, each, Query.groupColumns]

theorem validateFilters (h : m.OtherPaths n) (q : Query) (maxDepth : Nat) :
    q.validateFilters n maxDepth = q.validateFilters m maxDepth := by
  simp only [Query.validateFilters, h.contains]

theorem windowing (h : m.OtherPaths n) (q : Query) (z : Zone) :
    Windowing.make d n q z = Windowing.make d m q z := by
  simp only [Windowing.make, Query.lowerBound, h.since]

/-- Usable meters are planned alike: the paths are checked with the meter and not looked at again. -/
theorem planFrom (h : m.OtherPaths n) (valid : m.validate = .ok ()) (valid' : n.validate = .ok ())
    (c : Compiler) (source : Source) (q : Query) :
    Both Plan.OtherPaths (c.planFrom source m q) (c.planFrom source n q) := by
  simp only [Compiler.planFrom, valid, valid', h.aggregation, h.groupColumns, h.validateFilters,
    h.windowing, Bind.bind, Except.bind, pure, Except.pure]
  split
  · exact .error _
  cases Zone.request q.zoneName with
  | error e => exact .error e
  | ok z =>
  cases q.validateRange with
  | error e => exact .error e
  | ok _ =>
  cases q.groupColumns m with
  | error e => exact .error e
  | ok columns =>
  cases q.validateFilters m c.maxDepth with
  | error e => exact .error e
  | ok _ =>
  cases made : Windowing.make c.dialect m q z with
  | error e =>
    simp only [made]
    exact .error e
  | ok windowing =>
    simp only [made]
    exact .ok ⟨h, h.selection q source, rfl, rfl, rfl⟩

theorem blank_value (h : m.OtherPaths n) (source : Source) :
    (d.value source n).blank = (d.value source m).blank := by
  have same := h.value
  unfold Dialect.value
  rw [h.aggregation]
  cases source with
  | numbers => rfl
  | events =>
    cases here : n.valuePath with
    | none =>
      have there : m.valuePath = none := by simpa [here] using same.symm
      rw [there]
    | some path =>
      obtain ⟨path', there⟩ := Option.isSome_iff_exists.1 (same.symm.trans (by rw [here]; rfl))
      rw [there]
      cases m.aggregation <;> simp

/-- The dimensions of rows that are imported. -/
theorem blank_entries (h : m.OtherPaths n) :
    (d.buildMap (n.dimensions.toList.map fun e => (e.1, d.jsonText "data" e.2))).blank =
      (d.buildMap (m.dimensions.toList.map fun e => (e.1, d.jsonText "data" e.2))).blank := by
  have named (m : Meter) : ((m.dimensions.toList.map fun e => (e.1, d.jsonText "data" e.2)).map
      fun e => (e.1, e.2.blank)) =
        m.dimensions.keys.map fun name => (name, d.jsonText "data" "") := by
    simp [KeyMap.keys]
  rw [Dialect.blank_buildMap, named, h.dimensions, ← named, ← Dialect.blank_buildMap]

end Meter.OtherPaths

namespace Plan.OtherPaths

variable {p p' : Plan} {d : Dialect}

theorem blank_group (h : p.OtherPaths p') (column : GroupColumn) :
    (d.group p' column).blank = (d.group p column).blank := by
  cases column with
  | subject => rfl
  | customer => rw [Dialect.group, h.customers, Dialect.group]
  | dimension name =>
    have shown (p : Plan) : (d.group p (.dimension name)).blank =
        ((p.meter.dimensions.get? name).map fun _ =>
          (d.dimension p.selection.source name "").blank).getD d.nullText.blank := by
      rw [Dialect.group]
      cases p.meter.dimensions.get? name with
      | none => rfl
      | some path => exact d.blank_dimension p.selection.source name path
    rw [shown, shown, h.selection.source, h.meter.map_get?]

theorem blank_groupColumns (h : p.OtherPaths p') :
    (d.groupColumns p').map blank = (d.groupColumns p).map blank := by
  simp only [Dialect.groupColumns, List.map_map, Function.comp_def, blank_append, h.blank_group,
    h.columns]

theorem groupNames (h : p.OtherPaths p') : Dialect.groupNames p' = Dialect.groupNames p := by
  rw [Dialect.groupNames, Dialect.groupNames, h.windowing, h.columns]

theorem blank_query (h : p.OtherPaths p') : (d.query p').blank = (d.query p).blank := by
  have inner : (d.innerQuery p').blank = (d.innerQuery p).blank := by
    simp only [Dialect.innerQuery, blank_append, blank_list, List.map_append, List.map_cons,
      List.map_nil, Dialect.blank_aggregate, h.blank_groupColumns, h.meter.blank_value,
      h.meter.aggregation, h.selection.source, h.windowing, h.selection.blank, h.groupNames]
  rw [Dialect.query, Dialect.blank_wrapQuery, inner, h.columns, ← Dialect.blank_wrapQuery,
    Dialect.query]

theorem query (h : p.OtherPaths p') :
    SameTokens d (d.statement (d.query p)) (d.statement (d.query p')) :=
  (d.carries_query p).sameTokens (d.carries_query p') h.blank_query.symm

end Plan.OtherPaths

/-- Two imports of a chunk whose meters differ in the texts of paths. -/
structure ChunkImport.OtherPaths (i i' : ChunkImport) : Prop where
  meter : i.meter.OtherPaths i'.meter
  chunk : i'.chunk = i.chunk
  cutover : i'.cutover = i.cutover

namespace ChunkImport.OtherPaths

variable {i i' : ChunkImport} {d : Dialect}

/-- What is deleted is told without paths. -/
theorem chunkDelete (h : i.OtherPaths i') : d.chunkDelete i' = d.chunkDelete i := by
  simp only [Dialect.chunkDelete, h.meter.space, h.meter.id, h.chunk]

theorem chunkInsert (h : i.OtherPaths i') :
    SameTokens d (d.statement (d.chunkInsert i)) (d.statement (d.chunkInsert i')) := by
  have same : (d.chunkInsert i').blank = (d.chunkInsert i).blank := by
    unfold Dialect.chunkInsert
    simp only [blank_append, h.meter.space, h.meter.id, h.meter.eventType, h.chunk, h.cutover,
      h.meter.blank_value]
    rw [h.meter.blank_entries]
  exact (d.carries_chunkInsert i).sameTokens (d.carries_chunkInsert i') same.symm

end ChunkImport.OtherPaths

theorem Selection.OtherPaths.timeSpan {s s' : Selection} {d : Dialect} (h : s.OtherPaths s') :
    SameTokens d (d.statement (d.timeSpan s)) (d.statement (d.timeSpan s')) := by
  have same : (d.timeSpan s').blank = (d.timeSpan s).blank := by
    simp only [Dialect.timeSpan, blank_append, h.source, h.blank]
  exact (d.carries_timeSpan s).sameTokens (d.carries_timeSpan s') same.symm

/--
Whatever is asked of two meters, both are refused with the same error, or their statements have the same
parameters and the same tokens apart from the texts of literals.
-/
structure SameStatements (m n : Meter) : Prop where
  compileFrom : ∀ (c : Compiler) (source : Source) (q : Query), Both (SameTokens c.dialect)
    ((c.compileFrom source m q).map Compiled.statement)
    ((c.compileFrom source n q).map Compiled.statement)
  compile : ∀ (c : Compiler) (q : Query), Both (SameTokens c.dialect)
    ((c.compile m q).map Compiled.statement) ((c.compile n q).map Compiled.statement)
  timeSpan : ∀ (d : Dialect) (q : Query), Both (SameTokens d)
    ((q.selection m).map fun s => d.statement (d.timeSpan s))
    ((q.selection n).map fun s => d.statement (d.timeSpan s))
  subjects : ∀ (d : Dialect) (start stop : Option Instant), Both (SameTokens d)
    ((m.eventsWithin start stop).map fun s => d.statement (d.subjects s))
    ((n.eventsWithin start stop).map fun s => d.statement (d.subjects s))
  earliestStored : ∀ d : Dialect, SameTokens d (d.statement (d.earliestStored m.events))
    (d.statement (d.earliestStored n.events))
  chunkDelete : ∀ (d : Dialect) (chunk : Period) (cutover : Instant), Both (SameTokens d)
    ((ChunkImport.make m chunk cutover).map fun i => d.statement (d.chunkDelete i))
    ((ChunkImport.make n chunk cutover).map fun i => d.statement (d.chunkDelete i))
  chunkInsert : ∀ (d : Dialect) (chunk : Period) (cutover : Instant), Both (SameTokens d)
    ((ChunkImport.make m chunk cutover).map fun i => d.statement (d.chunkInsert i))
    ((ChunkImport.make n chunk cutover).map fun i => d.statement (d.chunkInsert i))

namespace Meter.OtherPaths

variable {m n : Meter}

theorem compileFrom (h : m.OtherPaths n) (valid : m.validate = .ok ()) (valid' : n.validate = .ok ())
    (c : Compiler) (source : Source) (q : Query) : Both (SameTokens c.dialect)
      ((c.compileFrom source m q).map Compiled.statement)
      ((c.compileFrom source n q).map Compiled.statement) := by
  have sent (m : Meter) : (c.compileFrom source m q).map Compiled.statement =
      (c.planFrom source m q).map fun p => c.dialect.statement (c.dialect.query p) := by
    rw [Compiler.compileFrom]
    cases c.planFrom source m q <;> rfl
  rw [sent, sent]
  exact (h.planFrom valid valid' c source q).map fun _ _ plans => plans.query

theorem make (h : m.OtherPaths n) (valid : m.validate = .ok ()) (valid' : n.validate = .ok ())
    (chunk : Period) (cutover : Instant) : Both ChunkImport.OtherPaths
      (ChunkImport.make m chunk cutover) (ChunkImport.make n chunk cutover) := by
  simp only [ChunkImport.make, valid, valid', h.aggregation, Bind.bind, Except.bind, pure, Except.pure]
  split
  · exact .error _
  · exact .ok ⟨h, rfl, rfl⟩

/-- The events of a meter are told without paths. -/
theorem events (h : m.OtherPaths n) : n.events = m.events := by
  simp only [Meter.events, h.space, h.eventType]

theorem eventsWithin (h : m.OtherPaths n) (valid : m.validate = .ok ()) (valid' : n.validate = .ok ())
    (start stop : Option Instant) : n.eventsWithin start stop = m.eventsWithin start stop := by
  simp only [Meter.eventsWithin, valid, valid', h.events, h.since]

theorem statements (h : m.OtherPaths n) (valid : m.validate = .ok ()) (valid' : n.validate = .ok ()) :
    SameStatements m n where
  compileFrom := h.compileFrom valid valid'
  compile c q := by
    have same := h.compileFrom valid valid' c (Source.ofMeter m) q
    rw [Compiler.compile, Compiler.compile, h.ofMeter]
    exact same
  timeSpan d q := by
    have selected : Both Selection.OtherPaths (q.selection m) (q.selection n) := by
      simp only [Query.selection, valid, valid', h.ofMeter]
      exact .ok (h.selection q (Source.ofMeter m))
    exact selected.map fun _ _ selections => selections.timeSpan
  subjects d start stop :=
    .of_eq (fun _ => ⟨rfl, rfl⟩) (congrArg _ (h.eventsWithin valid valid' start stop))
  earliestStored d := by
    rw [h.events]
    exact ⟨rfl, rfl⟩
  chunkDelete d chunk cutover := by
    refine (h.make valid valid' chunk cutover).map fun i i' imports => ?_
    rw [imports.chunkDelete]
    exact ⟨rfl, rfl⟩
  chunkInsert d chunk cutover :=
    (h.make valid valid' chunk cutover).map fun _ _ imports => imports.chunkInsert

end Meter.OtherPaths

/--
No literal can be escaped from. A spelled literal is read as one literal with its value, whatever comes
after it, if that is not a quote for the first dialect; and usable meters that differ in the texts of
their paths only have the same statements up to the texts of literals.
-/
theorem literals_closed :
    (∀ (d : Dialect) (s : String) (rest : List Char), (d = .duckdb → rest.head? ≠ some '\'') →
      understood d ((d.quote s).toList ++ rest) = .literal s.toList :: understood d rest) ∧
    ∀ m n : Meter, m.validate = .ok () → n.validate = .ok () → m.OtherPaths n → SameStatements m n :=
  ⟨fun _ s _ ends => understood_quote s ends, fun _ _ valid valid' h => h.statements valid valid'⟩

/-- A meter with harmless paths in place of those of `awkward`. -/
def unremarkable : Meter :=
  { awkward with valuePath := some "$.n", dimensions := .ofList [("model", "$.model")] }

theorem literals_closed_awkward :
    understood .duckdb ((Dialect.duckdb.quote "o'clock").toList ++ [',']) =
      .literal "o'clock".toList :: understood .duckdb [','] ∧
    understood .clickhouse ((Dialect.clickhouse.quote "a\\'?").toList ++ ['\'']) =
      .literal "a\\'?".toList :: understood .clickhouse ['\''] ∧
    SameStatements awkward unremarkable := by
  obtain ⟨literals, statements⟩ := literals_closed
  refine ⟨?_, ?_, ?_⟩
  · exact literals .duckdb "o'clock" [','] fun _ => by decide
  · exact literals .clickhouse "a\\'?" ['\''] fun h => by cases h
  · exact statements awkward unremarkable rfl rfl
      ⟨rfl, rfl, rfl, rfl, rfl, rfl, by decide +kernel, rfl, rfl⟩

end Metering
