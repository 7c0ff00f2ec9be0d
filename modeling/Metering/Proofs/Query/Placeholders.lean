import Metering.Proofs.Query.Columns
import Metering.Proofs.Query.Parameters
import Metering.Proofs.Sql.Counter

/-!
The count of placeholders against the parameters of the statements about a meter. The two agree for the
second dialect. For the first one they agree if no backslash in a path of the meter stands where the count
lets it take a quote of its literal along (`placeholders_counted`); a path that ends in a backslash makes
the count miss every placeholder after it (`placeholders_missed`).
-/
namespace Metering

open Sql

/-- Whether the count of placeholders passes over the paths in literals of the first dialect. -/
def PathsPass (paths : List String) : Prop := ∀ path ∈ paths, seesQuotes false path.toList = true

theorem PathsPass.passes {paths : List String} (h : PathsPass paths) {path : String}
    (mem : path ∈ paths) : Passes .duckdb path := (passes_duckdb_iff path).2 (h path mem)

namespace Dialect

variable {e value time field : Sql}

theorem passes_of_seesQuotes {value : String} (sees : seesQuotes false value.toList = true) :
    Passes .duckdb value := (passes_duckdb_iff value).2 sees

theorem passable_jsonText {column : Sql} {path : String} (h : Passable .duckdb column)
    (passes : Passes .duckdb path) : Passable .duckdb (Dialect.duckdb.jsonText column path) := by
  simp [jsonText, h, passes]

theorem passable_finiteNumber (h : Passable .duckdb e) :
    Passable .duckdb (Dialect.duckdb.finiteNumber e) := by
  simp [finiteNumber, h]

theorem passable_emptyAsNull (h : Passable .duckdb e) :
    Passable .duckdb (Dialect.duckdb.emptyAsNull e) := by
  have empty : Passes .duckdb "" := passes_of_seesQuotes (by decide)
  simp [emptyAsNull, h, empty]

theorem passable_aggregate (a : Aggregation) (hv : Passable .duckdb value)
    (ht : Passable .duckdb time) : Passable .duckdb (Dialect.duckdb.aggregate a value time) := by
  cases a <;> simp [aggregate, hv, ht]

theorem passable_windowColumns (w : Windowing) :
    ∀ column ∈ Dialect.duckdb.windowColumns w, Passable .duckdb column := by
  have minute : Passes .duckdb "minute" := passes_of_seesQuotes (by decide)
  have unit (size : WindowSize) : Passes .duckdb (unit size) :=
    passes_of_seesQuotes (by cases size <;> decide)
  have interval (size : WindowSize) : Passable .duckdb (interval .duckdb size) := by
    cases size <;> simp [interval]
  cases w with
  | whole => simp [windowColumns, firstMinute, lastMinuteEnd, minute]
  | aligned size zone => simp [windowColumns, windowStart, windowEnd, unit, interval]
  | listed windows => simp [windowColumns]

theorem passable_windowJoin (windows : List (Int × Int)) :
    Passable .duckdb (Dialect.duckdb.windowJoin "time" windows) := by
  have rows : ∀ row ∈ windows.map fun w : Int × Int =>
      plain ("(" ++ toString w.1 ++ ", " ++ toString w.2 ++ ")"), Passable .duckdb row := by
    intro row mem
    obtain ⟨w, -, rfl⟩ := List.mem_map.1 mem
    exact passable_plain _
  simp only [windowJoin, micros, passable_append, passable_plain, passable_list, passable_call]
  exact ⟨⟨⟨⟨⟨⟨trivial, rows⟩, trivial⟩, by simp⟩, trivial⟩, by simp⟩, trivial⟩

theorem ne_backslash_of_isIdentifier {name : String} (h : Meter.isIdentifier name = true) :
    ∀ c ∈ name.toList, c ≠ '\\' := by
  simp only [Meter.isIdentifier, Bool.and_eq_true, List.all_eq_true] at h
  rintro c mem rfl
  exact absurd (h.2 _ mem) (by decide)

theorem passes_name {name : String} (h : Meter.isIdentifier name = true) : Passes .duckdb name :=
  passes_of_seesQuotes (seesQuotes_of_no_backslash (ne_backslash_of_isIdentifier h))

/-- The path of a dimension in the table of numbers. -/
theorem passes_key {name : String} (h : Meter.isIdentifier name = true) :
    Passes .duckdb ("$." ++ name) := by
  refine passes_of_seesQuotes (seesQuotes_of_no_backslash fun c mem => ?_)
  rcases List.mem_append.1 (String.toList_append ▸ mem) with mem | mem
  · rintro rfl
    exact absurd mem (by decide)
  · exact ne_backslash_of_isIdentifier h c mem

end Dialect

namespace Filter

variable {d : Dialect} {field : Sql}

theorem passable_binary {operator : String} {operand : Sql} (hf : Passable d field)
    (h : Passable d operand) : Passable d (binary field operator operand) := by
  simp [binary, hf, h]

theorem passable_bindList (d : Dialect) (vs : List String) : Passable d (bindList d vs) := by
  have each : ∀ item ∈ vs.map (Bindable.bind d), Passable d item := by
    intro item mem
    obtain ⟨v, -, rfl⟩ := List.mem_map.1 mem
    exact passable_bind _
  simp only [bindList, passable_append, passable_plain, passable_list]
  exact ⟨⟨trivial, each⟩, trivial⟩

theorem passable_combine {connective : String} {qs : List Sql} (h : ∀ q ∈ qs, Passable d q) :
    ∀ q ∈ combine connective qs, Passable d q := by
  match qs with
  | [] => simp [combine]
  | [q] => simpa [combine] using h
  | q :: r :: rest => simpa [combine] using h

mutual

/-- The literals of a condition are those of its field. -/
theorem passable_condition? (hf : Passable d field) :
    (f : TextFilter) → ∀ q ∈ condition? d field f, Passable d q
  | mk cs => passable_firstCondition? hf cs

theorem passable_firstCondition? (hf : Passable d field) :
    (cs : List (Clause String)) → ∀ q ∈ firstCondition? d field cs, Passable d q
  | [] => by simp [firstCondition?]
  | c :: _ => passable_clauseCondition? hf c

theorem passable_clauseCondition? (hf : Passable d field) :
    (c : Clause String) → ∀ q ∈ clauseCondition? d field c, Passable d q
  | .comparison c v => by
    rintro q ⟨⟩
    exact passable_binary hf (passable_bind _)
  | .pattern p text => by
    rintro q ⟨⟩
    exact passable_binary hf (passable_bind _)
  | .within vs => by
    cases vs with
    | nil =>
      rintro q ⟨⟩
      exact passable_plain _
    | cons v vs =>
      rintro q ⟨⟩
      exact passable_binary hf (passable_bindList d (v :: vs))
  | .notWithin vs => by
    cases vs with
    | nil => simp [clauseCondition?]
    | cons v vs =>
      rintro q ⟨⟩
      exact passable_binary hf (passable_bindList d (v :: vs))
  | .all fs => passable_combine (passable_conditions hf fs)
  | .any fs => passable_combine (passable_conditions hf fs)

theorem passable_conditions (hf : Passable d field) :
    (fs : List TextFilter) → ∀ q ∈ conditions d field fs, Passable d q
  | [] => by simp [conditions]
  | f :: fs => by
    intro q mem
    rcases List.mem_append.1 mem with first | rest
    · exact passable_condition? hf f q (by simpa using first)
    · exact passable_conditions hf fs q rest

end

end Filter

section Meters

variable {m : Meter} {source : Source}

theorem Meter.isIdentifier_of_validate (valid : m.validate = .ok ()) {name path : String}
    (known : m.dimensions.get? name = some path) : Meter.isIdentifier name = true := by
  have none : m.fault? = none := by
    unfold validate at valid
    split at valid
    · exact absurd valid (by simp)
    · assumption
  simp only [Meter.fault?, Option.orElse_eq_orElse, Option.orElse_eq_or, Option.or_eq_none_iff,
    List.findSome?_eq_none_iff] at none
  have faultless := none.2.2 (name, path) ((m.dimensions.mem_toList_iff name path).2 known)
  unfold Meter.dimensionFault? at faultless
  split at faultless
  · exact absurd faultless (by simp)
  · rename_i named
    exact not_not.1 named

/-- The paths of the dimensions with some names. -/
def Meter.pathsOf (m : Meter) (names : List String) : List String := names.filterMap m.dimensions.get?

theorem Meter.mem_pathsOf {names : List String} {name path : String} (named : name ∈ names)
    (known : m.dimensions.get? name = some path) : path ∈ m.pathsOf names :=
  List.mem_filterMap.2 ⟨name, named, known⟩

theorem Meter.passable_value (paths : source = .events → PathsPass m.valuePath.toList) :
    Passable .duckdb (Dialect.duckdb.value source m) := by
  cases source with
  | numbers => simp [Dialect.value]
  | events =>
    have text {path : String} (is : m.valuePath = some path) :
        Passable .duckdb (Dialect.duckdb.jsonText "data" path) :=
      Dialect.passable_jsonText (passable_plain _) ((paths rfl).passes (by simp [is]))
    unfold Dialect.value
    split
    · contradiction
    · simp [Dialect.constantOne]
    · simp [Dialect.constantOne]
    · rename_i is
      exact Dialect.passable_emptyAsNull (text is)
    · rename_i is _ _
      exact Dialect.passable_finiteNumber (text is)

/-- The table of numbers is read without paths: only the name of a dimension is spelled. -/
theorem Meter.passable_dimension (valid : m.validate = .ok ()) {name path : String}
    (known : m.dimensions.get? name = some path) (passes : source = .events → Passes .duckdb path) :
    Passable .duckdb (Dialect.duckdb.dimension source name path) := by
  cases source with
  | numbers =>
    exact Dialect.passable_emptyAsNull (Dialect.passable_jsonText (passable_plain _)
      (Dialect.passes_key (isIdentifier_of_validate valid known)))
  | events =>
    exact Dialect.passable_emptyAsNull (Dialect.passable_jsonText (passable_plain _) (passes rfl))

/-- Of the conditions only those on dimensions hold literals. -/
theorem Dialect.passable_allConditions {s : Selection}
    (h : ∀ name path filter, .dimension name path filter ∈ s.conditions →
      Passable .duckdb (Dialect.duckdb.dimension s.source name path)) :
    Passable .duckdb (Dialect.duckdb.allConditions s) := by
  rw [Dialect.allConditions, passable_join]
  intro item mem
  obtain ⟨c, held, made⟩ := List.mem_filterMap.1 mem
  cases c with
  | dimension name path filter =>
    exact Filter.passable_condition? (h name path filter held) filter item made
  | _ =>
    cases made
    simp [columnIs, instantBound, bindInstant, Filter.never]

theorem Query.known_of_mem_conditions {q : Query} {name path : String} {filter : TextFilter}
    (mem : Condition.dimension name path filter ∈ q.conditions source m) :
    name ∈ q.filters.keys ∧ m.dimensions.get? name = some path := by
  have subjects : Condition.dimension name path filter ∉ q.subjectCondition := by
    unfold subjectCondition
    split
    · simp
    · split <;> simp
  simp only [conditions, List.mem_append, List.mem_cons, List.not_mem_nil, or_false, subjects,
    reduceCtorEq, Option.mem_toList, Option.map_eq_some_iff, and_false, exists_false, false_or] at mem
  rcases mem with owner | mem
  · cases source <;> exact absurd owner (by simp)
  obtain ⟨f, held, made⟩ := List.mem_filterMap.1 mem
  obtain ⟨path', known, is⟩ := Option.map_eq_some_iff.1 made
  cases is
  exact ⟨List.mem_map.2 ⟨f, held, rfl⟩, known⟩

theorem Query.passable_conditions {q : Query} (valid : m.validate = .ok ())
    (paths : source = .events → PathsPass (m.pathsOf q.filters.keys)) :
    Passable .duckdb (Dialect.duckdb.allConditions ⟨source, q.conditions source m⟩) := by
  refine Dialect.passable_allConditions fun name path filter mem => ?_
  obtain ⟨named, known⟩ := known_of_mem_conditions mem
  exact Meter.passable_dimension valid known fun events =>
    (paths events).passes (Meter.mem_pathsOf named known)

end Meters

namespace Dialect

theorem passable_customer (customers : List Customer) :
    Passable .duckdb (Dialect.duckdb.customer customers) := by
  have branches : ∀ branch ∈ (customers.filter fun c => ¬ c.subjects.isEmpty).map customerBranch,
      Passable .duckdb branch := by
    intro branch mem
    obtain ⟨c, -, rfl⟩ := List.mem_map.1 mem
    simp [customerBranch]
  unfold customer
  dsimp only
  split
  · simp [nullText]
  · simp only [passable_append, passable_plain, passable_join, nullText, true_and, and_true]
    exact branches

variable {p : Plan}

theorem passable_group {column : GroupColumn} (h : ∀ name path, column = .dimension name →
      p.meter.dimensions.get? name = some path →
        Passable .duckdb (Dialect.duckdb.dimension p.selection.source name path)) :
    Passable .duckdb (Dialect.duckdb.group p column) := by
  cases column with
  | subject => exact passable_emptyAsNull (passable_plain _)
  | customer => exact passable_customer p.customers
  | dimension name =>
    simp only [group]
    split
    · rename_i path known
      exact h name path rfl known
    · exact passable_plain _

theorem passable_query (value : Passable .duckdb (Dialect.duckdb.value p.selection.source p.meter))
    (groups : ∀ column ∈ p.columns, Passable .duckdb (Dialect.duckdb.group p column))
    (conditions : Passable .duckdb (Dialect.duckdb.allConditions p.selection)) :
    Passable .duckdb (Dialect.duckdb.query p) := by
  have aggregate := passable_aggregate p.meter.aggregation value (passable_plain "time")
  have columns : ∀ column ∈ Dialect.duckdb.windowColumns p.windowing ++
      [Dialect.duckdb.aggregate p.meter.aggregation
        (Dialect.duckdb.value p.selection.source p.meter) "time" ++ " AS meter_value"] ++
      Dialect.duckdb.groupColumns p, Passable .duckdb column := by
    intro column mem
    rcases List.mem_append.1 mem with mem | mem
    · rcases List.mem_append.1 mem with mem | mem
      · exact passable_windowColumns p.windowing column mem
      · rw [List.mem_singleton.1 mem]
        exact passable_append.2 ⟨aggregate, passable_plain _⟩
    · obtain ⟨c, held, rfl⟩ := List.mem_map.1 mem
      exact passable_append.2 ⟨groups c.1 (List.fst_mem_of_mem_zipIdx held), passable_plain _⟩
  show Passable .duckdb (Dialect.duckdb.innerQuery p)
  unfold innerQuery
  simp only [passable_append, passable_plain, passable_list, true_and, and_true]
  refine ⟨⟨⟨columns, ?_⟩, conditions⟩, ?_⟩
  · split
    · simp [passable_windowJoin]
    · exact passable_nil
  · split
    · exact passable_nil
    · exact passable_plain _

theorem passable_timeSpan {s : Selection} (h : Passable .duckdb (Dialect.duckdb.allConditions s)) :
    Passable .duckdb (Dialect.duckdb.timeSpan s) := by
  simp [timeSpan, micros, h]

theorem passable_subjects {s : Selection} (h : Passable .duckdb (Dialect.duckdb.allConditions s)) :
    Passable .duckdb (Dialect.duckdb.subjects s) := by
  simp [subjects, h]

theorem passable_storedIn (chunk : Period) : Passable .duckdb (Dialect.duckdb.storedIn chunk) := by
  simp [storedIn, instantBound, bindInstant]

theorem passable_chunkDelete (i : ChunkImport) :
    Passable .duckdb (Dialect.duckdb.chunkDelete i) := by
  simp [chunkDelete, deleteRows, columnIs, passable_storedIn]

theorem passable_buildMap {entries : List (String × Sql)}
    (h : ∀ e ∈ entries, Passes .duckdb e.1 ∧ Passable .duckdb e.2) :
    Passable .duckdb (Dialect.duckdb.buildMap entries) := by
  have args : ∀ arg ∈ entries.flatMap fun e => [literal e.1, e.2], Passable .duckdb arg := by
    intro arg mem
    obtain ⟨e, held, mem⟩ := List.mem_flatMap.1 mem
    rcases List.mem_cons.1 mem with rfl | mem
    · exact (passable_literal e.1).2 (h e held).1
    · rw [List.mem_singleton.1 mem]
      exact (h e held).2
  cases entries with
  | nil => exact (passable_literal _).2 (passes_of_seesQuotes (by decide))
  | cons e entries => exact (passable_cast _ _).2 ((passable_call _ _).2 args)

theorem passable_chunkInsert {i : ChunkImport} (valid : i.meter.validate = .ok ())
    (paths : PathsPass (i.meter.valuePath.toList ++ i.meter.pathsOf i.meter.dimensions.keys)) :
    Passable .duckdb (Dialect.duckdb.chunkInsert i) := by
  obtain ⟨valuePath, others⟩ := List.forall_mem_append.1 paths
  have entries : Passable .duckdb (Dialect.duckdb.buildMap (i.meter.dimensions.toList.map fun e =>
      (e.1, Dialect.duckdb.jsonText "data" e.2))) := by
    refine passable_buildMap fun e mem => ?_
    obtain ⟨⟨name, path⟩, held, rfl⟩ := List.mem_map.1 mem
    have known := (i.meter.dimensions.mem_toList_iff name path).1 held
    have named : name ∈ i.meter.dimensions.keys := List.mem_map.2 ⟨(name, path), held, rfl⟩
    exact ⟨passes_name (Meter.isIdentifier_of_validate valid known),
      passable_jsonText (passable_plain _)
        (PathsPass.passes others (Meter.mem_pathsOf named known))⟩
  have value : Passable .duckdb (Dialect.duckdb.value .events i.meter) :=
    Meter.passable_value fun _ => valuePath
  simp [chunkInsert, assumeNotNull, columnIs, instantBound, bindInstant, passable_storedIn, value,
    entries]

end Dialect

section Counted

variable {d : Dialect} {m : Meter} {q : Query}

theorem Compiler.counted_compileFrom {maxDepth : Nat} {source : Source} {compiled : Compiled}
    (made : (Compiler.mk d maxDepth).compileFrom source m q = .ok compiled)
    (paths : d = .duckdb → source = .events →
      PathsPass (m.valuePath.toList ++ m.pathsOf (q.groupBy ++ q.filters.keys))) :
    compiled.statement.Counted := by
  obtain ⟨p, planned, rfl⟩ := compileFrom_eq_ok.1 made
  obtain ⟨valid, grouped, -, meter, -, selection⟩ := planFrom_parts planned
  refine (d.carries_query p).counted ?_
  rintro rfl
  refine Dialect.passable_query ?_ ?_ ?_
  · rw [meter, selection]
    exact Meter.passable_value fun events => (List.forall_mem_append.1 (paths rfl events)).1
  · intro column mem
    refine Dialect.passable_group ?_
    rintro name path rfl known
    rw [meter] at known
    rw [selection]
    refine Meter.passable_dimension valid known fun events => ?_
    have named : name ∈ q.groupBy ++ q.filters.keys :=
      List.mem_append.2 (.inl (Query.dimension_mem_columns grouped |>.1 mem).1)
    exact (paths rfl events).passes (List.mem_append.2 (.inr (Meter.mem_pathsOf named known)))
  · rw [selection]
    refine Query.passable_conditions valid fun events path mem => ?_
    refine paths rfl events path (List.mem_append.2 (.inr ?_))
    obtain ⟨name, named, known⟩ := List.mem_filterMap.1 mem
    exact Meter.mem_pathsOf (List.mem_append.2 (.inr named)) known

theorem Query.counted_timeSpan {s : Selection} (made : q.selection m = .ok s)
    (paths : d = .duckdb → s.source = .events → PathsPass (m.pathsOf q.filters.keys)) :
    (d.statement (d.timeSpan s)).Counted := by
  obtain ⟨valid, rfl⟩ := selection_ok made
  refine (d.carries_timeSpan _).counted ?_
  rintro rfl
  exact Dialect.passable_timeSpan (passable_conditions valid (paths rfl))

/-- The conditions on the subjects of a meter hold no literal. -/
theorem Meter.counted_subjects {start stop : Option Instant} {s : Selection}
    (made : m.eventsWithin start stop = .ok s) : (d.statement (d.subjects s)).Counted := by
  refine (d.carries_subjects s).counted ?_
  rintro rfl
  refine Dialect.passable_subjects (Dialect.passable_allConditions fun name path filter mem => ?_)
  rw [eventsWithin_conditions made] at mem
  simp [events] at mem

theorem ChunkImport.counted_delete (d : Dialect) (i : ChunkImport) :
    (d.statement (d.chunkDelete i)).Counted := by
  refine (d.carries_chunkDelete i).counted ?_
  rintro rfl
  exact Dialect.passable_chunkDelete i

theorem ChunkImport.counted_insert {i : ChunkImport} (valid : i.meter.validate = .ok ())
    (paths : d = .duckdb →
      PathsPass (i.meter.valuePath.toList ++ i.meter.pathsOf i.meter.dimensions.keys)) :
    (d.statement (d.chunkInsert i)).Counted := by
  refine (d.carries_chunkInsert i).counted ?_
  rintro rfl
  exact Dialect.passable_chunkInsert valid (paths rfl)

end Counted

/--
The count of placeholders is the number of parameters in every statement: the query of a meter over one of
the tables, the span of the events that match a query, the subjects of a meter, and the deletion and the
insertion that import a chunk. For the first dialect the count has to pass over the paths that the statement
spells; over the table of numbers it spells none.
-/
theorem placeholders_counted (d : Dialect) (m : Meter) :
    (∀ (maxDepth : Nat) (source : Source) (q : Query) (compiled : Compiled),
      (Compiler.mk d maxDepth).compileFrom source m q = .ok compiled →
        (d = .duckdb → source = .events →
          PathsPass (m.valuePath.toList ++ m.pathsOf (q.groupBy ++ q.filters.keys))) →
        compiled.statement.Counted) ∧
    (∀ (q : Query) (s : Selection), q.selection m = .ok s →
      (d = .duckdb → s.source = .events → PathsPass (m.pathsOf q.filters.keys)) →
      (d.statement (d.timeSpan s)).Counted) ∧
    (∀ (start stop : Option Instant) (s : Selection), m.eventsWithin start stop = .ok s →
      (d.statement (d.subjects s)).Counted) ∧
    ∀ (chunk : Period) (cutover : Instant) (i : ChunkImport),
      ChunkImport.make m chunk cutover = .ok i →
        (d.statement (d.chunkDelete i)).Counted ∧
        ((d = .duckdb → PathsPass (m.valuePath.toList ++ m.pathsOf m.dimensions.keys)) →
          (d.statement (d.chunkInsert i)).Counted) := by
  refine ⟨?_, ?_, ?_, ?_⟩
  · intro maxDepth source q compiled made paths
    exact Compiler.counted_compileFrom made paths
  · intro q s made paths
    exact Query.counted_timeSpan made paths
  · intro start stop s made
    exact Meter.counted_subjects made
  · intro chunk cutover i made
    obtain ⟨valid, is⟩ := ChunkImport.make_ok made
    have meter : i.meter = m := congrArg ChunkImport.meter is
    rw [← meter] at valid ⊢
    exact ⟨ChunkImport.counted_delete d i, ChunkImport.counted_insert valid⟩

/-- A meter with quotes and question marks in its paths, and with backslashes that come in pairs. -/
def paired : Meter := { awkward with dimensions := .ofList [("model", "$.a\\\\'?")] }

theorem placeholders_counted_paired :
    (∃ compiled, (Compiler.mk .duckdb 5).compileFrom .events paired awkwardQuery = .ok compiled ∧
      PathsPass ["$.o'clock?", "$.a\\\\'?"] ∧ compiled.statement.Counted) ∧
    (∃ s, awkwardQuery.selection paired = .ok s ∧
      (Dialect.duckdb.statement (Dialect.duckdb.timeSpan s)).Counted) ∧
    (∃ s, paired.eventsWithin (some .epoch) none = .ok s ∧
      (Dialect.duckdb.statement (Dialect.duckdb.subjects s)).Counted) ∧
    ∃ i, ChunkImport.make paired ⟨.epoch, .ofSeconds 60⟩ (.ofSeconds 60) = .ok i ∧
      (Dialect.duckdb.statement (Dialect.duckdb.chunkInsert i)).Counted := by
  obtain ⟨compile, span, subjects, chunk⟩ := placeholders_counted .duckdb paired
  have pass : PathsPass ["$.o'clock?", "$.a\\\\'?"] := by
    unfold PathsPass
    decide
  have filtered : paired.pathsOf awkwardQuery.filters.keys ⊆ ["$.o'clock?", "$.a\\\\'?"] := by decide
  have spelled : paired.valuePath.toList ++
      paired.pathsOf (awkwardQuery.groupBy ++ awkwardQuery.filters.keys) ⊆
        ["$.o'clock?", "$.a\\\\'?"] := by decide
  refine ⟨⟨_, rfl, pass, ?_⟩, ⟨_, rfl, ?_⟩, ⟨_, rfl, ?_⟩, ⟨_, rfl, ?_⟩⟩
  · exact compile 5 .events awkwardQuery _ rfl fun _ _ path mem => pass path (spelled mem)
  · exact span awkwardQuery _ rfl fun _ _ path mem => pass path (filtered mem)
  · exact subjects (some .epoch) none _ rfl
  · exact (chunk ⟨.epoch, .ofSeconds 60⟩ (.ofSeconds 60) _ rfl).2 fun _ => pass

/-- A meter whose path of the value ends in a backslash. -/
def trailing : Meter := { awkward with valuePath := some "$.a\\", dimensions := .ofList [] }

/-- The first dialect reads both placeholders of a query for a path that ends in a backslash; the count takes
the quote after the path for a part of the literal and finds none of them. -/
theorem placeholders_missed :
    (∃ compiled, (Compiler.mk .duckdb 5).compileFrom .events trailing Query.any = .ok compiled ∧
      compiled.statement.params.length = 2 ∧
      placeholders (read .duckdb compiled.statement.text) = 2 ∧
      Statement.placeholderCount compiled.statement.text = 0) ∧
    ¬ ∀ (c : Compiler) (source : Source) (m : Meter) (q : Query) (compiled : Compiled),
      c.compileFrom source m q = .ok compiled → compiled.statement.Counted := by
  have missed : ∃ compiled,
      (Compiler.mk .duckdb 5).compileFrom .events trailing Query.any = .ok compiled ∧
        compiled.statement.params.length = 2 ∧
        placeholders (read .duckdb compiled.statement.text) = 2 ∧
        Statement.placeholderCount compiled.statement.text = 0 := by
    refine ⟨_, rfl, by decide, ?_, ?_⟩
    · exact (Dialect.carries_query .duckdb _).linesUp.counted.trans (by decide)
    · rw [placeholderCount_eq, Dialect.statement, toList_render]
      decide +kernel
  refine ⟨missed, fun all => ?_⟩
  obtain ⟨compiled, made, two, -, none⟩ := missed
  have counted := all _ _ _ _ compiled made
  rw [Statement.Counted, two, none] at counted
  exact absurd counted (by decide)

end Metering
