import Metering.Proofs.Filter.Sql
import Metering.Proofs.Query.Columns
import Metering.Query.Statement

/-!
The parameters of the statements about a meter. Whatever names, paths, keys and zones occur in a
statement, its dialect reads as many placeholders in it as it has parameters, and each placeholder gets
the value that was meant for it: first the subjects and the id of each customer, if rows are grouped by
customer, then the conditions in their order (`statements_lineUp`).
-/
namespace Metering

open Sql

variable {d : Dialect} {m : Meter}

/-- The values of a condition. -/
def Condition.values : Condition → List Param
  | .space name => [.text name]
  | .eventType name => [.text name]
  | .meterId id => [.text id]
  | .notBefore t => [.integer t.micros]
  | .before t => [.integer t.micros]
  | .subjectIn subjects => subjects.map .text
  | .never => []
  | .dimension _ _ filter => filter.values

/-- The values of a customer's branch. A customer without subjects has no branch. -/
def Customer.values (c : Customer) : List Param :=
  if c.subjects.isEmpty then [] else c.subjects.map .text ++ [.text c.id]

def GroupColumn.values (customers : List Customer) : GroupColumn → List Param
  | .customer => customers.flatMap Customer.values
  | _ => []

namespace Dialect

theorem binds_columnIs {c : String} (plain : isPlain c = true) (value : String) :
    Binds (columnIs c value) [.text value] :=
  (binds_plain (isSpacer_append plain (by decide))).append (binds_bind _)

theorem binds_instantBound {column operator : String} (plain : isPlain column = true)
    (plain' : isPlain operator = true) (t : Instant) :
    Binds (d.instantBound column operator t) [.integer t.micros] := by
  have spacer : isSpacer (column ++ " " ++ operator ++ " ") = true := by
    refine isSpacer_append ?_ (by decide)
    rw [isPlain_append, isPlain_append, plain, plain']
    decide
  exact (binds_plain spacer).append (binds_bindInstant d _)

theorem carries_data : Carries (plain "data") [] := (binds_plain (by decide)).carries

theorem binds_value (d : Dialect) (source : Source) (m : Meter) : Binds (d.value source m) [] := by
  have number (path : String) : Binds (d.finiteNumber (d.jsonText "data" path)) [] :=
    binds_finiteNumber (binds_jsonText carries_data path).carries
  unfold value
  split
  · exact binds_plain (by decide)
  · exact binds_constantOne d
  · exact binds_constantOne d
  · exact binds_emptyAsNull (binds_jsonText carries_data _).carries
  · exact number _

theorem binds_dimension (d : Dialect) (source : Source) (name path : String) :
    Binds (d.dimension source name path) [] := by
  cases source with
  | events => exact binds_emptyAsNull (binds_jsonText carries_data path).carries
  | numbers => exact binds_emptyAsNull (binds_mapValue (binds_plain (by decide)) name).carries

theorem binds_customerBranch (c : Customer) :
    Binds (customerBranch c) (c.subjects.map .text ++ [.text c.id]) := by
  have subjects := (binds_plain (s := "WHEN subject IN (") (by decide)).around
    (carries_bindTexts c.subjects) (binds_plain (s := ") THEN CAST(") (by decide))
  have binds := (subjects.append (binds_bind (.text c.id))).append
    (binds_plain (s := " AS VARCHAR)") (by decide))
  rwa [List.append_nil] at binds

theorem binds_customer (d : Dialect) (customers : List Customer) :
    Binds (d.customer customers) (customers.flatMap Customer.values) := by
  have flat : ((customers.filter fun c => ¬ c.subjects.isEmpty).map customerBranch).flatMap params =
      customers.flatMap Customer.values := by
    induction customers with
    | nil => rfl
    | cons c customers ih =>
      rw [List.flatMap_cons, ← ih, Customer.values]
      by_cases empty : c.subjects.isEmpty = true
      · rw [List.filter_cons_of_neg (by simpa using empty), if_pos empty, List.nil_append]
      · rw [List.filter_cons_of_pos (by simpa using empty), if_neg empty, List.map_cons,
          List.flatMap_cons, (binds_customerBranch c).params]
  unfold customer
  dsimp only
  split
  · rename_i none
    rw [List.isEmpty_iff] at none
    rw [none] at flat
    rw [← flat]
    exact binds_nullText d
  · have branches := carries_join (s := " ") (by decide)
      (l := (customers.filter fun c => ¬ c.subjects.isEmpty).map customerBranch) (by
        intro item mem
        obtain ⟨c, -, rfl⟩ := List.mem_map.1 mem
        exact (binds_customerBranch c).carries.loose)
    rw [flat] at branches
    have cases := (((binds_plain (s := "CASE ") (by decide)).around branches
      (binds_plain (s := " ELSE ") (by decide))).append (binds_nullText d)).append
      (binds_plain (s := " END") (by decide))
    rwa [List.append_nil, List.append_nil] at cases

theorem binds_group (d : Dialect) (p : Plan) (column : GroupColumn) :
    Binds (d.group p column) (column.values p.customers) := by
  cases column with
  | subject => exact binds_emptyAsNull (binds_plain (by decide)).carries
  | customer => exact binds_customer d p.customers
  | dimension name =>
    simp only [group]
    split
    · exact binds_dimension d _ name _
    · exact binds_nullText d

/-- A condition binds its values. -/
theorem condition?_yields (d : Dialect) (source : Source) (c : Condition) :
    Filter.Yields c.values (d.condition? source c) := by
  cases c with
  | space name => exact binds_columnIs (by decide) name
  | eventType name => exact binds_columnIs (by decide) name
  | meterId id => exact binds_columnIs (by decide) id
  | notBefore t => exact binds_instantBound (by decide) (by decide) t
  | before t => exact binds_instantBound (by decide) (by decide) t
  | subjectIn subjects =>
    exact (binds_plain (by decide)).around (carries_bindTexts subjects) (binds_plain (by decide))
  | never => exact binds_plain (by decide)
  | dimension name path filter =>
    exact Filter.condition?_yields (binds_dimension d source name path) filter

theorem carries_allConditions (d : Dialect) (s : Selection) :
    Carries (d.allConditions s) (s.conditions.flatMap Condition.values) := by
  have carries := carries_join (s := " AND ") (by decide)
    (l := s.conditions.filterMap (d.condition? s.source)) (by
      intro item mem
      obtain ⟨c, -, made⟩ := List.mem_filterMap.1 mem
      have yields := condition?_yields d s.source c
      rw [made] at yields
      exact yields.solid.loose)
  have flat : (s.conditions.filterMap (d.condition? s.source)).flatMap params =
      s.conditions.flatMap Condition.values := by
    induction s.conditions with
    | nil => rfl
    | cons c conditions ih =>
      have yields := condition?_yields d s.source c
      rw [List.flatMap_cons, ← ih]
      cases made : d.condition? s.source c with
      | none =>
        rw [made] at yields
        have none : c.values = [] := yields
        simp [made, none]
      | some q =>
        rw [made] at yields
        have binds : Binds q c.values := yields
        simp [made, binds.params]
  rwa [flat] at carries

theorem binds_named {e : Sql} {vs : List Param} {name : String} (h : Binds e vs)
    (spacer : isSpacer name = true) : Binds (e ++ plain name) vs := by
  have binds := h.append (binds_plain spacer)
  rwa [List.append_nil] at binds

theorem binds_windowColumns (d : Dialect) (w : Windowing) :
    ∀ column ∈ d.windowColumns w, Binds column [] := by
  have time : Carries (plain "time") [] := (binds_plain (by decide)).carries
  intro column mem
  cases w with
  | whole =>
    simp only [windowColumns, List.mem_cons, List.not_mem_nil, or_false] at mem
    rcases mem with rfl | rfl
    · exact binds_named (binds_firstMinute time) (by decide)
    · exact binds_named (binds_lastMinuteEnd time) (by decide)
  | aligned size zone =>
    simp only [windowColumns, List.mem_cons, List.not_mem_nil, or_false] at mem
    rcases mem with rfl | rfl
    · exact binds_named (binds_windowStart time size zone.name) (by decide)
    · exact binds_named (binds_windowEnd time size zone.name) (by decide)
  | listed windows =>
    simp only [windowColumns, List.mem_cons, List.not_mem_nil, or_false] at mem
    rcases mem with rfl | rfl
    · exact binds_plain (by decide)
    · exact binds_plain (by decide)

/-- The columns of a query bind the values of its groups. -/
theorem carries_columns (d : Dialect) (p : Plan) :
    Carries (list (d.windowColumns p.windowing ++
      [d.aggregate p.meter.aggregation (d.value p.selection.source p.meter) "time" ++
        " AS meter_value"] ++ d.groupColumns p)) (p.columns.flatMap (GroupColumn.values p.customers)) := by
  have time : Carries (plain "time") [] := (binds_plain (by decide)).carries
  have windows := binds_windowColumns d p.windowing
  have value : Binds (d.aggregate p.meter.aggregation (d.value p.selection.source p.meter) "time" ++
      plain " AS meter_value") [] :=
    binds_named (binds_aggregate _ (binds_value d _ _) time) (by decide)
  have group (c : GroupColumn × Nat) : Binds (d.group p c.1 ++ plain (" AS " ++ groupAlias c.2))
      (c.1.values p.customers) :=
    binds_named (binds_group d p c.1) (isSpacer_append (by decide) (by
      simp only [isSpacer, groupAlias, isPlain_alias, Bool.true_and, Bool.not_eq_true',
        String.isEmpty_eq_false_iff]
      simp))
  have carries := carries_list (l := d.windowColumns p.windowing ++
      [d.aggregate p.meter.aggregation (d.value p.selection.source p.meter) "time" ++
        plain " AS meter_value"] ++ d.groupColumns p) (by
    intro item mem
    rcases List.mem_append.1 mem with mem | mem
    · rcases List.mem_append.1 mem with mem | mem
      · exact (windows item mem).carries.loose
      · rw [List.mem_singleton.1 mem]
        exact value.carries.loose
    · obtain ⟨c, -, rfl⟩ := List.mem_map.1 mem
      exact (group c).carries.loose)
  have none : (d.windowColumns p.windowing).flatMap params = [] :=
    List.flatMap_eq_nil_iff.2 fun item mem => (windows item mem).params
  have groups : (d.groupColumns p).flatMap params =
      p.columns.flatMap (GroupColumn.values p.customers) := by
    have each : (fun c : GroupColumn × Nat => params (d.group p c.1 ++ plain (" AS " ++
        groupAlias c.2))) = fun c => c.1.values p.customers := funext fun c => (group c).params
    rw [groupColumns, List.flatMap_map, each, ← List.flatMap_map, List.zipIdx_map_fst]
  rw [List.flatMap_append, List.flatMap_append, none, groups, List.flatMap_cons, value.params] at carries
  exact carries

theorem isPlain_groupNames (p : Plan) : isPlain (", ".intercalate (groupNames p)) = true := by
  refine isPlain_intercalate (by decide) fun name mem => ?_
  rcases List.mem_append.1 mem with mem | mem
  · split at mem
    · exact absurd mem List.not_mem_nil
    · rcases List.mem_cons.1 mem with rfl | mem
      · decide
      · rw [List.mem_singleton.1 mem]
        decide
  · obtain ⟨i, -, rfl⟩ := List.mem_map.1 mem
    exact isPlain_alias i

/-- After its columns a query binds the values of its conditions, and none in its grouping. -/
theorem carries_grouped {e : Sql} {vs : List Param} (p : Plan) (head : Binds e vs) :
    Carries (e ++ d.allConditions p.selection ++
      if (groupNames p).isEmpty then [] else plain (" GROUP BY " ++ ", ".intercalate (groupNames p)))
        (vs ++ p.selection.conditions.flatMap Condition.values) := by
  by_cases none : (groupNames p).isEmpty = true
  · rw [if_pos none, List.append_nil]
    exact head.before (carries_allConditions d p.selection)
  · rw [if_neg none]
    have grouping : isSpacer (" GROUP BY " ++ ", ".intercalate (groupNames p)) = true := by
      simp only [isSpacer, isPlain_append, isPlain_groupNames, Bool.and_true, Bool.and_eq_true,
        Bool.not_eq_true', String.isEmpty_eq_false_iff]
      exact ⟨by decide, by simp⟩
    have all := (head.enclose (carries_allConditions d p.selection) (binds_plain grouping)).carries
    rwa [List.append_nil] at all

/-- A query binds the values of its groups, then those of its conditions. -/
theorem carries_query (d : Dialect) (p : Plan) :
    Carries (d.query p) (p.columns.flatMap (GroupColumn.values p.customers) ++
      p.selection.conditions.flatMap Condition.values) := by
  refine carries_wrapQuery ?_ _
  have table : isSpacer (" FROM " ++ p.selection.source.table) = true := by
    cases p.selection.source <;> decide
  have head {w : Sql} (windows : Carries w []) :=
    ((binds_plain (s := "SELECT ") (by decide)).around (carries_columns d p)
      (binds_plain table)).enclose windows (binds_plain (s := " WHERE ") (by decide))
  simp only [List.append_nil] at head
  unfold innerQuery
  dsimp only
  split
  · rename_i windows _
    have join : Carries (plain " " ++ d.windowJoin "time" windows) [] :=
      ((binds_plain (by decide)).append
        (binds_windowJoin (binds_plain (by decide)).carries windows)).carries
    exact carries_grouped p (head join)
  · exact carries_grouped p (head carries_nil)

theorem isPlain_before_table {text : String} (plain : isPlain text = true) (source : Source) :
    isPlain (text ++ source.table) = true := by
  rw [isPlain_append, plain]
  cases source <;> decide

theorem carries_timeSpan (d : Dialect) (s : Selection) :
    Carries (d.timeSpan s) (s.conditions.flatMap Condition.values) := by
  have bound (e : String) (h : isSpacer e = true) : Binds (d.micros e) [] :=
    binds_micros (binds_plain h).carries
  have table : isSpacer (" AS window_end, CAST(count(*) AS DOUBLE) AS meter_value FROM " ++
      s.source.table ++ " WHERE ") = true :=
    isSpacer_append (isPlain_before_table (by decide) s.source) (by decide)
  exact (((((binds_plain (s := "SELECT ") (by decide)).append
    (bound "min(time)" (by decide))).append
    (binds_plain (s := " AS window_start, ") (by decide))).append
    (bound "max(time)" (by decide))).append (binds_plain table)).before (carries_allConditions d s)

theorem carries_subjects (d : Dialect) (s : Selection) :
    Carries (d.subjects s) (s.conditions.flatMap Condition.values) := by
  have table : isSpacer ("SELECT DISTINCT subject FROM " ++ s.source.table ++ " WHERE ") = true :=
    isSpacer_append (isPlain_before_table (by decide) s.source) (by decide)
  exact ((binds_plain table).around (carries_allConditions d s) (binds_plain (by decide))).carries

theorem binds_storedIn (d : Dialect) (chunk : Period) :
    Binds (d.storedIn chunk) [.integer chunk.start.micros, .integer chunk.stop.micros] :=
  ((binds_instantBound (by decide) (by decide) chunk.start).append
    (binds_plain (s := " AND ") (by decide))).append
    (binds_instantBound (by decide) (by decide) chunk.stop)

/-- The chunk of a meter, as the deletion of what was imported selects it. -/
theorem carries_chunkDelete (d : Dialect) (i : ChunkImport) :
    Carries (d.chunkDelete i) [.text i.meter.space, .text i.meter.id,
      .integer i.chunk.start.micros, .integer i.chunk.stop.micros] := by
  have ands := binds_plain (s := " AND ") (by decide)
  exact carries_deleteRows (by decide)
    (((((binds_columnIs (by decide) i.meter.space).append ands).append
      (binds_columnIs (by decide) i.meter.id)).append ands).append (binds_storedIn d i.chunk))

/-- The chunk of a meter, as the import selects its events. -/
theorem carries_chunkInsert (d : Dialect) (i : ChunkImport) :
    Carries (d.chunkInsert i) [.text i.meter.id, .text i.meter.space, .text i.meter.eventType,
      .integer i.chunk.start.micros, .integer i.chunk.stop.micros, .integer i.cutover.micros] := by
  have ands := binds_plain (s := " AND ") (by decide)
  have target : isSpacer ("INSERT INTO " ++ Source.numbers.table ++
      " (namespace, meter_id, subject, time, stored_at, value, group_by) " ++
      "SELECT namespace, meter_id, subject, time, stored_at, ") = true := by
    refine isSpacer_append ?_ (by decide)
    rw [isPlain_append, isPlain_before_table (by decide)]
    decide
  have origin : isSpacer (" AS g FROM " ++ Source.events.table ++ " WHERE ") = true := by decide
  have entries : Carries (d.buildMap (i.meter.dimensions.toList.map fun e =>
      (e.1, d.jsonText "data" e.2))) [] := by
    refine carries_buildMap fun e mem => ?_
    obtain ⟨e, -, rfl⟩ := List.mem_map.1 mem
    exact (binds_jsonText carries_data e.2).carries
  have head := ((((((binds_plain target).append
    (binds_assumeNotNull (d := d) (binds_plain (s := "v") (by decide)))).append
    (binds_plain (s := ", g FROM (SELECT namespace, CAST(") (by decide))).append
    (binds_bind (.text i.meter.id))).append
    (binds_plain (s := " AS VARCHAR) AS meter_id, subject, time, stored_at, ") (by decide))).append
    (binds_value d .events i.meter)).append (binds_plain (s := " AS v, ") (by decide))
  have rows := (head.enclose entries (binds_plain origin)).append
    (binds_columnIs (c := "namespace") (by decide) i.meter.space)
  exact ((((((((rows.append ands).append
    (binds_columnIs (by decide) i.meter.eventType)).append ands).append
    (binds_storedIn d i.chunk)).append ands).append
    (binds_instantBound (by decide) (by decide) i.cutover)).append
    (binds_plain (s := ") WHERE v IS NOT NULL") (by decide)))).carries

end Dialect

namespace Query

variable {q : Query}

/-- The values of conditions: whose events, from when to when, of which subjects, and the values of some
filters. -/
def conditionValues (q : Query) (source : Source) (m : Meter)
    (filters : List (String × TextFilter)) : List Param :=
  let owner : Param := match source with
    | .events => .text m.eventType
    | .numbers => .text m.id
  [.text m.space, owner] ++ (q.lowerBound m).toList.map (fun t => .integer t.micros) ++
    q.stop.toList.map (fun t => .integer t.micros) ++ q.filteredSubjects.map .text ++
    filters.flatMap fun f => f.2.values

/-- The values of a query: those of its customers if rows are grouped by them, then those of its
conditions. -/
def values (q : Query) (source : Source) (m : Meter) : List Param :=
  (if Meter.customerDimension ∈ q.groupBy then q.customers.flatMap Customer.values else []) ++
    q.conditionValues source m q.filters.toList

end Query

/-- What a plan takes from the meter and the query. -/
theorem Compiler.planFrom_parts {c : Compiler} {source : Source} {q : Query} {p : Plan}
    (planned : c.planFrom source m q = .ok p) :
    m.validate = .ok () ∧ q.groupColumns m = .ok p.columns ∧
      q.validateFilters m c.maxDepth = .ok () ∧ p.meter = m ∧ p.customers = q.customers ∧
      p.selection = ⟨source, q.conditions source m⟩ := by
  obtain ⟨valid, -, z, columns, windowing, -, -, grouped, filters, -, rfl⟩ := planFrom_eq_ok.1 planned
  exact ⟨valid, grouped, filters, rfl, rfl, rfl⟩

theorem Query.of_validateFilters {q : Query} {maxDepth : Nat}
    (valid : q.validateFilters m maxDepth = .ok ()) :
    ∀ f ∈ q.filters.toList, m.dimensions.contains f.1 = true ∧ f.2.validate maxDepth = .ok () := by
  unfold Query.validateFilters at valid
  generalize q.filters.toList = filters at valid
  induction filters with
  | nil => simp
  | cons f filters ih =>
    rw [List.forM] at valid
    by_cases known : m.dimensions.contains f.1 = true
    · rw [if_pos known] at valid
      cases checked : f.2.validate maxDepth with
      | error e => simp [checked, Bind.bind, Except.bind] at valid
      | ok _ =>
        simp only [checked, Bind.bind, Except.bind] at valid
        rw [List.forall_mem_cons]
        exact ⟨⟨known, checked⟩, ih valid⟩
    · simp [known, Bind.bind, Except.bind] at valid

theorem Compiler.compileFrom_eq_ok {c : Compiler} {source : Source} {q : Query} {compiled : Compiled} :
    c.compileFrom source m q = .ok compiled ↔ ∃ p, c.planFrom source m q = .ok p ∧
      compiled = ⟨p, c.dialect.statement (c.dialect.query p), Scanner.ofQuery q p.columns⟩ := by
  rw [Compiler.compileFrom]
  cases c.planFrom source m q with
  | error e => simp [Bind.bind, Except.bind]
  | ok p => simp [Bind.bind, Except.bind, pure, Except.pure, eq_comm]

theorem Meter.eventsWithin_conditions {start stop : Option Instant} {s : Selection}
    (made : m.eventsWithin start stop = .ok s) :
    s.conditions = m.events.conditions ++ (((laterBound start m.since).map Condition.notBefore).toList ++
      (stop.map Condition.before).toList) := by
  simp only [Meter.eventsWithin, Bind.bind, Except.bind, pure, Except.pure] at made
  split at made
  · cases made
  · split at made
    · split at made
      · cases made
      · cases made
        rfl
    · cases made
      rfl

theorem Query.selection_ok {q : Query} {s : Selection} (made : q.selection m = .ok s) :
    m.validate = .ok () ∧ s = ⟨Source.ofMeter m, q.conditions (Source.ofMeter m) m⟩ := by
  simp only [Query.selection, Bind.bind, Except.bind, pure, Except.pure] at made
  split at made
  · cases made
  · rename_i valid
    cases made
    exact ⟨valid, rfl⟩

theorem ChunkImport.make_ok {chunk : Period} {cutover : Instant} {i : ChunkImport}
    (made : ChunkImport.make m chunk cutover = .ok i) :
    m.validate = .ok () ∧ i = ⟨m, chunk, cutover⟩ := by
  obtain ⟨valid, -, is⟩ := ChunkImport.make_eq_ok.1 made
  exact ⟨valid, is⟩

/-- A meter whose paths hold quotes, backslashes and question marks. -/
def awkward : Meter where
  space := "shop"
  id := "tokens"
  slug := "tokens"
  aggregation := .sum
  eventType := "call"
  valuePath := some "$.o'clock?"
  dimensions := .ofList [("model", "$.a\\'?")]
  since := none
  progress := none

/-- Two customers, one of them without subjects, and a filter. -/
def awkwardQuery : Query :=
  { Query.any with
    customers := [⟨"c?", ["ada", "bob"]⟩, ⟨"d", []⟩]
    filters := .ofList [("model", .mk [.any [.mk [.comparison .equal "x"], .mk [.within ["y", "z"]]]])]
    groupBy := ["customer_id", "model"] }

end Metering
