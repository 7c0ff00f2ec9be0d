import Mathlib.Data.Nat.Digits.Defs
import Metering.Proofs.Sql.Reading

/-!
Fragments and the parameters that they bind. `Sql.Binds` says of a fragment that it may stand next to any
other and which values it binds, `Sql.Carries` says less: something else has to stand between it and a
literal. Fragments are put together by the rules here, and an operation of a dialect binds nothing of its
own unless it is given a parameter.
-/
namespace Metering

namespace Sql

theorem isPlain_append (a b : String) : isPlain (a ++ b) = (isPlain a && isPlain b) := by
  simp [isPlain, String.toList_append]

theorem params_append (q r : Sql) : params (q ++ r) = params q ++ params r :=
  List.filterMap_append

/-- A fragment that may stand next to any other, and the values that it binds. -/
structure Binds (q : Sql) (values : List Param) : Prop where
  solid : Solid q
  params : params q = values

/-- A fragment that may stand in between others, and the values that it binds. -/
structure Carries (q : Sql) (values : List Param) : Prop where
  loose : Loose q
  params : params q = values

variable {q r e : Sql} {us vs ws : List Param}

theorem Solid.loose (h : Solid q) : Loose q := by
  have apart := (h [] trivial).mono
  rwa [List.append_nil] at apart

theorem Binds.carries (h : Binds q vs) : Carries q vs := ⟨h.solid.loose, h.params⟩

theorem Carries.linesUp {d : Dialect} (h : Carries q vs) : LinesUp d q vs := h.loose.linesUp h.params

theorem carries_nil : Carries [] [] := ⟨trivial, rfl⟩

theorem carries_literal (value : String) : Carries (literal value) [] := ⟨⟨rfl, trivial⟩, rfl⟩

theorem binds_bind (p : Param) : Binds (bind p) [p] := ⟨fun _ loose => loose, rfl⟩

/-- A text that may stand in a statement as it is. -/
def isSpacer (s : String) : Bool := isPlain s && !s.isEmpty

theorem binds_plain {s : String} (h : isSpacer s = true) : Binds (plain s) [] := by
  simp only [isSpacer, Bool.and_eq_true, Bool.not_eq_true'] at h
  refine ⟨fun r loose => ⟨h.1, ?_⟩, rfl⟩
  rw [h.2]
  exact loose

theorem isSpacer_append {a b : String} (first : isPlain a = true) (second : isSpacer b = true) :
    isSpacer (a ++ b) = true := by
  simp only [isSpacer, Bool.and_eq_true, Bool.not_eq_true', String.isEmpty_eq_false_iff] at second
  simp only [isSpacer, isPlain_append, first, second.1, Bool.and_self, Bool.true_and,
    Bool.not_eq_true', String.isEmpty_eq_false_iff]
  simp [second.2]

theorem Binds.append (first : Binds q us) (second : Binds r vs) : Binds (q ++ r) (us ++ vs) where
  solid s loose := by
    rw [List.append_assoc]
    exact first.solid _ (second.solid s loose).mono
  params := by
    rw [params_append, first.params, second.params]

theorem Binds.enclose (first : Binds q us) (between : Carries e vs) (last : Binds r ws) :
    Binds (q ++ e ++ r) (us ++ vs ++ ws) where
  solid s loose := by
    rw [List.append_assoc, List.append_assoc]
    exact first.solid _ (between.loose.append (last.solid s loose))
  params := by
    rw [params_append, params_append, first.params, between.params, last.params]

/-- A fragment between two that bind nothing. -/
theorem Binds.around (first : Binds q []) (between : Carries e vs) (last : Binds r []) :
    Binds (q ++ e ++ r) vs := by
  have binds := first.enclose between last
  rwa [List.nil_append, List.append_nil] at binds

theorem Binds.before (first : Binds q us) (last : Carries e vs) : Carries (q ++ e) (us ++ vs) where
  loose := (first.solid e last.loose).mono
  params := by
    rw [params_append, first.params, last.params]

theorem Carries.before (first : Carries e us) (last : Binds q vs) : Carries (e ++ q) (us ++ vs) where
  loose := by
    have apart := first.loose.append (last.solid [] trivial)
    rwa [List.append_nil] at apart
  params := by
    rw [params_append, first.params, last.params]

theorem params_separated (separator : String) (items : List Sql) :
    params (items.flatMap fun r => .plain separator :: r) = items.flatMap params := by
  induction items with
  | nil => rfl
  | cons item items ih =>
    rw [List.flatMap_cons, params_append, ih, List.flatMap_cons]
    rfl

theorem params_join (separator : String) (items : List Sql) :
    params (join separator items) = items.flatMap params := by
  cases items with
  | nil => rfl
  | cons item items => rw [join, params_append, params_separated, List.flatMap_cons]

/-- Separators keep the literals of the items apart. -/
theorem carries_join {s : String} (spacer : isSpacer s = true) {l : List Sql}
    (loose : ∀ item ∈ l, Loose item) : Carries (join s l) (l.flatMap params) := by
  refine ⟨?_, params_join s l⟩
  have plain := binds_plain spacer
  have separated : ∀ items : List Sql, (∀ item ∈ items, Loose item) →
      Apart true (items.flatMap fun r => .plain s :: r) := by
    intro items loose
    induction items with
    | nil => trivial
    | cons item items ih =>
      have rest := ih fun r hr => loose r (List.mem_cons_of_mem item hr)
      exact plain.solid _ ((loose item List.mem_cons_self).append rest)
  cases l with
  | nil => trivial
  | cons item items =>
    exact (loose item List.mem_cons_self).append
      (separated items fun r hr => loose r (List.mem_cons_of_mem item hr))

theorem carries_list {l : List Sql} (loose : ∀ item ∈ l, Loose item) :
    Carries (list l) (l.flatMap params) := carries_join (by decide) loose

/-- Items that bind nothing. -/
theorem carries_list_nil {items : List Sql} (none : ∀ item ∈ items, Carries item []) :
    Carries (list items) [] := by
  have carries := carries_list fun item mem => (none item mem).loose
  have empty : items.flatMap params = [] := List.flatMap_eq_nil_iff.2 fun item mem =>
    (none item mem).params
  rwa [empty] at carries

theorem carries_bindTexts (values : List String) : Carries (bindTexts values) (values.map .text) := by
  have carries := carries_list (l := values.map fun v => bind (.text v)) (by
    intro item mem
    obtain ⟨v, -, rfl⟩ := List.mem_map.1 mem
    exact (binds_bind _).carries.loose)
  have flat : (values.map fun v => bind (.text v)).flatMap params = values.map .text := by
    rw [List.flatMap_map, List.map_eq_flatMap]
    rfl
  rwa [flat] at carries

end Sql

namespace Dialect

open Sql

variable {d : Dialect} {e value time column : Sql} {vs : List Param}

theorem binds_callWith {f : String} {args : List Sql} (plain : isPlain f = true)
    (carries : Carries (list args) vs) : Binds (call f args) vs := by
  have opens := binds_plain (isSpacer_append plain (b := "(") (by decide))
  exact opens.around carries (binds_plain (by decide))

theorem binds_call {f : String} {args : List Sql} (plain : isPlain f = true)
    (none : ∀ arg ∈ args, Carries arg []) : Binds (call f args) [] :=
  binds_callWith plain (carries_list_nil none)

/-- A function of one operand. -/
theorem binds_call_one {f : String} (plain : isPlain f = true) (h : Carries e []) :
    Binds (call f [e]) [] := binds_call plain (by simpa using h)

/-- A function of two operands. -/
theorem binds_call_two {f : String} {e' : Sql} (plain : isPlain f = true)
    (h : Carries e []) (h' : Carries e' []) : Binds (call f [e, e']) [] :=
  binds_call plain (by simpa using ⟨h, h'⟩)

theorem binds_cast {type : String} (plain : isPlain type = true) (h : Carries e vs) :
    Binds (cast e type) vs := by
  have closes : isSpacer (" AS " ++ type ++ ")") = true :=
    isSpacer_append (by simp [isPlain_append, plain, show isPlain " AS " = true by decide]) (by decide)
  exact (binds_plain (by decide)).around h (binds_plain closes)

theorem binds_bindInstant (d : Dialect) (p : Param) : Binds (d.bindInstant p) [p] := by
  have carries : Carries (list [bind p]) [p] := carries_list (by simpa using (binds_bind p).solid.loose)
  cases d with
  | duckdb => exact binds_callWith (by decide) carries
  | clickhouse => exact binds_callWith (by decide) carries

theorem binds_micros (h : Carries e []) : Binds (d.micros e) [] := by
  cases d with
  | duckdb => exact binds_call_one (by decide) h
  | clickhouse => exact binds_call_one (by decide) (binds_call_one (by decide) h).carries

theorem binds_jsonText (h : Carries column []) (path : String) : Binds (d.jsonText column path) [] := by
  cases d with
  | duckdb => exact binds_call_two (by decide) h (carries_literal path)
  | clickhouse => exact binds_call_two (by decide) h (carries_literal path)

theorem binds_finiteNumber (h : Carries e []) : Binds (d.finiteNumber e) [] := by
  cases d with
  | duckdb =>
    have parsed : Binds (call "TRY_CAST" [e ++ plain " AS DOUBLE"]) [] :=
      binds_call_one (by decide) (h.before (binds_plain (by decide)))
    have finite := binds_call_one (f := "isfinite") (by decide) parsed.carries
    exact ((((binds_plain (s := "CASE WHEN ") (by decide)).append finite).append
      (binds_plain (s := " THEN ") (by decide))).append parsed).append
      (binds_plain (s := " END") (by decide))
  | clickhouse =>
    have parsed : Binds (call "toFloat64OrNull" [e]) [] := binds_call_one (by decide) h
    have known : Binds (call "ifNull" [call "toFloat64OrNull" [e], plain "nan"]) [] :=
      binds_call_two (by decide) parsed.carries (binds_plain (by decide)).carries
    have finite := binds_call_one (f := "isFinite") (by decide) known.carries
    refine binds_call (by decide) ?_
    simpa using ⟨finite.carries, parsed.carries, (binds_plain (s := "NULL") (by decide)).carries⟩

theorem binds_emptyAsNull (h : Carries e []) : Binds (d.emptyAsNull e) [] := by
  cases d with
  | duckdb => exact binds_call_two (by decide) h (carries_literal "")
  | clickhouse => exact binds_call_two (by decide) h (carries_literal "")

theorem binds_nullText (d : Dialect) : Binds d.nullText [] := by
  cases d with
  | duckdb => exact binds_plain (by decide)
  | clickhouse => exact binds_plain (by decide)

theorem binds_interval (d : Dialect) (size : WindowSize) : Binds (d.interval size) [] := by
  cases d <;> cases size <;> exact binds_plain (by decide)

theorem binds_secondsAsMicros (h : Carries e []) : Binds (secondsAsMicros e) [] := by
  have seconds := binds_call_one (f := "toUnixTimestamp") (by decide) h
  exact (binds_call_one (by decide) seconds.carries).append (binds_plain (by decide))

/-- The start of an interval that holds a time, by the second dialect. -/
theorem binds_startOfInterval (h : Carries time []) (size : WindowSize) (zone : String) :
    Binds (call "toStartOfInterval" [time, interval .clickhouse size, literal zone]) [] := by
  refine binds_call (by decide) ?_
  simpa using ⟨h, (binds_interval .clickhouse size).carries, carries_literal zone⟩

theorem binds_windowStart (h : Carries time []) (size : WindowSize) (zone : String) :
    Binds (d.windowStart time size zone) [] := by
  cases d with
  | duckdb =>
    have day := binds_call_two (f := "date_trunc") (by decide) (carries_literal (unit size)) h
    exact binds_call_one (by decide) day.carries
  | clickhouse => exact binds_secondsAsMicros (binds_startOfInterval h size zone).carries

theorem binds_windowEnd (h : Carries time []) (size : WindowSize) (zone : String) :
    Binds (d.windowEnd time size zone) [] := by
  cases d with
  | duckdb =>
    have day := binds_call_two (f := "date_trunc") (by decide) (carries_literal (unit size)) h
    have next := (day.append (binds_plain (s := " + ") (by decide))).append
      (binds_interval .duckdb size)
    exact binds_call_one (by decide) next.carries
  | clickhouse =>
    have next := ((binds_startOfInterval h size zone).append
      (binds_plain (s := " + ") (by decide))).append (binds_interval .clickhouse size)
    exact binds_secondsAsMicros next.carries

theorem binds_firstMinute (h : Carries time []) : Binds (d.firstMinute time) [] := by
  have first := binds_call_one (f := "min") (by decide) h
  cases d with
  | duckdb =>
    exact binds_call_one (by decide)
      (binds_call_two (by decide) (carries_literal "minute") first.carries).carries
  | clickhouse => exact binds_secondsAsMicros (binds_call_one (by decide) first.carries).carries

theorem binds_lastMinuteEnd (h : Carries time []) : Binds (d.lastMinuteEnd time) [] := by
  have last := binds_call_one (f := "max") (by decide) h
  cases d with
  | duckdb =>
    have minute := binds_call_two (f := "date_trunc") (by decide) (carries_literal "minute")
      last.carries
    have next := minute.append (binds_plain (s := " + INTERVAL 1 MINUTE") (by decide))
    exact binds_call_one (by decide) next.carries
  | clickhouse =>
    have minute := binds_call_one (f := "toStartOfMinute") (by decide) last.carries
    exact binds_secondsAsMicros
      (minute.append (binds_plain (s := " + toIntervalMinute(1)") (by decide))).carries

theorem binds_aggregate (a : Aggregation) (hv : Binds value []) (ht : Carries time []) :
    Binds (d.aggregate a value time) [] := by
  have one {f : String} (plain : isPlain f = true) := binds_call_one plain hv.carries
  cases d with
  | duckdb =>
    refine binds_cast (by decide) (Binds.carries ?_)
    cases a with
    | sum => exact one (by decide)
    | average => exact one (by decide)
    | minimum => exact one (by decide)
    | maximum => exact one (by decide)
    | count => exact binds_plain (by decide)
    | uniqueCount =>
      have distinct := one (f := "approx_count_distinct") (by decide)
      exact binds_call_two (by decide) distinct.carries (binds_plain (by decide)).carries
    | latest =>
      have latest := binds_call_two (f := "arg_max") (by decide) hv.carries ht
      exact ((latest.append (binds_plain (s := " FILTER (WHERE ") (by decide))).append hv).append
        (binds_plain (s := " IS NOT NULL)") (by decide))
  | clickhouse =>
    refine binds_cast (by decide) (Binds.carries ?_)
    cases a with
    | sum => exact one (by decide)
    | average => exact one (by decide)
    | minimum => exact one (by decide)
    | maximum => exact one (by decide)
    | count => exact binds_plain (by decide)
    | uniqueCount =>
      have distinct := one (f := "uniq") (by decide)
      have number := binds_call_one (f := "toFloat64") (by decide) distinct.carries
      exact binds_call_two (by decide) number.carries (binds_plain (by decide)).carries
    | latest =>
      have known := one (f := "isNotNull") (by decide)
      refine binds_call (by decide) ?_
      simpa using ⟨hv.carries, ht, known.carries⟩

theorem binds_mapValue (h : Binds column []) (key : String) : Binds (d.mapValue column key) [] := by
  cases d with
  | duckdb => exact binds_jsonText (d := .duckdb) h.carries ("$." ++ key)
  | clickhouse =>
    exact (h.append (binds_plain (s := "[") (by decide))).around (carries_literal key)
      (binds_plain (s := "]") (by decide))

theorem carries_buildMap {entries : List (String × Sql)} (h : ∀ e ∈ entries, Carries e.2 []) :
    Carries (d.buildMap entries) [] := by
  have args : ∀ arg ∈ entries.flatMap fun e => [literal e.1, e.2], Carries arg [] := by
    intro arg mem
    obtain ⟨e, he, mem⟩ := List.mem_flatMap.1 mem
    rcases List.mem_cons.1 mem with rfl | mem
    · exact carries_literal e.1
    · rw [List.mem_singleton.1 mem]
      exact h e he
  unfold buildMap
  cases d with
  | duckdb =>
    cases entries with
    | nil => exact carries_literal _
    | cons e entries =>
      exact (binds_cast (by decide) (binds_call (by decide) args).carries).carries
  | clickhouse =>
    cases entries with
    | nil => exact ((binds_plain (by decide)).around (carries_literal _) (binds_plain (by decide))).carries
    | cons e entries => exact (binds_call (by decide) args).carries

theorem binds_constantOne (d : Dialect) : Binds d.constantOne [] := by
  cases d with
  | duckdb => exact binds_plain (by decide)
  | clickhouse => exact binds_plain (by decide)

theorem binds_assumeNotNull (h : Binds e []) : Binds (d.assumeNotNull e) [] := by
  cases d with
  | duckdb => exact h
  | clickhouse => exact binds_call_one (by decide) h.carries

theorem isPlain_repr (n : Nat) : isPlain n.repr = true := by
  rw [isPlain, Nat.toList_repr, List.all_eq_true]
  intro c mem
  have digit := Nat.isDigit_of_mem_toDigits (by decide) (by decide) mem
  have quote : c ≠ '\'' := fun is => by simp [is] at digit
  have mark : c ≠ '?' := fun is => by simp [is] at digit
  simp [quote, mark]

theorem isPlain_intRepr (n : Int) : isPlain n.repr = true := by
  cases n with
  | ofNat n => exact isPlain_repr n
  | negSucc n =>
    have spelled : (Int.negSucc n).repr = "-" ++ (n + 1).repr := rfl
    rw [spelled, isPlain_append, isPlain_repr]
    decide

theorem binds_windowJoin (h : Carries time []) (windows : List (Int × Int)) :
    Binds (d.windowJoin time windows) [] := by
  have rows : ∀ row ∈ windows.map fun w : Int × Int =>
      plain ("(" ++ toString w.1 ++ ", " ++ toString w.2 ++ ")"), Carries row [] := by
    intro row mem
    obtain ⟨w, -, rfl⟩ := List.mem_map.1 mem
    refine (binds_plain (isSpacer_append ?_ (by decide))).carries
    simp [isPlain_append, isPlain_intRepr, show isPlain "(" = true by decide,
      show isPlain ", " = true by decide]
  have micros : Binds (d.micros time) [] := binds_micros h
  have listed := (binds_plain (s := "JOIN (VALUES ") (by decide)).around (carries_list_nil rows)
    (binds_plain (s := ") AS w(ws, we) ON ") (by decide))
  exact (((listed.append micros).append (binds_plain (s := " >= w.ws AND ") (by decide))).append
    micros).append (binds_plain (s := " < w.we") (by decide))

theorem isPlain_intercalate {separator : String} (plain : isPlain separator = true)
    {names : List String} (all : ∀ name ∈ names, isPlain name = true) :
    isPlain (separator.intercalate names) = true := by
  have chars (names : List String) (all : ∀ name ∈ names, isPlain name = true) :
      (separator.toList.intercalate (names.map String.toList)).all
        (fun c => c ≠ '\'' && c ≠ '?') = true := by
    induction names with
    | nil => rfl
    | cons name names ih =>
      cases names with
      | nil => simpa [List.intercalate, isPlain] using all name List.mem_cons_self
      | cons next names =>
        rw [List.map_cons, List.map_cons, List.intercalate_cons_cons, List.all_append,
          List.all_append, Bool.and_eq_true, Bool.and_eq_true]
        exact ⟨⟨all name List.mem_cons_self, plain⟩,
          ih fun n mem => all n (List.mem_cons_of_mem name mem)⟩
  rw [isPlain, String.toList_intercalate]
  exact chars names all

/-- The name of a group column. -/
theorem isPlain_alias (i : Nat) : isPlain ("g" ++ toString i) = true := by
  rw [isPlain_append]
  exact Bool.and_eq_true_iff.2 ⟨by decide, isPlain_repr i⟩

theorem carries_wrapQuery {query : Sql} (h : Carries query vs) (groupColumns : Nat) :
    Carries (d.wrapQuery query groupColumns) vs := by
  cases d with
  | duckdb => exact h
  | clickhouse =>
    have aliases : isPlain (", ".intercalate
        ((List.range groupColumns).map fun i => "g" ++ toString i)) = true := by
      refine isPlain_intercalate (by decide) fun name mem => ?_
      obtain ⟨i, -, rfl⟩ := List.mem_map.1 mem
      exact isPlain_alias i
    refine (Binds.around (binds_plain (isSpacer_append ?_ (by decide))) h
      (binds_plain (by decide))).carries
    rw [isPlain_append, aliases, isPlain_append]
    decide +kernel

theorem carries_deleteRows {table : String} (plain : isPlain table = true) {condition : Sql}
    (h : Binds condition vs) : Carries (d.deleteRows table condition) vs := by
  cases d with
  | duckdb =>
    have opens : isSpacer ("DELETE FROM " ++ table ++ " WHERE ") = true :=
      isSpacer_append (by rw [isPlain_append, plain]; decide) (by decide)
    exact (binds_plain opens).before h.carries
  | clickhouse =>
    have opens : isSpacer ("ALTER TABLE " ++ table ++ " DELETE WHERE ") = true :=
      isSpacer_append (by rw [isPlain_append, plain]; decide) (by decide)
    exact ((binds_plain opens).around h.carries (binds_plain (by decide))).carries

end Dialect

end Metering
