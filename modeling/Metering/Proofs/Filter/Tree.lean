import Metering.Proofs.Filter.Meaning
import Metering.Proofs.Filter.Sql
import Metering.Proofs.Sql.Tree

/-!
The conditions of filters, read as trees. A filter is a tree of its clauses (`tree`); without the members
that leave the field alone, and with combinations of one member taken away, that tree is what is read from
its condition, by itself or between other conditions that `AND` joins. The parameters are the values of
the leaves from left to right, and there is no condition when every leaf is an exclusion of nothing
(`condition?_readsBack`).
-/
namespace Metering

namespace Sql

mutual

/-- A tree without the members that say nothing and without combinations of one member. -/
def Tree.pruned? : Tree → Option Tree
  | .never => some .never
  | .test t => some (.test t)
  | .all ts => combined? .all (prunedMembers ts)
  | .any ts => combined? .any (prunedMembers ts)

def Tree.prunedMembers : List Tree → List Tree
  | [] => []
  | t :: ts => t.pruned?.toList ++ prunedMembers ts

end

end Sql

namespace Filter

open Sql (Atomic Stands Term Tree filled join)

/-- Values that are bound as terms. -/
class Termed (α : Type) [Bindable α] where
  term : α → Term
  bind_term : ∀ (d : Dialect) (w : α), Bindable.bind d (term w) = Bindable.bind d w

instance : Termed String := ⟨fun s => .value (.text s), fun _ _ => rfl⟩
instance : Termed Int := ⟨fun n => .value (.integer n), fun _ _ => rfl⟩
instance : Termed Float := ⟨fun x => .value (.number x), fun _ _ => rfl⟩
instance : Termed Instant := ⟨fun t => .instant (.integer t.micros), fun _ _ => rfl⟩

variable {α : Type}

mutual

/-- The clauses of a filter that combine no others, from left to right. -/
def leaves : Filter α → List (Clause α)
  | mk cs => leavesOfEach cs

def leavesOfEach : List (Clause α) → List (Clause α)
  | [] => []
  | c :: cs => c.leaves ++ leavesOfEach cs

def Clause.leaves : Clause α → List (Clause α)
  | .comparison c w => [.comparison c w]
  | .pattern p text => [.pattern p text]
  | .within ws => [.within ws]
  | .notWithin ws => [.notWithin ws]
  | .all fs => leavesOf fs
  | .any fs => leavesOf fs

def leavesOf : List (Filter α) → List (Clause α)
  | [] => []
  | f :: fs => f.leaves ++ leavesOf fs

end

section Terms

variable [Bindable α] [Termed α]

/-- The values with which a clause compares its field. -/
def Clause.terms : Clause α → List Term
  | .comparison _ w => [Termed.term w]
  | .pattern _ text => [.value (.text text)]
  | .within ws => ws.map Termed.term
  | .notWithin ws => ws.map Termed.term
  | .all _ => []
  | .any _ => []

def Clause.params (c : Clause α) : List Param := c.terms.map Term.param

mutual

/-- The tree of a filter on a field. No row has a value among none, and every row has one outside of
none. -/
def tree (field : List Sql.Filled) : Filter α → Tree
  | mk cs => .all (treesOfEach field cs)

def treesOfEach (field : List Sql.Filled) : List (Clause α) → List Tree
  | [] => []
  | c :: cs => c.tree field :: treesOfEach field cs

def Clause.tree (field : List Sql.Filled) : Clause α → Tree
  | .comparison c w => .test ⟨field, .comparison c, [Termed.term w]⟩
  | .pattern p text => .test ⟨field, .pattern p, [.value (.text text)]⟩
  | .within ws => if ws.isEmpty then .never else .test ⟨field, .within, ws.map Termed.term⟩
  | .notWithin ws => if ws.isEmpty then .all [] else .test ⟨field, .notWithin, ws.map Termed.term⟩
  | .all fs => .all (treesOf field fs)
  | .any fs => .any (treesOf field fs)

def treesOf (field : List Sql.Filled) : List (Filter α) → List Tree
  | [] => []
  | f :: fs => f.tree field :: treesOf field fs

end

end Terms

/-- A leaf that leaves its field alone. -/
def Clause.Free (c : Clause α) : Prop := c = .notWithin []

variable [Bindable α] [Termed α] {d : Dialect} {field : Sql}

/-- The condition that leaves make, and the tree as which it is read. -/
inductive Compiles (d : Dialect) (leaves : List (Clause α)) : Option Sql → Option Tree → Prop where
  | nothing (free : ∀ c ∈ leaves, c.Free) : Compiles d leaves none none
  | condition {q : Sql} {t : Tree} (stands : Stands d q t)
      (params : q.params = leaves.flatMap Clause.params) (constrained : ¬ ∀ c ∈ leaves, c.Free) :
      Compiles d leaves (some q) (some t)

theorem Compiles.rel {leaves : List (Clause α)} {q : Option Sql} {t : Option Tree}
    (h : Compiles d leaves q t) : Option.Rel (Stands d) q t := by
  cases h with
  | nothing => exact .none
  | condition stands => exact .some stands

/-- The conditions that leaves make, to be combined. -/
structure CompileAll (d : Dialect) (leaves : List (Clause α)) (qs : List Sql) (ts : List Tree) : Prop where
  stand : List.Forall₂ (Stands d) qs ts
  params : qs.flatMap Sql.params = leaves.flatMap Clause.params
  nothing : qs = [] ↔ ∀ c ∈ leaves, c.Free

theorem params_of_free {leaves : List (Clause α)} (free : ∀ c ∈ leaves, c.Free) :
    leaves.flatMap Clause.params = [] := by
  refine List.flatMap_eq_nil_iff.2 fun c mem => ?_
  rw [free c mem]
  rfl

theorem CompileAll.cons {leaves others : List (Clause α)} {q : Option Sql} {t : Option Tree}
    {qs : List Sql} {ts : List Tree} (first : Compiles d leaves q t) (rest : CompileAll d others qs ts) :
    CompileAll d (leaves ++ others) (q.toList ++ qs) (t.toList ++ ts) := by
  cases first with
  | nothing free =>
    constructor
    · exact rest.stand
    · rw [List.flatMap_append, List.flatMap_append, params_of_free free, rest.params]
      rfl
    · rw [List.forall_mem_append]
      exact rest.nothing.trans (and_iff_right free).symm
  | condition stands params constrained =>
    constructor
    · exact .cons stands rest.stand
    · rw [List.flatMap_append, List.flatMap_append, ← params, rest.params]
      simp
    · rw [List.forall_mem_append]
      exact iff_of_false (List.cons_ne_nil _ _) fun free => constrained free.1

/-- Conditions that a connective combines. -/
theorem CompileAll.joined {connective : String} (plain : Sql.isPlain connective = true)
    {leaves : List (Clause α)} {qs : List Sql} {ts : List Tree} {make : List Tree → Tree}
    (stand : Option.Rel (Stands d) (combine connective qs) (Tree.combined? make ts))
    (all : CompileAll d leaves qs ts) :
    Compiles d leaves (combine connective qs) (Tree.combined? make ts) := by
  have yields := combine_yields plain fun q mem => (Sql.exists_related all.stand q mem).choose_spec.solid
  have some : combine connective qs = none ↔ qs = [] := by
    cases qs with
    | nil => exact iff_of_true rfl rfl
    | cons q rest => cases rest <;> exact iff_of_false nofun (List.cons_ne_nil _ _)
  rw [all.nothing] at some
  generalize combine connective qs = q, Tree.combined? make ts = t at stand yields some ⊢
  cases stand with
  | none => exact .nothing (some.1 rfl)
  | some stands =>
    have params : Sql.params _ = _ := yields.params
    exact .condition stands (params.trans all.params) fun free => nomatch some.2 free

theorem bindList_terms (d : Dialect) (ws : List α) :
    bindList d (ws.map Termed.term) = bindList d ws := by
  simp only [bindList, List.map_map, Function.comp_def, Termed.bind_term]

/-- A leaf that is not free stands for its test. -/
theorem Compiles.leaf {c : Clause α} {q : Sql} {t : Tree} (stands : Stands d q t)
    (params : q.params = c.params) (constrains : ¬ c.Free) : Compiles d [c] (some q) (some t) := by
  refine .condition stands ?_ fun free => constrains (free c List.mem_cons_self)
  rw [params, List.flatMap_singleton]

theorem Compiles.list (atomic : Atomic d field) {o : String × Operator} (mem : o ∈ Sql.operatorNames)
    (plain : Sql.isPlain o.1 = true) (several : o.2 = .within ∨ o.2 = .notWithin) {ws : List α}
    (any : ws ≠ []) {c : Clause α} (terms : c.terms = ws.map Termed.term) (constrains : ¬ c.Free) :
    Compiles d [c] (some (binary field o.1 (bindList d ws)))
      (some (.test ⟨filled d field, o.2, ws.map Termed.term⟩)) := by
  have any : ws.map Termed.term ≠ [] := fun none => any (List.map_eq_nil_iff.1 none)
  have stands := Sql.stands_terms atomic mem several any
  have binds := binds_binary atomic.binds plain (Sql.binds_terms d (ws.map Termed.term))
  rw [bindList_terms] at stands binds
  refine .leaf stands ?_ constrains
  rw [binds.params, Clause.params, terms]

/-- A dimension is one expression. -/
theorem atomic_dimension (d : Dialect) (source : Source) (name path : String) :
    Atomic d (d.dimension source name path) where
  binds := (names_dimension d source name path).binds
  expression := by
    cases d <;> cases source <;> rfl

section Conditions

variable {onText : Bool} {maxDepth : Nat}

theorem pruned?_single (t : Tree) : (Tree.all [t]).pruned? = t.pruned? := by
  rw [Tree.pruned?, Tree.prunedMembers, Tree.prunedMembers, List.append_nil]
  cases t.pruned? <;> rfl

mutual

/-- The condition of a filter is read as the filter's tree. -/
theorem condition?_compiles (atomic : Atomic d field) : (f : Filter α) → {depth : Nat} →
    validateAt onText maxDepth depth f = .ok () →
    Compiles d f.leaves (condition? d field f) (f.tree (filled d field)).pruned?
  | mk [], _, _ => .nothing nofun
  | mk (c :: cs), _, valid => by
    obtain ⟨rfl, only⟩ := of_validateAt_cons valid
    have compiles := clauseCondition?_compiles atomic c only
    rw [tree, treesOfEach, treesOfEach, pruned?_single, leaves, leavesOfEach, leavesOfEach,
      List.append_nil]
    exact compiles

theorem clauseCondition?_compiles (atomic : Atomic d field) : (c : Clause α) → {depth : Nat} →
    validateClause onText maxDepth depth c = .ok () →
    Compiles d c.leaves (clauseCondition? d field c) (c.tree (filled d field)).pruned?
  | .comparison c w, _, _ => by
    have stands := Sql.stands_term atomic (Sql.symbol_mem c) (.inl ⟨c, rfl⟩) (Termed.term w)
    have binds := binds_binary atomic.binds (isPlain_symbol c) (Sql.binds_term d (Termed.term w))
    rw [Termed.bind_term] at stands binds
    exact .leaf stands binds.params nofun
  | .pattern p text, _, _ => by
    have stands := Sql.stands_term atomic (Sql.keyword_mem p) (.inr ⟨p, rfl⟩) (.value (.text text))
    have binds := binds_binary atomic.binds (isPlain_keyword p) (Sql.binds_bind (.text text))
    exact .leaf stands binds.params nofun
  | .within [], _, _ => .leaf Sql.stands_never rfl nofun
  | .within (w :: ws), _, _ =>
    .list atomic (o := ("IN", .within)) (by decide) (by decide) (.inl rfl) (List.cons_ne_nil w ws) rfl nofun
  | .notWithin [], _, _ => .nothing fun c mem => List.mem_singleton.1 mem
  | .notWithin (w :: ws), _, _ =>
    .list atomic (o := ("NOT IN", .notWithin)) (by decide) (by decide) (.inr rfl) (List.cons_ne_nil w ws)
      rfl nofun
  | .all fs, _, valid => by
    rw [validateClause] at valid
    have all := conditions_compile atomic fs valid
    exact all.joined (by decide) (Sql.combine_all_stands all.stand)
  | .any fs, _, valid => by
    rw [validateClause] at valid
    have all := conditions_compile atomic fs valid
    exact all.joined (by decide) (Sql.combine_any_stands all.stand)

theorem conditions_compile (atomic : Atomic d field) : (fs : List (Filter α)) → {depth : Nat} →
    validateEach onText maxDepth depth fs = .ok () →
    CompileAll d (leavesOf fs) (conditions d field fs) (Tree.prunedMembers (treesOf (filled d field) fs))
  | [], _, _ => ⟨.nil, rfl, iff_of_true rfl nofun⟩
  | f :: fs, _, valid => by
    obtain ⟨first, others⟩ := of_validateEach_cons valid
    rw [leavesOf, conditions, treesOf, Tree.prunedMembers]
    exact .cons (condition?_compiles atomic f first) (conditions_compile atomic fs others)

end

/-- A condition that is read back as what a filter says of a field. -/
structure ReadsBack (d : Dialect) (field : Sql) (f : Filter α) (q : Sql) : Prop where
  params : (d.statement q).params = f.leaves.flatMap Clause.params
  counted : Sql.placeholders (Sql.read d (d.statement q).text) = (f.leaves.flatMap Clause.params).length
  reads : ∃ t, (f.tree (filled d field)).pruned? = some t ∧ (d.statement q).tree? d = some t ∧
    ∀ {before after : List Sql} {bs as : List Tree}, List.Forall₂ (Stands d) before bs →
      List.Forall₂ (Stands d) after as →
      (d.statement (join " AND " (before ++ q :: after))).tree? d = some (.joined .all (bs ++ t :: as))

/--
A well-formed filter on an atomic field has no condition exactly when its leaves are exclusions of
nothing. Its condition is read back, also between others that `AND` joins, as the filter's own tree
without the members that say nothing and without combinations of one member.
-/
theorem condition?_readsBack [Comparable α] {f : Filter α} (valid : f.validate maxDepth = .ok ())
    (atomic : Atomic d field) :
    (f.condition? d field = none ↔ ∀ c ∈ f.leaves, c = .notWithin []) ∧
      ∀ q, f.condition? d field = some q → f.ReadsBack d field q := by
  have compiles := condition?_compiles atomic f valid
  generalize f.condition? d field = condition, pruned : (f.tree (filled d field)).pruned? = tree at compiles
  cases compiles with
  | nothing free => exact ⟨iff_of_true rfl free, nofun⟩
  | @condition q t stands params constrained =>
    refine ⟨iff_of_false nofun constrained, ?_⟩
    rintro _ ⟨⟩
    have lines := stands.solid.loose.linesUp (d := d) params
    refine ⟨lines.params, lines.counted.trans (congrArg List.length lines.params), t, pruned, ?_, ?_⟩
    · have alone := Sql.tree?_join (.cons stands .nil) (List.cons_ne_nil q [])
      rwa [Sql.join_singleton] at alone
    · intro before after bs as first last
      have all := List.rel_append first (.cons stands last)
      exact Sql.tree?_join all (List.append_ne_nil_of_right_ne_nil _ (List.cons_ne_nil q after))

/-- What is read of the nested filter on a column. -/
def nestedTree : Tree :=
  .any [.test ⟨Sql.chars "model", .comparison .equal, [.value (.text "gpt")]⟩,
    .all [.test ⟨Sql.chars "model", .pattern .like, [.value (.text "c%")]⟩,
      .test ⟨Sql.chars "model", .notWithin, [.value (.text "cat"), .value (.text "cow")]⟩],
    .never]

theorem condition?_readsBack_nested :
    ∃ q, nested.condition? .duckdb "model" = some q ∧ nested.ReadsBack .duckdb "model" q ∧
      (Dialect.duckdb.statement (join " AND " [binary "namespace" "=" (Sql.bind (.text "shop")), q])).tree?
          .duckdb =
        some (.all [.test ⟨Sql.chars "namespace", .comparison .equal, [.value (.text "shop")]⟩,
          nestedTree]) := by
  have valid : nested.validate 8 = .ok () := rfl
  have model : Atomic .duckdb "model" := Sql.atomic_column (by decide) (by decide)
  have space : Atomic .duckdb "namespace" := Sql.atomic_column (by decide) (by decide)
  have shop : Stands .duckdb (binary "namespace" "=" (Sql.bind (.text "shop")))
      (.test ⟨filled .duckdb "namespace", .comparison .equal, [.value (.text "shop")]⟩) :=
    Sql.stands_term space (Sql.symbol_mem .equal) (.inl ⟨_, rfl⟩) (.value (.text "shop"))
  have tree : (nested.tree (Sql.chars "model")).pruned? = some nestedTree := rfl
  obtain ⟨q, made⟩ : ∃ q, nested.condition? .duckdb "model" = some q := ⟨_, rfl⟩
  have readsBack := (condition?_readsBack valid model).2 q made
  obtain ⟨t, pruned, -, joined⟩ := readsBack.reads
  rw [Sql.filled_plain] at pruned shop
  obtain rfl : nestedTree = t := Option.some.inj (tree.symm.trans pruned)
  have both := joined (.cons shop .nil) .nil
  exact ⟨q, made, readsBack, both⟩

end Conditions

end Filter

end Metering
