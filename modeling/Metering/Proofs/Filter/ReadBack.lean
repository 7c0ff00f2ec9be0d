import Metering.Filter.Json
import Metering.Proofs.Filter.Json
import Metering.Proofs.Json.Kept

/-!
Filters read back from JSON. The clauses that are read stand in the order of the operators, at most one
of each, and nest no deeper than the objects that held them (`Filter.canonical_of_read`). Such a filter
is read from what it is written as (`Filter.kept`).
-/
namespace Metering.Filter

open Json

variable {α : Type}

/-- All operators in their order. -/
def Operator.every : List Operator :=
  [.comparison .equal, .comparison .unequal, .comparison .greater, .comparison .atLeast,
    .comparison .less, .comparison .atMost, .pattern .like, .pattern .notLike, .pattern .ilike,
    .pattern .notIlike, .within, .notWithin, .all, .any]

/-- What an operator is applied to, with a reader for values and one for lists of filters. -/
def Operator.read? (get : Tree → Option α) (nested : Tree → Option (List (Filter α))) :
    Operator → Tree → Option (Clause α)
  | .comparison c, t => (get t).map (.comparison c)
  | .pattern p, t => t.string?.map (.pattern p)
  | .within, t => (t.array? get).map .within
  | .notWithin, t => (t.array? get).map .notWithin
  | .all, t => (nested t).map .all
  | .any, t => (nested t).map .any

/-- The clause of an operator, if its field is set. -/
def clauseOf (get : Tree → Option α) (nested : Tree → Option (List (Filter α))) (r : Record)
    (o : Operator) : Option (List (Clause α)) :=
  (r.optional o.name (o.read? get nested)).map Option.toList

section Read

variable {get : Tree → Option α} {nested : Tree → Option (List (Filter α))}

theorem clauseField_eq {β : Type} (r : Record) (name : String) (read : Tree → Option β)
    (clause : β → Clause α) : clauseField r name read clause =
      (r.optional name fun t => (read t).map clause).map Option.toList := by
  unfold clauseField Record.optional
  split
  · rfl
  · rename_i t _
    unfold Tree.nullable?
    split
    · rfl
    · cases made : read t <;> simp [made]

/-- A filter is read from the fields of its operators, one after the other. -/
theorem ofTreeWithin_succ (fuel : Nat) (t : Tree) : ofTreeWithin get (fuel + 1) t =
    (t.record? fieldNames).bind fun r =>
      (Operator.every.mapM (clauseOf get (Tree.array? (ofTreeWithin get fuel)) r)).map fun css =>
        .mk css.flatten := by
  rw [ofTreeWithin]
  refine congrArg _ (funext fun r => ?_)
  simp only [clauseField_eq]
  show ((Operator.every.map (clauseOf get (Tree.array? (ofTreeWithin get fuel)) r)).mapM id).bind
    (fun css => some (Filter.mk css.flatten)) = _
  rw [List.mapM_map, Function.id_comp]
  cases Operator.every.mapM (clauseOf get (Tree.array? (ofTreeWithin get fuel)) r) <;> rfl

theorem operator_of_read {o : Operator} {t : Tree} {c : Clause α} (h : o.read? get nested t = some c) :
    c.operator = o := by
  cases o <;> obtain ⟨_, -, rfl⟩ := Option.map_eq_some_iff.1 h <;> rfl

theorem read_null (notNull : get .null = none) (nestedNotNull : nested .null = none) (o : Operator) :
    o.read? get nested .null = none := by
  cases o <;> simp [Operator.read?, notNull, nestedNotNull, Tree.string?, Tree.array?]

theorem clauseOf_eq_some {r : Record} {o : Operator} {cs : List (Clause α)}
    (h : clauseOf get nested r o = some cs) : cs = [] ∨ ∃ c t, cs = [c] ∧ c.operator = o ∧
      r.lookup o.name = some t ∧ o.read? get nested t = some c := by
  obtain ⟨set, found, rfl⟩ := Option.map_eq_some_iff.1 h
  cases set with
  | none => exact .inl rfl
  | some c =>
    right
    rw [Record.optional] at found
    split at found
    · cases found
    · rename_i t here
      unfold Tree.nullable? at found
      split at found
      · cases found
      · obtain ⟨c', read, is⟩ := Option.map_eq_some_iff.1 found
        cases is
        exact ⟨c, t, rfl, operator_of_read read, here, read⟩

/-- The clauses that are read have operators in their order, and each is read from the field of its
operator. -/
theorem clauses_of_mapM {r : Record} {os : List Operator} {css : List (List (Clause α))}
    (h : os.mapM (clauseOf get nested r) = some css) :
    (css.flatten.map Clause.operator).Sublist os ∧ ∀ c ∈ css.flatten, ∃ t,
      r.lookup c.operator.name = some t ∧ c.operator.read? get nested t = some c := by
  induction os generalizing css with
  | nil =>
    cases h
    exact ⟨.slnil, fun c mem => absurd mem List.not_mem_nil⟩
  | cons o os ih =>
    rw [List.mapM_cons] at h
    obtain ⟨cs, first, h⟩ := Option.bind_eq_some_iff.1 h
    obtain ⟨css, others, is⟩ := Option.bind_eq_some_iff.1 h
    cases is
    obtain ⟨sub, read⟩ := ih others
    rw [List.flatten_cons]
    rcases clauseOf_eq_some first with rfl | ⟨c, t, rfl, rfl, here, made⟩
    · exact ⟨.cons _ sub, read⟩
    · exact ⟨.cons_cons _ sub, List.forall_mem_cons.2 ⟨⟨t, here, made⟩, read⟩⟩

/-- Clauses with operators in their order are put together again. -/
theorem mapM_clauseOf {r : Record} {os : List Operator} {cs : List (Clause α)}
    (sub : (cs.map Clause.operator).Sublist os) (apart : os.Nodup)
    (set : ∀ c ∈ cs, clauseOf get nested r c.operator = some [c])
    (unset : ∀ o ∈ os, o ∉ cs.map Clause.operator → clauseOf get nested r o = some []) :
    ∃ css, os.mapM (clauseOf get nested r) = some css ∧ css.flatten = cs := by
  induction os generalizing cs with
  | nil =>
    obtain rfl : cs = [] := List.map_eq_nil_iff.1 (List.sublist_nil.1 sub)
    exact ⟨[], rfl, rfl⟩
  | cons o os ih =>
    obtain ⟨new, distinct⟩ := List.nodup_cons.1 apart
    rw [List.mapM_cons]
    by_cases skipped : (cs.map Clause.operator).Sublist os
    · have missing : o ∉ cs.map Clause.operator := fun mem => new (skipped.subset mem)
      obtain ⟨css, read, is⟩ := ih skipped distinct set fun o' mem => unset o' (List.mem_cons_of_mem _ mem)
      refine ⟨[] :: css, ?_, is⟩
      rw [unset o List.mem_cons_self missing, read]
      rfl
    · cases cs with
      | nil => exact absurd (List.nil_sublist os) skipped
      | cons c cs =>
        obtain ⟨rfl, rest⟩ : c.operator = o ∧ (cs.map Clause.operator).Sublist os := by
          rw [List.map_cons] at sub skipped
          cases sub with
          | cons _ rest => exact absurd rest skipped
          | cons_cons _ rest => exact ⟨rfl, rest⟩
        obtain ⟨first, others⟩ := List.forall_mem_cons.1 set
        obtain ⟨css, read, is⟩ := ih rest distinct others fun o' mem absent => by
          refine unset o' (List.mem_cons_of_mem _ mem) ?_
          rw [List.map_cons, List.mem_cons]
          rintro (rfl | mem')
          · exact new mem
          · exact absent mem'
        refine ⟨[c] :: css, ?_, by rw [List.flatten_cons, is]; rfl⟩
        rw [first, read]
        rfl

end Read

/-! ### Filters that readers give -/

mutual

/-- A filter with clauses in the order of their operators, values that have a property, and at most so
many arrays and objects inside each other when it is written. -/
inductive Canonical (P : α → Prop) : Nat → Filter α → Prop where
  | mk {room : Nat} {cs : List (Clause α)} : (cs.map Clause.operator).Sublist Operator.every →
    (∀ c ∈ cs, Clause.Canonical P room c) → Canonical P (room + 1) (.mk cs)

inductive Clause.Canonical (P : α → Prop) : Nat → Clause α → Prop where
  | comparison {room : Nat} (c : Comparison) {v : α} : P v →
    Clause.Canonical P room (.comparison c v)
  | pattern (room : Nat) (p : PatternMatch) (text : String) :
    Clause.Canonical P room (.pattern p text)
  | within {room : Nat} {vs : List α} : (∀ v ∈ vs, P v) →
    Clause.Canonical P (room + 1) (.within vs)
  | notWithin {room : Nat} {vs : List α} : (∀ v ∈ vs, P v) →
    Clause.Canonical P (room + 1) (.notWithin vs)
  | all {room : Nat} {fs : List (Filter α)} : (∀ f ∈ fs, Canonical P room f) →
    Clause.Canonical P (room + 1) (.all fs)
  | any {room : Nat} {fs : List (Filter α)} : (∀ f ∈ fs, Canonical P room f) →
    Clause.Canonical P (room + 1) (.any fs)

end

section Gives

variable {get : Tree → Option α} {P : α → Prop}

/-- An array of filters that are canonical if they nest less. -/
theorem canonical_items {room fuel : Nat} {t : Tree} {fs : List (Filter α)} (fits : t.Fits room)
    (ih : ∀ {room t f}, t.Fits room → ofTreeWithin get fuel t = some f → Canonical P room f)
    (h : Tree.array? (ofTreeWithin get fuel) t = some fs) :
    ∃ inner, room = inner + 1 ∧ ∀ f ∈ fs, Canonical P inner f := by
  cases fits with
  | @array inner items inside =>
    refine ⟨inner, rfl, fun f mem => ?_⟩
    obtain ⟨t, mem', read⟩ := Gives.mem_of_mapM h mem
    exact ih (inside t mem') read
  | _ => cases h

theorem canonical_clause {room fuel : Nat} {o : Operator} {t : Tree} {c : Clause α}
    (gives : Gives get P) (fits : t.Fits room)
    (ih : ∀ {room t f}, t.Fits room → ofTreeWithin get fuel t = some f → Canonical P room f)
    (h : o.read? get (Tree.array? (ofTreeWithin get fuel)) t = some c) :
    Clause.Canonical P room c := by
  cases o with
  | comparison cmp =>
    obtain ⟨v, read, rfl⟩ := Option.map_eq_some_iff.1 h
    exact .comparison cmp (gives t v read)
  | pattern p =>
    obtain ⟨text, -, rfl⟩ := Option.map_eq_some_iff.1 h
    exact .pattern room p text
  | within =>
    obtain ⟨vs, read, rfl⟩ := Option.map_eq_some_iff.1 h
    have each := gives.list t vs read
    cases fits with
    | array inside => exact .within each
    | _ => cases read
  | notWithin =>
    obtain ⟨vs, read, rfl⟩ := Option.map_eq_some_iff.1 h
    have each := gives.list t vs read
    cases fits with
    | array inside => exact .notWithin each
    | _ => cases read
  | all =>
    obtain ⟨fs, read, rfl⟩ := Option.map_eq_some_iff.1 h
    obtain ⟨inner, rfl, each⟩ := canonical_items fits ih read
    exact .all each
  | any =>
    obtain ⟨fs, read, rfl⟩ := Option.map_eq_some_iff.1 h
    obtain ⟨inner, rfl, each⟩ := canonical_items fits ih read
    exact .any each

/-- By induction on the number of filters that a filter may hold inside each other. -/
theorem canonical_of_read (gives : Gives get P) {fuel room : Nat} {t : Tree} {f : Filter α}
    (fits : t.Fits room) (h : ofTreeWithin get fuel t = some f) : Canonical P room f := by
  induction fuel generalizing room t f with
  | zero => cases h
  | succ fuel ih =>
    rw [ofTreeWithin_succ] at h
    obtain ⟨r, record, h⟩ := Option.bind_eq_some_iff.1 h
    obtain ⟨css, read, rfl⟩ := Option.map_eq_some_iff.1 h
    obtain ⟨inner, rfl, inside⟩ := fits.of_record record
    obtain ⟨ordered, each⟩ := clauses_of_mapM read
    refine .mk ordered fun c mem => ?_
    obtain ⟨t', here, made⟩ := each c mem
    exact canonical_clause gives (inside _ _ here) ih made

end Gives

/-! ### Canonical filters are kept -/

section Kept

variable {write : α → Value} {get : Tree → Option α} {P : α → Prop}

theorem clauseFields_eq (cs : List (Clause α)) :
    clauseFields write cs = cs.map fun c => (c.operator.name, c.toValue write) := by
  induction cs with
  | nil => rfl
  | cons c cs ih => rw [clauseFields, ih, List.map_cons]

theorem listValues_eq (fs : List (Filter α)) : listValues write fs = fs.map (toValue write) := by
  induction fs with
  | nil => rfl
  | cons f fs ih => rw [listValues, ih, List.map_cons]

/-- Whatever is inside fits, so the whole does. -/
theorem fits_toValue (kept : ∀ a, P a → ∀ room, Kept write get room a) (room : Nat) :
    (∀ f : Filter α, Canonical P room f → (f.toValue write).Fits room) ∧
      ∀ c : Clause α, Clause.Canonical P room c → (c.toValue write).Fits room := by
  induction room with
  | zero =>
    constructor
    · intro f h
      cases h
    · intro c h
      cases h with
      | comparison c fine => exact (kept _ fine 0).fits
      | pattern _ p text => exact .string 0 text
  | succ room ih =>
    have lists {vs : List α} (each : ∀ v ∈ vs, P v) : (Value.array (vs.map write)).Fits (room + 1) :=
      (Kept.list fun v mem => kept v (each v mem) room).fits
    have nested {fs : List (Filter α)} (each : ∀ f ∈ fs, Canonical P room f) :
        (Value.array (listValues write fs)).Fits (room + 1) := by
      rw [listValues_eq]
      refine .array fun v mem => ?_
      obtain ⟨f, here, rfl⟩ := List.mem_map.1 mem
      exact ih.1 f (each f here)
    constructor
    · intro f h
      cases h with
      | mk ordered each =>
        rw [toValue, clauseFields_eq]
        refine .object fun v mem => ?_
        obtain ⟨c, here, rfl⟩ := List.mem_map.1 mem
        exact ih.2 c (each c here)
    · intro c h
      cases h with
      | comparison c fine => exact (kept _ fine _).fits
      | pattern _ p text => exact .string _ text
      | within each => exact lists each
      | notWithin each => exact lists each
      | all each => exact nested each
      | any each => exact nested each

theorem lookup_clauseFields {cs : List (Clause α)} (apart : (cs.map Clause.operator).Nodup)
    {c : Clause α} (mem : c ∈ cs) :
    (clauseFields write cs).lookup c.operator.name = some (c.toValue write) := by
  induction cs with
  | nil => exact absurd mem List.not_mem_nil
  | cons d cs ih =>
    obtain ⟨new, apart⟩ := List.nodup_cons.1 apart
    rw [clauseFields, List.lookup_cons]
    rcases List.mem_cons.1 mem with rfl | mem
    · rw [beq_self_eq_true]
    · have other : c.operator.name ≠ d.operator.name := fun same =>
        new (Operator.name_injective same ▸ List.mem_map_of_mem mem)
      rw [beq_eq_false_iff_ne.2 other]
      exact ih apart mem

theorem lookup_clauseFields_none {cs : List (Clause α)} {o : Operator}
    (absent : o ∉ cs.map Clause.operator) : (clauseFields write cs).lookup o.name = none := by
  induction cs with
  | nil => rfl
  | cons d cs ih =>
    rw [List.map_cons, List.mem_cons, not_or] at absent
    have other : o.name ≠ d.operator.name := fun same => absent.1 (Operator.name_injective same)
    rw [clauseFields, List.lookup_cons, beq_eq_false_iff_ne.2 other]
    exact ih absent.2

/-- A clause is kept if the filters inside it are. -/
theorem kept_clause (kept : ∀ a, P a → ∀ room, Kept write get room a) {fuel room : Nat}
    {c : Clause α} (h : Clause.Canonical P room c)
    (ih : ∀ {inner f}, Canonical P inner f → inner < room →
      Kept (toValue write) (ofTreeWithin get fuel) inner f) :
    Kept (Clause.toValue write) (c.operator.read? get (Tree.array? (ofTreeWithin get fuel))) room c := by
  refine ⟨?_, (fits_toValue kept room).2 c h⟩
  have lists {vs : List α} (each : ∀ v ∈ vs, P v) :
      Tree.array? get (Value.array (vs.map write)).tree = some vs :=
    (Kept.list fun v mem => kept v (each v mem) 0).read
  have nested {inner : Nat} {fs : List (Filter α)} (each : ∀ f ∈ fs, Canonical P inner f)
      (lt : inner < room) :
      Tree.array? (ofTreeWithin get fuel) (Value.array (listValues write fs)).tree = some fs := by
    rw [listValues_eq]
    exact (Kept.list fun f mem => ih (each f mem) lt).read
  cases h with
  | comparison c fine => exact Option.map_eq_some_iff.2 ⟨_, (kept _ fine 0).read, rfl⟩
  | pattern _ p text => rfl
  | within each => exact Option.map_eq_some_iff.2 ⟨_, lists each, rfl⟩
  | notWithin each => exact Option.map_eq_some_iff.2 ⟨_, lists each, rfl⟩
  | all each => exact Option.map_eq_some_iff.2 ⟨_, nested each (Nat.lt_succ_self _), rfl⟩
  | any each => exact Option.map_eq_some_iff.2 ⟨_, nested each (Nat.lt_succ_self _), rfl⟩

/-- By induction on the number of filters that a filter may hold inside each other. -/
theorem kept_within (kept : ∀ a, P a → ∀ room, Kept write get room a) (notNull : get .null = none)
    {fuel room : Nat} {f : Filter α} (h : Canonical P room f) (le : room ≤ fuel) :
    Kept (toValue write) (ofTreeWithin get fuel) room f := by
  induction fuel generalizing room f with
  | zero =>
    cases h
    exact absurd le (Nat.not_succ_le_zero _)
  | succ fuel ih =>
    refine ⟨?_, (fits_toValue kept room).1 f h⟩
    cases h with
    | @mk room cs ordered each =>
      have every : Operator.every.Nodup := by decide
      have clause (c : Clause α) (mem : c ∈ cs) := kept_clause kept (each c mem) fun inside lt =>
        ih inside (Nat.le_trans (Nat.le_of_lt lt) (Nat.le_of_succ_le_succ le))
      have null : ∀ o, Operator.read? get (Tree.array? (ofTreeWithin get fuel)) o .null = none :=
        read_null notNull rfl
      have record : (toValue write (.mk cs)).tree.record? fieldNames =
          some (Value.record (clauseFields write cs)) := by
        refine Value.record_tree ?_ (by decide)
        rw [clauseFields_eq, List.map_map]
        have names := ordered.map Operator.name
        rwa [List.map_map] at names
      have set (c : Clause α) (mem : c ∈ cs) : clauseOf get (Tree.array? (ofTreeWithin get fuel))
          (Value.record (clauseFields write cs)) c.operator = some [c] := by
        have found : (Value.record (clauseFields write cs)).optional c.operator.name
            (c.operator.read? get (Tree.array? (ofTreeWithin get fuel))) = some (some c) := by
          have only : ∀ d ∈ some c, Kept (Clause.toValue write)
              (c.operator.read? get (Tree.array? (ofTreeWithin get fuel))) room d := by
            rintro d ⟨⟩
            exact clause c mem
          exact Kept.optional only (null _)
            (.inl (lookup_clauseFields (every.sublist ordered) mem))
        rw [clauseOf, found]
        rfl
      have unset (o : Operator) (absent : o ∉ cs.map Clause.operator) :
          clauseOf get (Tree.array? (ofTreeWithin get fuel))
            (Value.record (clauseFields write cs)) o = some [] := by
        rw [clauseOf, Record.optional, Value.lookup_record, lookup_clauseFields_none absent]
        rfl
      obtain ⟨css, read, is⟩ := mapM_clauseOf ordered every set fun o _ => unset o
      rw [ofTreeWithin_succ, record, Option.bind_some, read, ← is]
      rfl

end Kept

end Metering.Filter
