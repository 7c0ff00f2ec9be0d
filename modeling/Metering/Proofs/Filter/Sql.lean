import Metering.Filter.Sql
import Metering.Proofs.Sql.Dialect

/-!
The values of a filter and the parameters of its condition: a condition binds the values that count, from
left to right, and a filter without a condition has none (`condition?_yields`).
-/
namespace Metering

namespace Filter

open Sql (Binds Carries Loose Solid binds_plain binds_bind carries_bindTexts carries_join)

mutual

/-- The values of a filter in their order. Of several clauses the first one counts. -/
def values : TextFilter → List Param
  | mk cs => firstValues cs

def firstValues : List (Clause String) → List Param
  | [] => []
  | c :: _ => clauseValues c

def clauseValues : Clause String → List Param
  | .comparison _ v => [.text v]
  | .pattern _ text => [.text text]
  | .within vs => vs.map .text
  | .notWithin vs => vs.map .text
  | .all fs => valuesOf fs
  | .any fs => valuesOf fs

def valuesOf : List TextFilter → List Param
  | [] => []
  | f :: fs => values f ++ valuesOf fs

end

/-- A condition binds the given values; where there is none, there are none. -/
def Yields (values : List Param) : Option Sql → Prop
  | some q => Binds q values
  | none => values = []

variable {d : Dialect} {field : Sql}

theorem isPlain_symbol (c : Comparison) : Sql.isPlain c.symbol = true := by
  cases c <;> decide

theorem isPlain_keyword (p : PatternMatch) : Sql.isPlain p.keyword = true := by
  cases p <;> decide

theorem binds_binary {operator : String} {operand : Sql} {vs : List Param} (hf : Binds field [])
    (plain : Sql.isPlain operator = true) (h : Binds operand vs) :
    Binds (binary field operator operand) vs := by
  have spacer : Sql.isSpacer (" " ++ operator ++ " ") = true :=
    Sql.isSpacer_append (by rw [Sql.isPlain_append, plain]; decide) (by decide)
  exact (hf.append (binds_plain spacer)).append h

theorem binds_bindList (d : Dialect) (vs : List String) : Binds (bindList d vs) (vs.map .text) :=
  (binds_plain (by decide)).around (carries_bindTexts vs) (binds_plain (by decide))

theorem combine_yields {c : String} (plain : Sql.isPlain c = true) {qs : List Sql}
    (solid : ∀ q ∈ qs, Solid q) : Yields (qs.flatMap Sql.params) (combine c qs) := by
  have spacer : Sql.isSpacer (" " ++ c ++ " ") = true :=
    Sql.isSpacer_append (by rw [Sql.isPlain_append, plain]; decide) (by decide)
  cases qs with
  | nil => rfl
  | cons q rest =>
    cases rest with
    | nil => exact ⟨solid q List.mem_cons_self, by simp⟩
    | cons r rest =>
      exact (binds_plain (by decide)).around
        (carries_join spacer fun item mem => (solid item mem).loose) (binds_plain (by decide))

mutual

theorem condition?_yields (hf : Binds field []) :
    (f : TextFilter) → Yields (values f) (condition? d field f)
  | mk cs => firstCondition?_yields hf cs

theorem firstCondition?_yields (hf : Binds field []) :
    (cs : List (Clause String)) → Yields (firstValues cs) (firstCondition? d field cs)
  | [] => rfl
  | c :: _ => clauseCondition?_yields hf c

theorem clauseCondition?_yields (hf : Binds field []) :
    (c : Clause String) → Yields (clauseValues c) (clauseCondition? d field c)
  | .comparison c v => binds_binary hf (isPlain_symbol c) (binds_bind _)
  | .pattern p text => binds_binary hf (isPlain_keyword p) (binds_bind _)
  | .within vs => by
    cases vs with
    | nil => exact binds_plain (by decide)
    | cons v vs => exact binds_binary hf (by decide) (binds_bindList d (v :: vs))
  | .notWithin vs => by
    cases vs with
    | nil => rfl
    | cons v vs => exact binds_binary hf (by decide) (binds_bindList d (v :: vs))
  | .all fs => by
    obtain ⟨solid, flat⟩ := conditions_yield hf fs
    have yields := combine_yields (c := "AND") (by decide) solid
    rwa [flat] at yields
  | .any fs => by
    obtain ⟨solid, flat⟩ := conditions_yield hf fs
    have yields := combine_yields (c := "OR") (by decide) solid
    rwa [flat] at yields

theorem conditions_yield (hf : Binds field []) : (fs : List TextFilter) →
    (∀ q ∈ conditions d field fs, Solid q) ∧
      (conditions d field fs).flatMap Sql.params = valuesOf fs
  | [] => ⟨by simp [conditions], rfl⟩
  | f :: fs => by
    have first := condition?_yields hf f
    obtain ⟨solid, flat⟩ := conditions_yield hf fs
    rw [conditions, valuesOf]
    cases made : condition? d field f with
    | none =>
      rw [made] at first
      have none : values f = [] := first
      rw [none]
      exact ⟨solid, flat⟩
    | some q =>
      rw [made] at first
      have binds : Binds q (values f) := first
      constructor
      · intro r mem
        rcases List.mem_cons.1 mem with rfl | mem
        · exact binds.solid
        · exact solid r mem
      · rw [Option.toList_some, List.singleton_append, List.flatMap_cons, binds.params, flat]

end

end Filter

end Metering
