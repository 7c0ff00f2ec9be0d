import Metering.Filter.Json
import Metering.Proofs.Json.Injective

/-!
Filters told by their JSON values. The field of a clause is named by its operator, and no two operators
have one name, so a filter on texts can be told from the object it is written as
(`toValue_injective`).
-/
namespace Metering.Filter

open Json

theorem Comparison.name_injective {c d : Comparison} (h : c.name = d.name) : c = d := by
  cases c <;> cases d <;> first | rfl | exact absurd h (by decide)

theorem PatternMatch.name_injective {p q : PatternMatch} (h : p.name = q.name) : p = q := by
  cases p <;> cases q <;> first | rfl | exact absurd h (by decide)

theorem Operator.name_injective {o o' : Operator} (h : o.name = o'.name) : o = o' := by
  have apart (c : Comparison) (p : PatternMatch) : c.name ≠ p.name := by
    cases c <;> cases p <;> decide
  cases o with
  | comparison c =>
    cases o' with
    | comparison d => rw [Comparison.name_injective h]
    | pattern p => exact absurd h (apart c p)
    | _ => cases c <;> exact absurd h (by decide)
  | pattern p =>
    cases o' with
    | comparison c => exact absurd h.symm (apart c p)
    | pattern q => rw [PatternMatch.name_injective h]
    | _ => cases p <;> exact absurd h (by decide)
  | _ =>
    cases o' with
    | comparison c => cases c <;> exact absurd h (by decide)
    | pattern p => cases p <;> exact absurd h (by decide)
    | _ => first | rfl | exact absurd h (by decide)

theorem textual_strings (texts : List String) : Value.areTextual (texts.map .string) = true := by
  refine Value.areTextual_iff.2 fun v mem => ?_
  obtain ⟨text, -, rfl⟩ := List.mem_map.1 mem
  rfl

theorem strings_injective {texts texts' : List String}
    (h : texts.map Value.string = texts'.map Value.string) : texts = texts' :=
  (List.map_inj_right fun _ _ => Value.string.inj).1 h

mutual

theorem isTextual_toValue : ∀ f : TextFilter, (f.toValue .string).isTextual = true
  | mk cs => isTextual_clauseFields cs

theorem isTextual_clauseFields :
    ∀ cs : List (Clause String), Value.fieldsTextual (clauseFields .string cs) = true
  | [] => rfl
  | c :: cs => by
    rw [clauseFields, Value.fieldsTextual, Clause.isTextual_toValue c, isTextual_clauseFields cs]
    rfl

theorem Clause.isTextual_toValue : ∀ c : Clause String, (c.toValue .string).isTextual = true
  | .comparison .. => rfl
  | .pattern .. => rfl
  | .within texts => textual_strings texts
  | .notWithin texts => textual_strings texts
  | .all fs => isTextual_listValues fs
  | .any fs => isTextual_listValues fs

theorem isTextual_listValues :
    ∀ fs : List TextFilter, Value.areTextual (listValues .string fs) = true
  | [] => rfl
  | f :: fs => by
    rw [listValues, Value.areTextual, isTextual_toValue f, isTextual_listValues fs]
    rfl

end

mutual

theorem toValue_injective :
    ∀ {f g : TextFilter}, f.toValue Value.string = g.toValue .string → f = g
  | mk _, mk _, h => by
    rw [toValue, toValue, Value.object.injEq] at h
    rw [clauseFields_injective h]

theorem clauseFields_injective : ∀ {cs ds : List (Clause String)},
    clauseFields Value.string cs = clauseFields .string ds → cs = ds
  | [], [], _ => rfl
  | [], _ :: _, h => by cases h
  | _ :: _, [], h => by cases h
  | _ :: _, _ :: _, h => by
    rw [clauseFields, clauseFields, List.cons.injEq, Prod.mk.injEq] at h
    obtain ⟨⟨name, value⟩, others⟩ := h
    rw [Clause.toValue_injective (Operator.name_injective name) value, clauseFields_injective others]

theorem Clause.toValue_injective : ∀ {c d : Clause String}, c.operator = d.operator →
    c.toValue Value.string = d.toValue .string → c = d
  | .comparison _ _, d, same, h => by
    cases d with
    | comparison _ _ => rw [Operator.comparison.inj same, Value.string.inj h]
    | _ => cases same
  | .pattern _ _, d, same, h => by
    cases d with
    | pattern _ _ => rw [Operator.pattern.inj same, Value.string.inj h]
    | _ => cases same
  | .within _, d, same, h => by
    cases d with
    | within _ => rw [strings_injective (Value.array.inj h)]
    | _ => cases same
  | .notWithin _, d, same, h => by
    cases d with
    | notWithin _ => rw [strings_injective (Value.array.inj h)]
    | _ => cases same
  | .all _, d, same, h => by
    cases d with
    | all _ => rw [listValues_injective (Value.array.inj h)]
    | _ => cases same
  | .any _, d, same, h => by
    cases d with
    | any _ => rw [listValues_injective (Value.array.inj h)]
    | _ => cases same

theorem listValues_injective : ∀ {fs gs : List TextFilter},
    listValues Value.string fs = listValues .string gs → fs = gs
  | [], [], _ => rfl
  | [], _ :: _, h => by cases h
  | _ :: _, [], h => by cases h
  | _ :: _, _ :: _, h => by
    rw [listValues, listValues, List.cons.injEq] at h
    rw [toValue_injective h.1, listValues_injective h.2]

end

end Metering.Filter
