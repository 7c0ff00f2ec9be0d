import Metering.Cache.Identity
import Metering.Proofs.Calendar.Rfc3339
import Metering.Proofs.Filter.Json

/-!
Identities told by their texts. Everything in an identity is written as a string or made of strings, so
two identities with one text are the same (`CacheIdentity.text_injective`).
-/
namespace Metering

open Json

theorem Aggregation.name_injective {a b : Aggregation} (h : a.name = b.name) : a = b := by
  cases a <;> cases b <;> first | rfl | exact absurd h (by decide)

theorem WindowSize.name_injective {size size' : WindowSize} (h : size.name = size'.name) :
    size = size' := by
  cases size <;> cases size' <;> first | rfl | exact absurd h (by decide)

section Parts

variable {α : Type} {write : α → Value}

/-- What is missing is told from what is there. -/
theorem ofOption_injective (inj : ∀ a b, write a = write b → a = b) (some : ∀ a, write a ≠ .null)
    {x y : Option α} (h : Value.ofOption write x = .ofOption write y) : x = y := by
  cases x with
  | none =>
    cases y with
    | none => rfl
    | some b => exact absurd h.symm (some b)
  | some a =>
    cases y with
    | none => exact absurd h (some a)
    | some b => rw [inj a b h]

theorem isTextual_ofOption (write : α → Value) (textual : ∀ a, (write a).isTextual = true)
    (x : Option α) : (Value.ofOption write x).isTextual = true := by
  cases x with
  | none => rfl
  | some a => exact textual a

theorem entries_injective (inj : ∀ a b, write a = write b → a = b) {m n : KeyMap α}
    (h : m.toList.map (fun e => (e.1, write e.2)) = n.toList.map fun e => (e.1, write e.2)) :
    m = n := by
  obtain ⟨entries, _⟩ := m
  obtain ⟨entries', _⟩ := n
  have same : entries = entries' := by
    refine (List.map_inj_right fun e e' both => ?_).1 h
    obtain ⟨key, value⟩ := Prod.mk.inj both
    exact Prod.ext key (inj _ _ value)
  subst same
  rfl

theorem isTextual_entries (write : α → Value) (textual : ∀ a, (write a).isTextual = true)
    (m : KeyMap α) : Value.fieldsTextual (m.toList.map fun e => (e.1, write e.2)) = true := by
  refine Value.fieldsTextual_iff.2 fun field mem => ?_
  obtain ⟨e, -, rfl⟩ := List.mem_map.1 mem
  exact textual e.2

end Parts

namespace CacheIdentity

theorem isTextual_toValue (i : CacheIdentity) : i.toValue.isTextual = true := by
  have optional (text : Option String) : (Value.ofOption .string text).isTextual = true :=
    isTextual_ofOption _ (fun _ => rfl) text
  have since := isTextual_ofOption instantValue (fun _ => rfl) i.since
  have groups := isTextual_entries _ optional i.groups
  have customers := isTextual_entries textsValue Filter.textual_strings i.customers
  have filters := isTextual_entries _ Filter.isTextual_toValue i.filters
  have subjects := Filter.textual_strings i.subjects
  simp only [toValue, Value.isTextual, Value.fieldsTextual, optional, since, Bool.and_eq_true,
    true_and, and_true]
  exact ⟨groups, subjects, customers, filters, rfl⟩

theorem toValue_injective {i j : CacheIdentity} (h : i.toValue = j.toValue) : i = j := by
  have string (a b : String) (same : Value.string a = .string b) : a = b := Value.string.inj same
  have instant (t u : Instant) (same : instantValue t = instantValue u) : t = u :=
    Instant.toText_injective (Value.string.inj same)
  have optional (a b : Option String)
      (same : Value.ofOption .string a = .ofOption .string b) : a = b :=
    ofOption_injective string (fun _ is => by cases is) same
  have texts (a b : List String) (same : textsValue a = textsValue b) : a = b :=
    Filter.strings_injective (Value.array.inj same)
  have filter (f g : TextFilter) (same : TextFilter.toValue f = TextFilter.toValue g) : f = g :=
    Filter.toValue_injective same
  simp only [toValue, Value.object.injEq, List.cons.injEq, Prod.mk.injEq, Value.string.injEq,
    true_and, and_true, Row.groupsValue, Query.windowValue] at h
  obtain ⟨meterId, aggregation, eventType, valuePath, since, groups, subjects, customers, filters,
    zoneName, window⟩ := h
  cases i
  cases j
  rw [CacheIdentity.mk.injEq]
  exact ⟨meterId, Aggregation.name_injective aggregation, eventType, optional _ _ valuePath,
    ofOption_injective instant (fun _ is => by cases is) since, entries_injective optional groups,
    texts _ _ subjects, entries_injective texts customers, entries_injective filter filters, zoneName,
    WindowSize.name_injective window⟩

theorem text_injective {i j : CacheIdentity} (h : i.text = j.text) : i = j :=
  toValue_injective (Value.text_inj i.isTextual_toValue j.isTextual_toValue h)

end CacheIdentity

end Metering
