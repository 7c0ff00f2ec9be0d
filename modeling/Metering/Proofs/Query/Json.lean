import Metering.Proofs.Filter.ReadBack
import Metering.Proofs.Meter.Json
import Metering.Query.Json

/-!
Queries read back from JSON. What a reader gives holds instants of the calendar and canonical filters
only, and such a query is read from what it is written as (`Query.kept`).
-/
namespace Metering

open Json

theorem WindowSize.kept (size : WindowSize) :
    Kept Query.windowValue WindowSize.ofTree? 0 size :=
  Kept.named 0 (by cases size <;> decide)

theorem texts_kept (texts : List String) : Kept textsValue (Tree.array? Tree.string?) 1 texts :=
  Kept.list fun s _ => Kept.string 0 s

theorem Customer.kept (c : Customer) : Kept Customer.toValue Customer.ofTree? 2 c := by
  let fields : List (String × Value) := [("id", .string c.id), ("subject_keys", textsValue c.subjects)]
  have record : (Value.object fields).tree.record? ["id", "subject_keys"] =
      some (Value.record fields) := Value.record_tree (.refl _) (by decide)
  have id : (Value.record fields).required "id" Tree.string? = some c.id :=
    (Kept.string 0 c.id).required rfl
  have subjects : (Value.record fields).withDefault "subject_keys" [] (Tree.array? Tree.string?) =
      some c.subjects := (texts_kept c.subjects).withDefault [] rfl
  constructor
  · show Customer.ofTree? (Value.object fields).tree = some c
    rw [Customer.ofTree?, record, Option.bind_eq_bind, Option.bind_some, id, subjects]
    rfl
  · refine .object (List.forall_mem_cons.2 ⟨.string _ _, List.forall_mem_cons.2 ⟨?_, ?_⟩⟩)
    · exact (texts_kept c.subjects).fits
    · exact fun f mem => absurd mem List.not_mem_nil

namespace TextFilter

/-- A filter on texts that can stand inside so many arrays and objects. -/
abbrev Canonical (room : Nat) (f : TextFilter) : Prop := Filter.Canonical (fun _ => True) room f

theorem canonical_of_read {room : Nat} {t : Tree} {f : TextFilter} (fits : t.Fits room)
    (h : TextFilter.ofTree? t = some f) : Canonical room f :=
  Filter.canonical_of_read (fun _ _ _ => trivial) fits h

theorem kept {room : Nat} {f : TextFilter} (h : Canonical room f) (le : room ≤ nestingLimit) :
    Kept TextFilter.toValue TextFilter.ofTree? room f :=
  Filter.kept_within (fun s _ room => Kept.string room s) rfl h (Nat.le_succ_of_le le)

end TextFilter

namespace Query

/-- The instants of a query are of the calendar, and its filters can stand in the map that holds them. -/
structure Readable (q : Query) : Prop where
  start : ∀ t ∈ q.start, t.InRange
  stop : ∀ t ∈ q.stop, t.InRange
  filters : ∀ e ∈ q.filters.toList, e.2.Canonical (nestingLimit - 2)

/-- The filters in a map nest less than the map. -/
theorem canonical_of_map {room : Nat} {t : Tree} {m : KeyMap TextFilter} (fits : t.Fits room)
    (h : t.map? TextFilter.ofTree? = some m) :
    ∀ e ∈ m.toList, e.2.Canonical (room - 1) := by
  obtain ⟨entries, read, rfl⟩ := Option.map_eq_some_iff.1 h
  intro e mem
  cases fits with
  | @object inner fields inside =>
    obtain ⟨f, mem', made⟩ := Gives.mem_of_mapM read (KeyMap.mem_of_mem_ofList mem)
    obtain ⟨key, -, rest⟩ := Option.bind_eq_some_iff.1 made
    obtain ⟨filter, held, is⟩ := Option.bind_eq_some_iff.1 rest
    cases is
    exact TextFilter.canonical_of_read (inside f mem') held
  | _ => cases read

theorem readable_of_read {t : Tree} {q : Query} (fits : t.Fits nestingLimit)
    (h : Query.ofTree? t = some q) : q.Readable := by
  simp only [Query.ofTree?, Option.bind_eq_bind, Option.bind_eq_some_iff, Option.pure_def,
    Option.some.injEq] at h
  obtain ⟨r, record, start, readStart, stop, readStop, window, -, zone, -, subjects, -, customers, -,
    filters, readFilters, groupBy, -, cachable, -, rfl⟩ := h
  obtain ⟨inner, room, inside⟩ := fits.of_record record
  refine ⟨Gives.instant.optional readStart, Gives.instant.optional readStop, ?_⟩
  rw [Record.withDefault] at readFilters
  split at readFilters
  · cases readFilters
    exact fun e mem => absurd mem List.not_mem_nil
  · rename_i t' found
    have less : nestingLimit - 2 = inner - 1 := by omega
    rw [less]
    exact canonical_of_map (inside _ _ found) readFilters

/-- The fields of a query; all are written. -/
def fields (q : Query) : List (String × Value) :=
  [("from", .ofOption instantValue q.start), ("to", .ofOption instantValue q.stop),
    ("window_size", .ofOption windowValue q.window),
    ("window_time_zone", .ofOption .string q.zoneName),
    ("filter_subject", textsValue q.subjects),
    ("filter_customer", .array (q.customers.map Customer.toValue)),
    ("filter_group_by", .object (q.filters.toList.map fun e => (e.1, TextFilter.toValue e.2))),
    ("group_by", textsValue q.groupBy), ("cachable", .bool q.cachable)]

theorem kept_filters {q : Query} (h : q.Readable) :
    Kept (fun m : KeyMap TextFilter => .object (m.toList.map fun e => (e.1, TextFilter.toValue e.2)))
      (Tree.map? TextFilter.ofTree?) (nestingLimit - 1) q.filters :=
  Kept.map fun e mem => TextFilter.kept (h.filters e mem) (by decide)

theorem ofTree_toValue {q : Query} (h : q.Readable) : Query.ofTree? q.toValue.tree = some q := by
  have record : q.toValue.tree.record? fieldNames = some (Value.record q.fields) :=
    Value.record_tree (.refl _) (by decide)
  have start : (Value.record q.fields).optional "from" Tree.instant? = some q.start :=
    Kept.optional (fun t mem => Kept.instant 0 (h.start t mem)) rfl (.inl rfl)
  have stop : (Value.record q.fields).optional "to" Tree.instant? = some q.stop :=
    Kept.optional (fun t mem => Kept.instant 0 (h.stop t mem)) rfl (.inl rfl)
  have window : (Value.record q.fields).optional "window_size" WindowSize.ofTree? = some q.window :=
    Kept.optional (fun size _ => WindowSize.kept size) rfl (.inl rfl)
  have zoneName : (Value.record q.fields).optional "window_time_zone" Tree.string? =
      some q.zoneName := Kept.optional (fun s _ => Kept.string 0 s) rfl (.inl rfl)
  have subjects : (Value.record q.fields).withDefault "filter_subject" [] (Tree.array? Tree.string?) =
      some q.subjects := (texts_kept q.subjects).withDefault [] rfl
  have customers : (Value.record q.fields).withDefault "filter_customer" []
      (Tree.array? Customer.ofTree?) = some q.customers :=
    (Kept.list fun c _ => Customer.kept c).withDefault [] rfl
  have filters : (Value.record q.fields).withDefault "filter_group_by" ∅
      (Tree.map? TextFilter.ofTree?) = some q.filters := (kept_filters h).withDefault ∅ rfl
  have groupBy : (Value.record q.fields).withDefault "group_by" [] (Tree.array? Tree.string?) =
      some q.groupBy := (texts_kept q.groupBy).withDefault [] rfl
  have cachable : (Value.record q.fields).withDefault "cachable" false Tree.bool? =
      some q.cachable := (Kept.bool 0 q.cachable).withDefault false rfl
  simp only [Query.ofTree?, record, start, stop, window, zoneName, subjects, customers, filters,
    groupBy, cachable, Option.bind_eq_bind, Option.bind_some, Option.pure_def]

theorem fits_toValue {q : Query} (h : q.Readable) : q.toValue.Fits nestingLimit := by
  have start := Kept.fits_ofOption fun t mem => Kept.instant (nestingLimit - 1) (h.start t mem)
  have stop := Kept.fits_ofOption fun t mem => Kept.instant (nestingLimit - 1) (h.stop t mem)
  have window := (Kept.fits_ofOption fun size (_ : size ∈ q.window) => WindowSize.kept size).mono
    (Nat.zero_le (nestingLimit - 1))
  have zoneName := Kept.fits_ofOption fun s (_ : s ∈ q.zoneName) => Kept.string (nestingLimit - 1) s
  have texts (xs : List String) := (texts_kept xs).fits.mono (show 1 ≤ nestingLimit - 1 by decide)
  have customers := (Kept.list fun c (_ : c ∈ q.customers) => Customer.kept c).fits.mono
    (show 3 ≤ nestingLimit - 1 by decide)
  have filters := (kept_filters h).fits
  show Value.Fits (nestingLimit - 1 + 1) _
  refine .object ?_
  simp only [List.forall_mem_cons]
  exact ⟨start, stop, window, zoneName, texts _, customers, filters, texts _, .bool _ _,
    fun f mem => absurd mem List.not_mem_nil⟩

theorem kept {q : Query} (h : q.Readable) : Kept toValue Query.ofTree? nestingLimit q :=
  ⟨ofTree_toValue h, fits_toValue h⟩

end Query

end Metering
