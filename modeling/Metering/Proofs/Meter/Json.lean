import Metering.Meter.Json
import Metering.Proofs.Json.Kept

/-!
Meters and their progress read back from JSON. What a reader gives holds instants of the calendar only,
and a meter with such instants is read from what it is written as, whichever of its fields are unset
(`Meter.kept`).
-/
namespace Metering

open Json

/-- Whether both ends are instants of the calendar. -/
def Period.InRange (p : Period) : Prop := p.start.InRange ∧ p.stop.InRange

instance (p : Period) : Decidable p.InRange := inferInstanceAs (Decidable (_ ∧ _))

namespace Progress

/-- Whether all instants of a record are instants of the calendar. -/
structure InRange (p : Progress) : Prop where
  cutover : ∀ t ∈ p.cutover, t.InRange
  earliest : ∀ t ∈ p.earliest, t.InRange
  pending : ∀ c ∈ p.pending, c.InRange

end Progress

theorem Period.gives_inRange : Gives Period.ofTree? Period.InRange := by
  intro t p h
  obtain ⟨r, -, h⟩ := Option.bind_eq_some_iff.1 h
  obtain ⟨start, readStart, h⟩ := Option.bind_eq_some_iff.1 h
  obtain ⟨stop, readStop, is⟩ := Option.bind_eq_some_iff.1 h
  cases is
  exact ⟨Gives.instant.required readStart, Gives.instant.required readStop⟩

theorem Period.kept {p : Period} (h : p.InRange) : Kept Progress.periodValue Period.ofTree? 1 p := by
  let fields : List (String × Value) := [("from", .string p.start.toText), ("to", .string p.stop.toText)]
  have record : (Value.object fields).tree.record? ["from", "to"] = some (Value.record fields) :=
    Value.record_tree (.refl _) (by decide)
  have start : (Value.record fields).required "from" Tree.instant? = some p.start :=
    (Kept.instant 0 h.1).required rfl
  have stop : (Value.record fields).required "to" Tree.instant? = some p.stop :=
    (Kept.instant 0 h.2).required rfl
  constructor
  · show Period.ofTree? (Value.object fields).tree = some p
    rw [Period.ofTree?, record, Option.bind_eq_bind, Option.bind_some, start, stop]
    rfl
  · exact .object (by simp [Value.Fits.string])

namespace Progress

theorem gives_inRange_ofRecord {r : Record} {p : Progress} (h : ofRecord? r = some p) :
    p.InRange := by
  obtain ⟨cutover, readCutover, h⟩ := Option.bind_eq_some_iff.1 h
  obtain ⟨earliest, readEarliest, h⟩ := Option.bind_eq_some_iff.1 h
  obtain ⟨pending, readPending, h⟩ := Option.bind_eq_some_iff.1 h
  obtain ⟨ready, -, is⟩ := Option.bind_eq_some_iff.1 h
  cases is
  exact {
    cutover := Gives.instant.optional readCutover
    earliest := Gives.instant.optional readEarliest
    pending := Period.gives_inRange.list.withDefault (fun c mem => absurd mem List.not_mem_nil)
      readPending }

theorem gives_inRange : Gives Progress.ofTree? InRange := by
  intro t p h
  obtain ⟨r, -, h⟩ := Option.bind_eq_some_iff.1 h
  exact gives_inRange_ofRecord h

/-- Progress is read from fields in which each of its own can be looked up. -/
theorem ofRecord_fields {p : Progress} (h : p.InRange) {fields : List (String × Value)}
    (here : ∀ name ∈ fieldNames, fields.lookup name = p.fields.lookup name) :
    ofRecord? (Value.record fields) = some p := by
  have cutover : (Value.record fields).optional "stream_cutover_at" Tree.instant? = some p.cutover :=
    Kept.optional (fun t mem => Kept.instant 0 (h.cutover t mem)) rfl (.inl (here _ (by decide)))
  have earliest : (Value.record fields).optional "backfill_min_time" Tree.instant? =
      some p.earliest :=
    Kept.optional (fun t mem => Kept.instant 0 (h.earliest t mem)) rfl (.inl (here _ (by decide)))
  have pending : (Value.record fields).withDefault "import_chunks" [] (Tree.array? Period.ofTree?) =
      some p.pending :=
    (Kept.list fun c mem => Period.kept (h.pending c mem)).withDefault [] (here _ (by decide))
  have ready : (Value.record fields).withDefault "ready" false Tree.bool? = some p.ready :=
    (Kept.bool 0 p.ready).withDefault false (here _ (by decide))
  simp only [ofRecord?, cutover, earliest, pending, ready, Option.bind_eq_bind, Option.bind_some,
    Option.pure_def]

theorem fits_fields {p : Progress} (h : p.InRange) : ∀ f ∈ p.fields, f.2.Fits 2 := by
  have cutover := Kept.fits_ofOption fun t mem => Kept.instant 2 (h.cutover t mem)
  have earliest := Kept.fits_ofOption fun t mem => Kept.instant 2 (h.earliest t mem)
  have pending := (Kept.list fun c mem => Period.kept (h.pending c mem)).fits
  have ready := (Kept.bool 2 p.ready).fits
  simp only [fields, List.forall_mem_cons]
  exact ⟨cutover, earliest, pending, ready, fun f mem => absurd mem List.not_mem_nil⟩

theorem kept {p : Progress} (h : p.InRange) : Kept toValue Progress.ofTree? 3 p := by
  constructor
  · have record : p.toValue.tree.record? fieldNames = some (Value.record p.fields) :=
      Value.record_tree (.refl _) (by decide)
    rw [Progress.ofTree?, record, Option.bind_some]
    exact ofRecord_fields h fun _ _ => rfl
  · exact .object (fits_fields h)

end Progress

theorem Aggregation.kept (a : Aggregation) :
    Kept (fun a => .string a.name) Aggregation.ofTree? 0 a :=
  Kept.named 0 (by cases a <;> decide)

namespace Meter

/-- Whether all instants of a meter are instants of the calendar. -/
structure InRange (m : Meter) : Prop where
  since : ∀ t ∈ m.since, t.InRange
  progress : ∀ p ∈ m.progress, p.InRange

theorem gives_inRange : Gives Meter.ofTree? InRange := by
  intro t m h
  simp only [Meter.ofTree?, Option.bind_eq_bind, Option.bind_eq_some_iff, Option.pure_def,
    Option.some.injEq] at h
  obtain ⟨r, -, space, -, id, -, slug, -, aggregation, -, eventType, -, valuePath, -, dimensions, -,
    since, readSince, progress, readProgress, rfl⟩ := h
  exact ⟨Gives.instant.optional readSince, Progress.gives_inRange.optional readProgress⟩

/-! ### Fields that are left out when they are unset -/

section OptionalField

variable {α : Type} (write : α → Value) (name : String) (o : Option α)

theorem lookup_optionalField (key : String) :
    (optionalField name write o).lookup key = if key == name then o.map write else none := by
  cases o with
  | none => cases h : key == name <;> rfl
  | some a => cases h : key == name <;> simp [optionalField, List.lookup_cons, h]

theorem sublist_optionalField : ((optionalField name write o).map Prod.fst).Sublist [name] := by
  cases o with
  | none => exact .cons _ .slnil
  | some a => exact .refl _

theorem fits_optionalField {room : Nat} (each : ∀ a ∈ o, (write a).Fits room) :
    ∀ f ∈ optionalField name write o, f.2.Fits room := by
  cases o with
  | none => exact fun f mem => absurd mem List.not_mem_nil
  | some a => exact List.forall_mem_singleton.2 (each a rfl)

end OptionalField

/-- The fields of a meter, as far as they are set. -/
def fields (m : Meter) : List (String × Value) :=
  [("namespace", .string m.space), ("id", .string m.id), ("slug", .string m.slug),
    ("aggregation", .string m.aggregation.name), ("event_type", .string m.eventType)] ++
    optionalField "value_property" .string m.valuePath ++
    [("group_by", textMapValue m.dimensions)] ++
    optionalField "event_from" instantValue m.since ++
    optionalField "table_engine" Progress.toValue m.progress

theorem keys_fields (m : Meter) : (m.fields.map Prod.fst).Sublist fieldNames := by
  have value := sublist_optionalField .string "value_property" m.valuePath
  have since := sublist_optionalField instantValue "event_from" m.since
  have progress := sublist_optionalField Progress.toValue "table_engine" m.progress
  simp only [fields, List.map_append]
  exact ((((List.Sublist.refl _).append value).append (.refl _)).append since).append progress

theorem lookup_fields (m : Meter) :
    m.fields.lookup "value_property" = m.valuePath.map .string ∧
      m.fields.lookup "group_by" = some (textMapValue m.dimensions) ∧
      m.fields.lookup "event_from" = m.since.map instantValue ∧
      m.fields.lookup "table_engine" = m.progress.map Progress.toValue := by
  refine ⟨?_, ?_, ?_, ?_⟩ <;>
    simp [fields, List.lookup_append, List.lookup_cons, lookup_optionalField]

theorem ofTree_toValue {m : Meter} (h : m.InRange) : Meter.ofTree? m.toValue.tree = some m := by
  have record : m.toValue.tree.record? fieldNames = some (Value.record m.fields) :=
    Value.record_tree (keys_fields m) (by decide)
  obtain ⟨foundValue, foundGroups, foundSince, foundProgress⟩ := lookup_fields m
  have space : (Value.record m.fields).required "namespace" Tree.string? = some m.space :=
    (Kept.string 0 m.space).required rfl
  have id : (Value.record m.fields).required "id" Tree.string? = some m.id :=
    (Kept.string 0 m.id).required rfl
  have slug : (Value.record m.fields).required "slug" Tree.string? = some m.slug :=
    (Kept.string 0 m.slug).required rfl
  have aggregation : (Value.record m.fields).required "aggregation" Aggregation.ofTree? =
      some m.aggregation := (Aggregation.kept m.aggregation).required rfl
  have eventType : (Value.record m.fields).required "event_type" Tree.string? = some m.eventType :=
    (Kept.string 0 m.eventType).required rfl
  have valuePath : (Value.record m.fields).optional "value_property" Tree.string? =
      some m.valuePath := Kept.optional (fun s _ => Kept.string 0 s) rfl (.inr foundValue)
  have dimensions : (Value.record m.fields).withDefault "group_by" ∅ (Tree.map? Tree.string?) =
      some m.dimensions := (Kept.map fun e _ => Kept.string 0 e.2).withDefault ∅ foundGroups
  have since : (Value.record m.fields).optional "event_from" Tree.instant? = some m.since :=
    Kept.optional (fun t mem => Kept.instant 0 (h.since t mem)) rfl (.inr foundSince)
  have progress : (Value.record m.fields).optional "table_engine" Progress.ofTree? =
      some m.progress :=
    Kept.optional (fun p mem => Progress.kept (h.progress p mem)) rfl (.inr foundProgress)
  simp only [Meter.ofTree?, record, space, id, slug, aggregation, eventType, valuePath, dimensions,
    since, progress, Option.bind_eq_bind, Option.bind_some, Option.pure_def]

theorem fits_toValue {m : Meter} (h : m.InRange) : m.toValue.Fits 4 := by
  have text (s : String) : (Value.string s).Fits 3 := .string 3 s
  have groups : (textMapValue m.dimensions).Fits 3 :=
    (Kept.map fun e _ => Kept.string 2 e.2).fits
  have value := fits_optionalField .string "value_property" m.valuePath fun s _ => text s
  have since := fits_optionalField instantValue "event_from" m.since fun t mem =>
    (Kept.instant 3 (h.since t mem)).fits
  have progress := fits_optionalField Progress.toValue "table_engine" m.progress fun p mem =>
    (Progress.kept (h.progress p mem)).fits
  refine .object ?_
  simp only [List.forall_mem_append, List.forall_mem_cons]
  exact ⟨⟨⟨⟨⟨text _, text _, text _, text _, text _, fun f mem => absurd mem List.not_mem_nil⟩, value⟩,
    groups, fun f mem => absurd mem List.not_mem_nil⟩, since⟩, progress⟩

theorem kept {m : Meter} (h : m.InRange) : Kept toValue Meter.ofTree? 4 m :=
  ⟨ofTree_toValue h, fits_toValue h⟩

end Meter

end Metering
