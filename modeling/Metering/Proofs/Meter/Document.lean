import Metering.Proofs.Meter.Json

/-!
Progress as a versioned document. A document is read back as the progress that it was written of, fields
that progress does not have make no difference, and a document of another version is refused whatever
else it holds (`Progress.document_survives`).
-/
namespace Metering

open Json

namespace Json

theorem Tree.values_isSome {ts : List Tree} :
    (Tree.values? ts).isSome = true ↔ ∀ t ∈ ts, t.value?.isSome = true := by
  induction ts with
  | nil => simp [Tree.values?]
  | cons t ts ih =>
    rw [List.forall_mem_cons, ← ih, Tree.values?]
    cases t.value? <;> cases Tree.values? ts <;> simp

theorem Tree.fieldValues_isSome {fields : List (Option String × Tree)} :
    (Tree.fieldValues? fields).isSome = true ↔
      ∀ f ∈ fields, f.1.isSome = true ∧ f.2.value?.isSome = true := by
  induction fields with
  | nil => simp [Tree.fieldValues?]
  | cons f fields ih =>
    obtain ⟨key, t⟩ := f
    rw [List.forall_mem_cons, ← ih, Tree.fieldValues?]
    cases key <;> cases t.value? <;> cases Tree.fieldValues? fields <;> simp

mutual

/-- What a value without numbers is spelled by stands for a value. -/
theorem Value.isSome_tree : ∀ {v : Value}, v.isTextual = true → v.tree.value?.isSome = true
  | .null, _ | .bool _, _ | .string _, _ => rfl
  | .number _, h => by cases h
  | .array vs, h => by
    rw [Value.tree, Tree.value?, Option.isSome_map]
    exact Value.isSome_trees h
  | .object fields, h => by
    rw [Value.tree, Tree.value?, Option.isSome_map]
    exact Value.isSome_fieldTrees h

theorem Value.isSome_trees : ∀ {vs : List Value}, Value.areTextual vs = true →
    (Tree.values? (Value.trees vs)).isSome = true
  | [], _ => rfl
  | v :: vs, h => by
    rw [Value.areTextual, Bool.and_eq_true] at h
    have others := Tree.values_isSome.1 (Value.isSome_trees h.2)
    exact Tree.values_isSome.2 (List.forall_mem_cons.2 ⟨Value.isSome_tree h.1, others⟩)

theorem Value.isSome_fieldTrees : ∀ {fields : List (String × Value)},
    Value.fieldsTextual fields = true → (Tree.fieldValues? (Value.fieldTrees fields)).isSome = true
  | [], _ => rfl
  | (key, v) :: fields, h => by
    rw [Value.fieldsTextual, Bool.and_eq_true] at h
    have others := Tree.fieldValues_isSome.1 (Value.isSome_fieldTrees h.2)
    exact Tree.fieldValues_isSome.2
      (List.forall_mem_cons.2 ⟨⟨rfl, Value.isSome_tree h.1⟩, others⟩)

end

end Json

namespace Progress

/-- The names of all fields of a document. -/
def documentNames : List String := "version" :: fieldNames

/-- Every field of an object has a name, and all but the version hold values. -/
def HoldsValues (fields : List (Option String × Tree)) : Prop :=
  ∀ f ∈ fields, f.1.isSome = true ∧ (f.1 ≠ some "version" → f.2.value?.isSome = true)

/-- The version stands once, and is a number of 32 bits. -/
def HasVersion (n : Nat) (fields : List (Option String × Tree)) : Prop :=
  ∃ t, fields.filter (fun f => f.1 = some "version") = [(some "version", t)] ∧ t.unsigned? 32 = some n

theorem known_version (fields : List (Option String × Tree)) :
    Record.known ["version"] fields =
      (fields.filter fun f => f.1 = some "version").map fun f => ("version", f.2) := by
  induction fields with
  | nil => rfl
  | cons f fields ih =>
    obtain ⟨key, t⟩ := f
    cases key with
    | none => simpa [Record.known] using ih
    | some key =>
      by_cases same : key = "version"
      · subst same
        rw [Record.known_cons_of_mem _ (by decide), ih]
        simp
      · rw [Record.known_cons_of_not_mem _ (by simpa using same), ih]
        simp [same]

theorem versionOf_object {fields : List (Option String × Tree)} {n : Nat} :
    versionOf? (.object fields) = some n ↔
      (∀ f ∈ fields, f.1.isSome = true) ∧ HasVersion n fields := by
  have read : versionOf? (.object fields) =
      (Record.ofFields ["version"] fields).bind fun r => r.required "version" (Tree.unsigned? 32) := rfl
  rw [read, Option.bind_eq_some_iff]
  constructor
  · rintro ⟨r, made, h⟩
    obtain ⟨texts, apart, rfl⟩ := Record.ofFields_eq_some.1 made
    refine ⟨texts, ?_⟩
    rw [known_version, List.map_map] at apart
    rw [known_version] at h
    have named : ∀ f ∈ fields.filter (fun f => f.1 = some "version"), f.1 = some "version" :=
      fun f mem => by simpa using (List.mem_filter.1 mem).2
    unfold HasVersion
    generalize fields.filter (fun f => f.1 = some "version") = versions at apart h named ⊢
    match versions with
    | [] => cases h
    | [(key, t)] =>
      obtain rfl : key = some "version" := named _ List.mem_cons_self
      exact ⟨t, rfl, h⟩
    | _ :: _ :: _ => simp at apart
  · rintro ⟨texts, t, only, size⟩
    have known : Record.known ["version"] fields = [("version", t)] := by
      rw [known_version, only]
      rfl
    refine ⟨_, Record.ofFields_eq_some.2 ⟨texts, ?_, rfl⟩, ?_⟩
    · rw [known]
      exact List.nodup_singleton _
    · rw [known]
      exact size

theorem holdsValues_iff {fields : List (Option String × Tree)} : HoldsValues fields ↔
    (∀ f ∈ fields, f.1.isSome = true) ∧
      (Tree.fieldValues? (fields.filter fun f => f.1 ≠ some "version")).isSome = true := by
  rw [Tree.fieldValues_isSome]
  simp only [List.mem_filter, decide_eq_true_eq]
  constructor
  · intro h
    exact ⟨fun f mem => (h f mem).1, fun f ⟨mem, other⟩ => ⟨(h f mem).1, (h f mem).2 other⟩⟩
  · rintro ⟨texts, values⟩ f mem
    exact ⟨texts f mem, fun other => (values f ⟨mem, other⟩).2⟩

theorem ofDocument_eq_some {fields : List (Option String × Tree)} {p : Progress} :
    ofDocument? (.object fields) = some p ↔ HoldsValues fields ∧
      ((Record.known documentNames fields).map Prod.fst).Nodup ∧
        ofRecord? (Record.known documentNames fields) = some p := by
  have read : ofDocument? (.object fields) = (Record.ofFields documentNames fields).bind fun r =>
      (Tree.fieldValues? (fields.filter fun f => f.1 ≠ some "version")).bind fun _ => ofRecord? r := rfl
  rw [read, Option.bind_eq_some_iff, holdsValues_iff]
  constructor
  · rintro ⟨r, made, h⟩
    obtain ⟨texts, apart, rfl⟩ := Record.ofFields_eq_some.1 made
    obtain ⟨values, held, h⟩ := Option.bind_eq_some_iff.1 h
    exact ⟨⟨texts, Option.isSome_of_eq_some held⟩, apart, h⟩
  · rintro ⟨⟨texts, held⟩, apart, h⟩
    obtain ⟨values, held⟩ := Option.isSome_iff_exists.1 held
    exact ⟨_, Record.ofFields_eq_some.2 ⟨texts, apart, rfl⟩, by rw [held]; exact h⟩

/-- What a text must hold to be read as progress. -/
theorem decode_eq_ok {raw : String} {p : Progress} : decode raw = .ok p ↔
    ∃ fields, Tree.read? raw = some (.object fields) ∧ HasVersion version fields ∧
      HoldsValues fields ∧ ((Record.known documentNames fields).map Prod.fst).Nodup ∧
        ofRecord? (Record.known documentNames fields) = some p := by
  constructor
  · intro h
    rw [decode] at h
    split at h
    · cases h
    · rename_i t read
      split at h
      · cases h
      · rename_i found versionRead
        split at h
        · rename_i same
          subst same
          split at h
          · rename_i p' document
            cases h
            cases t with
            | object fields =>
              exact ⟨fields, read, (versionOf_object.1 versionRead).2, ofDocument_eq_some.1 document⟩
            | _ => cases document
          · cases h
        · cases h
  · rintro ⟨fields, read, own, held, rest⟩
    have versionRead := versionOf_object.2 ⟨fun f mem => (held f mem).1, own⟩
    have document := ofDocument_eq_some.2 ⟨held, rest⟩
    simp only [decode, read, versionRead, document, if_true]

theorem fieldsTextual (p : Progress) : Value.fieldsTextual p.fields = true := by
  have optional (o : Option Instant) : (Value.ofOption instantValue o).isTextual = true := by
    cases o <;> rfl
  have chunks : Value.areTextual (p.pending.map periodValue) = true := by
    refine Value.areTextual_iff.2 fun v mem => ?_
    obtain ⟨c, -, rfl⟩ := List.mem_map.1 mem
    rfl
  simp only [fields, Value.fieldsTextual, Value.isTextual, optional, chunks, Bool.and_self]

theorem decode_encode {p : Progress} (h : p.InRange) : decode p.encode = .ok p := by
  let fields := ("version", Value.ofInt version) :: p.fields
  have fits : (Value.object fields).Fits 3 :=
    .object (List.forall_mem_cons.2 ⟨.integer _ _, fits_fields h⟩)
  have read : Tree.read? p.encode = some (.object (Value.fieldTrees fields)) :=
    Value.read_text (fits.mono (by decide))
  have keys : (fields.map Prod.fst).Sublist documentNames := .refl _
  obtain ⟨texts, apart, known⟩ :=
    Record.ofFields_eq_some.1 (Value.ofFields_fieldTrees keys (by decide))
  have held := Tree.fieldValues_isSome.1 (Value.isSome_fieldTrees (fieldsTextual p))
  refine decode_eq_ok.2 ⟨_, read, ?_, ?_, apart, ?_⟩
  · refine ⟨(Value.ofInt version).tree, ?_, by decide⟩
    rfl
  · refine List.forall_mem_cons.2 ⟨⟨rfl, fun other => absurd rfl other⟩, fun f mem => ?_⟩
    exact ⟨(held f mem).1, fun _ => (held f mem).2⟩
  · rw [← known]
    refine ofRecord_fields h fun name mem => ?_
    have other : (name == "version") = false := by
      revert name
      decide
    rw [List.lookup_cons, other]

/-- What is read holds instants of the calendar only. -/
theorem inRange_of_decode {raw : String} {p : Progress} (h : decode raw = .ok p) : p.InRange := by
  obtain ⟨fields, -, -, -, -, read⟩ := decode_eq_ok.1 h
  exact gives_inRange_ofRecord read

/-- Another text with the same known fields is read as the same progress. -/
theorem decode_congr {raw raw' : String} {p : Progress} {fields fields' : List (Option String × Tree)}
    (h : decode raw = .ok p) (read : Tree.read? raw = some (.object fields))
    (read' : Tree.read? raw' = some (.object fields')) (held : HoldsValues fields')
    (same : Record.known documentNames fields' = Record.known documentNames fields) :
    decode raw' = .ok p := by
  obtain ⟨fields₁, read₁, own, held₁, apart, made⟩ := decode_eq_ok.1 h
  cases read.symm.trans read₁
  have sub : ∀ name ∈ ["version"], name ∈ documentNames := by decide
  refine decode_eq_ok.2 ⟨fields', read', ?_, held, same ▸ apart, same ▸ made⟩
  refine (versionOf_object.1 ?_).2
  have texts : ∀ f ∈ fields, f.1.isSome = true := fun f mem => (held₁ f mem).1
  obtain ⟨r, one, size⟩ := Option.bind_eq_some_iff.1 (versionOf_object.2 ⟨texts, own⟩)
  obtain ⟨-, once, rfl⟩ := Record.ofFields_eq_some.1 one
  rw [Record.known_subset sub, ← same, ← Record.known_subset sub] at once size
  exact Option.bind_eq_some_iff.2
    ⟨_, Record.ofFields_eq_some.2 ⟨fun f mem => (held f mem).1, once, rfl⟩, size⟩

/-- A document of another version is refused, whatever its other fields hold. -/
theorem decode_version {raw : String} {fields : List (Option String × Tree)} {n : Nat}
    (read : Tree.read? raw = some (.object fields)) (texts : ∀ f ∈ fields, f.1.isSome = true)
    (own : HasVersion n fields) (other : n ≠ version) :
    decode raw = .error (.unsupportedVersion n) := by
  simp only [decode, read, versionOf_object.2 ⟨texts, own⟩, if_neg other]

/-- Progress survives as a document: it is read back from its own document, with instants of any year
and to the nanosecond. Whatever text is read has the known version, is read as the same progress with
other fields beside the known ones, and its progress is read back from the document written of it. An
object with any other version is refused, whatever its other fields hold. -/
theorem document_survives :
    (∀ p : Progress, p.InRange → decode p.encode = .ok p) ∧
    (∀ raw p, decode raw = .ok p → decode p.encode = .ok p ∧
      ∃ fields, Tree.read? raw = some (.object fields) ∧ HasVersion version fields ∧
        ∀ raw' fields', Tree.read? raw' = some (.object fields') → HoldsValues fields' →
          Record.known documentNames fields' = Record.known documentNames fields →
            decode raw' = .ok p) ∧
    (∀ raw fields n, Tree.read? raw = some (.object fields) → (∀ f ∈ fields, f.1.isSome = true) →
      HasVersion n fields → n ≠ version → decode raw = .error (.unsupportedVersion n)) := by
  refine ⟨fun p h => decode_encode h, fun raw p h => ⟨decode_encode (inRange_of_decode h), ?_⟩,
    fun raw fields n => decode_version⟩
  obtain ⟨fields, read, own, -⟩ := decode_eq_ok.1 h
  exact ⟨fields, read, own, fun raw' fields' read' => decode_congr h read read'⟩

/-- Progress with an instant of a year past 9999, a nanosecond after midnight, and one chunk. -/
def sample : Progress :=
  ⟨some ⟨345600000000000000001⟩, none, [⟨.ofDayNumber (-900000), .ofDayNumber 1⟩], false⟩

/-- The sample with a note that progress has no field for. -/
def noted : Value :=
  .object (("note", .string "\"") :: ("version", .ofInt 1) :: sample.fields)

/-- A document of a later version, in which a field has another type. -/
def later : Value := .object [("ready", .string "no"), ("version", .ofInt 2)]

/-- The sample comes back from its own document and with a note in it; the later version is refused. -/
theorem document_survives_sample : sample.InRange ∧ decode sample.encode = .ok sample ∧
    decode noted.text = .ok sample ∧ decode later.text = .error (.unsupportedVersion 2) := by
  have range : sample.InRange := by
    constructor <;> (unfold sample; decide)
  have own : decode sample.encode = .ok sample := document_survives.1 sample range
  have fits := fits_fields range
  have version : (Value.ofInt 1).Fits 2 := .integer 2 1
  have read : Tree.read? sample.encode =
      some (.object (Value.fieldTrees (("version", .ofInt 1) :: sample.fields))) :=
    Value.read_text ((Value.Fits.object (List.forall_mem_cons.2 ⟨version, fits⟩)).mono (by decide))
  have readNoted : Tree.read? noted.text = some noted.tree :=
    Value.read_text ((Value.Fits.object (List.forall_mem_cons.2 ⟨.string 2 _,
      List.forall_mem_cons.2 ⟨version, fits⟩⟩)).mono (by decide))
  have readLater : Tree.read? later.text = some later.tree :=
    Value.read_text (.object (List.forall_mem_cons.2 ⟨.string _ _,
      List.forall_mem_cons.2 ⟨.integer _ _, fun f mem => absurd mem List.not_mem_nil⟩⟩))
  refine ⟨range, own, ?_, ?_⟩
  · obtain ⟨-, fields, read', -, others⟩ := document_survives.2.1 _ _ own
    cases read.symm.trans read'
    refine others _ _ readNoted ?_ rfl
    have held := Tree.fieldValues_isSome.1 (Value.isSome_fieldTrees (fieldsTextual sample))
    refine List.forall_mem_cons.2 ⟨⟨rfl, fun _ => rfl⟩,
      List.forall_mem_cons.2 ⟨⟨rfl, fun other => absurd rfl other⟩, fun f mem => ?_⟩⟩
    exact ⟨(held f mem).1, fun _ => (held f mem).2⟩
  · refine document_survives.2.2 _ _ 2 readLater ?_ ⟨(Value.ofInt 2).tree, rfl, by decide⟩ (by decide)
    exact List.forall_mem_cons.2 ⟨rfl, List.forall_mem_cons.2
      ⟨rfl, fun f mem => absurd mem List.not_mem_nil⟩⟩

end Progress

end Metering
