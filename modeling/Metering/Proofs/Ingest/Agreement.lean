import Metering.Error
import Metering.Proofs.Database.Document
import Metering.Proofs.Database.Import

/-!
The rows that live ingestion and the import make of one event. They are the same, or none, where both
readers understand the paths of the meter and the data along them (`Meter.rows_agree`), with
one exception: the import keeps the text of an array or an object at the path of a dimension, live
ingestion does not.
-/
namespace Metering

open Json

/-- Whether an array or an object stands at the path of a dimension. -/
def Meter.holdsContainer (m : Meter) (data : Value) (dimension : String) : Bool :=
  ((m.dimensions.get? dimension).bind data.at?).any Value.isContainer

/-- Rows with the same text for each dimension, but where the data holds an array or an object. -/
structure Entry.Agrees (m : Meter) (data : Value) (live imported : Entry Float) : Prop where
  space : live.space = imported.space
  meterId : live.meterId = imported.meterId
  subject : live.subject = imported.subject
  time : live.time = imported.time
  storedAt : live.storedAt = imported.storedAt
  value : live.value = imported.value
  text : ∀ dimension path, (TableRow.ofEntry live).text dimension path =
    if m.holdsContainer data dimension then none else (TableRow.ofEntry imported).text dimension path

/-- An empty text spells no number. -/
theorem bind_nonEmpty (s : Option String) :
    (nonEmpty s).bind Document.textNumber? = s.bind Document.textNumber? := by
  cases s with
  | none => rfl
  | some s =>
    by_cases empty : s = ""
    · subst empty
      rfl
    · simp [nonEmpty, Option.filter, empty]

namespace Meter

theorem isSome_valuePath {m : Meter} (valid : m.validate = .ok ()) :
    m.valuePath.isSome = m.aggregation.needsValue := by
  have none : m.valueFault? = none := by
    unfold validate at valid
    split at valid
    · exact absurd valid (by simp)
    · rename_i none
      simp only [fault?, Option.orElse_eq_orElse, Option.orElse_eq_or,
        Option.or_eq_none_iff] at none
      exact none.2.1
  unfold valueFault? at none
  split at none
  · rename_i absent
    rw [absent]
    split at none
    · exact absurd none (by simp)
    · rename_i needless
      simpa using (Bool.eq_false_iff.2 needless).symm
  · rename_i path present
    rw [present]
    split at none
    · exact absurd none (by simp)
    · rename_i needed
      simpa using (not_not.1 needed).symm

theorem needsValue_of_valuePath {m : Meter} (valid : m.validate = .ok ()) {path : String}
    (present : m.valuePath = some path) : m.aggregation.needsValue = true := by
  rw [← isSome_valuePath valid, present]
  rfl

/-- Only counting does without a value. -/
theorem count_of_valuePath {m : Meter} (valid : m.validate = .ok ()) (absent : m.valuePath = none) :
    m.aggregation = .count := by
  have needless := isSome_valuePath valid
  rw [absent] at needless
  cases aggregation : m.aggregation with
  | count => rfl
  | _ => exact absurd needless (by simp [aggregation, Aggregation.needsValue])

/-- Data that both readers of a meter's events follow to the same places and read alike. -/
structure Understands (m : Meter) (steps : String → Path) (t : Tree) (data : Value) : Prop where
  held : t.value? = some data
  written : ∀ path ∈ importPaths m, Path.IsText path (steps path)
  clear : ∀ path ∈ importPaths m, Document.isClear t (steps path) = true
  alike : ∀ path ∈ importPaths m, ∀ l,
    Document.follow? t ((steps path).map .ofStep) = some (.number l) → l.ReadsAlike

namespace Understands

variable {m : Meter} {steps : String → Path} {t : Tree} {data : Value} {e : Event}

/-- At a path of the meter either reader finds nothing, or both find the same and read it alike. -/
theorem found (h : m.Understands steps t data) {path : String} (mem : path ∈ importPaths m) :
    Option.Rel (fun u v => Document.Reads u v ∧ ∀ l, u = .number l → l.ReadsAlike)
      (Document.follow? t (Condition.selectors path)) (data.at? path) := by
  have selectors : Condition.selectors path = (steps path).map .ofStep := by
    rw [Condition.selectors, Document.selectors_of_isText (h.written path mem)]
    rfl
  have reads := Document.follow?_reads h.held (h.clear path mem)
  have alike := h.alike path mem
  rw [selectors, Value.at?, Path.read?_of_isText (h.written path mem), Option.bind_some]
  generalize Document.follow? t ((steps path).map .ofStep) = u at reads alike ⊢
  generalize data.follow? (steps path) = v at reads ⊢
  cases reads with
  | none => exact .none
  | some reads => exact .some ⟨reads, fun l is => alike l (congrArg some is)⟩

/-- The number at a path of the meter. -/
theorem quantity?_at (h : m.Understands steps t data) {path : String}
    (mem : path ∈ importPaths m) :
    (data.at? path).bind Value.quantity? =
      (nonEmpty (Document.textAt? t (Condition.selectors path))).bind Document.textNumber? := by
  have found := h.found mem
  rw [bind_nonEmpty, Document.textAt?]
  generalize Document.follow? t (Condition.selectors path) = u, data.at? path = v at found ⊢
  cases found with
  | none => rfl
  | some found => exact Document.quantity?_eq found.1 found.2

/-- The text of a dimension of the meter. -/
theorem scalarText?_at (h : m.Understands steps t data) {path : String}
    (mem : path ∈ importPaths m) :
    nonEmpty ((data.at? path).bind Value.scalarText?) =
      if (data.at? path).any Value.isContainer then none
      else nonEmpty (Document.textAt? t (Condition.selectors path)) := by
  have found := h.found mem
  rw [Document.textAt?]
  generalize Document.follow? t (Condition.selectors path) = u, data.at? path = v at found ⊢
  cases found with
  | none => rfl
  | some found => exact Document.scalarText?_eq found.1 found.2

end Understands

section Event

variable {m : Meter} {steps : String → Path} {t : Tree} {data : Value} {e : Event} {path : String}

/-- The number that live ingestion takes from an event, if it reads one from the data. -/
theorem contribution?_of_needsValue (present : m.valuePath = some path)
    (needed : m.aggregation.needsValue = true) :
    m.contribution? data = (data.at? path).bind Value.quantity? := by
  unfold contribution?
  rw [present]
  cases aggregation : m.aggregation with
  | count => exact absurd needed (by simp [aggregation, Aggregation.needsValue])
  | _ => rfl

/-- The number that the import takes from an event, if it reads one from the data. -/
theorem number?_ofEvent (present : m.valuePath = some path)
    (needed : m.aggregation.needsValue = true) (numeric : m.aggregation.isNumeric = true)
    (json : Tree.read? e.data = some t) :
    ((TableRow.ofEvent e : TableRow Float).contribution? m).bind Contribution.number? =
      (nonEmpty (Document.textAt? t (Condition.selectors path))).bind Document.textNumber? := by
  have read : (TableRow.ofEvent e : TableRow Float).text "" (Condition.selectors path) =
      nonEmpty (Document.textAt? t (Condition.selectors path)) := by
    show nonEmpty ((Tree.read? e.data).bind _) = _
    rw [json]
    rfl
  have chosen : (TableRow.ofEvent e : TableRow Float).contribution? m =
      ((TableRow.ofEvent e : TableRow Float).text "" (Condition.selectors path)).bind fun s =>
        (Document.textNumber? s).map .number := by
    unfold TableRow.contribution?
    rw [present]
    cases aggregation : m.aggregation with
    | count => exact absurd needed (by simp [aggregation, Aggregation.needsValue])
    | uniqueCount => exact absurd numeric (by simp [aggregation, Aggregation.isNumeric])
    | sum | average | minimum | maximum | latest => rfl
  rw [chosen, read, Option.bind_assoc]
  refine Option.bind_congr fun s _ => ?_
  cases Document.textNumber? s <;> rfl

/-- Both readers take the same number from an event. -/
theorem contribution?_eq (h : m.Understands steps t data) (valid : m.validate = .ok ())
    (numeric : m.aggregation.isNumeric = true) (json : Tree.read? e.data = some t) :
    ((TableRow.ofEvent e : TableRow Float).contribution? m).bind Contribution.number? =
      m.contribution? data := by
  cases present : m.valuePath with
  | none =>
    rw [contribution?, TableRow.contribution?, count_of_valuePath valid present]
    rfl
  | some path =>
    have needed := needsValue_of_valuePath valid present
    have mem : path ∈ importPaths m := by
      simp [importPaths, Database.valuePaths, needed, present]
    rw [number?_ofEvent present needed numeric json, contribution?_of_needsValue present needed,
      h.quantity?_at mem]

/-- The text of a dimension in the row of live ingestion and in the row of the import. -/
theorem dimensionTexts_eq (h : m.Understands steps t data) (dimension : String) :
    nonEmpty ((m.dimensionTexts data).get? dimension) =
      if m.holdsContainer data dimension then none
      else nonEmpty ((ChunkImport.dimensionTexts m (some t)).get? dimension) := by
  rw [dimensionTexts, ChunkImport.dimensionTexts, KeyMap.get?_filterMap, KeyMap.get?_filterMap,
    holdsContainer]
  cases known : m.dimensions.get? dimension with
  | none => rfl
  | some path => exact h.scalarText?_at (dimension_mem_importPaths known)

/-- The row that live ingestion makes of an event. -/
theorem measure?_eq (h : m.Understands steps t data) (numeric : m.aggregation.isNumeric = true)
    (covered : m.covers e.space e.type = true) (json : Tree.read? e.data = some t) :
    m.measure? e = (m.contribution? data).map fun value =>
      ⟨m.space, m.id, e.subject, e.time, e.storedAt, value, m.dimensionTexts data⟩ := by
  have read : (Value.read? e.data).getD .null = data := by
    rw [Value.read?, json, Option.bind_some, h.held, Option.getD_some]
  rw [measure?, covered, numeric, if_pos (by rfl), read]

/-- The row that the import makes of an event. -/
theorem imported?_eq (h : m.Understands steps t data) (valid : m.validate = .ok ())
    (numeric : m.aggregation.isNumeric = true) (json : Tree.read? e.data = some t) :
    m.imported? e = (m.contribution? data).map fun value =>
      (⟨e.space, m.id, e.subject, e.time, e.storedAt, value,
        ChunkImport.dimensionTexts m (some t)⟩ : Entry Float) := by
  rw [← contribution?_eq h valid numeric json, imported?, ChunkImport.measure?, json]
  simp only [Option.bind_eq_bind, Option.pure_def]
  cases (TableRow.ofEvent e : TableRow Float).contribution? m with
  | none => rfl
  | some c =>
    rw [Option.bind_some, Option.bind_some]
    cases c.number? <;> rfl

end Event

/-- Live ingestion makes a row of an event exactly if the import does, and the rows agree. The meter is
valid and has its rows in the table of numbers, and the event counts for it. Its data is a value, no key
that a path of the meter names stands twice, and a number at the end of a path is whole and of 64 bits,
or reads alike. -/
theorem rows_agree {m : Meter} {e : Event} {t : Tree} {data : Value} (valid : m.validate = .ok ())
    (numeric : m.aggregation.isNumeric = true) (covered : m.covers e.space e.type = true)
    (json : Tree.read? e.data = some t) (held : t.value? = some data) (steps : String → Path)
    (written : ∀ path ∈ importPaths m, Path.IsText path (steps path))
    (clear : ∀ path ∈ importPaths m, Document.isClear t (steps path) = true)
    (numbers : ∀ path ∈ importPaths m, ∀ l,
      Document.follow? t ((steps path).map .ofStep) = some (.number l) →
        l.fits = true ∨ l.ReadsAlike) :
    Option.Rel (Entry.Agrees m data) ((m.measure? e).map Tables.keepEntry)
      (m.imported? (Tables.keepEvent e)) := by
  have alike : ∀ path ∈ importPaths m, ∀ l,
      Document.follow? t ((steps path).map .ofStep) = some (.number l) → l.ReadsAlike := by
    intro path mem l there
    rcases numbers path mem l there with fits | alike
    · have spelled := Document.numbers_follow? (Tree.isPlain_of_read json) there
      rw [Tree.Numbers] at spelled
      exact Literal.readsAlike_of_fits spelled fits
    · exact alike
  have h : m.Understands steps t data := ⟨held, written, clear, alike⟩
  have kept : Tree.read? (Tables.keepEvent e).data = some t := json
  rw [measure?_eq h numeric covered json, imported?_eq h valid numeric kept]
  cases m.contribution? data with
  | none => exact .none
  | some value =>
    have space : m.space = e.space := (ChunkImport.space_of_covers covered).symm
    refine .some ⟨space, rfl, rfl, rfl, rfl, rfl, ?_⟩
    intro dimension path
    exact dimensionTexts_eq h dimension

section Tagged

/-- A sum with three dimensions, one of them an item of what another one finds. -/
def labelled : Meter :=
  ⟨"shop", "calls", "calls", .sum, "call", some "$.n",
    KeyMap.ofList [("kind", "$.k"), ("first", "$.t[0]"), ("tags", "$.t")], none, none⟩

def labelledSteps (path : String) : Path :=
  if path = "$.n" then [.key "n"]
  else if path = "$.k" then [.key "k"]
  else if path = "$.t[0]" then [.key "t", .index 0]
  else [.key "t"]

theorem paths_labelled : importPaths labelled = ["$.n", "$.t[0]", "$.k", "$.t"] := by decide +kernel

theorem isText_labelledSteps : ∀ path ∈ importPaths labelled, Path.IsText path (labelledSteps path) := by
  have key (c : Char) (plain : Path.isKeyChar c = true) {rest : List Char} {path : Path}
      (more : Path.Spells rest path) :
      Path.Spells ('.' :: c :: rest) (.key (String.ofList [c]) :: path) :=
    .key (List.cons_ne_nil c []) (by simpa using plain) more
  have item : Path.Spells ['[', '0', ']'] [.index 0] :=
    .index (List.cons_ne_nil '0' []) (by simp) .done
  rw [paths_labelled]
  simp only [List.forall_mem_cons]
  exact ⟨⟨_, rfl, key 'n' (by decide) .done⟩, ⟨_, rfl, key 't' (by decide) item⟩,
    ⟨_, rfl, key 'k' (by decide) .done⟩, ⟨_, rfl, key 't' (by decide) .done⟩, by simp⟩

def callWith (data : String) : Event :=
  ⟨"shop", "1", "call", "till", "a", .ofDayNumber 0, data, .ofDayNumber 0, .ofDayNumber 0⟩

/-- An event with a fraction, a whole number and an array at the paths of the meter. -/
def tagged : Event := callWith "\x7b\"n\":1.5,\"k\":7,\"t\":[\"a\"]\x7d"

theorem isSome_read : (Tree.read? tagged.data).isSome = true := by decide +kernel

def taggedTree : Tree := (Tree.read? tagged.data).get isSome_read

theorem isSome_value : taggedTree.value?.isSome = true := by decide +kernel

/-- Whether a part of the data is no number, or one that both readers take alike. -/
def isAlike : Tree → Bool
  | .number l => l.fits || decide l.ReadsAlike
  | _ => true

/-- Both readers make a row of the event, and the rows agree. -/
theorem rows_agree_tagged :
    (labelled.measure? tagged).isSome = true ∧
      Option.Rel (Entry.Agrees labelled (taggedTree.value?.get isSome_value))
        ((labelled.measure? tagged).map Tables.keepEntry)
        (labelled.imported? (Tables.keepEvent tagged)) := by
  have alike : ((importPaths labelled).all fun path =>
      (Document.follow? taggedTree ((labelledSteps path).map .ofStep)).all isAlike) = true := by
    decide +kernel
  have json : Tree.read? tagged.data = some taggedTree := (Option.some_get isSome_read).symm
  refine ⟨by decide +kernel, ?_⟩
  refine rows_agree (by decide +kernel) rfl (by decide +kernel) json
    (Option.some_get isSome_value).symm labelledSteps isText_labelledSteps (by decide +kernel) ?_
  intro path mem l there
  have here := List.all_eq_true.1 alike path mem
  rw [there] at here
  simpa [isAlike] using here

/-- The text that the two rows of an event have for a dimension, where there is a row. -/
def dimensionOfBoth (dimension : String) (e : Event) : List (Option (Option String)) :=
  [labelled.measure? e, labelled.imported? e].map fun row =>
    row.map fun row => (TableRow.ofEntry row).text dimension []

/-- The values of the two rows of an event. -/
def valueOfBoth (e : Event) : List (Option Float) :=
  [labelled.measure? e, labelled.imported? e].map fun row => row.map Entry.value

/-- Where the rows are not the same: an array at the path of a dimension, a key that stands twice, a
number that is rounded twice, and data beside the paths that is no value. -/
theorem rows_differ :
    dimensionOfBoth "tags" tagged = [some none, some (some "[\"a\"]")] ∧
      valueOfBoth (callWith "\x7b\"n\":1,\"n\":2\x7d") = [some 2, some 1] ∧
      valueOfBoth (callWith "\x7b\"n\":3e23\x7d") = [some 2.9999999999999997e23, some 3e23] ∧
      valueOfBoth (callWith "\x7b\"n\":1,\"x\":1e999\x7d") = [none, some 1] := by
  decide +kernel

end Tagged

end Meter

end Metering
