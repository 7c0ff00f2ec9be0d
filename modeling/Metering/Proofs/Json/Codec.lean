import Metering.Proofs.Query.Json

/-!
Definitions and requests that survive being encoded. Whatever a text is decoded as is decoded from its
own encoding, and encoding that again changes nothing (`codecs_faithful`).
-/
namespace Metering

open Json

/-- A way to write data as JSON and to read them. -/
structure Codec (α : Type) where
  write : α → Value
  read : Tree → Option α

namespace Codec

variable {α : Type}

def encode (c : Codec α) (a : α) : String := (c.write a).text

def decode (c : Codec α) (raw : String) : Option α := (Tree.read? raw).bind c.read

/-- What any text is decoded as is encoded as a text that is decoded as an equal datum, and that datum is
encoded as the same text. -/
def Faithful (c : Codec α) : Prop :=
  ∀ raw a, c.decode raw = some a →
    ∃ b, c.decode (c.encode a) = some b ∧ b = a ∧ c.encode b = c.encode a

/-- It is enough that all that is read of trees within the nesting limit is kept. -/
theorem faithful_of_kept {c : Codec α}
    (kept : ∀ t a, t.Fits nestingLimit → c.read t = some a → Kept c.write c.read nestingLimit a) :
    c.Faithful := by
  intro raw a h
  obtain ⟨t, read, made⟩ := Option.bind_eq_some_iff.1 h
  have back := (kept t a (Tree.fits_of_read read) made).read_text (Nat.le_refl _)
  exact ⟨a, back, rfl, rfl⟩

/-- A text that is decoded shows that the datum comes back. -/
theorem Faithful.sample {c : Codec α} (h : c.Faithful) {raw : String}
    (decoded : (c.decode raw).isSome = true) :
    ∃ a, c.decode raw = some a ∧ c.decode (c.encode a) = some a := by
  obtain ⟨a, made⟩ := Option.isSome_iff_exists.1 decoded
  obtain ⟨b, back, rfl, -⟩ := h raw a made
  exact ⟨b, made, back⟩

end Codec

def Meter.codec : Codec Meter := ⟨Meter.toValue, Meter.ofTree?⟩

def Query.codec : Codec Query := ⟨Query.toValue, Query.ofTree?⟩

def Period.codec : Codec Period := ⟨Progress.periodValue, Period.ofTree?⟩

def TextFilter.codec : Codec TextFilter := ⟨TextFilter.toValue, TextFilter.ofTree?⟩

def Filter.timeCodec : Codec (Filter Instant) :=
  ⟨Filter.toValue instantValue, Filter.ofTree? Tree.instant?⟩

/-- Meters, queries, periods and filters on texts and on instants survive being encoded, whatever text
they were decoded from: in any form, with any escapes, with keys that stand twice, with fields that are
missing or null, and with filters as deep as can be read. -/
theorem codecs_faithful : Meter.codec.Faithful ∧ Query.codec.Faithful ∧ Period.codec.Faithful ∧
    TextFilter.codec.Faithful ∧ Filter.timeCodec.Faithful := by
  refine ⟨?_, ?_, ?_, ?_, ?_⟩ <;> refine Codec.faithful_of_kept fun t a fits read => ?_
  · exact (Meter.kept (Meter.gives_inRange t a read)).mono (by decide)
  · exact Query.kept (Query.readable_of_read fits read)
  · exact (Period.kept (Period.gives_inRange t a read)).mono (by decide)
  · exact TextFilter.kept (TextFilter.canonical_of_read fits read) (Nat.le_refl _)
  · exact Filter.kept_within (fun t h room => Kept.instant room h) rfl
      (Filter.canonical_of_read Gives.instant fits read) (Nat.le_succ _)

namespace Sample

/-- A meter in another order, with escapes, a unit variant as an object and a dimension twice. -/
def meter : String :=
  "\x7b\"slug\":\"\\/\",\"id\":\"\\u00e9\",\"namespace\":\"\",\"aggregation\":\x7b\"SU" ++
    "M\":null\x7d,\"event_type\":\"\",\"group_by\":\x7b\"k\":\"1\",\"k\":\"2\"\x7d\x7d"

/-- A query with a nested filter and a null. -/
def query : String :=
  "\x7b\"to\":null,\"filter_group_by\":\x7b\"k\":\x7b\"or\":[\x7b\"in\":[\"a\"]\x7d,\x7b\"eq\":\"\\u001f\"\x7d]\x7d\x7d\x7d"

/-- A period as an array, in years that are written with a sign or with leading zeros. -/
def period : String :=
  "[\"+12024-01-01T00:00:00Z\",\"0000-1-1t0:00:00.000000001z\"]"

def textFilter : String :=
  "\x7b\"or\":[\x7b\"notLike\":\"\\\"\"\x7d],\"eq\":\"\"\x7d"

/-- A filter on instants with more digits than are kept. -/
def timeFilter : String :=
  "\x7b\"and\":[\x7b\"lt\":\"1969-12-31T23:59:59.9999999999Z\"\x7d]\x7d"

/-- Each of the texts is decoded as a datum that comes back from its own text. -/
theorem codecs_faithful_samples :
    (∃ m, Meter.codec.decode meter = some m ∧ Meter.codec.decode (Meter.codec.encode m) = some m) ∧
    (∃ q, Query.codec.decode query = some q ∧ Query.codec.decode (Query.codec.encode q) = some q) ∧
    (∃ p, Period.codec.decode period = some p ∧
      Period.codec.decode (Period.codec.encode p) = some p) ∧
    (∃ f, TextFilter.codec.decode textFilter = some f ∧
      TextFilter.codec.decode (TextFilter.codec.encode f) = some f) ∧
    (∃ f, Filter.timeCodec.decode timeFilter = some f ∧
      Filter.timeCodec.decode (Filter.timeCodec.encode f) = some f) := by
  obtain ⟨meters, queries, periods, texts, times⟩ := codecs_faithful
  exact ⟨meters.sample (by decide +kernel), queries.sample (by decide +kernel),
    periods.sample (by decide +kernel), texts.sample (by decide +kernel),
    times.sample (by decide +kernel)⟩

end Sample

end Metering
