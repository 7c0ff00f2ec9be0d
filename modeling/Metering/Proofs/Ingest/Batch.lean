import Mathlib.Data.List.Forall2
import Mathlib.Data.List.ProdSigma
import Metering.Proofs.Ingest.Live
import Metering.Proofs.Retry

/-!
A batch of events is written all or nothing. The store is one whose writes turn out one after the other
as given, and a write that fails leaves the table as it was. However the writes turn out, the table gains
the rows of the whole batch, each once, or none at all (`Ingest.ingest_settles`).
-/
namespace Metering

/-- The data of an event; a text that is no JSON holds nothing. -/
def Event.body (e : Event) : Json.Value := (Json.Value.read? e.data).getD .null

namespace Meter

/-- Whether live ingestion makes a row of an event for a meter. -/
structure MakesRow (m : Meter) (e : Event) : Prop where
  space : e.space = m.space
  type : e.type = m.eventType
  numeric : m.aggregation.isNumeric = true
  reached : ∃ p ∈ m.progress, ∃ cutover ∈ p.cutover, cutover ≤ e.storedAt
  value : (m.contribution? e.body).isSome = true

instance (m : Meter) (e : Event) : Decidable (m.MakesRow e) :=
  decidable_of_iff (e.space = m.space ∧ e.type = m.eventType ∧ m.aggregation.isNumeric = true ∧
      (∃ p ∈ m.progress, ∃ cutover ∈ p.cutover, cutover ≤ e.storedAt) ∧
      (m.contribution? e.body).isSome = true)
    ⟨fun ⟨space, type, numeric, reached, value⟩ => ⟨space, type, numeric, reached, value⟩,
      fun h => ⟨h.space, h.type, h.numeric, h.reached, h.value⟩⟩

/-- The row of an event for a meter. -/
structure IsRowOf (m : Meter) (e : Event) (row : Entry Float) : Prop where
  space : row.space = m.space
  meterId : row.meterId = m.id
  subject : row.subject = e.subject
  time : row.time = e.time
  storedAt : row.storedAt = e.storedAt
  value : m.contribution? e.body = some row.value
  dimensions : row.dimensions = m.dimensionTexts e.body

variable {m : Meter} {e : Event}

theorem isRowOf_of_measure? {row : Entry Float} (h : m.measure? e = some row) : m.IsRowOf e row := by
  unfold measure? at h
  split at h
  · obtain ⟨x, found, rfl⟩ := Option.map_eq_some_iff.1 h
    exact ⟨rfl, rfl, rfl, rfl, rfl, found, rfl⟩
  · exact absurd h (by simp)

theorem streams_iff : m.streams e = true ↔
    m.aggregation.isNumeric = true ∧
      ∃ p ∈ m.progress, ∃ cutover ∈ p.cutover, cutover ≤ e.storedAt := by
  rw [streams, Bool.and_eq_true, Option.any_eq_true]
  refine and_congr_right fun _ => ?_
  cases m.progress <;> simp

theorem isSome_measure? : (m.measure? e).isSome = true ↔
    e.space = m.space ∧ e.type = m.eventType ∧ m.aggregation.isNumeric = true ∧
      (m.contribution? e.body).isSome = true := by
  have own : (m.covers e.space e.type && m.aggregation.isNumeric) = true ↔
      (e.space = m.space ∧ e.type = m.eventType) ∧ m.aggregation.isNumeric = true := by
    simp [covers]
  unfold measure?
  split <;> rename_i takes
  · obtain ⟨⟨space, type⟩, numeric⟩ := own.1 takes
    simp [space, type, numeric, Event.body]
  · constructor
    · simp
    · rintro ⟨space, type, numeric, -⟩
      exact absurd (own.2 ⟨⟨space, type⟩, numeric⟩) takes

theorem isSome_entryOf? : (Snapshot.entryOf? e m).isSome = true ↔ m.MakesRow e := by
  unfold Snapshot.entryOf?
  split <;> rename_i streams
  · obtain ⟨-, reached⟩ := streams_iff.1 streams
    rw [isSome_measure?]
    constructor
    · rintro ⟨space, type, numeric, value⟩
      exact ⟨space, type, numeric, reached, value⟩
    · intro h
      exact ⟨h.space, h.type, h.numeric, h.value⟩
  · constructor
    · simp
    · intro h
      exact absurd (streams_iff.2 ⟨h.numeric, h.reached⟩) streams

theorem isRowOf_of_entryOf? {row : Entry Float} (h : Snapshot.entryOf? e m = some row) :
    m.IsRowOf e row := by
  unfold Snapshot.entryOf? at h
  split at h
  · exact isRowOf_of_measure? h
  · exact absurd h (by simp)

end Meter

namespace Snapshot

/-- The pairs that make a row, in the order of the events. -/
def streaming (s : Snapshot) (events : List Event) : List (Event × Meter) :=
  (events ×ˢ s).filter fun pair => pair.2.MakesRow pair.1

theorem entriesOf_eq (s : Snapshot) (e : Event) : s.entriesOf e = s.filterMap (entryOf? e) := by
  rw [entriesOf, forEvents_eq_filter, List.filterMap_filter]
  congr 1
  funext m
  split
  · rfl
  · rename_i uncovered
    cases made : entryOf? e m with
    | none => rfl
    | some row => exact absurd (entryOf?_eq_some made).1 uncovered

/-- The entries of a batch are the rows of the pairs that make one, and come in their order. -/
theorem forall₂_entries (s : Snapshot) (events : List Event) :
    List.Forall₂ (fun pair row => pair.2.IsRowOf pair.1 row) (s.streaming events) (s.entries events) := by
  have rows (e : Event) (ms : List Meter) :
      List.Forall₂ (fun pair row => pair.2.IsRowOf pair.1 row)
        ((ms.map (Prod.mk e)).filter fun pair => pair.2.MakesRow pair.1)
        (ms.filterMap (entryOf? e)) := by
    induction ms with
    | nil => exact .nil
    | cons m ms ih =>
      cases made : entryOf? e m with
      | none =>
        have makes : ¬ m.MakesRow e := by simp [← Meter.isSome_entryOf?, made]
        simpa [made, makes] using ih
      | some row =>
        have makes : m.MakesRow e := by simp [← Meter.isSome_entryOf?, made]
        simpa [made, makes] using ⟨Meter.isRowOf_of_entryOf? made, ih⟩
  induction events with
  | nil => exact .nil
  | cons e events ih =>
    rw [streaming, List.product_cons, List.filter_append, entries, List.flatMap_cons, entriesOf_eq]
    exact List.rel_append (rows e s) ih

end Snapshot

/-- A write that was asked for, and how it turned out. -/
structure NumberWrite where
  entries : List (Entry Float)
  outcome : Except StoreError Unit

/-- A table of numbers, with the writes that were asked for so far. -/
structure NumberStore where
  rows : List (Entry Float)
  writes : List NumberWrite

namespace NumberStore

/-- The rows after a write; one that fails leaves them as they were. -/
def after (rows : List (Entry Float)) (w : NumberWrite) : List (Entry Float) :=
  match w.outcome with
  | .ok () => rows ++ w.entries
  | .error _ => rows

def write (store : NumberStore) (w : NumberWrite) : NumberStore :=
  ⟨after store.rows w, store.writes ++ [w]⟩

/-- Answers to ingestion; the writes turn out one after the other as given. -/
def answer (outcomes : Nat → Except StoreError Unit) :
    (r : IngestRequest) → StateM NumberStore r.Answer
  | .insert entries => fun store =>
    (outcomes store.writes.length, store.write ⟨entries, outcomes store.writes.length⟩)
  | .pause _ => pure ()

end NumberStore

namespace Ingest

/-- The answer for a batch of so many rows whose last write turned out like this. -/
def report (count : Nat) : Except StoreError Unit → Except Error Nat
  | .ok () => .ok count
  | .error e => .error (.store e)

/-- What a batch comes to: its rows are in the table, all of them once, or none is. -/
structure Settles (maxAttempts : Nat) (rows : List (Entry Float)) (before after : NumberStore)
    (writes : List NumberWrite) (result : Except Error Nat) : Prop where
  asked : after.writes = before.writes ++ writes
  whole : ∀ n, result = .ok n → n = rows.length ∧ after.rows = before.rows ++ rows
  nothing : ∀ e, result = .error e → after.rows = before.rows
  most : writes.length ≤ max 1 maxAttempts
  needless : writes = [] ↔ rows = []
  same : ∀ w ∈ writes, w.entries = rows
  /-- Only a failure that may pass is followed by another write. -/
  again : ∀ w ∈ writes.dropLast, ∃ e, w.outcome = .error e ∧ e.isTransient = true
  told : result = report rows.length ((writes.getLast?.map NumberWrite.outcome).getD (.ok ()))

variable {outcomes : Nat → Except StoreError Unit} {rows : List (Entry Float)} {before : NumberStore}

/-- Writes of the same rows that failed. -/
def failedWrites (rows : List (Entry Float)) (failures : List StoreError) : List NumberWrite :=
  failures.map fun e => ⟨rows, .error e⟩

/-- A store where so many writes of rows failed for a passing reason, and so many others may follow the
next one. -/
structure Failing (most : Nat) (rows : List (Entry Float)) (before : NumberStore) (further made : Nat)
    (store : NumberStore) : Prop where
  count : made + further = most
  failed : ∃ failures : List StoreError, failures.length = made ∧
    (∀ e ∈ failures, e.isTransient = true) ∧
    store = ⟨before.rows, before.writes ++ failedWrites rows failures⟩

theorem Failing.again {most further made : Nat} {store : NumberStore} {e : StoreError}
    (h : Failing most rows before (further + 1) made store) (passing : e.isTransient = true) :
    Failing most rows before further (made + 1) (store.write ⟨rows, .error e⟩) := by
  obtain ⟨failures, length, transient, rfl⟩ := h.failed
  refine ⟨by have := h.count; omega, failures ++ [e], by simp [length], ?_, ?_⟩
  · intro e' mem
    rcases List.mem_append.1 mem with earlier | last
    · exact transient e' earlier
    · rwa [List.mem_singleton.1 last]
  · simp [NumberStore.write, NumberStore.after, failedWrites]

/-- A store after the last of so many writes of rows; those before it failed for a passing reason. -/
structure Finished (most : Nat) (rows : List (Entry Float)) (before : NumberStore)
    (outcome : Except StoreError Unit) (n : Nat) (store : NumberStore) : Prop where
  count : n ≤ most + 1
  table : store.rows = NumberStore.after before.rows ⟨rows, outcome⟩
  writes : ∃ failures : List StoreError, failures.length + 1 = n ∧
    (∀ e ∈ failures, e.isTransient = true) ∧
    store.writes = before.writes ++ (failedWrites rows failures ++ [⟨rows, outcome⟩])

theorem Failing.last {most further made : Nat} {store : NumberStore}
    (h : Failing most rows before further made store) (outcome : Except StoreError Unit) :
    Finished most rows before outcome (made + 1) (store.write ⟨rows, outcome⟩) := by
  obtain ⟨failures, length, transient, rfl⟩ := h.failed
  exact ⟨by have := h.count; omega, rfl, failures, by rw [length], transient,
    List.append_assoc ..⟩

/-- Repeated writes leave the table alone up to the last one. -/
theorem run_retry (policy : RetryPolicy) (outcomes : Nat → Except StoreError Unit)
    (rows : List (Entry Float)) (before : NumberStore) :
    ∃ outcome n store, (policy.retry StoreError.isTransient
        (fun length => .request (IngestRequest.pause length))
        (.request (IngestRequest.insert rows))).run (NumberStore.answer outcomes) before =
          ((outcome, n), store) ∧
      Finished policy.furtherAttempts rows before outcome n store := by
  have start : Failing policy.furtherAttempts rows before policy.furtherAttempts 0 before :=
    ⟨Nat.zero_add _, [], rfl, by simp, by simp [failedWrites]⟩
  refine RetryPolicy.run_retryFrom ?_ ?_ start
  · intro further made σ e τ failing tried passing
    obtain ⟨failed, rfl⟩ := Prod.mk.inj tried
    -- a pause leaves the store alone
    show Failing _ rows before further (made + 1) (σ.write ⟨rows, outcomes σ.writes.length⟩)
    rw [failed]
    exact failing.again passing
  · intro further made σ outcome τ failing tried _
    obtain ⟨rfl, rfl⟩ := Prod.mk.inj tried
    exact failing.last _

/-- The last of the writes decides what the batch comes to. -/
theorem Finished.settles {maxAttempts n : Nat} {outcome : Except StoreError Unit} {store : NumberStore}
    (h : Finished (maxAttempts - 1) rows before outcome n store) (some : rows ≠ []) :
    ∃ writes, Settles maxAttempts rows before store writes (report rows.length outcome) := by
  obtain ⟨failures, length, transient, writes⟩ := h.writes
  have same : ∀ w ∈ failedWrites rows failures,
      w.entries = rows ∧ ∃ e, w.outcome = .error e ∧ e.isTransient = true := by
    intro w mem
    obtain ⟨e, failed, rfl⟩ := List.mem_map.1 mem
    exact ⟨rfl, e, rfl, transient e failed⟩
  refine ⟨failedWrites rows failures ++ [⟨rows, outcome⟩], writes, ?_, ?_, ?_, ?_, ?_, ?_, ?_⟩
  · intro n ok
    cases outcome with
    | ok u => exact ⟨(Except.ok.inj ok).symm, h.table⟩
    | error e => exact absurd ok (by simp [report])
  · intro e error
    cases outcome with
    | ok u => exact absurd error (by simp [report])
    | error e => exact h.table
  · have := h.count
    simp only [failedWrites, List.length_append, List.length_map, List.length_singleton]
    omega
  · simp [some]
  · intro w mem
    rcases List.mem_append.1 mem with failed | last
    · exact (same w failed).1
    · rw [List.mem_singleton.1 last]
  · rw [List.dropLast_concat]
    exact fun w mem => (same w mem).2
  · simp

/-- However its writes turn out, a batch adds all of its rows to the table, once, or none of them. -/
theorem ingest_settles (maxAttempts firstPause : Nat) (s : Snapshot) (events : List Event)
    (outcomes : Nat → Except StoreError Unit) (before : NumberStore) :
    ∃ rows writes result after,
      (ingest (.make maxAttempts firstPause) s events).run (NumberStore.answer outcomes) before =
        (result, after) ∧
      List.Forall₂ (fun pair row => pair.2.IsRowOf pair.1 row) (s.streaming events) rows ∧
      Settles maxAttempts rows before after writes result := by
  by_cases none : s.entries events = []
  · have ran : (ingest (.make maxAttempts firstPause) s events).run
        (NumberStore.answer outcomes) before = (.ok 0, before) := by
      rw [ingest, write, if_pos (List.isEmpty_iff.2 none)]
      rfl
    refine ⟨s.entries events, [], .ok 0, before, ran, s.forall₂_entries events, ?_⟩
    rw [none]
    exact ⟨(List.append_nil _).symm, by simp, by simp, by simp, by simp, by simp, by simp, rfl⟩
  · obtain ⟨outcome, n, store, ran, finished⟩ :=
      run_retry (.make maxAttempts firstPause) outcomes (s.entries events) before
    obtain ⟨writes, settles⟩ := finished.settles none
    refine ⟨s.entries events, writes, report (s.entries events).length outcome, store, ?_,
      s.forall₂_entries events, settles⟩
    rw [ingest, write, if_neg (by simpa using none), Program.run_bind_apply, ran]
    rcases outcome with e | ⟨⟩ <;> rfl

end Ingest

end Metering
