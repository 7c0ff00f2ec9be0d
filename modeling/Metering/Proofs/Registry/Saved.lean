import Metering.Deployment
import Metering.Proofs.Registry.Agreement

/-!
Progress that a registry of either kind has taken: it is what the registry keeps for the meter
(`Registry.hasProgress_of_saved`), and what it answers with from then on (`Registry.get_of_saved`). A
registry that refuses progress stays as it is.
-/
namespace Metering

/-- Progress that a registry in memory takes is put into the meter it has. -/
theorem MemoryRegistry.answer_setProgress_ok {r after : MemoryRegistry} {space id : String}
    {p : Progress} (saved : r.answer (.setProgress space id p) = (.ok (), after)) :
    ∃ m, r.byId? space id = some m ∧ after.byId? space id = some { m with progress := some p } := by
  simp only [answer, setProgress?] at saved
  cases found : r.byId? space id with
  | none =>
    rw [found] at saved
    exact absurd (congrArg Prod.fst saved) (by simp)
  | some m =>
    rw [found] at saved
    obtain rfl := (Prod.mk.inj saved).2
    refine ⟨m, rfl, ?_⟩
    exact (byId_insert r space id _ space id).trans (if_pos ⟨rfl, rfl⟩)

/-- Progress that a table takes is put into the row it has. -/
theorem RegistryTable.answer_setProgress_ok {t after : RegistryTable} {space id : String}
    {p : Progress} (saved : t.answer (.setProgress space id p) = (.ok (), after)) :
    ∃ row, t.rowAt? space id = some row ∧
      after.rowAt? space id = some { row with progress := some p.encode } := by
  simp only [answer, setProgress?, any_hasKey] at saved
  cases found : t.rowAt? space id with
  | none =>
    rw [found] at saved
    exact absurd (congrArg Prod.fst saved) (by simp)
  | some row =>
    rw [found] at saved
    obtain rfl := (Prod.mk.inj saved).2
    refine ⟨row, rfl, ?_⟩
    have keeps : ∀ r : MeterRecord, r.HasKey space id →
        MeterRecord.HasKey { r with progress := some p.encode } space id := fun _ key => key
    refine (rowAt_replace keeps space id).trans ?_
    rw [if_pos ⟨rfl, rfl⟩, found]
    rfl

namespace MeterRecord

variable {row : MeterRecord} {m : Meter} {p : Progress}

theorem toMeter_ok : row.toMeter = .ok m ↔ ∃ a ds progress, row.readAggregation = .ok a ∧
    row.readDimensions = .ok ds ∧ row.readProgress = .ok progress ∧
      m = ⟨row.space, row.id, row.slug, a, row.eventType, row.valuePath, ds,
        row.since.map Instant.ofMicros, progress⟩ := by
  simp only [toMeter, bind, Except.bind, pure, Except.pure]
  cases row.readAggregation with
  | error e => simp
  | ok a =>
    cases row.readDimensions with
    | error e => simp
    | ok ds =>
      cases row.readProgress with
      | error e => simp
      | ok progress => simp [eq_comm]

/-- A row that could be read can be read with other progress. -/
theorem toMeter_saved (known : row.toMeter = .ok m) (range : p.InRange) :
    toMeter { row with progress := some p.encode } = .ok { m with progress := some p } := by
  obtain ⟨a, ds, -, aggregation, dimensions, -, rfl⟩ := toMeter_ok.1 known
  refine toMeter_ok.2 ⟨a, ds, some p, aggregation, dimensions, ?_, rfl⟩
  simp only [readProgress, Progress.decode_encode range]

end MeterRecord

namespace Registry

variable {r after : Registry} {space id : String} {p : Progress}

/-- Whether some progress is what a registry keeps under a namespace and an id. -/
def HasProgress (space id : String) (p : Progress) : Registry → Prop
  | memory meters => meters.progress? space id = some p
  | table records => records.progressText? space id = some p.encode

theorem answer_get (r : Registry) (space name : String) : (r.answer (.get space name)).2 = r := by
  cases r with
  | memory meters =>
    simp only [answer, MemoryRegistry.answer]
    split <;> rfl
  | table records =>
    simp only [answer, RegistryTable.answer]
    split <;> rfl

/-- A registry that refuses progress stays as it is. -/
theorem answer_setProgress_error {e : StoreError}
    (refused : r.answer (.setProgress space id p) = (.error e, after)) : after = r := by
  cases r with
  | memory meters =>
    simp only [answer, MemoryRegistry.answer] at refused
    split at refused
    · exact absurd (congrArg Prod.fst refused) (by simp)
    · exact (Prod.mk.inj refused).2.symm
  | table records =>
    simp only [answer, RegistryTable.answer] at refused
    split at refused
    · exact absurd (congrArg Prod.fst refused) (by simp)
    · exact (Prod.mk.inj refused).2.symm

/-- Progress that a registry takes is put into the meter, or into the row, that it has. -/
theorem saved_cases (saved : r.answer (.setProgress space id p) = (.ok (), after)) :
    (∃ ms ms' m, r = memory ms ∧ after = memory ms' ∧ ms.byId? space id = some m ∧
      ms'.byId? space id = some { m with progress := some p }) ∨
    ∃ t t' row, r = table t ∧ after = table t' ∧ t.rowAt? space id = some row ∧
      t'.rowAt? space id = some { row with progress := some p.encode } := by
  cases r with
  | memory ms =>
    have taken : (ms.answer (.setProgress space id p)).1 = .ok () := congrArg Prod.fst saved
    have left : memory (ms.answer (.setProgress space id p)).2 = after := congrArg Prod.snd saved
    obtain ⟨m, was, is⟩ := MemoryRegistry.answer_setProgress_ok (Prod.ext taken rfl)
    exact .inl ⟨ms, _, m, rfl, left.symm, was, is⟩
  | table t =>
    have taken : (t.answer (.setProgress space id p)).1 = .ok () := congrArg Prod.fst saved
    have left : table (t.answer (.setProgress space id p)).2 = after := congrArg Prod.snd saved
    obtain ⟨row, was, is⟩ := RegistryTable.answer_setProgress_ok (Prod.ext taken rfl)
    exact .inr ⟨t, _, row, rfl, left.symm, was, is⟩

theorem hasProgress_of_saved (saved : r.answer (.setProgress space id p) = (.ok (), after)) :
    after.HasProgress space id p := by
  rcases saved_cases saved with ⟨ms, ms', m, rfl, rfl, -, is⟩ | ⟨t, t', row, rfl, rfl, -, is⟩
  · rw [HasProgress, MemoryRegistry.progress?, is]
    rfl
  · rw [HasProgress, RegistryTable.progressText?, is]
    rfl

theorem get_memory {ms : MemoryRegistry} {m : Meter} (found : ms.byId? space id = some m) :
    ((memory ms).answer (.get space id)).1 = .ok m := by
  have first : ms.find? space id = some m := by
    rw [MemoryRegistry.find?, found]
    rfl
  show (ms.answer (.get space id)).1 = .ok m
  simp only [MemoryRegistry.answer, first]
  rfl

theorem get_table {t : RegistryTable} {row : MeterRecord} (found : t.rowAt? space id = some row) :
    ((table t).answer (.get space id)).1 = row.toMeter := by
  have first : t.find? space id = some row := by
    rw [RegistryTable.rowAt?] at found
    rw [RegistryTable.find?, found]
    rfl
  show (t.answer (.get space id)).1 = row.toMeter
  simp only [RegistryTable.answer, first]
  rfl

/-- Progress that was saved is read back, with the definition that it was saved for. -/
theorem get_of_saved {m : Meter} (known : (r.answer (.get space id)).1 = .ok m)
    (saved : r.answer (.setProgress space id p) = (.ok (), after)) (range : p.InRange) :
    (after.answer (.get space id)).1 = .ok { m with progress := some p } := by
  rcases saved_cases saved with ⟨ms, ms', n, rfl, rfl, was, is⟩ | ⟨t, t', row, rfl, rfl, was, is⟩
  · rw [get_memory was] at known
    obtain rfl := Except.ok.inj known
    exact get_memory is
  · rw [get_table was] at known
    rw [get_table is]
    exact MeterRecord.toMeter_saved known range

end Registry

end Metering
