import Metering.Proofs.Registry.Listing

/-!
Lookups through the snapshot. A refresh of an empty snapshot puts in what the registry lists, and
progress that is applied from then on changes neither the order of the meters nor their names. So the
snapshot finds the meters that the registry finds, and its index of places leads to the meters that
events count for (`Deployment.lookups_match`).
-/
namespace Metering

open Backfill (keyOf)

/-- Progress that is applied to the snapshot, under a namespace and an id. -/
structure Applied where
  space : String
  id : String
  progress : Progress

/-- A meter with what was applied to it last. -/
def Meter.withApplied (calls : List Applied) (m : Meter) : Meter :=
  calls.foldl (fun m call => if Snapshot.isNamed call.space call.id m then
    { m with progress := some call.progress } else m) m

/-- Only the progress of a meter is another one. -/
theorem Meter.withApplied_eq (calls : List Applied) (m : Meter) :
    m.withApplied calls = { m with progress := (m.withApplied calls).progress } := by
  induction calls generalizing m with
  | nil => rfl
  | cons call calls ih =>
    rw [withApplied, List.foldl_cons]
    split
    · exact ih { m with progress := some call.progress }
    · exact ih m

namespace Snapshot

variable {s : Snapshot} {m : Meter} {space name : String}

/-- In a snapshot that has each key at most once, progress is put into every meter under its key. -/
theorem setProgress_eq_map (once : (s.map keyOf).Nodup) (space id : String) (p : Progress) :
    s.setProgress space id p =
      s.map fun m => if isNamed space id m then { m with progress := some p } else m := by
  induction s with
  | nil => rfl
  | cons m s ih =>
    obtain ⟨new, once⟩ := List.nodup_cons.1 once
    rw [setProgress, List.map_cons]
    split
    · rename_i named
      have others : ∀ n ∈ s, ¬ isNamed space id n = true := by
        intro n mem named'
        rw [isNamed_iff] at named named'
        exact new (named.trans named'.symm ▸ List.mem_map_of_mem mem)
      rw [List.map_congr_left fun n mem => if_neg (others n mem), List.map_id']
    · rw [ih once]

theorem foldl_setProgress (once : (s.map keyOf).Nodup) (calls : List Applied) :
    calls.foldl (fun s call => s.setProgress call.space call.id call.progress) s =
      s.map (Meter.withApplied calls) := by
  induction calls generalizing s with
  | nil => exact (List.map_id' s).symm
  | cons call calls ih =>
    have once' : ((s.setProgress call.space call.id call.progress).map keyOf).Nodup := by
      rw [map_keyOf_setProgress]
      exact once
    rw [List.foldl_cons, ih once', setProgress_eq_map once, List.map_map]
    rfl

theorem find?_withApplied (calls : List Applied) (s : Snapshot) (space name : String) :
    find? (s.map (Meter.withApplied calls)) space name =
      (find? s space name).map (Meter.withApplied calls) := by
  have byId : isNamed space name ∘ Meter.withApplied calls = isNamed space name := by
    funext m
    rw [Function.comp_apply, m.withApplied_eq calls]
    rfl
  have bySlug : (fun m : Meter => m.space == space && m.slug == name) ∘ Meter.withApplied calls =
      fun m => m.space == space && m.slug == name := by
    funext m
    rw [Function.comp_apply, m.withApplied_eq calls]
  rw [find?, find?, List.find?_map, List.find?_map, byId, bySlug]
  cases List.find? (isNamed space name) s <;> rfl

theorem filter_withApplied (calls : List Applied) (s : Snapshot) (space type : String) :
    (s.map (Meter.withApplied calls)).filter (fun m => m.covers space type) =
      (s.filter fun m => m.covers space type).map (Meter.withApplied calls) := by
  have same : (fun m : Meter => m.covers space type) ∘ Meter.withApplied calls =
      fun m => m.covers space type := by
    funext m
    rw [Function.comp_apply, m.withApplied_eq calls]
    rfl
  rw [List.filter_map, same]

theorem map_keyOf_withApplied (calls : List Applied) (s : Snapshot) :
    (s.map (Meter.withApplied calls)).map keyOf = s.map keyOf := by
  rw [List.map_map]
  refine List.map_congr_left fun m _ => ?_
  rw [Function.comp_apply, m.withApplied_eq calls]
  rfl

/-- A meter with the id that is looked for is found, whichever meters have the name as their slug. -/
theorem find?_of_id (once : (s.map keyOf).Nodup) (mem : m ∈ s) (inSpace : m.space = space)
    (id : m.id = name) : find? s space name = some m := by
  rw [find?, find?_isNamed once mem (Prod.ext inSpace id)]
  rfl

theorem find?_eq_none_iff : find? s space name = none ↔
    ∀ m ∈ s, m.space = space → m.id ≠ name ∧ m.slug ≠ name := by
  have either {x y : Option Meter} : (x <|> y) = none ↔ x = none ∧ y = none := by
    cases x <;> simp
  simp only [find?, either, List.find?_eq_none, isNamed, Bool.and_eq_true, beq_iff_eq, not_and]
  constructor
  · rintro ⟨byId, bySlug⟩ m mem inSpace
    exact ⟨byId m mem inSpace, bySlug m mem inSpace⟩
  · intro absent
    exact ⟨fun m mem inSpace => (absent m mem inSpace).1, fun m mem inSpace => (absent m mem inSpace).2⟩

/-- What is found has the name in its namespace, as its id or its slug. -/
theorem named_of_find? (found : find? s space name = some m) :
    m ∈ s ∧ m.space = space ∧ (m.id = name ∨ m.slug = name) := by
  rw [find?] at found
  cases byId : List.find? (isNamed space name) s with
  | some n =>
    rw [byId] at found
    obtain rfl : n = m := Option.some.inj found
    obtain ⟨inSpace, id⟩ := Prod.mk.inj (isNamed_iff.1 (List.find?_some byId))
    exact ⟨List.mem_of_find?_eq_some byId, inSpace, .inl id⟩
  | none =>
    rw [byId] at found
    have bySlug : List.find? (fun m => m.space == space && m.slug == name) s = some m := found
    have named := List.find?_some bySlug
    rw [Bool.and_eq_true, beq_iff_eq, beq_iff_eq] at named
    exact ⟨List.mem_of_find?_eq_some bySlug, named.1, .inr named.2⟩

/-- Nothing that is read lags an empty snapshot. -/
theorem replaced_nil (loaded : List Meter) : replaced [] loaded = loaded := List.map_id' loaded

end Snapshot

namespace Deployment

variable {Q : Type} {r : Registry} {ms : List Meter} {σ : Deployment Q}

/-- A deployment whose snapshot is read for the first time, with the number of meters that were read. -/
def opened (r : Registry) : Except StoreError Nat × Deployment Q := refresh (ofRegistry r)

/-- The deployment after progress has been applied to its snapshot. -/
def applyAll (calls : List Applied) (σ : Deployment Q) : Deployment Q :=
  calls.foldl (fun σ call => (answerMeters (.apply call.space call.id call.progress) σ).2) σ

/-- The meter that a name leads to. -/
def lookup (σ : Deployment Q) (space name : String) : Except Error Meter :=
  ((Snapshot.resolve space name).run answerMeters σ).1

/-- A program gets its first answer and goes on from there. -/
theorem run_ask {α : Type} (request : MeterRequest)
    (next : request.Answer → Program MeterRequest MeterRequest.Answer α) (σ : Deployment Q) :
    (Program.ask request next).run answerMeters σ =
      (next (answerMeters request σ).1).run answerMeters (answerMeters request σ).2 := rfl

theorem opened_eq (h : r.ListedAs ms) :
    opened r = (.ok ms.length, { (ofRegistry r : Deployment Q) with snapshot := ms }) := by
  have same : (r.answer (.list none)).2 = r := by cases r <;> rfl
  have read : answerMeters (.registry (.list none)) (ofRegistry r : Deployment Q) =
      (.ok ms, ofRegistry r) := by
    show ((r.answer (.list none)).1,
      { (ofRegistry r : Deployment Q) with registry := (r.answer (.list none)).2 }) = _
    rw [h.listed, same]
    rfl
  rw [opened, refresh, Snapshot.refresh, run_ask, read]
  show (Except.ok ms.length, { (ofRegistry r : Deployment Q) with snapshot := Snapshot.replaced [] ms }) = _
  rw [Snapshot.replaced_nil]

theorem applyAll_eq (calls : List Applied) (σ : Deployment Q) : (σ.applyAll calls) =
    { σ with snapshot :=
        calls.foldl (fun s call => s.setProgress call.space call.id call.progress) σ.snapshot } := by
  induction calls generalizing σ with
  | nil => rfl
  | cons call calls ih => exact ih _

/-- A name that the snapshot leads nowhere is looked for in the registry. -/
theorem lookup_eq (σ : Deployment Q) (space name : String) : σ.lookup space name =
    match Snapshot.find? σ.snapshot space name with
    | some m => .ok m
    | none =>
      match (σ.registry.answer (.get space name)).1 with
      | .ok m => if m.space = space then .ok m else .error (.meterNotFound name)
      | .error e => .error (Snapshot.lookupError name e) := by
  have held : answerMeters .snapshot σ = (σ.snapshot, σ) := rfl
  rw [lookup, Snapshot.resolve, run_ask, held]
  dsimp only
  cases Snapshot.find? σ.snapshot space name with
  | some m => rfl
  | none =>
    have asked : (answerMeters (.registry (.get space name)) σ).1 =
        (σ.registry.answer (.get space name)).1 := rfl
    dsimp only
    rw [run_ask, asked]
    cases (σ.registry.answer (.get space name)).1 <;> rfl

/-- The snapshot after a first refresh and any calls: the meters that the registry lists. -/
theorem snapshot_applyAll (h : r.ListedAs ms) (calls : List Applied) :
    ((opened r : _ × Deployment Q).2.applyAll calls).snapshot = ms.map (Meter.withApplied calls) := by
  rw [applyAll_eq, opened_eq h]
  exact Snapshot.foldl_setProgress h.once calls

/-- What the snapshot does not find, the registry behind it does not find either. -/
theorem lookup_applyAll (h : r.ListedAs ms) (calls : List Applied) (space name : String) :
    ((opened r : _ × Deployment Q).2.applyAll calls).lookup space name =
      match Snapshot.find? (ms.map (Meter.withApplied calls)) space name with
      | some m => .ok m
      | none => .error (.meterNotFound name) := by
  have behind : ((opened r : _ × Deployment Q).2.applyAll calls).registry = r := by
    rw [applyAll_eq, opened_eq h]
    rfl
  have answer := h.get space name
  rw [lookup_eq, snapshot_applyAll h, behind, Snapshot.find?_withApplied]
  cases found : Snapshot.find? ms space name with
  | some m => rfl
  | none =>
    rw [found] at answer
    rw [answer]
    rfl

/--
A registry of either kind after any requests, a snapshot that is read from it for the first time, and
progress that is applied to the snapshot then; if there is none of it, the meters are those of the
registry as they are.

The snapshot holds what the registry lists, in its order. A name leads to the meter that the registry
answers with, or is refused if the registry has no such meter; an id goes before all slugs. The meters
that events of a type count for are found each once, in the order of the list.
-/
theorem lookups_match (Q : Type) {r : Registry} (opens : r = .memory ∅ ∨ r = .table [])
    {qs : List RegistryRequest} (range : ∀ q ∈ qs, q.InRange) (calls : List Applied) :
    let registry := r.after qs
    let σ := (opened registry : _ × Deployment Q).2.applyAll calls
    ∃ ms, (registry.answer (.list none)).1 = .ok ms ∧
      (opened registry : _ × Deployment Q).1 = .ok ms.length ∧
      σ.snapshot = ms.map (Meter.withApplied calls) ∧
      (∀ space name,
        (∃ m, (registry.answer (.get space name)).1 = .ok m ∧
          σ.lookup space name = .ok (m.withApplied calls)) ∨
        (registry.answer (.get space name)).1 = .error (.noMeter name) ∧
          σ.lookup space name = .error (.meterNotFound name)) ∧
      (∀ space name,
        (∀ m ∈ σ.snapshot, m.space = space → m.id = name → σ.lookup space name = .ok m) ∧
        (∀ m, σ.lookup space name = .ok m →
          m ∈ σ.snapshot ∧ m.space = space ∧ (m.id = name ∨ m.slug = name)) ∧
        (σ.lookup space name = .error (.meterNotFound name) ↔
          ∀ m ∈ σ.snapshot, m.space = space → m.id ≠ name ∧ m.slug ≠ name)) ∧
      ∀ space type,
        σ.snapshot.forEvents space type = σ.snapshot.filter (fun m => m.covers space type) ∧
        σ.snapshot.forEvents space type =
          (ms.filter fun m => m.covers space type).map (Meter.withApplied calls) ∧
        ((σ.snapshot.forEvents space type).map keyOf).Nodup := by
  intro registry σ
  obtain ⟨ms, h⟩ := ((Registry.orderly_empty opens).after range).listedAs
  have held : σ.snapshot = ms.map (Meter.withApplied calls) := snapshot_applyAll h calls
  have once : (σ.snapshot.map keyOf).Nodup := by
    rw [held, Snapshot.map_keyOf_withApplied]
    exact h.once
  have led (space name : String) : σ.lookup space name =
      match Snapshot.find? σ.snapshot space name with
      | some m => .ok m
      | none => .error (.meterNotFound name) := held ▸ lookup_applyAll h calls space name
  refine ⟨ms, h.listed, congrArg Prod.fst (opened_eq h), held, ?_, fun space name => ⟨?_, ?_, ?_⟩,
    fun space type => ⟨?_, ?_, ?_⟩⟩
  · intro space name
    have answer := h.get space name
    rw [led, held, Snapshot.find?_withApplied]
    cases found : Snapshot.find? ms space name with
    | some m =>
      rw [found] at answer
      exact .inl ⟨m, answer, rfl⟩
    | none =>
      rw [found] at answer
      exact .inr ⟨answer, rfl⟩
  · intro m mem inSpace id
    rw [led, Snapshot.find?_of_id once mem inSpace id]
  · intro m found
    rw [led] at found
    split at found
    · rename_i n is
      obtain rfl := Except.ok.inj found
      exact Snapshot.named_of_find? is
    · cases found
  · rw [led, ← Snapshot.find?_eq_none_iff]
    cases Snapshot.find? σ.snapshot space name <;> simp
  · exact Snapshot.forEvents_eq_filter _ space type
  · rw [Snapshot.forEvents_eq_filter, held, Snapshot.filter_withApplied]
  · rw [Snapshot.forEvents_eq_filter]
    exact once.sublist (List.filter_sublist.map _)

/-- A meter that counts calls. -/
def counter (id slug : String) : Meter := ⟨"default", id, slug, .count, "call", none, ∅, none, none⟩

/-- The slug of the first meter is the id of the second, whose own slug is that of the third as well. -/
def shadowing : List RegistryRequest :=
  [.put (counter "m1" "m2"), .put (counter "m2" "calls"), .put (counter "m3" "calls")]

theorem inRange_shadowing : ∀ q ∈ shadowing, q.InRange := by
  have bare (id slug : String) : (counter id slug).InRange := by
    constructor <;> rintro _ ⟨⟩
  simp [shadowing, RegistryRequest.InRange, bare]

/-- The id is found before the slug, and of two meters with one slug the first, as in the registry. -/
theorem lookups_match_shadowing : (∀ q ∈ shadowing, q.InRange) ∧
    let σ := (opened (Registry.after (.memory ∅) shadowing) : _ × Deployment Float).2.applyAll
      [⟨"default", "m2", .initial⟩]
    σ.lookup "default" "m2" = .ok { counter "m2" "calls" with progress := some .initial } ∧
      σ.lookup "default" "calls" = .ok { counter "m2" "calls" with progress := some .initial } ∧
      σ.lookup "default" "m4" = .error (.meterNotFound "m4") := by
  obtain ⟨ms, -, -, -, found, -⟩ :=
    lookups_match Float (.inl rfl) inRange_shadowing [⟨"default", "m2", .initial⟩]
  have byId : ((Registry.after (.memory ∅) shadowing).answer (.get "default" "m2")).1 =
      .ok (counter "m2" "calls") := by rfl
  have bySlug : ((Registry.after (.memory ∅) shadowing).answer (.get "default" "calls")).1 =
      .ok (counter "m2" "calls") := by rfl
  have absent : ((Registry.after (.memory ∅) shadowing).answer (.get "default" "m4")).1 =
      .error (.noMeter "m4") := by rfl
  refine ⟨inRange_shadowing, ?_, ?_, ?_⟩
  · obtain ⟨m, is, led⟩ | ⟨none, -⟩ := found "default" "m2"
    · obtain rfl := Except.ok.inj (byId.symm.trans is)
      exact led
    · cases byId.symm.trans none
  · obtain ⟨m, is, led⟩ | ⟨none, -⟩ := found "default" "calls"
    · obtain rfl := Except.ok.inj (bySlug.symm.trans is)
      exact led
    · cases bySlug.symm.trans none
  · obtain ⟨m, is, -⟩ | ⟨-, refused⟩ := found "default" "m4"
    · cases absent.symm.trans is
    · exact refused

end Deployment

end Metering
