import Metering.Proofs.Registry.Table

/-!
Two registries that answer alike. As long as slugs are not empty and belong to one meter of a namespace,
and no definition brings progress of its own to a meter that has other progress stored, a registry in
memory and one in a table give the same answers to any sequence of requests (`registries_agree`), since
the rows of the table are those of the meters in memory (`Mirrors`). Where a definition does bring
progress, memory keeps what is stored and the table takes what is new (`registries_differ`).
-/
namespace Metering

/-- The same answer; the meters of a list may stand in another order. -/
def RegistryRequest.Agree : (q : RegistryRequest) → q.Answer → q.Answer → Prop
  | .list _, x, y => ∃ ms ns, x = .ok ms ∧ y = .ok ns ∧ ms.Perm ns
  | .get .., x, y => x = y
  | .setProgress .., x, y => x = y
  | .put _, x, y => x = y

namespace MemoryRegistry

/-- A definition that both registries can take: its slug is neither empty nor taken, it is kept as it
is, and it has no progress other than what is stored. -/
structure Admits (r : MemoryRegistry) (m : Meter) : Prop where
  slug : MeterRecord.isEmptyText m.slug = false
  free : ∀ n, r.Holds n → n.space = m.space → n.slug = m.slug → n.id = m.id
  storable : m.Storable
  same : ∀ n p p', r.byId? m.space m.id = some n → n.progress = some p → m.progress = some p' → p' = p

def Accepts (r : MemoryRegistry) : RegistryRequest → Prop
  | .list _ => True
  | .get .. => True
  | .setProgress _ _ p => p.InRange
  | .put m => r.Admits m

/-- Every request of a sequence is acceptable when its turn comes. -/
def AcceptsAll : MemoryRegistry → List RegistryRequest → Prop
  | _, [] => True
  | r, q :: qs => r.Accepts q ∧ AcceptsAll (r.answer q).2 qs

/-- The registry after a sequence of requests. -/
def after (r : MemoryRegistry) (qs : List RegistryRequest) : MemoryRegistry :=
  qs.foldl (fun r q => (r.answer q).2) r

/-- The progress that is stored under a namespace and an id. -/
def progress? (r : MemoryRegistry) (space id : String) : Option Progress :=
  (r.byId? space id).bind Meter.progress

end MemoryRegistry

namespace RegistryTable

/-- The table after a sequence of requests. -/
def after (t : RegistryTable) (qs : List RegistryRequest) : RegistryTable :=
  qs.foldl (fun t q => (t.answer q).2) t

/-- The text of the progress that is stored under a namespace and an id. -/
def progressText? (t : RegistryTable) (space id : String) : Option String :=
  (t.rowAt? space id).bind MeterRecord.progress

end RegistryTable

/-- The rows of a table are those of the meters of a registry, which can be told by their slugs and come
back from their rows. -/
structure Mirrors (r : MemoryRegistry) (t : RegistryTable) : Prop where
  keyed : r.WellKeyed
  once : t.Once
  rows : ∀ space id, t.rowAt? space id = (r.byId? space id).map MeterRecord.ofMeter
  storable : ∀ m, r.Holds m → m.Storable
  slugs : ∀ m n, r.Holds m → r.Holds n → m.space = n.space → m.slug = n.slug → m.id = n.id

namespace Mirrors

variable {r : MemoryRegistry} {t : RegistryTable}

theorem empty : Mirrors ∅ [] := by
  constructor
  · intro space id m found
    cases found
  · exact .nil
  · intro space id
    rfl
  · intro m held
    cases held
  · intro m n held
    cases held

theorem holds_of_byId (h : Mirrors r t) {space id : String} {m : Meter}
    (found : r.byId? space id = some m) : r.Holds m := by
  obtain ⟨rfl, rfl⟩ := h.keyed _ _ _ found
  exact found

/-- The rows of the table are those of the meters that are held. -/
theorem mem_iff (h : Mirrors r t) {row : MeterRecord} :
    row ∈ t ↔ ∃ m, r.Holds m ∧ row = MeterRecord.ofMeter m := by
  rw [RegistryTable.mem_iff h.once, h.rows, Option.map_eq_some_iff]
  constructor
  · rintro ⟨m, found, rfl⟩
    exact ⟨m, found, rfl⟩
  · rintro ⟨m, held, rfl⟩
    exact ⟨m, held, rfl⟩

theorem ofMeter_inj (h : Mirrors r t) {m n : Meter} (hm : r.Holds m) (hn : r.Holds n)
    (same : MeterRecord.ofMeter m = MeterRecord.ofMeter n) : m = n := by
  have back := MeterRecord.toMeter_ofMeter (h.storable m hm)
  rw [same, MeterRecord.toMeter_ofMeter (h.storable n hn)] at back
  exact (Except.ok.inj back).symm

/-! ### Reading -/

/-- Rows of meters that are held are decoded as those meters. -/
theorem decode_rows (h : Mirrors r t) {rows : List MeterRecord} (sub : ∀ row ∈ rows, row ∈ t) :
    ∃ ms, rows = ms.map MeterRecord.ofMeter ∧ (∀ m ∈ ms, r.Holds m) ∧
      rows.mapM MeterRecord.toMeter = .ok ms := by
  induction rows with
  | nil => exact ⟨[], rfl, fun m mem => absurd mem List.not_mem_nil, rfl⟩
  | cons row rows ih =>
    obtain ⟨first, others⟩ := List.forall_mem_cons.1 sub
    obtain ⟨m, held, rfl⟩ := h.mem_iff.1 first
    obtain ⟨ms, rfl, all, decoded⟩ := ih others
    refine ⟨m :: ms, rfl, List.forall_mem_cons.2 ⟨held, all⟩, ?_⟩
    rw [List.mapM_cons, MeterRecord.toMeter_ofMeter (h.storable m held), decoded]
    rfl

theorem list_agrees (h : Mirrors r t) (space : Option String) :
    ∃ ms, t.list space = .ok ms ∧ (r.list space).Perm ms := by
  let chosen := t.filter fun row => space.all fun s => row.space = s
  have sorted : (chosen.mergeSort MeterRecord.before).Perm chosen := List.mergeSort_perm _ _
  have mem_chosen (row : MeterRecord) :
      row ∈ chosen.mergeSort MeterRecord.before ↔ row ∈ t ∧ ∀ s ∈ space, row.space = s := by
    rw [sorted.mem_iff, List.mem_filter]
    cases space <;> simp
  obtain ⟨ms, is, held, decoded⟩ := h.decode_rows fun row mem => ((mem_chosen row).1 mem).1
  refine ⟨ms, decoded, ?_⟩
  have nodup : ms.Nodup := by
    refine List.Nodup.of_map MeterRecord.ofMeter ?_
    rw [← is]
    exact sorted.nodup_iff.2 (h.once.of_map _ |>.filter _)
  refine (List.perm_ext_iff_of_nodup (MemoryRegistry.nodup_list h.keyed space) nodup).2 fun m => ?_
  rw [MemoryRegistry.mem_list h.keyed]
  constructor
  · rintro ⟨inSpace, own⟩
    have mem := (mem_chosen (.ofMeter m)).2 ⟨h.mem_iff.2 ⟨m, own, rfl⟩, inSpace⟩
    rw [is] at mem
    obtain ⟨n, mem, same⟩ := List.mem_map.1 mem
    rwa [h.ofMeter_inj own (held n mem) same.symm]
  · intro mem
    have chosen := is ▸ List.mem_map_of_mem mem
    exact ⟨((mem_chosen _).1 chosen).2, held m mem⟩

/-- A meter is found by its slug in both registries or in neither. -/
theorem bySlug_agrees (h : Mirrors r t) (space name : String) :
    List.find? (fun row => row.space = space ∧ row.slug = name) t =
      ((r.metersIn space).find? fun m => m.slug = name).map MeterRecord.ofMeter := by
  cases found : (r.metersIn space).find? fun m => m.slug = name with
  | none =>
    rw [Option.map_none, List.find?_eq_none]
    intro row mem named
    obtain ⟨m, held, rfl⟩ := h.mem_iff.1 mem
    rw [decide_eq_true_eq] at named
    have here := (MemoryRegistry.mem_metersIn h.keyed).2 ⟨named.1, held⟩
    exact List.find?_eq_none.1 found m here (decide_eq_true named.2)
  | some m =>
    obtain ⟨inSpace, held⟩ := (MemoryRegistry.mem_metersIn h.keyed).1 (List.mem_of_find?_eq_some found)
    have named : m.slug = name := by simpa using List.find?_some found
    cases there : List.find? (fun row : MeterRecord => row.space = space ∧ row.slug = name) t with
    | none =>
      have absent := List.find?_eq_none.1 there _ (h.mem_iff.2 ⟨m, held, rfl⟩)
      exact absurd (decide_eq_true ⟨inSpace, named⟩) absent
    | some row =>
      obtain ⟨n, held', rfl⟩ := h.mem_iff.1 (List.mem_of_find?_eq_some there)
      have named' : (MeterRecord.ofMeter n).space = space ∧ (MeterRecord.ofMeter n).slug = name := by
        simpa using List.find?_some there
      have spaces : m.space = n.space := inSpace.trans named'.1.symm
      have ids := h.slugs m n held held' spaces (named.trans named'.2.symm)
      have same : m = n := by
        rw [MemoryRegistry.Holds, spaces, ids] at held
        exact Option.some.inj (held.symm.trans held')
      rw [same, Option.map_some]

theorem find_agrees (h : Mirrors r t) (space name : String) :
    t.find? space name = (r.find? space name).map MeterRecord.ofMeter := by
  have byId : List.find? (fun row : MeterRecord => row.HasKey space name) t =
      (r.byId? space name).map MeterRecord.ofMeter := h.rows space name
  rw [RegistryTable.find?, MemoryRegistry.find?, byId, h.bySlug_agrees]
  cases r.byId? space name <;> rfl

theorem holds_of_find (h : Mirrors r t) {space name : String} {m : Meter}
    (found : r.find? space name = some m) : r.Holds m := by
  rw [MemoryRegistry.find?] at found
  cases own : r.byId? space name with
  | some n =>
    rw [own] at found
    obtain rfl : n = m := Option.some.inj found
    exact h.holds_of_byId own
  | none =>
    rw [own] at found
    exact ((MemoryRegistry.mem_metersIn h.keyed).1 (List.mem_of_find?_eq_some found)).2

/-! ### Writing -/

/-- A meter put in place of what is under its namespace and id, in both registries. -/
theorem update (h : Mirrors r t) {m : Meter} (storable : m.Storable)
    (free : ∀ n, r.Holds n → n.space = m.space → n.slug = m.slug → n.id = m.id)
    {r' : MemoryRegistry} {t' : RegistryTable}
    (memory : ∀ s i, r'.byId? s i = if m.space = s ∧ m.id = i then some m else r.byId? s i)
    (once : t'.Once) (table : ∀ s i, t'.rowAt? s i =
      if m.space = s ∧ m.id = i then some (.ofMeter m) else t.rowAt? s i) :
    Mirrors r' t' := by
  have held : ∀ n, r'.Holds n → n = m ∨ r.Holds n ∧ ¬ (m.space = n.space ∧ m.id = n.id) := by
    intro n own
    rw [MemoryRegistry.Holds, memory] at own
    split at own
    · exact .inl (Option.some.inj own).symm
    · rename_i other
      exact .inr ⟨own, other⟩
  constructor
  · intro space id n found
    rw [memory] at found
    split at found
    · rename_i here
      cases found
      exact here
    · exact h.keyed space id n found
  · exact once
  · intro space id
    rw [table, memory]
    split
    · rfl
    · exact h.rows space id
  · intro n own
    rcases held n own with rfl | ⟨before, -⟩
    · exact storable
    · exact h.storable n before
  · intro n n' own own' space slug
    rcases held n own with rfl | ⟨before, -⟩ <;> rcases held n' own' with rfl | ⟨before', -⟩
    · rfl
    · exact (free n' before' space.symm slug.symm).symm
    · exact free n before space slug
    · exact h.slugs n n' before before' space slug

theorem setProgress_agrees (h : Mirrors r t) (space id : String) {p : Progress} (range : p.InRange) :
    (r.setProgress? space id p = none ∧ t.setProgress? space id p = none) ∨
      ∃ r' t', r.setProgress? space id p = some r' ∧ t.setProgress? space id p = some t' ∧
        Mirrors r' t' := by
  have present : (t.any fun row => row.HasKey space id) = (r.byId? space id).isSome := by
    rw [RegistryTable.any_hasKey, h.rows, Option.isSome_map]
  rw [MemoryRegistry.setProgress?, RegistryTable.setProgress?, present]
  cases found : r.byId? space id with
  | none => exact .inl ⟨rfl, rfl⟩
  | some m =>
    obtain ⟨rfl, rfl⟩ := h.keyed _ _ _ found
    refine .inr ⟨_, _, rfl, rfl, ?_⟩
    have keeps : ∀ row : MeterRecord, row.HasKey m.space m.id →
        MeterRecord.HasKey { row with progress := some p.encode } m.space m.id := fun _ key => key
    refine h.update (m := { m with progress := some p }) ?_ ?_
      (MemoryRegistry.byId_insert r m.space m.id _) (RegistryTable.once_replace h.once keeps) ?_
    · refine ⟨(h.storable m found).since, ?_⟩
      rintro _ ⟨rfl⟩
      exact range
    · intro n held inSpace named
      exact h.slugs n m held found inSpace named
    · intro s i
      rw [RegistryTable.rowAt_replace keeps]
      split
      · rename_i here
        obtain ⟨rfl, rfl⟩ := here
        rw [h.rows, found]
        rfl
      · rfl

theorem not_rejects (h : Mirrors r t) {m : Meter} (ok : r.Admits m) : t.rejects m = false := by
  rw [RegistryTable.rejects, ok.slug, Bool.false_or, List.any_eq_false]
  intro row mem taken
  obtain ⟨n, held, rfl⟩ := h.mem_iff.1 mem
  obtain ⟨inSpace, named, other⟩ := of_decide_eq_true taken
  exact other (ok.free n held inSpace named)

/-- With progress of its own or without, a definition that both registries can take leaves the same
progress in both. -/
theorem merged (h : Mirrors r t) {m : Meter} (ok : r.Admits m) :
    (m.progress.map Progress.encode <|> (t.rowAt? m.space m.id).bind MeterRecord.progress) =
      ((r.byId? m.space m.id).bind Meter.progress <|> m.progress).map Progress.encode := by
  rw [h.rows]
  cases found : r.byId? m.space m.id with
  | none => cases m.progress <;> rfl
  | some n =>
    show (_ <|> n.progress.map Progress.encode) = (n.progress <|> m.progress).map Progress.encode
    cases stored : n.progress with
    | none => cases m.progress <;> rfl
    | some p =>
      cases new : m.progress with
      | none => rfl
      | some p' =>
        rw [ok.same n p p' found stored new]
        rfl

theorem put (h : Mirrors r t) {m : Meter} (ok : r.Admits m) : Mirrors (r.put m) (t.put m) := by
  have storable : Meter.Storable
      { m with progress := (r.byId? m.space m.id).bind Meter.progress <|> m.progress } := by
    refine ⟨ok.storable.since, fun p is => ?_⟩
    cases stored : (r.byId? m.space m.id).bind Meter.progress with
    | none => exact ok.storable.progress p (by rwa [stored] at is)
    | some p' =>
      obtain ⟨n, found, own⟩ := Option.bind_eq_some_iff.1 stored
      rw [stored] at is
      obtain rfl : p' = p := Option.some.inj is
      exact (h.storable n (h.holds_of_byId found)).progress p' own
  refine h.update storable ok.free (MemoryRegistry.byId_insert r m.space m.id _)
    (RegistryTable.once_put h.once) fun s i => ?_
  rw [RegistryTable.rowAt_put]
  split
  · exact congrArg (fun p => some { MeterRecord.ofMeter m with progress := p }) (h.merged ok)
  · rfl

/-- A definition leaves all progress that is stored, under its own key as under any other. -/
theorem progress_put {m : Meter} {space id : String} {p : Progress}
    (stored : r.progress? space id = some p) : (r.put m).progress? space id = some p := by
  rw [MemoryRegistry.progress?, MemoryRegistry.put, MemoryRegistry.insert, MemoryRegistry.byId_insert]
  split
  · rename_i here
    obtain ⟨rfl, rfl⟩ := here
    have own : (r.byId? m.space m.id).bind Meter.progress = some p := stored
    show ((r.byId? m.space m.id).bind Meter.progress <|> m.progress) = some p
    rw [own]
    rfl
  · exact stored

theorem progressText (h : Mirrors r t) (space id : String) :
    t.progressText? space id = (r.progress? space id).map Progress.encode := by
  rw [RegistryTable.progressText?, h.rows, MemoryRegistry.progress?]
  cases r.byId? space id <;> rfl

/-! ### Runs of requests -/

/-- One request: the answers agree, and the rows still are those of the meters. -/
theorem step (h : Mirrors r t) (q : RegistryRequest) (ok : r.Accepts q) :
    q.Agree (r.answer q).1 (t.answer q).1 ∧ Mirrors (r.answer q).2 (t.answer q).2 := by
  cases q with
  | list space =>
    obtain ⟨ms, listed, same⟩ := h.list_agrees space
    exact ⟨⟨_, ms, rfl, listed, same⟩, h⟩
  | get space name =>
    rw [MemoryRegistry.answer, RegistryTable.answer, h.find_agrees]
    cases found : r.find? space name with
    | none => exact ⟨rfl, h⟩
    | some m =>
      exact ⟨(MeterRecord.toMeter_ofMeter (h.storable m (h.holds_of_find found))).symm, h⟩
  | setProgress space id p =>
    rw [MemoryRegistry.answer, RegistryTable.answer]
    rcases h.setProgress_agrees space id ok with ⟨missing, missing'⟩ | ⟨r', t', done, done', next⟩
    · rw [missing, missing']
      exact ⟨rfl, h⟩
    · rw [done, done']
      exact ⟨rfl, next⟩
  | put m =>
    rw [MemoryRegistry.answer, RegistryTable.answer, h.not_rejects ok]
    exact ⟨rfl, h.put ok⟩

/-- What one request keeps, a run of requests keeps. -/
theorem run (qs : List RegistryRequest) (h : Mirrors r t) (ok : r.AcceptsAll qs) :
    Mirrors (r.after qs) (t.after qs) := by
  induction qs generalizing r t with
  | nil => exact h
  | cons q qs ih => exact ih (h.step q ok.1).2 ok.2

end Mirrors

theorem MemoryRegistry.acceptsAll_append {r : MemoryRegistry} {qs : List RegistryRequest}
    {q : RegistryRequest} (ok : r.AcceptsAll (qs ++ [q])) :
    r.AcceptsAll qs ∧ (r.after qs).Accepts q := by
  induction qs generalizing r with
  | nil => exact ⟨trivial, ok.1⟩
  | cons first qs ih =>
    obtain ⟨here, later⟩ := ok
    obtain ⟨before, last⟩ := ih later
    exact ⟨⟨here, before⟩, last⟩

/-- After any requests that both can take, a registry in memory and one in a table give the same answer
to the next one, and a new definition leaves the progress that either has stored. -/
theorem registries_agree (qs : List RegistryRequest) (q : RegistryRequest)
    (ok : MemoryRegistry.AcceptsAll ∅ (qs ++ [q])) :
    let r := MemoryRegistry.after ∅ qs
    let t := RegistryTable.after [] qs
    q.Agree (r.answer q).1 (t.answer q).1 ∧
      ∀ m, q = .put m → ∀ space id,
        (∀ p, r.progress? space id = some p → (r.answer q).2.progress? space id = some p) ∧
          ∀ text, t.progressText? space id = some text →
            (t.answer q).2.progressText? space id = some text := by
  intro r t
  obtain ⟨before, last⟩ := MemoryRegistry.acceptsAll_append ok
  have here : Mirrors r t := Mirrors.empty.run qs before
  obtain ⟨agree, next⟩ := here.step q last
  refine ⟨agree, ?_⟩
  rintro m rfl space id
  have kept : ∀ p, r.progress? space id = some p → (r.put m).progress? space id = some p :=
    fun _ stored => Mirrors.progress_put stored
  refine ⟨kept, fun text stored => ?_⟩
  rw [here.progressText] at stored
  obtain ⟨p, own, rfl⟩ := Option.map_eq_some_iff.1 stored
  rw [next.progressText]
  exact congrArg _ (kept p own)

namespace Calls

/-- A meter under one of two slugs, without progress or with a cutover. -/
def meter (slug : String) (cutover : Option Int) : Meter :=
  ⟨"default", "m1", slug, .count, "call", none, ∅, some (.ofDayNumber 1),
    cutover.map fun day => ⟨some (.ofDayNumber day), none, [], false⟩⟩

theorem storable (slug : String) (cutover : Option Int)
    (range : ∀ day ∈ cutover, (Instant.ofDayNumber day).InRange) : (meter slug cutover).Storable := by
  constructor
  · rintro t ⟨rfl⟩
    decide
  · intro p is
    obtain ⟨day, mem, rfl⟩ := Option.map_eq_some_iff.1 is
    constructor
    · rintro t ⟨rfl⟩
      exact range day mem
    · rintro t ⟨⟩
    · rintro c ⟨⟩

/-- A meter gets a cutover and then a new slug. -/
def requests : List RegistryRequest :=
  [.put (meter "calls" none), .setProgress "default" "m1" ⟨some (.ofDayNumber 9), none, [], false⟩]

theorem storable_bare (slug : String) : (meter slug none).Storable := by
  refine storable slug none ?_
  rintro day ⟨⟩

theorem storable_of (slug : String) {day : Int} (range : (Instant.ofDayNumber day).InRange) :
    (meter slug (some day)).Storable := by
  refine storable slug (some day) ?_
  rintro _ ⟨rfl⟩
  exact range

theorem acceptsAll : MemoryRegistry.AcceptsAll ∅ (requests ++ [.put (meter "api-calls" none)]) := by
  have ninth : Progress.InRange ⟨some (.ofDayNumber 9), none, [], false⟩ :=
    (storable_of "calls" (by decide)).progress _ rfl
  refine ⟨⟨by decide, ?_, storable_bare _, ?_⟩, ninth, ⟨by decide, ?_, storable_bare _, ?_⟩, trivial⟩
  · rintro n ⟨⟩
  · rintro n p p' ⟨⟩
  · -- Only the first meter is there, under the id of the new definition.
    intro n held _ _
    have second := (MemoryRegistry.byId_insert (MemoryRegistry.put ∅ (meter "calls" none)) "default"
      "m1" _ n.space n.id).symm.trans held
    split at second
    · rename_i here
      exact here.2.symm
    · have first := (MemoryRegistry.byId_insert ∅ "default" "m1" _ n.space n.id).symm.trans second
      split at first
      · rename_i here
        exact here.2.symm
      · cases first
  · rintro n p p' - - ⟨⟩

end Calls

/-- The cutover stays where the definition that changes the slug brings none. -/
theorem registries_agree_renamed :
    MemoryRegistry.AcceptsAll ∅ (Calls.requests ++ [.put (Calls.meter "api-calls" none)]) ∧
    let r := MemoryRegistry.after ∅ Calls.requests
    let t := RegistryTable.after [] Calls.requests
    (r.answer (.put (Calls.meter "api-calls" none))).1 =
      (t.answer (.put (Calls.meter "api-calls" none))).1 ∧
    (r.answer (.put (Calls.meter "api-calls" none))).2.progress? "default" "m1" =
      some ⟨some (.ofDayNumber 9), none, [], false⟩ := by
  obtain ⟨agree, kept⟩ :=
    registries_agree Calls.requests (.put (Calls.meter "api-calls" none)) Calls.acceptsAll
  exact ⟨Calls.acceptsAll, agree, (kept _ rfl "default" "m1").1 _ (by decide +kernel)⟩

/-- A definition with another cutover than the stored one: the registry in memory keeps the stored one,
the table takes the new one. A slug that starts with the character that ends texts is kept in memory
and refused by the table. -/
theorem registries_differ :
    let ninth := Calls.meter "calls" (some 9)
    let tenth := Calls.meter "calls" (some 10)
    let run := [RegistryRequest.put ninth, .put tenth]
    ninth ≠ tenth ∧
    ((MemoryRegistry.after ∅ run).answer (.get "default" "m1")).1 = .ok ninth ∧
    ((RegistryTable.after [] run).answer (.get "default" "m1")).1 = .ok tenth ∧
    (MemoryRegistry.answer ∅ (.put (Calls.meter "\x00calls" none))).1 = .ok () ∧
    (RegistryTable.answer [] (.put (Calls.meter "\x00calls" none))).1 = .error (.sqlite .constraint) := by
  refine ⟨?_, ?_, ?_, rfl, ?_⟩
  · decide
  · rfl
  · exact MeterRecord.toMeter_ofMeter (Calls.storable_of "calls" (by decide))
  · rfl

end Metering
