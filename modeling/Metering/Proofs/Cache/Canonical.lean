import Mathlib.Data.Set.Basic
import Metering.Proofs.Cache.SharedName

/-!
What the name of a query stands for. `Canonical` is a query without its order and its repetitions: names
are in sets, and each customer has the subjects that it was last given. Two queries have one text exactly
when they are the same in this form (`text_eq_iff_canonical`), so a query in other words keeps its name.
-/
namespace Metering

/-- Under a key is the value that was put there last. -/
theorem KeyMap.get?_ofList_last {α : Type} (entries : List (String × α)) (key : String) :
    (ofList entries).get? key = (entries.filter fun e => e.1 == key).getLast?.map Prod.snd := by
  induction entries using List.reverseRecOn with
  | nil => rfl
  | append_singleton entries last ih =>
    rw [ofList, List.foldl_append, List.foldl_cons, List.foldl_nil, get?_insert, List.filter_append]
    by_cases here : last.1 = key
    · rw [if_pos here, List.filter_cons_of_pos (by simpa using here), List.filter_nil,
        List.getLast?_concat]
      rfl
    · rw [if_neg here, List.filter_cons_of_neg (by simpa using here), List.filter_nil,
        List.append_nil]
      exact ih

theorem sortedUnique_eq_iff {texts texts' : List String} :
    sortedUnique texts = sortedUnique texts' ↔ {t | t ∈ texts} = {t | t ∈ texts'} := by
  rw [Set.ext_iff]
  constructor
  · intro same text
    show text ∈ texts ↔ text ∈ texts'
    rw [← mem_sortedUnique, same, mem_sortedUnique]
  · exact sortedUnique_congr

/-- The customer with an id; of several the last one. -/
def Query.customer? (q : Query) (id : String) : Option Customer :=
  (q.customers.filter fun c => c.id == id).getLast?

/-- What the numbers of a query depend on. -/
structure Canonical where
  meterId : String
  aggregation : Aggregation
  eventType : String
  valuePath : Option String
  since : Option Instant
  groups : Set (String × Option String)
  subjects : Set String
  customers : String → Option (Set String)
  filters : KeyMap TextFilter
  zoneName : String
  window : WindowSize

def Canonical.of (m : Meter) (q : Query) (z : Zone) (window : WindowSize) : Canonical where
  meterId := m.id
  aggregation := m.aggregation
  eventType := m.eventType
  valuePath := m.valuePath
  since := m.since
  groups := {g | g.1 ∈ q.groupBy ∧ m.dimensions.get? g.1 = g.2}
  subjects := {subject | subject ∈ q.subjects}
  customers id := (q.customer? id).map fun c => {subject | subject ∈ c.subjects}
  filters := q.filters
  zoneName := z.name
  window := window

section Parts

variable {m m' : Meter} {q q' : Query}

theorem ofList_groups_eq_iff :
    KeyMap.ofList (q.groupBy.map fun name => (name, m.dimensions.get? name)) =
        .ofList (q'.groupBy.map fun name => (name, m'.dimensions.get? name)) ↔
      {g : String × Option String | g.1 ∈ q.groupBy ∧ m.dimensions.get? g.1 = g.2} =
        {g | g.1 ∈ q'.groupBy ∧ m'.dimensions.get? g.1 = g.2} := by
  rw [Set.ext_iff]
  constructor
  · rintro same ⟨name, path⟩
    show name ∈ q.groupBy ∧ m.dimensions.get? name = path ↔
      name ∈ q'.groupBy ∧ m'.dimensions.get? name = path
    rw [← KeyMap.get?_ofList_map (f := m.dimensions.get?), same, KeyMap.get?_ofList_map]
  · intro same
    refine KeyMap.ext_get? fun name => Option.ext fun path => ?_
    rw [KeyMap.get?_ofList_map, KeyMap.get?_ofList_map]
    exact same (name, path)

theorem get?_customerEntries (q : Query) (id : String) :
    (KeyMap.ofList (customerEntries q)).get? id =
      (q.customer? id).map fun c => sortedUnique c.subjects := by
  rw [KeyMap.get?_ofList_last, customerEntries, List.filter_map, List.getLast?_map, Option.map_map]
  rfl

theorem ofList_customers_eq_iff :
    KeyMap.ofList (customerEntries q) = .ofList (customerEntries q') ↔
      (fun id => (q.customer? id).map fun c => {subject | subject ∈ c.subjects}) =
        fun id => (q'.customer? id).map fun c => {subject | subject ∈ c.subjects} := by
  have each (id : String) :
      (q.customer? id).map (fun c => sortedUnique c.subjects) =
          (q'.customer? id).map (fun c => sortedUnique c.subjects) ↔
        (q.customer? id).map (fun c => {subject | subject ∈ c.subjects}) =
          (q'.customer? id).map fun c => {subject | subject ∈ c.subjects} := by
    cases q.customer? id with
    | none => cases q'.customer? id <;> simp
    | some c =>
      cases q'.customer? id with
      | none => simp
      | some d =>
        rw [Option.map_some, Option.map_some, Option.map_some, Option.map_some, Option.some.injEq,
          Option.some.injEq, sortedUnique_eq_iff]
  rw [funext_iff]
  constructor
  · intro same id
    rw [← each, ← get?_customerEntries, same, get?_customerEntries]
  · intro same
    refine KeyMap.ext_get? fun id => ?_
    rw [get?_customerEntries, get?_customerEntries, each]
    exact same id

theorem exists_make {z : Zone} (zone : Zone.request q.zoneName = .ok z) (m : Meter)
    (window : WindowSize) : ∃ i, CacheIdentity.make m q window = .ok i ∧
      q.hash m window = .ok (Sha256.hexDigest i.text) := by
  obtain ⟨i, made⟩ : ∃ i, CacheIdentity.make m q window = .ok i :=
    ⟨_, CacheIdentity.make_ok.2 ⟨z, zone, rfl⟩⟩
  exact ⟨i, made, by rw [Query.hash, made]; rfl⟩

theorem make_eq_iff_canonical {i i' : CacheIdentity} {z z' : Zone} {window window' : WindowSize}
    (zone : Zone.request q.zoneName = .ok z) (zone' : Zone.request q'.zoneName = .ok z')
    (made : CacheIdentity.make m q window = .ok i)
    (made' : CacheIdentity.make m' q' window' = .ok i') :
    i = i' ↔ Canonical.of m q z window = .of m' q' z' window' := by
  obtain ⟨y, asked, rfl⟩ := CacheIdentity.make_ok.1 made
  obtain ⟨y', asked', rfl⟩ := CacheIdentity.make_ok.1 made'
  obtain rfl : z = y := Except.ok.inj (zone.symm.trans asked)
  obtain rfl : z' = y' := Except.ok.inj (zone'.symm.trans asked')
  rw [CacheIdentity.mk.injEq, ofList_groups_eq_iff, sortedUnique_eq_iff, ofList_customers_eq_iff,
    Canonical.of, Canonical.of, Canonical.mk.injEq]

end Parts

/-- Customers whose subjects are listed otherwise, with customers of different ids changing places. -/
inductive Customer.Reordered : List Customer → List Customer → Prop
  | nil : Reordered [] []
  | cons {c d : Customer} {cs ds : List Customer} (id : c.id = d.id)
      (subjects : ∀ subject, subject ∈ c.subjects ↔ subject ∈ d.subjects) (rest : Reordered cs ds) :
      Reordered (c :: cs) (d :: ds)
  | swap {c d : Customer} (apart : c.id ≠ d.id) (cs : List Customer) :
      Reordered (c :: d :: cs) (d :: c :: cs)
  | trans {cs ds es : List Customer} (first : Reordered cs ds) (second : Reordered ds es) :
      Reordered cs es

namespace Customer.Reordered

theorem refl (cs : List Customer) : Reordered cs cs := by
  induction cs with
  | nil => exact .nil
  | cons c cs ih => exact .cons rfl (fun _ => Iff.rfl) ih

/-- Customers of different ids may stand in any order. -/
theorem of_perm {cs ds : List Customer} (perm : cs.Perm ds)
    (apart : cs.Pairwise fun c d => c.id ≠ d.id) : Reordered cs ds := by
  induction perm with
  | nil => exact .nil
  | cons c _ ih => exact .cons rfl (fun _ => Iff.rfl) (ih (List.pairwise_cons.1 apart).2)
  | swap c d cs =>
    have differ : d.id ≠ c.id := (List.pairwise_cons.1 apart).1 c List.mem_cons_self
    exact .swap differ cs
  | trans first _ ih ih' =>
    exact .trans (ih apart) (ih' ((first.pairwise_iff fun differ => differ.symm).1 apart))

/-- The customers with one id keep their order, and each its subjects. -/
theorem subjects_eq {cs ds : List Customer} (h : Reordered cs ds) (id : String) :
    (cs.filter fun c => c.id == id).map (fun c => {subject | subject ∈ c.subjects}) =
      (ds.filter fun d => d.id == id).map fun d => {subject | subject ∈ d.subjects} := by
  induction h with
  | nil => rfl
  | @cons c d _ _ same subjects _ ih =>
    have subjects_eq : {subject | subject ∈ c.subjects} = {subject | subject ∈ d.subjects} :=
      Set.ext subjects
    rw [List.filter_cons, List.filter_cons, same]
    split
    · rw [List.map_cons, List.map_cons, ih, subjects_eq]
    · exact ih
  | @swap c d apart cs =>
    by_cases here : c.id = id
    · have other : d.id ≠ id := fun there => apart (here.trans there.symm)
      simp [here, other]
    · simp [List.filter_cons, here]
  | trans _ _ ih ih' => exact ih.trans ih'

end Customer.Reordered

/-- The ways to ask for UTC. -/
def utcNames : List (Option String) := [none, some "", some "UTC"]

/-- Queries in other words: names in another order or named again, customers reordered, UTC spelled
otherwise. They may ask for other bounds and windows. -/
structure Query.Reworded (q q' : Query) : Prop where
  groupBy : ∀ name, name ∈ q.groupBy ↔ name ∈ q'.groupBy
  subjects : ∀ subject, subject ∈ q.subjects ↔ subject ∈ q'.subjects
  customers : Customer.Reordered q.customers q'.customers
  filters : q.filters = q'.filters
  zone : q.zoneName = q'.zoneName ∨ (q.zoneName ∈ utcNames ∧ q'.zoneName ∈ utcNames)

theorem request_utcNames {name : Option String} (h : name ∈ utcNames) :
    Zone.request name = .ok .utc := by
  simp only [utcNames, List.mem_cons, List.not_mem_nil, or_false] at h
  rcases h with rfl | rfl | rfl <;> rfl

namespace Query.Reworded

variable {q q' : Query}

theorem request_eq (h : q.Reworded q') : Zone.request q.zoneName = Zone.request q'.zoneName := by
  rcases h.zone with same | ⟨utc, utc'⟩
  · rw [same]
  · rw [request_utcNames utc, request_utcNames utc']

theorem canonical_eq (h : q.Reworded q') (m : Meter) (z : Zone) (window : WindowSize) :
    Canonical.of m q z window = .of m q' z window := by
  have groups : {g : String × Option String | g.1 ∈ q.groupBy ∧ m.dimensions.get? g.1 = g.2} =
      {g | g.1 ∈ q'.groupBy ∧ m.dimensions.get? g.1 = g.2} :=
    Set.ext fun g => and_congr_left' (h.groupBy g.1)
  have customers (id : String) :
      (q.customer? id).map (fun c => {subject | subject ∈ c.subjects}) =
        (q'.customer? id).map fun c => {subject | subject ∈ c.subjects} := by
    rw [Query.customer?, Query.customer?, ← List.getLast?_map, ← List.getLast?_map,
      h.customers.subjects_eq id]
  have subjects : {subject | subject ∈ q.subjects} = {subject | subject ∈ q'.subjects} :=
    Set.ext h.subjects
  rw [Canonical.of, Canonical.of, groups, subjects, funext customers, h.filters]

theorem hash_eq (h : q.Reworded q') (m : Meter) (window : WindowSize) :
    q.hash m window = q'.hash m window := by
  have made_eq : CacheIdentity.make m q window = CacheIdentity.make m q' window := by
    cases zone : Zone.request q.zoneName with
    | error e =>
      have zone' := h.request_eq ▸ zone
      rw [CacheIdentity.make, CacheIdentity.make, zone, zone']
      rfl
    | ok z =>
      have zone' := h.request_eq ▸ zone
      obtain ⟨i, made, -⟩ := exists_make zone m window
      obtain ⟨i', made', -⟩ := exists_make zone' m window
      rw [made, made', (make_eq_iff_canonical zone zone' made made').2 (h.canonical_eq m z window)]
  rw [Query.hash, Query.hash, made_eq]

end Query.Reworded

/--
The text that names the rows of a query is the same for two queries exactly when they are the same in
canonical form, and a query in other words has the same name.
-/
theorem text_eq_iff_canonical (m : Meter) (q : Query) (window : WindowSize) :
    (∀ z, Zone.request q.zoneName = .ok z →
      ∃ i, CacheIdentity.make m q window = .ok i ∧ q.hash m window = .ok (Sha256.hexDigest i.text) ∧
        ∀ m' q' window' z', Zone.request q'.zoneName = .ok z' →
          ∃ i', CacheIdentity.make m' q' window' = .ok i' ∧
            (i.text = i'.text ↔ Canonical.of m q z window = .of m' q' z' window')) ∧
    ∀ q', q.Reworded q' → q.hash m window = q'.hash m window := by
  refine ⟨fun z zone => ?_, fun q' reworded => reworded.hash_eq m window⟩
  obtain ⟨i, made, named⟩ := exists_make zone m window
  refine ⟨i, made, named, fun m' q' window' z' zone' => ?_⟩
  obtain ⟨i', made', -⟩ := exists_make zone' m' window'
  refine ⟨i', made', ?_⟩
  rw [← make_eq_iff_canonical zone zone' made made']
  exact ⟨CacheIdentity.text_injective, fun same => same ▸ rfl⟩

/-- Rooms of two customers, with names repeated and customers changing places; another id is told apart. -/
theorem text_eq_reworded :
    byRoom.hash messageWords .day =
      Query.hash messageWords { byRoom with
        groupBy := ["customer_id", "room", "room"]
        customers := [⟨"d", ["b", "b"]⟩, ⟨"c", ["a"]⟩]
        zoneName := some "UTC"
        window := some .hour } .day ∧
    Zone.request byRoom.zoneName = .ok .utc ∧
    ∃ i i', CacheIdentity.make messageWords byRoom .day = .ok i ∧
      CacheIdentity.make { messageWords with id := "letters" } byRoom .day = .ok i' ∧
      i.text ≠ i'.text := by
  have zone : Zone.request byRoom.zoneName = .ok .utc := rfl
  have spoken := text_eq_iff_canonical messageWords byRoom .day
  refine ⟨spoken.2 _ ?_, zone, ?_⟩
  · have moved : Customer.Reordered byRoom.customers [⟨"d", ["b"]⟩, ⟨"c", ["a"]⟩] :=
      .of_perm (.swap _ _ _) (by decide)
    exact {
      groupBy := fun name => by simp [byRoom]; tauto
      subjects := fun _ => Iff.rfl
      customers := moved.trans (.cons rfl (by simp) (.refl _))
      filters := rfl
      zone := .inr ⟨by decide, by decide⟩ }
  · obtain ⟨i, made, -, told⟩ := spoken.1 .utc zone
    obtain ⟨i', made', same⟩ := told { messageWords with id := "letters" } byRoom .day .utc zone
    refine ⟨i, i', made, made', fun text => ?_⟩
    have ids : messageWords.id = "letters" := congrArg Canonical.meterId (same.1 text)
    exact absurd ids (by decide)

end Metering
