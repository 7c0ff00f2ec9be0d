import Metering.Proofs.Cache.IdentityText
import Metering.Proofs.Query.Interchange
import Metering.Proofs.Query.Matching

/-!
Queries whose rows are stored under one name. The identity of a query collects its names of groups,
subjects and customers in sets and maps; what is lost there are the order of the names, the subjects of
a customer that is named again with others, the first owner of a subject that several customers share,
and the paths of dimensions that are filtered on but not grouped by. Where none of this makes a
difference, queries under one name have the same rows (`answerFrom_of_hash`); a repeated customer does
make one (`hash_repeated_customer`).
-/
namespace Metering

/-- The same texts are put in the same order. -/
theorem sortedUnique_congr {texts texts' : List String}
    (same : ∀ text, text ∈ texts ↔ text ∈ texts') : sortedUnique texts = sortedUnique texts' := by
  refine congrArg KeyMap.keys (KeyMap.ext_get? fun key => Option.ext fun value => ?_)
  rw [KeyMap.get?_ofList_map, KeyMap.get?_ofList_map, same]

namespace Zone

theorem name_of_named {name : String} {z : Zone} (h : named? name = some z) : z.name = name := by
  obtain ⟨text, -, rfl⟩ := Option.map_eq_some_iff.1 h
  rw [Record.read]
  split <;> rfl

/-- A zone that can be asked for is the one that its name stands for. -/
theorem named_of_requested {name : Option String} {z : Zone} (h : requested? name = some z) :
    named? z.name = some z := by
  have utc : named? "UTC" = some .utc := by decide +kernel
  cases name with
  | none =>
    cases h
    exact utc
  | some name =>
    rw [requested?] at h
    split at h
    · cases h
      exact utc
    · rwa [name_of_named h]

theorem request_ok {name : Option String} {z : Zone} (h : request name = .ok z) :
    requested? name = some z := by
  unfold request at h
  split at h
  · cases h
    assumption
  · cases h

theorem eq_of_name {name name' : Option String} {z z' : Zone} (h : request name = .ok z)
    (h' : request name' = .ok z') (same : z.name = z'.name) : z = z' := by
  have known := named_of_requested (request_ok h)
  rw [same, named_of_requested (request_ok h')] at known
  exact (Option.some.inj known).symm

end Zone

/-- The customers of a query say by their ids which subjects they have, and by their subjects who they
are if that is asked for. -/
structure Query.Unambiguous (q : Query) : Prop where
  subjects : ∀ c ∈ q.customers, ∀ d ∈ q.customers, c.id = d.id → ∀ s ∈ c.subjects, s ∈ d.subjects
  owners : Meter.customerDimension ∈ q.groupBy → ∀ c ∈ q.customers, ∀ d ∈ q.customers,
    ∀ s ∈ c.subjects, s ∈ d.subjects → c.id = d.id

instance (q : Query) : Decidable q.Unambiguous :=
  decidable_of_iff
    ((∀ c ∈ q.customers, ∀ d ∈ q.customers, c.id = d.id → ∀ s ∈ c.subjects, s ∈ d.subjects) ∧
      (Meter.customerDimension ∈ q.groupBy → ∀ c ∈ q.customers, ∀ d ∈ q.customers,
        ∀ s ∈ c.subjects, s ∈ d.subjects → c.id = d.id))
    ⟨fun h => ⟨h.1, h.2⟩, fun h => ⟨h.subjects, h.owners⟩⟩

section Customers

variable {q q' : Query}

/-- The subjects of each customer, under its id. -/
def customerEntries (q : Query) : List (String × List String) :=
  q.customers.map fun c => (c.id, sortedUnique c.subjects)

theorem Query.Unambiguous.single (h : q.Unambiguous) :
    ∀ e ∈ customerEntries q, ∀ f ∈ customerEntries q, e.1 = f.1 → e = f := by
  intro e mem f mem' same
  obtain ⟨c, known, rfl⟩ := List.mem_map.1 mem
  obtain ⟨d, known', rfl⟩ := List.mem_map.1 mem'
  exact Prod.ext same (sortedUnique_congr fun subject =>
    ⟨h.subjects c known d known' same subject, h.subjects d known' c known same.symm subject⟩)

/-- Each customer of one query stands in the other, with the same subjects. -/
theorem exists_customer (h : q.Unambiguous) (h' : q'.Unambiguous)
    (same : KeyMap.ofList (customerEntries q) = .ofList (customerEntries q')) {c : Customer}
    (mem : c ∈ q.customers) : ∃ d ∈ q'.customers, d.id = c.id ∧
      ∀ subject, subject ∈ d.subjects ↔ subject ∈ c.subjects := by
  have known := (KeyMap.get?_ofList h.single).2 (List.mem_map.2 ⟨c, mem, rfl⟩)
  rw [same, KeyMap.get?_ofList h'.single] at known
  obtain ⟨d, mem', is⟩ := List.mem_map.1 known
  obtain ⟨id, subjects⟩ := Prod.mk.inj is
  refine ⟨d, mem', id, fun subject => ?_⟩
  rw [← mem_sortedUnique, subjects, mem_sortedUnique]

theorem Query.Unambiguous.customerOf?_eq_some (h : q.Unambiguous)
    (grouped : Meter.customerDimension ∈ q.groupBy) {subject id : String} :
    customerOf? q.customers subject = some id ↔
      ∃ c ∈ q.customers, subject ∈ c.subjects ∧ c.id = id := by
  rw [customerOf?, Option.map_eq_some_iff]
  constructor
  · rintro ⟨c, found, is⟩
    have has := List.find?_some found
    exact ⟨c, List.mem_of_find?_eq_some found, List.contains_iff_mem.1 has, is⟩
  · rintro ⟨c, mem, has, rfl⟩
    have some : (q.customers.find? fun c => c.subjects.contains subject).isSome := by
      rw [List.find?_isSome]
      exact ⟨c, mem, List.contains_iff_mem.2 has⟩
    obtain ⟨d, found⟩ := Option.isSome_iff_exists.1 some
    have first := List.find?_some found
    exact ⟨d, found, h.owners grouped d (List.mem_of_find?_eq_some found) c mem subject
      (List.contains_iff_mem.1 first) has⟩

section Same

variable (clear : q.Unambiguous) (clear' : q'.Unambiguous)
  (same : KeyMap.ofList (customerEntries q) = .ofList (customerEntries q'))
include clear clear' same

theorem owner_iff {subject id : String} :
    (∃ c ∈ q.customers, subject ∈ c.subjects ∧ c.id = id) ↔
      ∃ d ∈ q'.customers, subject ∈ d.subjects ∧ d.id = id := by
  constructor
  · rintro ⟨c, mem, has, rfl⟩
    obtain ⟨d, mem', id, subjects⟩ := exists_customer clear clear' same mem
    exact ⟨d, mem', (subjects subject).2 has, id⟩
  · rintro ⟨d, mem, has, rfl⟩
    obtain ⟨c, mem', id, subjects⟩ := exists_customer clear' clear same.symm mem
    exact ⟨c, mem', (subjects subject).2 has, id⟩

theorem isEmpty_customers : q.customers.isEmpty = q'.customers.isEmpty := by
  rw [Bool.eq_iff_iff, List.isEmpty_iff, List.isEmpty_iff, List.eq_nil_iff_forall_not_mem,
    List.eq_nil_iff_forall_not_mem]
  constructor
  · intro none d mem
    obtain ⟨c, mem', -⟩ := exists_customer clear' clear same.symm mem
    exact none c mem'
  · intro none c mem
    obtain ⟨d, mem', -⟩ := exists_customer clear clear' same mem
    exact none d mem'

theorem customerOf?_eq (grouped : Meter.customerDimension ∈ q.groupBy)
    (grouped' : Meter.customerDimension ∈ q'.groupBy) (subject : String) :
    customerOf? q.customers subject = customerOf? q'.customers subject := by
  refine Option.ext fun id => ?_
  rw [clear.customerOf?_eq_some grouped, clear'.customerOf?_eq_some grouped',
    owner_iff clear clear' same]

theorem subjectCondition_eq (subjects : sortedUnique q.subjects = sortedUnique q'.subjects) :
    q.subjectCondition = q'.subjectCondition := by
  have named (subject : String) : subject ∈ q.subjects ↔ subject ∈ q'.subjects := by
    rw [← mem_sortedUnique, subjects, mem_sortedUnique]
  have none : q.subjects.isEmpty = q'.subjects.isEmpty := by
    rw [Bool.eq_iff_iff, List.isEmpty_iff, List.isEmpty_iff, List.eq_nil_iff_forall_not_mem,
      List.eq_nil_iff_forall_not_mem]
    simp only [named]
  have all : q.filteredSubjects = q'.filteredSubjects := by
    refine sortedUnique_congr fun subject => ?_
    have owned : (∃ c ∈ q.customers, subject ∈ c.subjects) ↔
        ∃ d ∈ q'.customers, subject ∈ d.subjects := by
      constructor
      · rintro ⟨c, mem, has⟩
        obtain ⟨d, mem', has', -⟩ := (owner_iff clear clear' same).1 ⟨c, mem, has, rfl⟩
        exact ⟨d, mem', has'⟩
      · rintro ⟨d, mem, has⟩
        obtain ⟨c, mem', has', -⟩ := (owner_iff clear clear' same).2 ⟨d, mem, has, rfl⟩
        exact ⟨c, mem', has'⟩
    simp only [List.mem_append, List.mem_flatMap, named, owned]
  rw [Query.subjectCondition, Query.subjectCondition, none, isEmpty_customers clear clear' same, all]

end Same

end Customers

section Identities

variable {q q' : Query} {m m' : Meter} {window window' : WindowSize} {i : CacheIdentity}

theorem CacheIdentity.make_ok : CacheIdentity.make m q window = .ok i ↔
    ∃ z, Zone.request q.zoneName = .ok z ∧
      i = ⟨m.id, m.aggregation, m.eventType, m.valuePath, m.since,
        .ofList (q.groupBy.map fun name => (name, m.dimensions.get? name)), sortedUnique q.subjects,
        .ofList (customerEntries q), q.filters, z.name, window⟩ := by
  rw [CacheIdentity.make]
  cases Zone.request q.zoneName with
  | error e => simp [bind, Except.bind]
  | ok z =>
    simp only [bind, Except.bind, pure, Except.pure, Except.ok.injEq, exists_eq_left']
    exact eq_comm

/-- Queries of one identity stand for each other where nothing is lost. -/
theorem Interchangeable.of_identity (made : CacheIdentity.make m q window = .ok i)
    (made' : CacheIdentity.make m' q' window' = .ok i) (space : m.space = m'.space)
    (clear : q.Unambiguous) (clear' : q'.Unambiguous)
    (filtered : ∀ f ∈ q.filters.toList, f.1 ∉ q.groupBy →
      m.dimensions.get? f.1 = m'.dimensions.get? f.1) : Interchangeable m m' q q' := by
  obtain ⟨z, zone, rfl⟩ := CacheIdentity.make_ok.1 made
  obtain ⟨z', zone', same⟩ := CacheIdentity.make_ok.1 made'
  obtain ⟨-, aggregation, eventType, valuePath, since, groups, subjects, customers, filters, name,
    -⟩ := CacheIdentity.mk.inj same
  have grouped (name : String) (path : Option String) :
      name ∈ q.groupBy ∧ m.dimensions.get? name = path ↔
        name ∈ q'.groupBy ∧ m'.dimensions.get? name = path := by
    rw [← KeyMap.get?_ofList_map (f := m.dimensions.get?), groups, KeyMap.get?_ofList_map]
  have asked (name : String) : name ∈ q'.groupBy ↔ name ∈ q.groupBy :=
    ⟨fun mem => ((grouped name _).2 ⟨mem, rfl⟩).1, fun mem => ((grouped name _).1 ⟨mem, rfl⟩).1⟩
  have paths (name : String) (mem : name ∈ q.groupBy) :
      m'.dimensions.get? name = m.dimensions.get? name := ((grouped name _).1 ⟨mem, rfl⟩).2
  have filteredPaths (f : String × TextFilter) (mem : f ∈ q.filters.toList) :
      m'.dimensions.get? f.1 = m.dimensions.get? f.1 := by
    by_cases asked : f.1 ∈ q.groupBy
    · exact paths f.1 asked
    · exact (filtered f mem asked).symm
  exact {
    space := space.symm
    aggregation := aggregation.symm
    eventType := eventType.symm
    valuePath := valuePath.symm
    since := since.symm
    zone := by rw [zone, zone', Zone.eq_of_name zone zone' name]
    groups := asked
    grouped := paths
    filters := filters.symm
    filtered := filteredPaths
    subjects := (subjectCondition_eq clear clear' customers subjects).symm
    customers := (isEmpty_customers clear clear' customers).symm
    owners := fun mem subject =>
      (customerOf?_eq clear clear' customers mem ((asked _).2 mem) subject).symm }

/--
Queries of one namespace whose rows are stored under one name, unless two identities have one hash. The
rows of whole windows, read from the events, are the same for both.
-/
theorem answerFrom_of_hash {Q : Type} [Quantity Q] {c : Compiler} {db : Database Q} {range : Period}
    {rows : List (Row Q)} {i i' : CacheIdentity} (made : CacheIdentity.make m q window = .ok i)
    (made' : CacheIdentity.make m' q' window' = .ok i') (same : i.hash = i'.hash)
    (apart : i.hash = i'.hash → i.text = i'.text) (space : m.space = m'.space)
    (valid : m.validate = .ok ()) (valid' : m'.validate = .ok ()) (clear : q.Unambiguous)
    (clear' : q'.Unambiguous)
    (filtered : ∀ f ∈ q.filters.toList, f.1 ∉ q.groupBy →
      m.dimensions.get? f.1 = m'.dimensions.get? f.1) :
    c.answerFrom db .events m (q.spanning (some window) range) = .ok rows ↔
      c.answerFrom db .events m' (q'.spanning (some window') range) = .ok rows := by
  obtain rfl : i = i' := CacheIdentity.text_injective (apart same)
  obtain rfl : window = window' := by
    obtain ⟨z, -, is⟩ := CacheIdentity.make_ok.1 made
    obtain ⟨z', -, is'⟩ := CacheIdentity.make_ok.1 made'
    exact (congrArg CacheIdentity.window is).symm.trans (congrArg CacheIdentity.window is')
  have interchangeable := Interchangeable.of_identity made made' space clear clear' filtered
  exact interchangeable.answerFrom_iff valid valid'

end Identities

/-- The words of messages. -/
def messageWords : Meter where
  space := "chat"
  id := "words"
  slug := "words"
  aggregation := .sum
  eventType := "message"
  valuePath := some "$.n"
  dimensions := .ofList [("room", "$.room")]
  since := none
  progress := none

/-- Messages of two subjects on one day. -/
def twoMessages : Database Fraction where
  tables := ⟨[⟨"chat", "1", "message", "app", "a", ⟨36000000000000⟩,
      "\x7b\"n\":1,\"room\":\"x\"\x7d", ⟨0⟩, ⟨0⟩⟩,
    ⟨"chat", "2", "message", "app", "b", ⟨39600000000000⟩,
      "\x7b\"n\":2,\"room\":\"y\"\x7d", ⟨0⟩, ⟨0⟩⟩], [], []⟩
  isOpen := true

def firstDay : Period := ⟨.ofDayNumber 0, .ofDayNumber 1⟩

/-- A query by room and customer. -/
def byRoom : Query :=
  { Query.any with
    customers := [⟨"c", ["a"]⟩, ⟨"d", ["b"]⟩]
    groupBy := ["room", "customer_id"] }

/-- The same in other words. -/
def byCustomer : Query :=
  { Query.any with
    customers := [⟨"d", ["b", "b"]⟩, ⟨"c", ["a"]⟩]
    groupBy := ["customer_id", "room", "customer_id"] }

def roomRows : List (Row Fraction) :=
  [⟨some 1, .ofDayNumber 0, .ofDayNumber 1, none, some "c", .ofList [("room", some "x")]⟩,
    ⟨some 2, .ofDayNumber 0, .ofDayNumber 1, none, some "d", .ofList [("room", some "y")]⟩]

theorem answerFrom_byRoom : (Compiler.mk .duckdb 8).answerFrom twoMessages .events messageWords
    (byRoom.spanning (some .day) firstDay) = .ok roomRows := by
  refine answerFrom_ok.2 ⟨_, planFrom_events.2 ⟨by decide +kernel, .utc, [.dimension "room", .customer],
    .aligned .day .utc, rfl, rfl, rfl, rfl, rfl, rfl⟩, rfl, by decide +kernel, ?_⟩
  rw [Scanner.scan, List.mergeSort_of_pairwise (by decide +kernel)]
  decide +kernel

/-- The same meter under another slug. -/
def messageLength : Meter := { messageWords with slug := "length" }

theorem answerFrom_byCustomer : (∃ hash, byRoom.hash messageWords .day = .ok hash ∧
      byCustomer.hash messageLength .day = .ok hash) ∧
    (Compiler.mk .duckdb 8).answerFrom twoMessages .events messageLength
      (byCustomer.spanning (some .day) firstDay) = .ok roomRows := by
  obtain ⟨i, made⟩ : ∃ i, CacheIdentity.make messageWords byRoom .day = .ok i :=
    ⟨_, CacheIdentity.make_ok.2 ⟨.utc, rfl, rfl⟩⟩
  have made' : CacheIdentity.make messageLength byCustomer .day = .ok i := by
    obtain ⟨z, zone, rfl⟩ := CacheIdentity.make_ok.1 made
    refine CacheIdentity.make_ok.2 ⟨z, zone, ?_⟩
    rw [CacheIdentity.mk.injEq]
    exact ⟨rfl, rfl, rfl, rfl, rfl, by decide +kernel, by decide +kernel, by decide +kernel, rfl,
      rfl, rfl⟩
  refine ⟨⟨i.hash, ?_, ?_⟩, ?_⟩
  · rw [Query.hash, made]
    rfl
  · rw [Query.hash, made']
    rfl
  · exact (answerFrom_of_hash made made' rfl (fun _ => rfl) rfl (by decide +kernel)
      (by decide +kernel) (by decide) (by decide) (fun f mem => absurd mem List.not_mem_nil)).1
        answerFrom_byRoom

/-- A customer that is named twice, with a subject each time. -/
def namedTwice : Query := { Query.any with customers := [⟨"c", ["a"]⟩, ⟨"c", ["b"]⟩] }

def namedOnce : Query := { Query.any with customers := [⟨"c", ["b"]⟩] }

/-- Both queries are stored under one name, but have other numbers. -/
theorem hash_repeated_customer :
    namedTwice.hash messageWords .day = namedOnce.hash messageWords .day ∧
    (Compiler.mk .duckdb 8).answerFrom twoMessages .events messageWords
        (namedTwice.spanning (some .day) firstDay) =
      .ok [⟨(some 3 : Fraction), .ofDayNumber 0, .ofDayNumber 1, none, none, ∅⟩] ∧
    (Compiler.mk .duckdb 8).answerFrom twoMessages .events messageWords
        (namedOnce.spanning (some .day) firstDay) =
      .ok [⟨(some 2 : Fraction), .ofDayNumber 0, .ofDayNumber 1, none, none, ∅⟩] := by
  refine ⟨?_, ?_, ?_⟩
  · have same : CacheIdentity.make messageWords namedTwice .day =
        CacheIdentity.make messageWords namedOnce .day := by
      rw [CacheIdentity.make_ok.2 ⟨.utc, rfl, rfl⟩, CacheIdentity.make_ok.2 ⟨.utc, rfl, rfl⟩,
        Except.ok.injEq, CacheIdentity.mk.injEq]
      exact ⟨rfl, rfl, rfl, rfl, rfl, rfl, rfl, by decide +kernel, rfl, rfl, rfl⟩
    rw [Query.hash, Query.hash, same]
  · refine answerFrom_ok.2 ⟨_, planFrom_events.2 ⟨by decide +kernel, .utc, [], .aligned .day .utc, rfl,
      rfl, rfl, rfl, rfl, rfl⟩, rfl, by decide +kernel, ?_⟩
    rw [Scanner.scan, List.mergeSort_of_pairwise (by decide +kernel)]
    decide +kernel
  · refine answerFrom_ok.2 ⟨_, planFrom_events.2 ⟨by decide +kernel, .utc, [], .aligned .day .utc, rfl,
      rfl, rfl, rfl, rfl, rfl⟩, rfl, by decide +kernel, ?_⟩
    rw [Scanner.scan, List.mergeSort_of_pairwise (by decide +kernel)]
    decide +kernel

end Metering
