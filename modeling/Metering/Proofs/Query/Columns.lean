import Metering.Proofs.Query.Labels

/-!
The columns of a query and what they put on a label. Columns come from the names in the list of groups
one by one (`groupColumns_ok`), so a query that names fewer groups has fewer of the same columns.
-/
namespace Metering

/-- Something can be done for each item exactly when it is done as expected. -/
theorem mapM_ok_iff {ε α β : Type} {f : α → Except ε β} {g : α → β}
    (expected : ∀ x y, f x = .ok y → y = g x) {l : List α} {ys : List β} :
    l.mapM f = .ok ys ↔ (∀ x ∈ l, f x = .ok (g x)) ∧ ys = l.map g := by
  induction l generalizing ys with
  | nil => simp [pure, Except.pure, eq_comm]
  | cons x l ih =>
    rw [List.mapM_cons]
    cases first : f x with
    | error e => simp [bind, Except.bind, first]
    | ok y =>
      obtain rfl := expected x y first
      cases others : l.mapM f with
      | error e =>
        have fails : ¬ ∀ x ∈ l, f x = .ok (g x) := by
          intro all
          rw [ih.2 ⟨all, rfl⟩] at others
          cases others
        simp [bind, Except.bind, first, fails]
      | ok ys' =>
        obtain ⟨all, rfl⟩ := ih.1 others
        simp only [bind, Except.bind, pure, Except.pure, Except.ok.injEq, List.forall_mem_cons, first,
          List.map_cons, true_and]
        constructor
        · rintro rfl
          exact ⟨all, rfl⟩
        · rintro ⟨-, rfl⟩
          rfl

/-- What can be read along some paths can be read along fewer. -/
theorem canRead_mono {Q : Type} {paths paths' : List String} {rows : List (TableRow Q)}
    (fewer : paths' ⊆ paths) (h : Database.canRead paths rows = true) :
    Database.canRead paths' rows = true := by
  rw [Database.canRead, Bool.or_eq_true, Bool.and_eq_true] at h ⊢
  rcases h with none | ⟨are, all⟩
  · rw [List.isEmpty_iff] at none
    rw [none, List.subset_nil] at fewer
    exact .inl (List.isEmpty_iff.2 fewer)
  · refine .inr ⟨?_, all⟩
    rw [Database.arePaths, List.all_eq_true] at are ⊢
    exact fun path mem => are path (fewer mem)

/-- When a query has an answer from one of the tables, and which. -/
theorem answerFrom_ok {Q : Type} [Quantity Q] {c : Compiler} {m : Meter} {q : Query}
    {db : Database Q} {source : Source} {rows : List (Row Q)} : c.answerFrom db source m q = .ok rows ↔
      ∃ p, c.planFrom source m q = .ok p ∧ db.isOpen = true ∧
        Database.canRead (Database.planPaths p) (p.selection.candidates db.tables) = true ∧
        rows = (Scanner.ofQuery q p.columns).scan (p.evaluate db.tables) := by
  rw [Compiler.answerFrom]
  cases c.planFrom source m q with
  | error e => simp
  | ok p =>
    simp only [Database.fetch, Database.answerIf, Database.whenOpen, Except.ok.injEq, exists_eq_left']
    by_cases isOpen : db.isOpen = true
    · by_cases readable : Database.canRead (Database.planPaths p)
          (p.selection.candidates db.tables) = true
      · simp only [isOpen, readable, if_true, true_and, Except.ok.injEq]
        exact eq_comm
      · simp [isOpen, readable]
    · simp [isOpen]

namespace GroupColumn

/-- The column that a name in the list of groups stands for. -/
def ofName (name : String) : GroupColumn :=
  if name = Meter.subjectDimension then .subject
  else if name = Meter.customerDimension then .customer
  else .dimension name

theorem ofName_eq_subject {name : String} : ofName name = .subject ↔ name = Meter.subjectDimension := by
  unfold ofName
  split
  · simp_all
  · split <;> simp_all

theorem ofName_eq_customer {name : String} :
    ofName name = .customer ↔ name = Meter.customerDimension := by
  have apart : Meter.subjectDimension ≠ Meter.customerDimension := by decide
  unfold ofName
  split
  · simp_all
  · split <;> simp_all

theorem ofName_eq_dimension {name d : String} : ofName name = .dimension d ↔
    name = d ∧ d ≠ Meter.subjectDimension ∧ d ≠ Meter.customerDimension := by
  unfold ofName
  split
  · rename_i subject
    constructor
    · intro h
      cases h
    · rintro ⟨rfl, ne, -⟩
      exact absurd subject ne
  · split
    · rename_i customer
      constructor
      · intro h
        cases h
      · rintro ⟨rfl, -, ne⟩
        exact absurd customer ne
    · rw [GroupColumn.dimension.injEq]
      constructor
      · rintro rfl
        exact ⟨rfl, ‹_›, ‹_›⟩
      · exact fun h => h.1

end GroupColumn

namespace Query

variable {q : Query} {m : Meter} {columns : List GroupColumn}

theorem groupColumn_ok {name : String} {column : GroupColumn} (h : q.groupColumn m name = .ok column) :
    column = .ofName name := by
  unfold groupColumn at h
  unfold GroupColumn.ofName
  split at h
  · rename_i subject
    rw [if_pos subject]
    exact (Except.ok.inj h).symm
  · rename_i other
    rw [if_neg other]
    split at h
    · rename_i customer
      rw [if_pos customer]
      split at h
      · cases h
      · exact (Except.ok.inj h).symm
    · rename_i other
      rw [if_neg other]
      split at h
      · exact (Except.ok.inj h).symm
      · cases h

theorem groupColumns_ok : q.groupColumns m = .ok columns ↔
    (∀ name ∈ q.groupBy, q.groupColumn m name = .ok (.ofName name)) ∧
      columns = q.groupBy.eraseDups.map .ofName := by
  rw [groupColumns, mapM_ok_iff fun _ _ => groupColumn_ok]
  simp only [List.mem_eraseDups]

theorem mem_columns (made : q.groupColumns m = .ok columns) {column : GroupColumn} :
    column ∈ columns ↔ ∃ name ∈ q.groupBy, .ofName name = column := by
  rw [(groupColumns_ok.1 made).2, List.mem_map]
  simp only [List.mem_eraseDups]

theorem subject_mem_columns (made : q.groupColumns m = .ok columns) :
    .subject ∈ columns ↔ Meter.subjectDimension ∈ q.groupBy := by
  rw [mem_columns made]
  simp only [GroupColumn.ofName_eq_subject]
  constructor
  · rintro ⟨_, mem, rfl⟩
    exact mem
  · exact fun mem => ⟨_, mem, rfl⟩

theorem customer_mem_columns (made : q.groupColumns m = .ok columns) :
    .customer ∈ columns ↔ Meter.customerDimension ∈ q.groupBy := by
  rw [mem_columns made]
  simp only [GroupColumn.ofName_eq_customer]
  constructor
  · rintro ⟨_, mem, rfl⟩
    exact mem
  · exact fun mem => ⟨_, mem, rfl⟩

theorem dimension_mem_columns (made : q.groupColumns m = .ok columns) {name : String} :
    .dimension name ∈ columns ↔
      name ∈ q.groupBy ∧ name ≠ Meter.subjectDimension ∧ name ≠ Meter.customerDimension := by
  rw [mem_columns made]
  simp only [GroupColumn.ofName_eq_dimension]
  constructor
  · rintro ⟨_, mem, rfl, apart⟩
    exact ⟨mem, apart⟩
  · rintro ⟨mem, apart⟩
    exact ⟨name, mem, rfl, apart⟩

end Query

namespace Row

/-- The label of the ends of a window and of the texts under some columns. -/
def about (start stop : Instant) (columns : List GroupColumn) (text : GroupColumn → Option String) :
    Row Unit :=
  Scanner.placeAll ⟨(), start, stop, none, none, ∅⟩ columns (columns.map text)

variable {Q : Type}

/-- Values are put where their columns say, whatever the row's own value is. -/
theorem placeAll_withValue (label : Row Unit) (x : Q) (columns : List GroupColumn)
    (texts : List (Option String)) : Scanner.placeAll (label.withValue x) columns texts =
      (Scanner.placeAll label columns texts).withValue x := by
  induction columns generalizing label texts with
  | nil => rfl
  | cons column columns ih =>
    have placed (text : Option String) : Scanner.place (label.withValue x) column text =
        (Scanner.place label column text).withValue x := by
      cases column <;> rfl
    cases texts with
    | nil => rw [Scanner.placeAll, Scanner.placeAll, placed, ih]
    | cons text texts => rw [Scanner.placeAll, Scanner.placeAll, placed, ih]

/-- Each column has its place on a label, and what has no column stays as it was. -/
theorem placeAll_map (r : Row Q) (columns : List GroupColumn) (text : GroupColumn → Option String) :
    ∃ groups, Scanner.placeAll r columns (columns.map text) =
        ⟨r.value, r.start, r.stop, if .subject ∈ columns then text .subject else r.subject,
          if .customer ∈ columns then text .customer else r.customer, groups⟩ ∧
      ∀ name, groups.get? name =
        if .dimension name ∈ columns then some (text (.dimension name)) else r.groups.get? name := by
  induction columns generalizing r with
  | nil => exact ⟨r.groups, rfl, fun _ => rfl⟩
  | cons column columns ih =>
    obtain ⟨groups, placed, under⟩ := ih (Scanner.place r column (text column))
    refine ⟨groups, ?_, fun name => ?_⟩
    · rw [List.map_cons, Scanner.placeAll, placed]
      cases column <;> simp [Scanner.place]
    · rw [under]
      cases column with
      | dimension other =>
        by_cases same : other = name
        · subst same
          simp [Scanner.place, KeyMap.get?_insert]
        · have apart : (GroupColumn.dimension name) ≠ .dimension other :=
            fun h => same (GroupColumn.dimension.inj h).symm
          simp [Scanner.place, KeyMap.get?_insert, same, apart]
      | _ => simp [Scanner.place]

variable {start stop start' stop' : Instant} {columns : List GroupColumn}
  {text text' : GroupColumn → Option String}

theorem about_eq (start stop : Instant) (columns : List GroupColumn)
    (text : GroupColumn → Option String) :
    ∃ groups, about start stop columns text =
        ⟨(), start, stop, if .subject ∈ columns then text .subject else none,
          if .customer ∈ columns then text .customer else none, groups⟩ ∧
      ∀ name, groups.get? name =
        if .dimension name ∈ columns then some (text (.dimension name)) else none :=
  placeAll_map _ _ _

/-- Labels tell their windows and their texts apart. -/
theorem about_injective (same : about start stop columns text = about start' stop' columns text') :
    start = start' ∧ stop = stop' ∧ columns.map text = columns.map text' := by
  obtain ⟨groups, is, under⟩ := about_eq start stop columns text
  obtain ⟨groups', is', under'⟩ := about_eq start' stop' columns text'
  rw [is, is', Row.mk.injEq] at same
  obtain ⟨-, starts, stops, subject, customer, rfl⟩ := same
  refine ⟨starts, stops, List.map_congr_left fun column mem => ?_⟩
  cases column with
  | subject => simpa only [if_pos mem] using subject
  | customer => simpa only [if_pos mem] using customer
  | dimension name =>
    have both := (under name).symm.trans (under' name)
    simpa only [if_pos mem, Option.some.injEq] using both

end Row

end Metering
