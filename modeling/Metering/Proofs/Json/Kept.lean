import Metering.Proofs.Calendar.ReadBack
import Metering.Proofs.Json.Record
import Metering.Proofs.KeyMap

/-!
Data that survive being written as JSON and read again. A datum is kept by a writer and a reader if what
it is written as is read as that datum and nests no deeper than it may (`Kept`). Texts and instants are
kept, and so are lists, maps and optional fields of kept data.
-/
namespace Metering.Json

variable {α : Type}

theorem Value.Fits.mono {room room' : Nat} {v : Value} (h : v.Fits room) (le : room ≤ room') :
    v.Fits room' := by
  induction h generalizing room' with
  | null => exact .null _
  | bool _ b => exact .bool _ b
  | integer _ n => exact .integer _ n
  | string _ s => exact .string _ s
  | array _ ih =>
    obtain ⟨inner, rfl⟩ := Nat.exists_eq_add_of_le le
    rw [Nat.add_right_comm]
    exact .array fun v mem => ih v mem (Nat.le_add_right _ _)
  | object _ ih =>
    obtain ⟨inner, rfl⟩ := Nat.exists_eq_add_of_le le
    rw [Nat.add_right_comm]
    exact .object fun f mem => ih f mem (Nat.le_add_right _ _)

/-- What a datum is written as is read as that datum, and nests at most so deep. -/
structure Kept (write : α → Value) (get : Tree → Option α) (room : Nat) (a : α) : Prop where
  read : get (write a).tree = some a
  fits : (write a).Fits room

namespace Kept

variable {write : α → Value} {get : Tree → Option α} {room : Nat}

theorem mono {a : α} {room' : Nat} (h : Kept write get room a) (le : room ≤ room') :
    Kept write get room' a :=
  ⟨h.read, h.fits.mono le⟩

/-- A kept datum is read back from its text. -/
theorem read_text {a : α} (h : Kept write get room a) (le : room ≤ nestingLimit) :
    (Tree.read? (write a).text).bind get = some a := by
  rw [Value.read_text (h.fits.mono le)]
  exact h.read

theorem string (room : Nat) (s : String) : Kept .string Tree.string? room s := ⟨rfl, .string _ _⟩

theorem bool (room : Nat) (b : Bool) : Kept .bool Tree.bool? room b := ⟨rfl, .bool _ _⟩

theorem instant (room : Nat) {t : Instant} (h : t.InRange) :
    Kept (fun t => .string t.toText) Tree.instant? room t := by
  refine ⟨?_, .string _ _⟩
  rw [Value.tree, Tree.instant?, Tree.string?, Option.bind_some, Instant.readLenient_toText h]

/-- A value of a finite type is written as its name, if no two have one name. -/
theorem named (room : Nat) {all : List α} {name : α → String} {a : α}
    (only : all.find? (fun b => name b = name a) = some a) :
    Kept (fun a => .string (name a)) (Tree.named? all name) room a :=
  ⟨only, .string _ _⟩

theorem list {as : List α} (each : ∀ a ∈ as, Kept write get room a) :
    Kept (fun as => .array (as.map write)) (Tree.array? get) (room + 1) as := by
  constructor
  · show ((Value.trees (as.map write)).mapM get) = some as
    rw [Value.trees_eq]
    induction as with
    | nil => rfl
    | cons a as ih =>
      obtain ⟨first, others⟩ := List.forall_mem_cons.1 each
      rw [List.map_cons, List.map_cons, List.mapM_cons, first.read, ih others]
      rfl
  · refine .array fun v mem => ?_
    obtain ⟨a, here, rfl⟩ := List.mem_map.1 mem
    exact (each a here).fits

theorem map {m : KeyMap α} (each : ∀ e ∈ m.toList, Kept write get room e.2) :
    Kept (fun m => .object (m.toList.map fun e => (e.1, write e.2))) (Tree.map? get) (room + 1) m := by
  have entries : ∀ l : List (String × α), (∀ e ∈ l, Kept write get room e.2) →
      Tree.entries? get (Value.object (l.map fun e => (e.1, write e.2))).tree = some l := by
    intro l each
    rw [Value.tree, Tree.entries?]
    induction l with
    | nil => rfl
    | cons e l ih =>
      obtain ⟨first, others⟩ := List.forall_mem_cons.1 each
      rw [List.map_cons, Value.fieldTrees, List.mapM_cons, ih others, first.read]
      rfl
  constructor
  · show ((Tree.entries? get _).map KeyMap.ofList) = some m
    rw [entries m.toList each, Option.map_some, KeyMap.ofList_toList]
  · refine .object fun f mem => ?_
    obtain ⟨e, here, rfl⟩ := List.mem_map.1 mem
    exact (each e here).fits

theorem fits_ofOption {o : Option α} (each : ∀ a ∈ o, Kept write get room a) :
    (Value.ofOption write o).Fits room := by
  cases o with
  | none => exact .null _
  | some a => exact (each a rfl).fits

/-! ### Fields -/

section Fields

variable {fields : List (String × Value)} {name : String}

/-- A field that must be there. -/
theorem required {a : α} (h : Kept write get room a) (here : fields.lookup name = some (write a)) :
    (Value.record fields).required name get = some a := by
  rw [Record.required, Value.lookup_record, here]
  exact h.read

/-- A field that may be missing. -/
theorem withDefault {a : α} (h : Kept write get room a) (default : α)
    (here : fields.lookup name = some (write a)) :
    (Value.record fields).withDefault name default get = some a := by
  rw [Record.withDefault, Value.lookup_record, here]
  exact h.read

/-- A field that is null or a kept datum, or is left out, is read as set or unset. -/
theorem optional {o : Option α} (each : ∀ a ∈ o, Kept write get room a) (notNull : get .null = none)
    (here : fields.lookup name = some (Value.ofOption write o) ∨ fields.lookup name = o.map write) :
    (Value.record fields).optional name get = some o := by
  rw [Record.optional, Value.lookup_record]
  cases o with
  | none => rcases here with here | here <;> rw [here] <;> rfl
  | some a =>
    have here : fields.lookup name = some (write a) := here.elim id id
    have read := (each a rfl).read
    rw [here]
    show (write a).tree.nullable? get = some (some a)
    unfold Tree.nullable?
    split
    · rename_i null
      rw [null, notNull] at read
      cases read
    · rw [read]
      rfl

end Fields

end Kept

/-! ### What readers give -/

/-- All that a reader gives has a property. -/
def Gives (get : Tree → Option α) (P : α → Prop) : Prop :=
  ∀ t a, get t = some a → P a

namespace Gives

variable {get : Tree → Option α} {P : α → Prop}

theorem instant : Gives Tree.instant? Instant.InRange := by
  intro t a h
  obtain ⟨s, -, read⟩ := Option.bind_eq_some_iff.1 h
  exact Instant.inRange_of_readLenient read

theorem mem_of_mapM {β : Type} {f : β → Option α} {ts : List β} {as : List α}
    (h : ts.mapM f = some as) {a : α} (mem : a ∈ as) : ∃ t ∈ ts, f t = some a := by
  induction ts generalizing as with
  | nil =>
    cases h
    exact absurd mem List.not_mem_nil
  | cons t ts ih =>
    rw [List.mapM_cons] at h
    obtain ⟨first, read, h⟩ := Option.bind_eq_some_iff.1 h
    obtain ⟨others, further, is⟩ := Option.bind_eq_some_iff.1 h
    cases is
    rcases List.mem_cons.1 mem with rfl | mem
    · exact ⟨t, List.mem_cons_self, read⟩
    · obtain ⟨t', mem', read'⟩ := ih further mem
      exact ⟨t', List.mem_cons_of_mem _ mem', read'⟩

theorem list (h : Gives get P) : Gives (Tree.array? get) fun as => ∀ a ∈ as, P a := by
  intro t as read a mem
  cases t with
  | array items =>
    obtain ⟨t, -, read⟩ := mem_of_mapM read mem
    exact h t a read
  | _ => cases read

variable {r : Record} {name : String}

theorem required (h : Gives get P) {a : α} (read : r.required name get = some a) : P a := by
  obtain ⟨t, -, read⟩ := Option.bind_eq_some_iff.1 read
  exact h t a read

theorem optional (h : Gives get P) {o : Option α} (read : r.optional name get = some o) :
    ∀ a ∈ o, P a := by
  rw [Record.optional] at read
  split at read
  · cases read
    exact fun a mem => absurd mem (by simp)
  · rename_i t _
    unfold Tree.nullable? at read
    split at read
    · cases read
      exact fun a mem => absurd mem (by simp)
    · obtain ⟨b, one, rfl⟩ := Option.map_eq_some_iff.1 read
      intro a mem
      cases mem
      exact h t b one

theorem withDefault (h : Gives get P) {default a : α} (fine : P default)
    (read : r.withDefault name default get = some a) : P a := by
  rw [Record.withDefault] at read
  split at read
  · cases read
    exact fine
  · exact h _ a read

end Gives

end Metering.Json
