import Metering.Json.Path
import Metering.Proofs.Json.Kept

/-!
How deep steps can lead. There is data with a given value at the end of given steps (`Value.placed`), and
it can be read from a text if there are no more steps than arrays and objects may nest
(`Value.read?_placed`). Steps that lead somewhere in data that was read are never more than that
(`Value.length_le_of_follow?`).
-/
namespace Metering.Json

namespace Value

/-- The least data with a value at the end of some steps. -/
def placed (v : Value) : Path → Value
  | [] => v
  | .key name :: path => .object [(name, v.placed path)]
  | .index n :: path => .array (List.replicate n .null ++ [v.placed path])

theorem follow?_placed (v : Value) (path : Path) : (v.placed path).follow? path = some v := by
  induction path with
  | nil => rfl
  | cons step path ih =>
    cases step with
    | key name =>
      have found : (v.placed (.key name :: path)).step? (.key name) = some (v.placed path) := by
        simp [placed, step?, field?]
      rw [follow?, found]
      exact ih
    | index n =>
      have found : (v.placed (.index n :: path)).step? (.index n) = some (v.placed path) := by
        simp [placed, step?, item?]
      rw [follow?, found]
      exact ih

theorem fits_placed {room : Nat} {v : Value} (fits : v.Fits room) (path : Path) :
    (v.placed path).Fits (room + path.length) := by
  induction path with
  | nil => exact fits
  | cons step path ih =>
    cases step with
    | key name =>
      refine .object fun f mem => ?_
      obtain rfl := List.mem_singleton.1 mem
      exact ih
    | index n =>
      refine .array fun w mem => ?_
      rcases List.mem_append.1 mem with before | last
      · rw [List.eq_of_mem_replicate before]
        exact .null _
      · rw [List.mem_singleton.1 last]
        exact ih

theorem values?_trees {vs : List Value} (each : ∀ v ∈ vs, v.tree.value? = some v) :
    Tree.values? (trees vs) = some vs := by
  induction vs with
  | nil => rfl
  | cons v vs ih =>
    have rest := ih fun w mem => each w (List.mem_cons_of_mem _ mem)
    rw [trees, Tree.values?, each v List.mem_cons_self, rest]
    rfl

theorem value?_placed {v : Value} (held : v.tree.value? = some v) (path : Path) :
    (v.placed path).tree.value? = some (v.placed path) := by
  induction path with
  | nil => exact held
  | cons step path ih =>
    cases step with
    | key name =>
      simp only [placed, tree, fieldTrees, Tree.value?, Tree.fieldValues?, ih]
      rfl
    | index n =>
      have each : ∀ w ∈ List.replicate n .null ++ [v.placed path], w.tree.value? = some w := by
        intro w mem
        rcases List.mem_append.1 mem with before | last
        · rw [List.eq_of_mem_replicate before]
          rfl
        · rw [List.mem_singleton.1 last]
          exact ih
      rw [placed, tree, Tree.value?, values?_trees each]
      rfl

/-- Data around a value is read from its text, unless it nests too deep. -/
theorem read?_placed {v : Value} (fits : v.Fits 0) (held : v.tree.value? = some v) {path : Path}
    (room : path.length ≤ nestingLimit) : read? (v.placed path).text = some (v.placed path) := by
  have within : (v.placed path).Fits nestingLimit := by
    have deep := fits_placed fits path
    rw [Nat.zero_add] at deep
    exact deep.mono room
  rw [read?, read_text within]
  exact value?_placed held path

/-- A value with at most so many arrays and objects inside each other, whatever else it holds. -/
inductive Nests : Nat → Value → Prop where
  | null (room : Nat) : Nests room .null
  | bool (room : Nat) (b : Bool) : Nests room (.bool b)
  | number (room : Nat) (n : Number) : Nests room (.number n)
  | string (room : Nat) (s : String) : Nests room (.string s)
  | array {room : Nat} {vs : List Value} : (∀ v ∈ vs, Nests room v) → Nests (room + 1) (.array vs)
  | object {room : Nat} {fields : List (String × Value)} :
    (∀ f ∈ fields, Nests room f.2) → Nests (room + 1) (.object fields)

theorem nests_setField {room : Nat} {key : String} {v : Value} (here : v.Nests room)
    {fields : List (String × Value)} (others : ∀ f ∈ fields, f.2.Nests room) :
    ∀ f ∈ setField key v fields, f.2.Nests room := by
  induction fields with
  | nil =>
    intro f mem
    obtain rfl := List.mem_singleton.1 mem
    exact here
  | cons g fields ih =>
    obtain ⟨k, w⟩ := g
    have rest : ∀ f ∈ fields, f.2.Nests room := fun f mem => others f (List.mem_cons_of_mem _ mem)
    intro f mem
    rw [setField] at mem
    split at mem
    · rcases List.mem_cons.1 mem with rfl | mem
      · exact here
      · exact rest f mem
    · rcases List.mem_cons.1 mem with rfl | mem
      · exact others _ List.mem_cons_self
      · exact ih rest f mem

theorem nests_foldl_setField {room : Nat} {fields acc : List (String × Value)}
    (each : ∀ f ∈ fields, f.2.Nests room) (others : ∀ f ∈ acc, f.2.Nests room) :
    ∀ f ∈ fields.foldl (fun acc f => setField f.1 f.2 acc) acc, f.2.Nests room := by
  induction fields generalizing acc with
  | nil => exact others
  | cons f fields ih =>
    exact ih (fun g mem => each g (List.mem_cons_of_mem _ mem))
      (nests_setField (each f List.mem_cons_self) others)

end Value

mutual

/-- Values nest no deeper than the trees they are taken from. -/
theorem Tree.nests_value? : ∀ {t : Tree} {v : Value} {room : Nat}, t.Fits room →
    t.value? = some v → v.Nests room
  | .null, _, _, _, held => by
    obtain rfl := Option.some.inj held
    exact .null _
  | .bool _, _, _, _, held => by
    obtain rfl := Option.some.inj held
    exact .bool _ _
  | .number _, _, _, _, held => by
    obtain ⟨n, -, rfl⟩ := Option.map_eq_some_iff.1 held
    exact .number _ n
  | .string _, _, _, _, held => by
    obtain ⟨s, -, rfl⟩ := Option.map_eq_some_iff.1 held
    exact .string _ s
  | .array items, _, _, .array inside, held => by
    obtain ⟨vs, each, rfl⟩ := Option.map_eq_some_iff.1 held
    exact .array (Tree.nests_values? inside each)
  | .object fields, _, _, .object inside, held => by
    obtain ⟨fs, each, rfl⟩ := Option.map_eq_some_iff.1 held
    exact .object (Value.nests_foldl_setField (Tree.nests_fieldValues? inside each)
      fun f mem => absurd mem List.not_mem_nil)
  | .tooDeep, _, _, _, held => absurd held (by simp [Tree.value?])

theorem Tree.nests_values? : ∀ {ts : List Tree} {vs : List Value} {room : Nat},
    (∀ t ∈ ts, t.Fits room) → Tree.values? ts = some vs → ∀ v ∈ vs, v.Nests room
  | [], _, _, _, held => by
    obtain rfl := Option.some.inj held
    exact fun v mem => absurd mem List.not_mem_nil
  | t :: ts, _, _, inside, held => by
    obtain ⟨w, first, held⟩ := Option.bind_eq_some_iff.1 held
    obtain ⟨ws, rest, held⟩ := Option.bind_eq_some_iff.1 held
    obtain rfl := Option.some.inj held
    rw [List.forall_mem_cons] at inside ⊢
    exact ⟨Tree.nests_value? inside.1 first, Tree.nests_values? inside.2 rest⟩

theorem Tree.nests_fieldValues? : ∀ {fs : List (Option String × Tree)} {vs : List (String × Value)}
    {room : Nat}, (∀ f ∈ fs, f.2.Fits room) → Tree.fieldValues? fs = some vs →
      ∀ v ∈ vs, v.2.Nests room
  | [], _, _, _, held => by
    obtain rfl := Option.some.inj held
    exact fun v mem => absurd mem List.not_mem_nil
  | (key, t) :: fs, _, _, inside, held => by
    obtain ⟨k, -, held⟩ := Option.bind_eq_some_iff.1 held
    obtain ⟨w, first, held⟩ := Option.bind_eq_some_iff.1 held
    obtain ⟨ws, rest, held⟩ := Option.bind_eq_some_iff.1 held
    obtain rfl := Option.some.inj held
    rw [List.forall_mem_cons] at inside ⊢
    exact ⟨Tree.nests_value? inside.1 first, Tree.nests_fieldValues? inside.2 rest⟩

end

namespace Value

/-- Each step that leads somewhere leads out of one array or object. -/
theorem Nests.step? {room : Nat} {v w : Value} (nests : v.Nests room) {step : PathStep}
    (found : v.step? step = some w) : ∃ less, room = less + 1 ∧ w.Nests less := by
  cases nests with
  | array inside =>
    cases step with
    | key name => exact absurd found (by simp [Value.step?, field?])
    | index n => exact ⟨_, rfl, inside w (List.mem_of_getElem? found)⟩
  | @object less fields inside =>
    cases step with
    | key name =>
      obtain ⟨before, after, rfl, -⟩ := List.lookup_eq_some_iff.1 found
      exact ⟨less, rfl, inside (name, w) (List.mem_append_right before List.mem_cons_self)⟩
    | index n => exact absurd found (by simp [Value.step?, item?])
  | _ => cases step <;> exact absurd found (by simp [Value.step?, field?, item?])

theorem Nests.length_le {room : Nat} {v w : Value} (nests : v.Nests room) {path : Path}
    (found : v.follow? path = some w) : path.length ≤ room := by
  induction path generalizing v room with
  | nil => exact Nat.zero_le _
  | cons step path ih =>
    obtain ⟨u, first, further⟩ := Option.bind_eq_some_iff.1 found
    obtain ⟨less, rfl, inside⟩ := nests.step? first
    exact Nat.succ_le_succ (ih inside further)

/-- Data that was read has nothing at the end of more steps than may nest. -/
theorem length_le_of_follow? {s : String} {v w : Value} (read : read? s = some v) {path : Path}
    (found : v.follow? path = some w) : path.length ≤ nestingLimit := by
  obtain ⟨t, parsed, held⟩ := Option.bind_eq_some_iff.1 read
  exact (Tree.nests_value? (Tree.fits_of_read parsed) held).length_le found

end Value

end Metering.Json
