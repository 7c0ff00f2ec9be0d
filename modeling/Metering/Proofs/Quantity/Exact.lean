import Mathlib.Algebra.Order.Ring.Rat
import Metering.Proofs.Query.Groups

/-!
Numbers that add up without rounding, and the totals of aggregations whose results can be combined. The
total of some values is the same however they are ordered (`total_perm`) and however they are split into
parts (`total_flatten`).
-/
namespace Metering

/-- Quantities with the laws that hold of floats up to rounding and overflow. -/
class ExactQuantity (Q : Type) [Quantity Q] : Prop where
  add_comm (x y : Q) : Quantity.add x y = Quantity.add y x
  add_assoc (x y z : Q) : Quantity.add (Quantity.add x y) z = Quantity.add x (Quantity.add y z)
  zero_add (x : Q) : Quantity.add (Quantity.ofNat 0) x = x
  add_ofNat (m n : Nat) :
    Quantity.add (Quantity.ofNat m : Q) (Quantity.ofNat n) = Quantity.ofNat (m + n)
  least_comm (x y : Q) : Quantity.least x y = Quantity.least y x
  least_assoc (x y z : Q) :
    Quantity.least (Quantity.least x y) z = Quantity.least x (Quantity.least y z)
  greatest_comm (x y : Q) : Quantity.greatest x y = Quantity.greatest y x
  greatest_assoc (x y z : Q) :
    Quantity.greatest (Quantity.greatest x y) z = Quantity.greatest x (Quantity.greatest y z)
  finite_ofNat (n : Nat) : Quantity.isFinite (Quantity.ofNat n : Q) = true
  finite_add {x y : Q} (hx : Quantity.isFinite x = true) (hy : Quantity.isFinite y = true) :
    Quantity.isFinite (Quantity.add x y) = true
  finite_least {x y : Q} (hx : Quantity.isFinite x = true) (hy : Quantity.isFinite y = true) :
    Quantity.isFinite (Quantity.least x y) = true
  finite_greatest {x y : Q} (hx : Quantity.isFinite x = true) (hy : Quantity.isFinite y = true) :
    Quantity.isFinite (Quantity.greatest x y) = true
  finite_read {cs : List Char} {x : Q} (h : Quantity.read? cs = some x) :
    Quantity.isFinite x = true
  undefined : Quantity.isUndefined (Quantity.undefined : Q) = true
  defined {x : Q} (h : Quantity.isFinite x = true) : Quantity.isUndefined x = false

/-- Rational numbers, and one that is undefined. -/
abbrev Fraction := Option Rat

namespace Fraction

open Text in
/-- The number that a sign and digits with an optional point spell. -/
def read? (cs : List Char) : Option Rat :=
  let (negative, cs) := Decimal.takeSign cs
  let (whole, cs) := takeDigits cs.length cs
  let (fraction, cs) :=
    match cs with
    | '.' :: cs => takeDigits cs.length cs
    | cs => ([], cs)
  if (whole = [] ∧ fraction = []) ∨ cs ≠ [] then none
  else
    let x : Rat := readDigits (whole ++ fraction) / 10 ^ fraction.length
    some (if negative then -x else x)

instance : Quantity Fraction where
  ofNat n := some n
  add x y := x.bind fun x => y.map fun y => x + y
  least
    | none, y => y
    | x, none => x
    | some x, some y => some (min x y)
  greatest
    | none, y => y
    | x, none => x
    | some x, some y => some (max x y)
  share x n := x.map fun x => x / n
  undefined := none
  isUndefined := Option.isNone
  isFinite := Option.isSome
  read? cs := (read? cs).map some

instance : ExactQuantity Fraction where
  add_comm x y := by
    cases x <;> cases y <;> simp [Quantity.add, Rat.add_comm]
  add_assoc x y z := by
    cases x <;> cases y <;> cases z <;> simp [Quantity.add, Rat.add_assoc]
  zero_add x := by
    cases x <;> simp [Quantity.add, Quantity.ofNat]
  add_ofNat m n := by simp [Quantity.add, Quantity.ofNat]
  least_comm x y := by
    cases x <;> cases y <;> simp [Quantity.least, min_comm]
  least_assoc x y z := by
    cases x <;> cases y <;> cases z <;> simp [Quantity.least, min_assoc]
  greatest_comm x y := by
    cases x <;> cases y <;> simp [Quantity.greatest, max_comm]
  greatest_assoc x y z := by
    cases x <;> cases y <;> cases z <;> simp [Quantity.greatest, max_assoc]
  finite_ofNat _ := rfl
  finite_add {x y} hx hy := by
    obtain ⟨x, rfl⟩ := Option.isSome_iff_exists.1 hx
    obtain ⟨y, rfl⟩ := Option.isSome_iff_exists.1 hy
    rfl
  finite_least {x y} hx hy := by
    obtain ⟨x, rfl⟩ := Option.isSome_iff_exists.1 hx
    obtain ⟨y, rfl⟩ := Option.isSome_iff_exists.1 hy
    rfl
  finite_greatest {x y} hx hy := by
    obtain ⟨x, rfl⟩ := Option.isSome_iff_exists.1 hx
    obtain ⟨y, rfl⟩ := Option.isSome_iff_exists.1 hy
    rfl
  finite_read h := by
    obtain ⟨_, -, rfl⟩ := Option.map_eq_some_iff.1 h
    rfl
  undefined := rfl
  defined {x} h := by
    obtain ⟨x, rfl⟩ := Option.isSome_iff_exists.1 h
    rfl

end Fraction

theorem numbers_readings {Q : Type} (readings : List (Reading Q)) :
    ((readings.map fun v => (v.1, some (Contribution.number v.2))).filterMap fun r =>
      r.2.bind Contribution.number?) = readings.map Prod.snd := by
  rw [List.filterMap_map, ← List.filterMap_eq_map]
  rfl

namespace Aggregation

variable {Q : Type} [Quantity Q]

/-- The result of two parts; where results cannot be combined, that of the second. -/
def merged (a : Aggregation) (x y : Q) : Q := (a.combine? x y).getD y

/-- As `merged`, with parts that may have no result. -/
def join (a : Aggregation) : Option Q → Option Q → Option Q
  | some x, some y => some (a.merged x y)
  | some x, none => some x
  | none, y => y

/-- The combined result of parts. -/
def total (a : Aggregation) : List Q → Option Q
  | [] => none
  | x :: xs => a.join (some x) (a.total xs)

/-- What a value adds to a total: itself, or one where values are counted. -/
def weight (a : Aggregation) (x : Q) : Q :=
  match a with
  | .count => Quantity.ofNat 1
  | _ => x

@[simp] theorem join_none (a : Aggregation) (x : Option Q) : a.join x none = x := by
  cases x <;> rfl

@[simp] theorem none_join (a : Aggregation) (x : Option Q) : a.join none x = x := rfl

variable [ExactQuantity Q] {a : Aggregation}

theorem merged_comm (combinable : a.isCombinable = true) (x y : Q) :
    a.merged x y = a.merged y x := by
  cases a with
  | sum | count => exact ExactQuantity.add_comm x y
  | minimum => exact ExactQuantity.least_comm x y
  | maximum => exact ExactQuantity.greatest_comm x y
  | average | uniqueCount | latest => cases combinable

theorem merged_assoc (combinable : a.isCombinable = true) (x y z : Q) :
    a.merged (a.merged x y) z = a.merged x (a.merged y z) := by
  cases a with
  | sum | count => exact ExactQuantity.add_assoc x y z
  | minimum => exact ExactQuantity.least_assoc x y z
  | maximum => exact ExactQuantity.greatest_assoc x y z
  | average | uniqueCount | latest => cases combinable

theorem finite_merged (combinable : a.isCombinable = true) {x y : Q}
    (hx : Quantity.isFinite x = true) (hy : Quantity.isFinite y = true) :
    Quantity.isFinite (a.merged x y) = true := by
  cases a with
  | sum | count => exact ExactQuantity.finite_add hx hy
  | minimum => exact ExactQuantity.finite_least hx hy
  | maximum => exact ExactQuantity.finite_greatest hx hy
  | average | uniqueCount | latest => cases combinable

theorem join_comm (combinable : a.isCombinable = true) (x y : Option Q) :
    a.join x y = a.join y x := by
  cases x <;> cases y <;> simp [join, merged_comm combinable]

theorem join_assoc (combinable : a.isCombinable = true) (x y z : Option Q) :
    a.join (a.join x y) z = a.join x (a.join y z) := by
  cases x <;> cases y <;> cases z <;> simp [join, merged_assoc combinable]

theorem total_append (combinable : a.isCombinable = true) (xs ys : List Q) :
    a.total (xs ++ ys) = a.join (a.total xs) (a.total ys) := by
  induction xs with
  | nil => rfl
  | cons x xs ih => rw [List.cons_append, total, total, ih, join_assoc combinable]

theorem total_perm (combinable : a.isCombinable = true) {xs ys : List Q} (h : xs.Perm ys) :
    a.total xs = a.total ys := by
  induction h with
  | nil => rfl
  | cons x _ ih => rw [total, total, ih]
  | swap x y xs =>
    rw [total, total, total, total, ← join_assoc combinable, ← join_assoc combinable,
      join_comm combinable (some y)]
  | trans _ _ first second => exact first.trans second

/-- The total of parts is the total of the totals of those that have one. -/
theorem total_flatten (combinable : a.isCombinable = true) (parts : List (List Q)) :
    a.total parts.flatten = a.total (parts.filterMap a.total) := by
  induction parts with
  | nil => rfl
  | cons part parts ih =>
    rw [List.flatten_cons, total_append combinable, ih]
    cases made : a.total part with
    | none => rw [List.filterMap_cons, made, none_join]
    | some x => rw [List.filterMap_cons, made, total]

/-- Rows are combined from the left. -/
theorem total_cons (combinable : a.isCombinable = true) (x : Q) (xs : List Q) :
    a.total (x :: xs) = some (xs.foldl a.merged x) := by
  induction xs generalizing x with
  | nil => rfl
  | cons y xs ih =>
    rw [List.foldl_cons, ← ih, total, total, total, ← join_assoc combinable]
    rfl

theorem finite_total (combinable : a.isCombinable = true) {xs : List Q}
    (finite : ∀ x ∈ xs, Quantity.isFinite x = true) {y : Q} (h : a.total xs = some y) :
    Quantity.isFinite y = true := by
  induction xs generalizing y with
  | nil => cases h
  | cons x xs ih =>
    have hx := finite x List.mem_cons_self
    rw [total] at h
    cases made : a.total xs with
    | none =>
      rw [made, join_none] at h
      cases h
      exact hx
    | some z =>
      rw [made] at h
      cases h
      exact finite_merged combinable hx (ih (fun w hw => finite w (List.mem_cons_of_mem _ hw)) made)

theorem total_ones (n : Nat) :
    Aggregation.count.total (List.replicate (n + 1) (Quantity.ofNat 1 : Q)) =
      some (Quantity.ofNat (n + 1)) := by
  induction n with
  | zero => rfl
  | succ n ih =>
    rw [List.replicate_succ, total, ih]
    exact congrArg some ((ExactQuantity.add_ofNat 1 (n + 1)).trans (by rw [Nat.add_comm]))

/-- Results of readings are totals of what each of them adds. -/
theorem resultOf?_eq_total (combinable : a.isCombinable = true) (readings : List (Reading Q)) :
    a.resultOf? readings = a.total (readings.map fun v => a.weight v.2) := by
  cases readings with
  | nil => exact a.resultOf?_nil
  | cons v rest =>
    cases a with
    | sum =>
      rw [List.map_cons, total_cons combinable, resultOf?, result?, numbers_readings]
      simp only [List.map_cons, List.isEmpty_cons, List.foldl_cons, ExactQuantity.zero_add]
      rfl
    | count =>
      have ones : (v :: rest).map (fun v => Aggregation.count.weight v.2) =
          List.replicate (rest.length + 1) (Quantity.ofNat 1 : Q) := by
        rw [List.eq_replicate_iff]
        refine ⟨by simp, fun x mem => ?_⟩
        obtain ⟨_, -, rfl⟩ := List.mem_map.1 mem
        rfl
      rw [ones, total_ones, resultOf?, result?]
      simp only [List.map_cons, List.isEmpty_cons, List.length_cons, List.length_map]
      rfl
    | minimum | maximum =>
      rw [List.map_cons, total_cons combinable, resultOf?, result?, numbers_readings]
      rfl
    | average | uniqueCount | latest => cases combinable

theorem finite_resultOf? (combinable : a.isCombinable = true) {readings : List (Reading Q)}
    (finite : ∀ v ∈ readings, Quantity.isFinite v.2 = true) {x : Q}
    (h : a.resultOf? readings = some x) : Quantity.isFinite x = true := by
  rw [resultOf?_eq_total combinable] at h
  refine finite_total combinable (fun y mem => ?_) h
  obtain ⟨v, hv, rfl⟩ := List.mem_map.1 mem
  cases a with
  | count => exact ExactQuantity.finite_ofNat 1
  | _ => exact finite v hv

end Aggregation

end Metering
