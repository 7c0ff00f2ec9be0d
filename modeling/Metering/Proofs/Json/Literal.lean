import Metering.Proofs.Json.Reader
import Metering.Proofs.Text.Digits

/-!
The number literals of a JSON text. A whole number is read with the digits that it is written with, and
those have no leading zero; so they are the text of the number (`Tree.isPlain_of_read`).
-/
namespace Metering

namespace Json

open Text

/-- A whole number without a fraction, spelled as numbers are. -/
def Literal.IsPlain (l : Literal) : Prop :=
  l.isInteger = true →
    l.numeral.fraction = [] ∧ l.numeral.whole = natText (readDigits l.numeral.whole)

mutual

/-- Every number of a tree has a property. -/
def Tree.Numbers (P : Literal → Prop) : Tree → Prop
  | .number l => P l
  | .array items => Tree.ItemNumbers P items
  | .object fields => Tree.FieldNumbers P fields
  | _ => True

def Tree.ItemNumbers (P : Literal → Prop) : List Tree → Prop
  | [] => True
  | t :: ts => t.Numbers P ∧ Tree.ItemNumbers P ts

def Tree.FieldNumbers (P : Literal → Prop) : List (Option String × Tree) → Prop
  | [] => True
  | (_, t) :: rest => t.Numbers P ∧ Tree.FieldNumbers P rest

end

namespace Tree

variable {P : Literal → Prop}

theorem itemNumbers_iff {items : List Tree} : ItemNumbers P items ↔ ∀ t ∈ items, t.Numbers P := by
  induction items with
  | nil => simp [ItemNumbers]
  | cons t ts ih => simp [ItemNumbers, ih]

theorem fieldNumbers_iff {fields : List (Option String × Tree)} :
    FieldNumbers P fields ↔ ∀ f ∈ fields, f.2.Numbers P := by
  induction fields with
  | nil => simp [FieldNumbers]
  | cons f fields ih => simp [FieldNumbers, ih]

end Tree

namespace Reader

theorem wholeDigits_spec {cs whole rest : List Char} (h : wholeDigits cs = some (whole, rest)) :
    whole = natText (readDigits whole) := by
  unfold wholeDigits at h
  split at h
  · exact absurd h (by simp)
  · rename_i c cs
    split at h
    · cases h
      decide
    · rename_i notZero
      split at h
      · rename_i digit
        cases h
        refine (natText_readDigits ?_ (by simp) (by simpa using notZero)).2.symm
        intro d mem
        rcases List.mem_cons.1 mem with rfl | mem
        · exact digit
        · exact isDigit_of_mem_takeDigits mem
      · exact absurd h (by simp)

theorem isPlain_number {cs rest : List Char} {l : Literal} (h : number cs = some (l, rest)) :
    l.IsPlain := by
  unfold number at h
  simp only [Option.bind_eq_bind, Option.bind_eq_some_iff, Option.pure_def, Option.some.injEq] at h
  obtain ⟨⟨whole, cs₁⟩, read, ⟨fraction, cs₂⟩, -, ⟨power, cs₃⟩, -, is⟩ := h
  cases is
  intro integer
  simp only [Bool.decide_and, Bool.and_eq_true, decide_eq_true_eq] at integer
  exact ⟨integer.1, wholeDigits_spec read⟩

theorem closed_numbers {P : Literal → Prop}
    (one : ∀ cs l rest, number cs = some (l, rest) → P l) : Closed fun _ t => t.Numbers P where
  null _ := by simp only [Tree.Numbers]
  bool _ _ := by simp only [Tree.Numbers]
  number read := by simpa only [Tree.Numbers] using one _ _ _ read
  string _ _ := by simp only [Tree.Numbers]
  tooDeep _ := by simp only [Tree.Numbers]
  array _ inside := by simpa only [Tree.Numbers] using Tree.itemNumbers_iff.2 inside
  object _ inside := by simpa only [Tree.Numbers] using Tree.fieldNumbers_iff.2 inside

end Reader

/-- Every whole number of a JSON text is spelled as numbers are. -/
theorem Tree.isPlain_of_read {s : String} {t : Tree} (h : Tree.read? s = some t) :
    t.Numbers Literal.IsPlain :=
  (Reader.closed_numbers fun _ _ _ => Reader.isPlain_number).of_read h

end Json

end Metering
