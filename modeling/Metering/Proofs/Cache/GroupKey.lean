import Metering.Proofs.Quantity.Exact
import Metering.Cache.Merge

/-!
Which rows share a key. A key is written without escapes, so a text that holds a semicolon and the label
of a later part can be taken for that part, and the text `nil` for a missing value. Rows without such
texts share a key exactly when they are about one subject, one customer and the same values
(`Row.groupKey_eq_iff`). Others are merged although they are not of one group
(`Row.merge_groups_apart`).
-/
namespace Metering

namespace Row

/-- How a part of a key begins. -/
def opening (label : String) : List Char := label.toList ++ ['=']

/-- No semicolon in a text is followed by the opening of a part with one of the labels. -/
def Sealed (labels : List String) (text : List Char) : Prop :=
  ∀ label ∈ labels, ¬ ';' :: opening label <:+: text

instance (labels : List String) (text : List Char) : Decidable (Sealed labels text) :=
  inferInstanceAs (Decidable (∀ label ∈ labels, ¬ ';' :: opening label <:+: text))

/-- What stands after a part: nothing, or a part with one of the labels. -/
def Continues (labels : List String) (rest : List Char) : Prop :=
  rest = [] ∨ ∃ label ∈ labels, opening label <+: rest

section Parts

variable {labels : List String} {text text' rest rest' : List Char}
variable (free : ∀ label ∈ labels, ';' ∉ opening label)
include free

/-- What stands after a text is not a piece of a longer text that is sealed. -/
theorem not_longer {more : List Char} (continues : Continues labels (more ++ ';' :: rest))
    (closed : Sealed labels (text ++ ';' :: more)) : False := by
  rcases continues with empty | ⟨label, mem, begins⟩
  · simp at empty
  · by_cases short : (opening label).length ≤ more.length
    · have inside : opening label <+: more :=
        List.prefix_of_prefix_length_le begins (List.prefix_append more _) short
      obtain ⟨after, rfl⟩ := inside
      apply closed label mem
      exact ⟨text, after, by simp⟩
    · have ended : more ++ [';'] <+: more ++ ';' :: rest := ⟨rest, by simp⟩
      have within : more ++ [';'] <+: opening label :=
        List.prefix_of_prefix_length_le ended begins (by simp; omega)
      apply free label mem
      exact within.subset (by simp)

/-- The semicolon after a sealed text is found. -/
theorem ended_inj (closed : Sealed labels text) (closed' : Sealed labels text')
    (continues : Continues labels rest) (continues' : Continues labels rest')
    (same : text ++ ';' :: rest = text' ++ ';' :: rest') : text = text' ∧ rest = rest' := by
  rcases List.append_eq_append_iff.1 same with ⟨more, rfl, tail⟩ | ⟨more, rfl, tail⟩
  · cases more with
    | nil => simpa using tail
    | cons c more =>
      obtain ⟨rfl, rfl⟩ := List.cons.inj tail
      exact (not_longer free continues closed').elim
  · cases more with
    | nil => simpa [eq_comm] using tail
    | cons c more =>
      obtain ⟨rfl, rfl⟩ := List.cons.inj tail
      exact (not_longer free continues' closed).elim

omit free in
theorem toList_keyPart (label text : String) :
    (keyPart label (some text)).toList = opening label ++ (text.toList ++ [';']) := by
  simp [keyPart, opening]

omit free in
/-- A missing part is not taken for one whose label differs from the later ones. -/
theorem ne_opening {label : String}
    (apart : ∀ later ∈ labels, (opening later).head? ≠ (opening label).head?)
    (continues : Continues labels rest) (tail : List Char) : rest ≠ opening label ++ tail := by
  have named (label : String) : opening label ≠ [] := by simp [opening]
  rintro rfl
  rcases continues with empty | ⟨later, mem, after, begins⟩
  · exact named label (List.append_eq_nil_iff.1 empty).1
  · have heads := congrArg List.head? begins
    rw [List.head?_append_of_ne_nil _ (named later), List.head?_append_of_ne_nil _ (named label)]
      at heads
    exact apart later mem heads

/-- A part that may be missing is told by the key, and so is what stands after it. -/
theorem keyPart_append_inj {label : String}
    (apart : ∀ later ∈ labels, (opening later).head? ≠ (opening label).head?) {x y : Option String}
    (closed : ∀ t ∈ x, Sealed labels t.toList) (closed' : ∀ t ∈ y, Sealed labels t.toList)
    (continues : Continues labels rest) (continues' : Continues labels rest')
    (same : (keyPart label x).toList ++ rest = (keyPart label y).toList ++ rest') :
    x = y ∧ rest = rest' := by
  cases x with
  | none =>
    cases y with
    | none => exact ⟨rfl, by simpa [keyPart] using same⟩
    | some t' =>
      rw [toList_keyPart, List.append_assoc] at same
      exact absurd same (ne_opening apart continues _)
  | some t =>
    cases y with
    | none =>
      rw [toList_keyPart, List.append_assoc] at same
      exact absurd same.symm (ne_opening apart continues' _)
    | some t' =>
      simp only [toList_keyPart, List.append_assoc, List.cons_append, List.nil_append,
        List.append_cancel_left_eq] at same
      obtain ⟨texts, rests⟩ :=
        ended_inj free (closed t rfl) (closed' t' rfl) continues continues' same
      exact ⟨congrArg some (String.toList_inj.1 texts), rests⟩

end Parts

/-- The part of a key that tells the dimensions. -/
def groupsText (groups : List (String × Option String)) : String :=
  String.join (groups.map fun g => keyPart "group" (some (g.1 ++ "=" ++ g.2.getD "nil")))

theorem toList_groupsText_cons (name : String) (value : Option String)
    (groups : List (String × Option String)) :
    (groupsText ((name, value) :: groups)).toList = opening "group" ++ (opening name ++
      ((value.getD "nil").toList ++ ';' :: (groupsText groups).toList)) := by
  simp [groupsText, toList_keyPart, String.join_cons, opening]

theorem continues_groupsText (groups : List (String × Option String)) :
    Continues ["group"] (groupsText groups).toList := by
  cases groups with
  | nil => exact .inl rfl
  | cons g groups =>
    refine .inr ⟨"group", List.mem_singleton_self _, ?_⟩
    rw [toList_groupsText_cons]
    exact List.prefix_append _ _

/-- A value that can be told from a missing one and from the parts after it. -/
def ClearValue (value : Option String) : Prop :=
  ∀ t ∈ value, t ≠ "nil" ∧ Sealed ["group"] t.toList

instance (value : Option String) : Decidable (ClearValue value) :=
  inferInstanceAs (Decidable (∀ t ∈ value, t ≠ "nil" ∧ Sealed ["group"] t.toList))

theorem sealed_getD {value : Option String} (clear : ClearValue value) :
    Sealed ["group"] (value.getD "nil").toList := by
  cases value with
  | none => decide
  | some t => exact (clear t rfl).2

theorem getD_inj {value value' : Option String} (clear : ClearValue value)
    (clear' : ClearValue value') (same : value.getD "nil" = value'.getD "nil") : value = value' := by
  cases value with
  | none =>
    cases value' with
    | none => rfl
    | some t' => exact absurd same.symm (clear' t' rfl).1
  | some t =>
    cases value' with
    | none => exact absurd same (clear t rfl).1
    | some t' => exact congrArg some same

/-- Dimensions of the same names tell their values by their part of the key. -/
theorem groupsText_inj {groups groups' : List (String × Option String)}
    (names : groups.map Prod.fst = groups'.map Prod.fst) (clear : ∀ g ∈ groups, ClearValue g.2)
    (clear' : ∀ g ∈ groups', ClearValue g.2)
    (same : (groupsText groups).toList = (groupsText groups').toList) : groups = groups' := by
  induction groups generalizing groups' with
  | nil => exact (List.map_eq_nil_iff.1 names.symm).symm
  | cons g groups ih =>
    cases groups' with
    | nil => simp at names
    | cons g' groups' =>
      obtain ⟨name, value⟩ := g
      obtain ⟨name', value'⟩ := g'
      simp only [List.map_cons, List.cons.injEq] at names
      obtain ⟨rfl, names⟩ := names
      have first : ClearValue value := clear _ List.mem_cons_self
      have first' : ClearValue value' := clear' _ List.mem_cons_self
      simp only [toList_groupsText_cons, List.append_cancel_left_eq] at same
      obtain ⟨values, rests⟩ := ended_inj (by decide) (sealed_getD first) (sealed_getD first')
        (continues_groupsText groups) (continues_groupsText groups') same
      obtain rfl := getD_inj first first' (String.toList_inj.1 values)
      rw [ih names (fun g mem => clear g (List.mem_cons_of_mem _ mem))
        (fun g mem => clear' g (List.mem_cons_of_mem _ mem)) rests]

variable {Q : Type}

/-- A row whose texts can be told from each other in its key. -/
structure Clear (r : Row Q) : Prop where
  subject : ∀ t ∈ r.subject, Sealed ["customer", "group"] t.toList
  customer : ∀ t ∈ r.customer, Sealed ["group"] t.toList
  groups : ∀ g ∈ r.groups.toList, ClearValue g.2

instance (r : Row Q) : Decidable r.Clear :=
  decidable_of_iff ((∀ t ∈ r.subject, Sealed ["customer", "group"] t.toList) ∧
      (∀ t ∈ r.customer, Sealed ["group"] t.toList) ∧ ∀ g ∈ r.groups.toList, ClearValue g.2)
    ⟨fun h => ⟨h.1, h.2.1, h.2.2⟩, fun h => ⟨h.subject, h.customer, h.groups⟩⟩

theorem toList_groupKey (r : Row Q) : r.groupKey.toList = (keyPart "subject" r.subject).toList ++
    ((keyPart "customer" r.customer).toList ++ (groupsText r.groups.toList).toList) := by
  simp only [groupKey, groupsText, String.toList_append, List.append_assoc]

theorem continues_customer (customer : Option String) (groups : List (String × Option String)) :
    Continues ["customer", "group"]
      ((keyPart "customer" customer).toList ++ (groupsText groups).toList) := by
  cases customer with
  | none =>
    rcases continues_groupsText groups with empty | ⟨label, mem, begins⟩
    · exact .inl empty
    · exact .inr ⟨label, List.mem_cons_of_mem _ mem, begins⟩
  | some t =>
    refine .inr ⟨"customer", List.mem_cons_self, ?_⟩
    rw [toList_keyPart, List.append_assoc]
    exact List.prefix_append _ _

/--
Rows with the same dimensions and with clear texts share a key exactly when they are about one subject,
one customer and the same values.
-/
theorem groupKey_eq_iff {r s : Row Q} (names : r.groups.keys = s.groups.keys) (clear : r.Clear)
    (clear' : s.Clear) : r.groupKey = s.groupKey ↔
      r.subject = s.subject ∧ r.customer = s.customer ∧ r.groups = s.groups := by
  constructor
  · intro same
    have texts := congrArg String.toList same
    simp only [toList_groupKey] at texts
    obtain ⟨subject, texts⟩ := keyPart_append_inj (by decide) (by decide) clear.subject
      clear'.subject (continues_customer _ _) (continues_customer _ _) texts
    obtain ⟨customer, texts⟩ := keyPart_append_inj (by decide) (by decide) clear.customer
      clear'.customer (continues_groupsText _) (continues_groupsText _) texts
    have entries := groupsText_inj names clear.groups clear'.groups texts
    refine ⟨subject, customer, ?_⟩
    cases hr : r.groups
    cases hs : s.groups
    simp_all
  · rintro ⟨subject, customer, groups⟩
    simp only [groupKey, subject, customer, groups]

/-- One minute of a subject and a customer, by model and region. -/
def minuteOf (subject customer model region : Option String) : Row Fraction :=
  ⟨some 1, .epoch, .ofSeconds 60, subject, customer, .ofList [("model", model), ("region", region)]⟩

/-- Semicolons, and labels without an equals sign, are clear. -/
theorem groupKey_ne_semicolon :
    (minuteOf (some "a;b") (some "c") none (some "eu;group")).groups.keys =
      (minuteOf (some "a") (some "b;c") none (some "eu;group")).groups.keys ∧
    (minuteOf (some "a;b") (some "c") none (some "eu;group")).Clear ∧
    (minuteOf (some "a") (some "b;c") none (some "eu;group")).Clear ∧
    (minuteOf (some "a;b") (some "c") none (some "eu;group")).groupKey ≠
      (minuteOf (some "a") (some "b;c") none (some "eu;group")).groupKey := by
  have names : (minuteOf (some "a;b") (some "c") none (some "eu;group")).groups.keys =
      (minuteOf (some "a") (some "b;c") none (some "eu;group")).groups.keys := by decide +kernel
  have clear : (minuteOf (some "a;b") (some "c") none (some "eu;group")).Clear := by decide +kernel
  have clear' : (minuteOf (some "a") (some "b;c") none (some "eu;group")).Clear := by decide +kernel
  refine ⟨names, clear, clear', ?_⟩
  intro same
  have alike := (groupKey_eq_iff names clear clear').1 same
  exact absurd alike.1 (by decide)

/-- Two rows of different groups are taken for one group and added together. -/
def AddedTogether (r s : Row Fraction) : Prop :=
  r.groups.keys = s.groups.keys ∧
    (r.subject, r.customer, r.groups) ≠ (s.subject, s.customer, s.groups) ∧
    r.groupKey = s.groupKey ∧ (merge .sum none none none [r, s]).map Row.value = [some 2]

instance (r s : Row Fraction) : Decidable (AddedTogether r s) := inferInstanceAs (Decidable (_ ∧ _))

/-- A missing value is taken for the text `nil`, and what stands in a text for a customer or for another
dimension. -/
theorem merge_groups_apart :
    AddedTogether (minuteOf (some "a") none none none) (minuteOf (some "a") none (some "nil") none) ∧
    AddedTogether (minuteOf (some "a;customer=b") none none none)
      (minuteOf (some "a") (some "b") none none) ∧
    AddedTogether (minuteOf none none (some "x;group=region=y") (some "z"))
      (minuteOf none none (some "x") (some "y;group=region=z")) := by
  refine ⟨?_, ?_, ?_⟩
  · decide +kernel
  · decide +kernel
  · decide +kernel

end Row

end Metering
