/-!
Decimal digits: numbers as texts and texts as numbers. The main statement is
`readDigits_decimalDigits`: the last digits of a number, read back, are the number's remainder.
-/
namespace Metering.Text

def decimalDigit (n : Nat) : Char :=
  Char.ofNat ('0'.toNat + n)

/-- The last `width` decimal digits of a number, the most significant first. -/
def decimalDigits : Nat → Nat → List Char
  | 0, _ => []
  | width + 1, n => decimalDigits width (n / 10) ++ [decimalDigit (n % 10)]

def digitValue (c : Char) : Nat :=
  c.toNat - '0'.toNat

def readDigits (cs : List Char) : Nat :=
  cs.foldl (fun n c => 10 * n + digitValue c) 0

/-- A number in decimal, without leading zeros. -/
def natText (n : Nat) : List Char :=
  Nat.toDigits 10 n

def intText : Int → List Char
  | .ofNat n => natText n
  | .negSucc n => '-' :: natText (n + 1)

/-- A number in decimal with at least `width` digits. -/
def paddedText (width n : Nat) : List Char :=
  if n < Nat.pow 10 width then decimalDigits width n else natText n

/-- The longest run of digits at the front, at most `limit` of them, and what follows. -/
def takeDigits : Nat → List Char → List Char × List Char
  | 0, cs => ([], cs)
  | _ + 1, [] => ([], [])
  | limit + 1, c :: cs =>
    if c.isDigit then
      let r := takeDigits limit cs
      (c :: r.1, r.2)
    else ([], c :: cs)

theorem decimalDigits_length (width n : Nat) : (decimalDigits width n).length = width := by
  induction width generalizing n with
  | zero => rfl
  | succ width ih => simp [decimalDigits, ih]

theorem digitValue_decimalDigit (n : Nat) (h : n < 10) : digitValue (decimalDigit n) = n := by
  have key : ∀ k : Fin 10, digitValue (decimalDigit k.1) = k.1 := by decide
  exact key ⟨n, h⟩

theorem isDigit_decimalDigit (n : Nat) (h : n < 10) : (decimalDigit n).isDigit = true := by
  have key : ∀ k : Fin 10, (decimalDigit k.1).isDigit = true := by decide
  exact key ⟨n, h⟩

theorem isDigit_of_mem_decimalDigits {width n : Nat} {c : Char}
    (h : c ∈ decimalDigits width n) : c.isDigit = true := by
  induction width generalizing n with
  | zero => simp [decimalDigits] at h
  | succ width ih =>
    simp only [decimalDigits, List.mem_append, List.mem_singleton] at h
    rcases h with h | rfl
    · exact ih h
    · exact isDigit_decimalDigit _ (Nat.mod_lt _ (by decide))

theorem readDigits_append_singleton (cs : List Char) (c : Char) :
    readDigits (cs ++ [c]) = 10 * readDigits cs + digitValue c := by
  simp [readDigits]

theorem readDigits_decimalDigits (width n : Nat) :
    readDigits (decimalDigits width n) = n % Nat.pow 10 width := by
  induction width generalizing n with
  | zero => simp [decimalDigits, readDigits, Nat.mod_one]
  | succ width ih =>
    have hpow : Nat.pow 10 (width + 1) = 10 * Nat.pow 10 width := Nat.mul_comm _ _
    rw [decimalDigits, readDigits_append_singleton, ih,
      digitValue_decimalDigit _ (Nat.mod_lt _ (by decide)), hpow, Nat.mod_mul]
    omega

/-- A run of digits is taken whole when it fits and a non-digit follows. -/
theorem takeDigits_append {limit : Nat} {ds rest : List Char}
    (hds : ∀ c ∈ ds, c.isDigit = true) (hlen : ds.length ≤ limit)
    (hrest : ds.length = limit ∨ ∀ c ∈ rest.head?, c.isDigit = false) :
    takeDigits limit (ds ++ rest) = (ds, rest) := by
  induction ds generalizing limit with
  | nil =>
    cases limit with
    | zero => rfl
    | succ limit =>
      cases rest with
      | nil => rfl
      | cons c rest =>
        rcases hrest with h | h
        · simp at h
        · simp [takeDigits, h c (by simp)]
  | cons d ds ih =>
    cases limit with
    | zero => simp at hlen
    | succ limit =>
      have hd := hds d (by simp)
      have := ih (fun c hc => hds c (List.mem_cons_of_mem _ hc)) (by simpa using hlen)
        (by rcases hrest with h | h
            · exact .inl (by simpa using h)
            · exact .inr h)
      simp [takeDigits, hd, this]

end Metering.Text
