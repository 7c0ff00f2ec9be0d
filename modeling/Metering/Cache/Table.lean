import Metering.Cache.Group

/-!
Stored rows. A row is kept under the namespace and the hash of its query, the ends of its window and
its group; a second row under the same key is ignored, so a stored number never changes.
-/
namespace Metering

structure CachedRow (Q : Type) where
  space : String
  hash : String
  row : Row Q

abbrev CacheTable (Q : Type) := List (CachedRow Q)

namespace CachedRow

variable {Q : Type}

def SameKey (c d : CachedRow Q) : Prop :=
  c.row.start = d.row.start ∧ c.row.stop = d.row.stop ∧ c.hash = d.hash ∧ c.space = d.space ∧
    c.row.groupKey = d.row.groupKey

instance (c d : CachedRow Q) : Decidable (c.SameKey d) :=
  inferInstanceAs (Decidable (_ ∧ _ ∧ _ ∧ _ ∧ _))

end CachedRow

namespace CacheTable

variable {Q : Type}

def insert (t : CacheTable Q) (c : CachedRow Q) : CacheTable Q :=
  if t.any fun d => d.SameKey c then t else t ++ [c]

def store (t : CacheTable Q) (space hash : String) (rows : List (Row Q)) : CacheTable Q :=
  rows.foldl (fun t r => t.insert ⟨space, hash, r⟩) t

/-- The rows of windows that lie in a range, in order. -/
def lookup (t : CacheTable Q) (space hash : String) (range : Period) : List (Row Q) :=
  let found := t.filter fun c => c.space = space ∧ c.hash = hash ∧
    range.start ≤ c.row.start ∧ c.row.stop ≤ range.stop
  Row.sorted (found.map CachedRow.row)

end CacheTable

end Metering
