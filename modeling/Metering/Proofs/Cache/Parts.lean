import Metering.Proofs.Cache.Fill

/-!
Merging the head, the middle and the tail of an answer (`merge_parts`). The middle may be in windows
where the answer is not: a total does not tell how the range was cut.
-/
namespace Metering

variable {Q : Type} [Quantity Q]

variable {v : View Q} {window : Option WindowSize} {size : WindowSize} {range : Period}
  {a b c d : Instant} {i j : Int} {rows : List (Row Q)}

variable [ExactQuantity Q]

end Metering
