import Metering.Calendar.Instant
import Metering.KeyMap

/-!
Usage events as they are stored, and the entries of the table of numbers made from them.
-/
namespace Metering

structure Event where
  space : String
  id : String
  type : String
  source : String
  subject : String
  time : Instant
  /-- A JSON text. -/
  data : String
  ingestedAt : Instant
  storedAt : Instant
deriving DecidableEq

/-- One number that an event contributes to a meter. -/
structure Entry (Q : Type) where
  space : String
  meterId : String
  subject : String
  time : Instant
  storedAt : Instant
  value : Q
  /-- The dimensions that the event's data has, none of them empty. -/
  dimensions : KeyMap String

end Metering
