import Metering.Store.Error
import Metering.Meter.Basic

/-!
What is asked of a registry of meters. A meter has one record for its namespace and id, and can be
found by its id or its slug, the id first.
-/
namespace Metering

inductive RegistryRequest where
  /-- All meters, or those of a namespace. -/
  | list (space : Option String)
  | get (space name : String)
  | setProgress (space id : String) (progress : Progress)
  /-- A new definition; progress that is stored already stays. -/
  | put (meter : Meter)

def RegistryRequest.Answer : RegistryRequest → Type
  | list _ => Except StoreError (List Meter)
  | get .. => Except StoreError Meter
  | setProgress .. => Except StoreError Unit
  | put _ => Except StoreError Unit

/-- The answer to a request that fails. -/
def RegistryRequest.failed (e : StoreError) : (r : RegistryRequest) → r.Answer
  | list _ => .error e
  | get .. => .error e
  | setProgress .. => .error e
  | put _ => .error e

/-- The failure to find a meter. -/
def StoreError.noMeter (name : String) : StoreError := .notFound "meter" name

end Metering
