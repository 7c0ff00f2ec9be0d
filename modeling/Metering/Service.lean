import Metering.Cache.Answer
import Metering.Query.Run
import Metering.Registry.Snapshot

/-!
The service that answers questions about usage: it finds the meter by its id or slug, answers a query
through the store, and runs what the store does not have.
-/
namespace Metering

inductive ServiceRequest (Q : Type) where
  | meters (request : MeterRequest)
  | fetch (request : Fetch)
  | lookup (space hash : String) (range : Period)
  | store (space hash : String) (rows : List (Row Q))

def ServiceRequest.Answer {Q : Type} : ServiceRequest Q → Type
  | meters request => request.Answer
  | fetch request => request.Answer Q
  | lookup .. => Except StoreError (List (Row Q))
  | store .. => Except StoreError Unit

structure Service where
  compiler : Compiler
  cache : CacheSettings

namespace Service

variable {Q : Type}

abbrev Serving (Q α : Type) := Program (ServiceRequest Q) ServiceRequest.Answer (Except Error α)

def resolve (space name : String) : Serving Q Meter :=
  (Snapshot.resolve space name).via fun r => .ask (.meters r) .done

def fetching {α : Type} (p : Fetching Q α) : Serving Q α :=
  p.via fun r => .ask (.fetch r) .done

/-- What the cache asks for: queries are run, rows are read and written. -/
def cacheAnswer [Quantity Q] (s : Service) :
    (r : CacheRequest Q) → Program (ServiceRequest Q) ServiceRequest.Answer r.Answer
  | .run m q => fetching (s.compiler.run m q)
  | .lookup space hash range => .ask (.lookup space hash range) .done
  | .store space hash rows => .ask (.store space hash rows) .done

/-- The rows of a query of a meter, asked at an instant. -/
def query [Quantity Q] (s : Service) (space name : String) (q : Query) (now : Instant) :
    Serving Q (List (Row Q)) :=
  (resolve space name).bind fun
    | .error e => .done (.error e)
    | .ok m => (ExceptT.run (s.cache.answer m q now)).via s.cacheAnswer

/-- The subjects of a meter's events in a range. -/
def subjects (space name : String) (start stop : Option Instant) : Serving Q (List String) :=
  (resolve space name).bind fun
    | .error e => .done (.error e)
    | .ok m => fetching (m.subjects start stop)

end Service

end Metering
