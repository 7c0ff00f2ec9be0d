import Metering.Cache.Gaps
import Metering.Cache.Identity
import Metering.Cache.Merge
import Metering.Program

/-!
Answering a query through stored rows. The range of a query is cut in up to three: a head before the
first whole window, whole windows that are old enough to be kept, and a tail of recent usage. Head and
tail are computed; the middle is read from the store, and what is missing there is computed in runs of
windows and stored. A store that fails costs time but not the answer.
-/
namespace Metering

structure CacheSettings where
  enabled : Bool
  /-- How far a query must reach back to be answered through the store. -/
  minQueryAge : Span
  /-- How old usage must be to be stored. -/
  minUsageAge : Span
deriving DecidableEq, Repr

namespace CacheSettings

def default : CacheSettings := ⟨true, Span.hours 72, Span.hours 24⟩

/-- Whether a query may be answered through the store. -/
def admits (s : CacheSettings) (m : Meter) (q : Query) (now : Instant) : Bool :=
  s.enabled && q.cachable && m.aggregation.isCombinable &&
    q.start.any fun start => start + s.minQueryAge ≤ now

/-- The whole windows of a range that are old enough to be stored; days and months end at midnight. -/
def storableRange? (s : CacheSettings) (range : Period) (window : WindowSize) (z : Zone)
    (now : Instant) : Option Period :=
  let start := window.ceil z range.start
  let day := WindowSize.day.truncate z (min range.stop (now - s.minUsageAge))
  let stop := if window = .month then WindowSize.month.truncate z day else day
  if start < stop then some ⟨start, stop⟩ else none

end CacheSettings

/-- What answering through the store needs. -/
inductive CacheRequest (Q : Type) where
  | run (meter : Meter) (query : Query)
  | lookup (space hash : String) (range : Period)
  | store (space hash : String) (rows : List (Row Q))

def CacheRequest.Answer {Q : Type} : CacheRequest Q → Type
  | run .. => Except Error (List (Row Q))
  | lookup .. => Except StoreError (List (Row Q))
  | store .. => Except StoreError Unit

abbrev Caching (Q α : Type) := ExceptT Error (Program (CacheRequest Q) CacheRequest.Answer) α

namespace Caching

variable {Q : Type}

def run (m : Meter) (q : Query) : Caching Q (List (Row Q)) :=
  ExceptT.mk (Program.request (CacheRequest.run m q))

/-- What the store has; a failing store has nothing. -/
def lookup (space hash : String) (range : Period) : Caching Q (List (Row Q)) :=
  ExceptT.mk (Program.ask (CacheRequest.lookup space hash range) fun
    | .ok rows => .done (.ok rows)
    | .error _ => .done (.ok []))

/-- A write, whether it succeeds or not. -/
def store (space hash : String) (rows : List (Row Q)) : Caching Q Unit :=
  ExceptT.mk (Program.ask (CacheRequest.store space hash rows) fun _ => .done (.ok ()))

end Caching

namespace Query

/-- The query over a part of its range, past the store. -/
def within (q : Query) (start stop : Option Instant) : Query :=
  { q with start := start, stop := stop, cachable := false }

/-- The window size in which the answer of a query is stored. -/
def storedWindow (q : Query) : WindowSize := q.window.getD .day

variable {Q : Type} [Quantity Q]

/-- The rows and placeholders of some periods, computed one after another. -/
def fill (m : Meter) (q : Query) (z : Zone) (window : WindowSize) :
    List Period → Caching Q (List (Row Q))
  | [] => return []
  | p :: periods => do
    let rows ← Caching.run m { q.within (some p.start) (some p.stop) with window := some window }
    let rest ← fill m q z window periods
    return gaps window z p rows ++ rows ++ rest

/-- The rows of whole windows, from the store as far as it has them. -/
def storedRows (m : Meter) (q : Query) (z : Zone) (window : WindowSize) (hash : String)
    (range : Period) : Caching Q (List (Row Q)) := do
  let stored ← Caching.lookup m.space hash range
  let missing := uncovered window z range (stored.map Row.start)
  if missing.isEmpty then return stored
  let fresh ← fill m q z window missing
  Caching.store m.space hash fresh
  return stored ++ fresh

/-- The rows of a part of the range that is never stored, if the range has such a part. -/
def freshRows (m : Meter) (q : Query) (isNeeded : Bool) (start stop : Option Instant) :
    Caching Q (List (Row Q)) :=
  if isNeeded then Caching.run m (q.within start stop) else return []

/-- The rows of a query from `start` to `stop` whose whole windows fill `range`. -/
def answerThrough (q : Query) (m : Meter) (z : Zone) (start stop : Instant) (range : Period) :
    Caching Q (List (Row Q)) := do
  let hash ← ExceptT.mk (Program.done (q.hash m q.storedWindow))
  let middle ← storedRows m q z q.storedWindow hash range
  let head ← freshRows m q (start < range.start) (some start) (some range.start)
  let tail ← freshRows m q (range.stop < stop) (some range.stop) q.stop
  return merge m.aggregation q.window q.start q.stop (middle ++ head ++ tail)

end Query

/-- The rows of a query, asked at an instant. A query without an end ends there. -/
def CacheSettings.answer {Q : Type} [Quantity Q] (s : CacheSettings) (m : Meter) (q : Query)
    (now : Instant) : Caching Q (List (Row Q)) :=
  match q.start with
  | none => Caching.run m q
  | some start =>
    if s.admits m q now then do
      let z ← ExceptT.mk (Program.done (Zone.request q.zoneName))
      let stop := q.stop.getD now
      match s.storableRange? ⟨start, stop⟩ q.storedWindow z now with
      | none => Caching.run m q
      | some range => q.answerThrough m z start stop range
    else Caching.run m q

end Metering
