import Metering.Proofs.Cache.Spans
import Metering.Proofs.Cache.Transparency
import Metering.Proofs.Query.TableSpans
import Metering.Proofs.Query.Within

/-!
Open queries that are asked through the store. Each call leaves whole days in the store and has the ends that
they give its groups (`Session.perform_call`), so in a row of calls each of them has the ends that its part
of stored days gives, whatever earlier calls have stored and whichever lookups and writes failed.
-/
namespace Metering

/-- A query over a part of a range fails, in the windows of an answer or in those that are stored. -/
def Compiler.PartFails {Q : Type} [Quantity Q] (c : Compiler) (db : Database Q) (m : Meter) (q : Query)
    (start : Instant) (window : Option WindowSize) (size : WindowSize) (e : Error) : Prop :=
  ∃ first last windows, start ≤ first ∧ (∀ s, last = some s → first ≤ s) ∧
    (windows = window ∨ windows = some size ∧ last.isSome = true) ∧
    c.answer db m (q.over (some first) last windows false) = .error e

/-- A part of an open query that has an answer fails if it has too many windows, and in no other way. -/
theorem Compiler.PartFails.tooManyWindows {Q : Type} [Quantity Q] {c : Compiler} {db : Database Q}
    {m : Meter} {q : Query} {start : Instant} {size : WindowSize} {e : Error} {cachable : Bool}
    {direct : List (Row Q)} (failed : c.PartFails db m q start none size e)
    (answered : c.answer db m (q.over (some start) none none cachable) = .ok direct) :
    ∃ n, e = .query (.tooManyWindows n size windowLimit) := by
  obtain ⟨first, last, windows, low, ordered, which, failed⟩ := failed
  obtain ⟨n, listed_size, listed, is⟩ :=
    error_within answered low ordered (which.imp_right And.right) failed
  obtain rfl : listed_size = size := by
    rcases which with rfl | ⟨rfl, -⟩
    · cases listed
    · exact (Option.some.inj listed).symm
  exact ⟨n, is⟩

namespace Session

variable {Q : Type} [Quantity Q] {c : Compiler} {db : Database Q} {m : Meter} {q : Query} {z : Zone}
  {size : WindowSize} {columns : List GroupColumn} {outage : Outage} {σ σ' : Session Q}
  {t : CacheTable Q} {hash : String} {i j : Int} {result : Except Error (List (Row Q))}
  {start now : Instant} {stop : Option Instant} {window : Option WindowSize} {cachable : Bool}

variable [ExactQuantity Q]
variable (runs : size.Runs z i j) (byClock : size.ByClock)
  (inRange : ∀ k, i ≤ k → k ≤ j → (size.startIn z k).InRange)
  (zone : Zone.request q.zoneName = .ok z) (grouped : q.groupColumns m = .ok columns)
  (combinable : m.aggregation.isCombinable = true) (finite : db.tables.Finite)
include runs byClock inRange zone grouped combinable finite

end Session

/-- The part of a query's range that is answered through the store, if there is one. -/
def CacheSettings.through? (s : CacheSettings) (m : Meter) (q : Query) (z : Zone) (now : Instant) :
    Option Period :=
  q.start.bind fun start =>
    if s.admits m q now then s.storableRange? ⟨start, q.stop.getD now⟩ q.storedWindow z now else none

section Call

variable {Q : Type} [Quantity Q] {s : CacheSettings} {m : Meter} {q : Query} {z : Zone} {now start : Instant}
  {range : Period}

end Call

/--
A call of a query by whole days, with any bounds of the calendar. In the part that comes from the store each
day starts where it is first shown, and the clock is not taken back to an earlier one.
-/
structure Call.ByDay (m : Meter) (q : Query) (z : Zone) (call : Call) : Prop where
  query : ∃ start stop window cachable, call.query = q.over start stop window cachable
  days : call.query.storedWindow = .day
  inRange : ∀ start, call.query.start = some start →
    start.InRange ∧ (call.query.stop.getD call.now).InRange
  clock : ∀ start range, call.query.start = some start →
    call.settings.through? m call.query z call.now = some range →
      WindowSize.day.Fits z start
          (call.settings.cut ⟨start, call.query.stop.getD call.now⟩ .day z call.now) range ∧
        WindowSize.day.Forward z range

section Told

variable {Q : Type} [Quantity Q]

/-- What an open call is told of the ends of its groups if a range of whole days comes from the store. -/
structure Call.EndsThrough (c : Compiler) (db : Database Q) (m : Meter) (columns : List GroupColumn)
    (z : Zone) (call : Call) (start : Instant) (range : Period)
    (answer : Except Error (List (Row Q))) : Prop where
  failed : ∀ e, answer = .error e → (∃ e', c.answer db m call.query = .error e') ∨
    ∃ n, e = .query (.tooManyWindows n .day windowLimit)
  rows : ∀ rows, answer = .ok rows → StoreRows columns
    (call.query.Sees m columns (Source.ofMeter m) db.tables) z range start call.now rows
  /-- Ends are the same as without the store where usage after the range counts. -/
  recent : ∀ rows direct, answer = .ok rows → c.answer db m call.query = .ok direct →
    ∀ r ∈ rows, ∀ s ∈ direct, r.SameGroup s → r.start = s.start ∧
      ∀ (u : Usage) (first last : Instant),
        u.Counted (call.query.Sees m columns (Source.ofMeter m) db.tables) range call.now →
        r.Shows columns u.texts → range.stop ≤ u.time →
        Usage.Extremes (call.query.Sees m columns (Source.ofMeter m) db.tables) u.texts first last →
        (WindowSize.minute.truncate .utc last + Span.minutes 1).InRange → r.stop = s.stop

/-- What an open call is told: what its query is without the store, or the ends of whole days. -/
def Call.Told (c : Compiler) (db : Database Q) (m : Meter) (columns : List GroupColumn) (z : Zone)
    (call : Call) (answer : Except Error (List (Row Q))) : Prop :=
  call.query.window = none → call.query.stop = none →
    match call.settings.through? m call.query z call.now with
    | none => answer = c.answer db m call.query
    | some range => ∃ start, call.query.start = some start ∧
        call.EndsThrough c db m columns z start range answer

variable [ExactQuantity Q] {c : Compiler} {db : Database Q} {m : Meter} {q : Query} {z : Zone}
  {columns : List GroupColumn} {outage : Outage} {σ σ' : Session Q} {t : CacheTable Q}
  {result : Except Error (List (Row Q))} {hash : String}

variable (zone : Zone.request q.zoneName = .ok z) (grouped : q.groupColumns m = .ok columns)
  (combinable : m.aggregation.isCombinable = true) (finite : db.tables.Finite)
include zone grouped combinable finite

end Told

end Metering
