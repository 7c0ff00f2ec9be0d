import Mathlib.Data.List.Nodup
import Metering.Proofs.Backfill.Pass

/-!
The snapshot of the registry while a scheduler passes over the meters again and again and any number of
refreshes are under way. A refresh may put in what it read long ago, and a pass applies progress without
looking at what the snapshot holds; in between meters may be added and redefined.

Neither loses progress (`Upkeep.fresher_of_reaches`). What a list of meters holds is never ahead of the
registry, whose progress only climbs, and what a pass applies is what the registry holds; so only a
refresh can bring something older, and it keeps the newer record of the two.
-/
namespace Metering

open Backfill (Key keyOf Told)
open Progress (lags lags_self lags_trans)

namespace Snapshot

theorem isNamed_iff {space id : String} {m : Meter} :
    isNamed space id m = true ↔ keyOf m = (space, id) := by
  simp [isNamed, keyOf]

/-- In a list that has each key at most once, a meter is told by its key. -/
theorem eq_of_keyOf {s : Snapshot} (once : (s.map keyOf).Nodup) {m n : Meter} (hm : m ∈ s)
    (hn : n ∈ s) (same : keyOf n = keyOf m) : n = m :=
  List.inj_on_of_nodup_map once hn hm same

theorem find?_isNamed {s : Snapshot} (once : (s.map keyOf).Nodup) {m : Meter} (hm : m ∈ s)
    {space id : String} (key : keyOf m = (space, id)) :
    List.find? (isNamed space id) s = some m := by
  cases found : List.find? (isNamed space id) s with
  | none => exact absurd (isNamed_iff.2 key) (List.find?_eq_none.1 found m hm)
  | some n =>
    have named : keyOf n = (space, id) := isNamed_iff.1 (List.find?_some found)
    rw [eq_of_keyOf once hm (List.mem_of_find?_eq_some found) (named.trans key.symm)]

theorem keyOf_keepProgress (s : Snapshot) (m : Meter) : keyOf (s.keepProgress m) = keyOf m := by
  unfold keepProgress
  split
  · rfl
  · split <;> rfl

/-- What is kept was read or was held, and is behind neither. -/
theorem keepProgress_keeps {s : Snapshot} (once : (s.map keyOf).Nodup) (m : Meter) :
    lags (s.keepProgress m).progress m.progress = false ∧
      (∀ h ∈ s, keyOf h = keyOf m → lags (s.keepProgress m).progress h.progress = false) ∧
      ((s.keepProgress m).progress = m.progress ∨
        ∃ h ∈ s, keyOf h = keyOf m ∧ (s.keepProgress m).progress = h.progress) := by
  have held : ∀ h ∈ s, keyOf h = keyOf m → s.progress? m.space m.id = h.progress := by
    intro h hh same
    rw [progress?, find?_isNamed once hh same]
    rfl
  unfold keepProgress
  split
  · rename_i none
    refine ⟨lags_self _, fun h hh same => ?_, .inl rfl⟩
    rw [← held h hh same, none]
    cases m.progress <;> rfl
  · rename_i newer found
    obtain ⟨h, hh, same, is⟩ : ∃ h ∈ s, keyOf h = keyOf m ∧ h.progress = some newer := by
      obtain ⟨h, found, is⟩ := Option.bind_eq_some_iff.1 found
      exact ⟨h, List.mem_of_find?_eq_some found, isNamed_iff.1 (List.find?_some found), is⟩
    rw [Progress.all_isBehind]
    split
    · rename_i lagging
      refine ⟨?_, fun h hh same => ?_, .inr ⟨h, hh, same, is.symm⟩⟩
      · exact Progress.lags_asymm lagging
      · rw [← held h hh same, found]
        exact lags_self _
    · rename_i level
      refine ⟨lags_self _, fun h hh same => ?_, .inl rfl⟩
      rw [← held h hh same, found]
      simpa using level

theorem map_keyOf_replaced (s : Snapshot) (loaded : List Meter) :
    (s.replaced loaded).map keyOf = loaded.map keyOf := by
  rw [replaced, List.map_map]
  exact List.map_congr_left fun m _ => keyOf_keepProgress s m

theorem map_keyOf_setProgress (space id : String) (p : Progress) (s : Snapshot) :
    (s.setProgress space id p).map keyOf = s.map keyOf := by
  induction s with
  | nil => rfl
  | cons m s ih =>
    unfold setProgress
    split
    · rfl
    · rw [List.map_cons, List.map_cons, ih]

theorem mem_setProgress {space id : String} {p : Progress} {s : Snapshot} {n : Meter}
    (hn : n ∈ s.setProgress space id p) :
    n ∈ s ∨ keyOf n = (space, id) ∧ n.progress = some p := by
  induction s with
  | nil => exact .inl hn
  | cons m s ih =>
    unfold setProgress at hn
    split at hn
    · rename_i named
      rcases List.mem_cons.1 hn with rfl | hn
      · exact .inr ⟨isNamed_iff.1 named, rfl⟩
      · exact .inl (List.mem_cons_of_mem m hn)
    · rcases List.mem_cons.1 hn with rfl | hn
      · exact .inl List.mem_cons_self
      · exact (ih hn).imp_left (List.mem_cons_of_mem m)

end Snapshot

/-- Every meter of both snapshots has at least as much progress in the later one. -/
def Snapshot.Fresher (earlier later : Snapshot) : Prop :=
  ∀ m ∈ earlier, ∀ n ∈ later, keyOf n = keyOf m → lags n.progress m.progress = false

/-- The meters by their keys. -/
abbrev MeterBook := Key → Option Meter

namespace MeterBook

/-- No meter is lost, and none has less progress than before. -/
def Grows (b b' : MeterBook) : Prop :=
  ∀ k n, b k = some n → ∃ n', b' k = some n' ∧ lags n'.progress n.progress = false

/-- No meter is lost, and each keeps its progress. -/
def KeepsProgress (b b' : MeterBook) : Prop :=
  ∀ k n, b k = some n → ∃ n', b' k = some n' ∧ n'.progress = n.progress

theorem KeepsProgress.refl (b : MeterBook) : KeepsProgress b b := fun _ n is => ⟨n, is, rfl⟩

theorem KeepsProgress.grows {b b' : MeterBook} (h : KeepsProgress b b') : Grows b b' := by
  intro k n is
  obtain ⟨n', is', same⟩ := h k n is
  exact ⟨n', is', same ▸ lags_self _⟩

/-- A list of the registry: every meter once. -/
structure Lists (b : MeterBook) (loaded : List Meter) : Prop where
  once : (loaded.map keyOf).Nodup
  exactly : ∀ m, m ∈ loaded ↔ b (keyOf m) = some m

/-- A list has each meter at most once, and is not ahead of the registry. -/
structure Covers (b : MeterBook) (s : Snapshot) : Prop where
  once : (s.map keyOf).Nodup
  ahead : ∀ m ∈ s, ∃ n, b (keyOf m) = some n ∧ lags n.progress m.progress = false

variable {b b' : MeterBook}

theorem Lists.covers {loaded : List Meter} (h : Lists b loaded) : Covers b loaded where
  once := h.once
  ahead m hm := ⟨m, (h.exactly m).1 hm, lags_self _⟩

theorem Covers.grow {s : Snapshot} (h : Covers b s) (grows : Grows b b') : Covers b' s where
  once := h.once
  ahead m hm := by
    obtain ⟨n, is, level⟩ := h.ahead m hm
    obtain ⟨n', is', climbed⟩ := grows _ n is
    exact ⟨n', is', lags_trans level climbed⟩

theorem Covers.fresher {s : Snapshot} (h : Covers b s) : s.Fresher s := by
  intro m hm n hn same
  rw [Snapshot.eq_of_keyOf h.once hm hn same]
  exact lags_self _

theorem Covers.replaced {s : Snapshot} {loaded : List Meter} (held : Covers b s)
    (read : Covers b loaded) : Covers b (s.replaced loaded) where
  once := by
    rw [Snapshot.map_keyOf_replaced]
    exact read.once
  ahead n hn := by
    obtain ⟨m, hm, rfl⟩ := List.mem_map.1 hn
    rw [Snapshot.keyOf_keepProgress]
    rcases (Snapshot.keepProgress_keeps held.once m).2.2 with same | ⟨h, hh, key, same⟩
    · rw [same]
      exact read.ahead m hm
    · rw [same, ← key]
      exact held.ahead h hh

/-- After a refresh a meter lags neither what was read nor what the snapshot held. -/
theorem Covers.fresher_replaced {s : Snapshot} {loaded : List Meter} (held : Covers b s)
    (read : Covers b loaded) :
    Snapshot.Fresher loaded (s.replaced loaded) ∧ Snapshot.Fresher s (s.replaced loaded) := by
  constructor
  · intro l hl n hn same
    obtain ⟨m, hm, rfl⟩ := List.mem_map.1 hn
    rw [Snapshot.keyOf_keepProgress] at same
    rw [Snapshot.eq_of_keyOf read.once hl hm same]
    exact (Snapshot.keepProgress_keeps held.once l).1
  · intro h hh n hn same
    obtain ⟨m, hm, rfl⟩ := List.mem_map.1 hn
    rw [Snapshot.keyOf_keepProgress] at same
    exact (Snapshot.keepProgress_keeps held.once m).2.1 h hh same.symm

variable {space id : String} {p : Progress}

theorem Covers.setProgress {s : Snapshot} (h : Covers b s) {r : Meter}
    (stored : b (space, id) = some r) (is : r.progress = some p) :
    Covers b (s.setProgress space id p) where
  once := by
    rw [Snapshot.map_keyOf_setProgress]
    exact h.once
  ahead n hn := by
    rcases Snapshot.mem_setProgress hn with hn | ⟨key, set⟩
    · exact h.ahead n hn
    · rw [key, set, ← is]
      exact ⟨r, stored, lags_self _⟩

theorem Covers.fresher_setProgress {s : Snapshot} (h : Covers b s) {r : Meter}
    (stored : b (space, id) = some r) (is : r.progress = some p) :
    s.Fresher (s.setProgress space id p) := by
  intro m hm n hn same
  rcases Snapshot.mem_setProgress hn with hn | ⟨key, set⟩
  · exact h.fresher m hm n hn same
  · obtain ⟨r', stored', level⟩ := h.ahead m hm
    rw [← same, key, stored] at stored'
    cases stored'
    rwa [set, ← is]

end MeterBook

/-- The registry, the snapshot, and what is under way: one pass and any number of refreshes. -/
structure Upkeep where
  registry : MeterBook
  snapshot : Snapshot
  /-- What remains of the pass. -/
  pass : Ticking TickSummary
  /-- What remains of each refresh. -/
  refreshes : List (Program MeterRequest MeterRequest.Answer (Except StoreError Nat))

namespace Upkeep

/-- How a request to the registry and the snapshot may be answered, and what there is afterwards. -/
inductive Answers (σ : Upkeep) : (r : MeterRequest) → r.Answer → Upkeep → Prop where
  | listed {loaded : List Meter} (lists : σ.registry.Lists loaded) :
      Answers σ (.registry (.list none)) (.ok loaded) σ
  | unlisted {e : StoreError} : Answers σ (.registry (.list none)) (.error e) σ
  | held : Answers σ .snapshot σ.snapshot σ
  | replaced {loaded : List Meter} :
      Answers σ (.replace loaded) () { σ with snapshot := σ.snapshot.replaced loaded }
  | applied {space id : String} {p : Progress} :
      Answers σ (.apply space id p) () { σ with snapshot := σ.snapshot.setProgress space id p }

/-- How a request of a pass may be answered. A meter that is looked up without being there may be another
one, by its slug; a save may be reported as failed and be done all the same. -/
inductive TickAnswers (σ : Upkeep) : (r : TickRequest) → r.Answer → Upkeep → Prop where
  | meters {r : MeterRequest} {a : r.Answer} {σ' : Upkeep} (answers : Answers σ r a σ') :
      TickAnswers σ (.meters r) a σ'
  | claimed {space id : String} {a : Bool} : TickAnswers σ (.backfill (.claim space id)) a σ
  | released {space id : String} : TickAnswers σ (.backfill (.release space id)) () σ
  | read {space id : String} {m : Meter} (found : ∀ n, σ.registry (space, id) = some n → m = n) :
      TickAnswers σ (.backfill (.stored space id)) (.ok m) σ
  | unread {space id : String} {e : StoreError} :
      TickAnswers σ (.backfill (.stored space id)) (.error e) σ
  | surveyed {selection : Selection} {a : Except StoreError (Option Instant)} :
      TickAnswers σ (.backfill (.earliest selection)) a σ
  | copied {i : ChunkImport} {a : Except StoreError Unit} :
      TickAnswers σ (.backfill (.copy i)) a σ
  | saved {space id : String} {p : Progress} {n : Meter} {a : Except StoreError Unit}
      (found : σ.registry (space, id) = some n) :
      TickAnswers σ (.backfill (.save space id p)) a { σ with
        registry := Function.update σ.registry (space, id) (some { n with progress := some p }) }
  | unsaved {space id : String} {p : Progress} {e : StoreError} :
      TickAnswers σ (.backfill (.save space id p)) (.error e) σ

/-- The scheduler begins its next pass, a refresh begins, one of them gets an answer and goes on to its
next request, or a meter is added or redefined. -/
inductive Next (σ : Upkeep) : Upkeep → Prop where
  | tick {summary : TickSummary} (ended : σ.pass = .done summary) (s : BackfillSettings)
      (stepsPerTick : Nat) (now : Instant) :
      Next σ { σ with pass := Backfill.tick s stepsPerTick now }
  | goOn {r : TickRequest} {next : r.Answer → Ticking TickSummary} {a : r.Answer} {σ' : Upkeep}
      (asks : σ.pass = .ask r next) (answers : TickAnswers σ r a σ') :
      Next σ { σ' with pass := next a }
  | refresh : Next σ { σ with refreshes := σ.refreshes ++ [Snapshot.refresh] }
  | refreshed {i : Nat} {r : MeterRequest}
      {next : r.Answer → Program MeterRequest MeterRequest.Answer (Except StoreError Nat)}
      {a : r.Answer} {σ' : Upkeep} (asks : σ.refreshes[i]? = some (.ask r next))
      (answers : Answers σ r a σ') : Next σ { σ' with refreshes := σ.refreshes.set i (next a) }
  | add {m : Meter} (new : σ.registry (keyOf m) = none) :
      Next σ { σ with registry := Function.update σ.registry (keyOf m) (some m) }
  | redefine {m n : Meter} (found : σ.registry (keyOf m) = some n)
      (kept : m.progress = n.progress) :
      Next σ { σ with registry := Function.update σ.registry (keyOf m) (some m) }

/-- Runs of any length. -/
def Reaches : Upkeep → Upkeep → Prop := Relation.ReflTransGen Next

/-- Nothing has been read and nothing is under way. -/
structure Opens (σ : Upkeep) : Prop where
  snapshot : σ.snapshot = []
  pass : ∃ summary, σ.pass = .done summary
  refreshes : σ.refreshes = []

/-- What a refresh can still do: everything, put in what it read, or nothing. -/
inductive Refreshing (b : MeterBook) :
    Program MeterRequest MeterRequest.Answer (Except StoreError Nat) → Prop where
  | begins : Refreshing b Snapshot.refresh
  | read {loaded : List Meter} (covers : b.Covers loaded) :
      Refreshing b (.ask (.replace loaded) fun _ => .done (.ok loaded.length))
  | ended {result : Except StoreError Nat} : Refreshing b (.done result)

theorem Refreshing.grow {b b' : MeterBook}
    {p : Program MeterRequest MeterRequest.Answer (Except StoreError Nat)} (h : Refreshing b p)
    (grows : b.Grows b') : Refreshing b' p := by
  cases h with
  | begins => exact .begins
  | read covers => exact .read (covers.grow grows)
  | ended => exact .ended

/-- What a pass has been told is so. -/
structure Truthful (b : MeterBook) (K : Told) : Prop where
  listed : ∀ k ∈ K.listed, ∃ n, b k = some n
  known : ∀ k p, K.known = some (k, p) → ∃ n, b k = some n ∧ n.progress = p

theorem Truthful.keep {b b' : MeterBook} {K : Told} (h : Truthful b K)
    (keeps : b.KeepsProgress b') : Truthful b' K where
  listed k hk := by
    obtain ⟨n, is⟩ := h.listed k hk
    obtain ⟨n', is', -⟩ := keeps k n is
    exact ⟨n', is'⟩
  known k p known := by
    obtain ⟨n, is, progress⟩ := h.known k p known
    obtain ⟨n', is', same⟩ := keeps k n is
    exact ⟨n', is', same.trans progress⟩

/-- What holds between any two requests. -/
structure Sound (σ : Upkeep) : Prop where
  snapshot : σ.registry.Covers σ.snapshot
  pass : ∃ K, Truthful σ.registry K ∧ Backfill.Knows (fun _ _ => True) K σ.pass
  refreshes : ∀ p ∈ σ.refreshes, Refreshing σ.registry p

theorem Opens.sound {σ : Upkeep} (h : σ.Opens) : σ.Sound where
  snapshot := by
    rw [h.snapshot]
    exact ⟨.nil, by simp⟩
  pass := by
    obtain ⟨summary, ended⟩ := h.pass
    exact ⟨.nothing, ⟨by simp [Told.nothing], by simp [Told.nothing]⟩, ended ▸ trivial⟩
  refreshes := by simp [h.refreshes]

/-- What the registry and the snapshot keep up, whoever does something with them. -/
structure Serves (σ σ' : Upkeep) : Prop where
  grows : σ.registry.Grows σ'.registry
  snapshot : σ'.registry.Covers σ'.snapshot
  fresher : σ.snapshot.Fresher σ'.snapshot
  refreshes : σ'.refreshes = σ.refreshes

theorem Sound.serves_refl {σ : Upkeep} (h : σ.Sound) : σ.Serves σ where
  grows := (MeterBook.KeepsProgress.refl _).grows
  snapshot := h.snapshot
  fresher := h.snapshot.fresher
  refreshes := rfl

theorem Sound.serves_update {σ : Upkeep} (h : σ.Sound) {b : MeterBook}
    (grows : σ.registry.Grows b) : σ.Serves { σ with registry := b } where
  grows := grows
  snapshot := h.snapshot.grow grows
  fresher := h.snapshot.fresher
  refreshes := rfl

theorem grows_update {b : MeterBook} {k : Key} {m : Meter}
    (climbs : ∀ n, b k = some n → lags m.progress n.progress = false) :
    b.Grows (Function.update b k (some m)) := by
  intro k' n is
  by_cases here : k' = k
  · subst here
    exact ⟨m, by simp, climbs n is⟩
  · exact ⟨n, by simpa [here] using is, lags_self _⟩

theorem keepsProgress_update {b : MeterBook} {k : Key} {m : Meter}
    (keeps : ∀ n, b k = some n → m.progress = n.progress) :
    b.KeepsProgress (Function.update b k (some m)) := by
  intro k' n is
  by_cases here : k' = k
  · subst here
    exact ⟨m, by simp, keeps n is⟩
  · exact ⟨n, by simpa [here] using is, rfl⟩

/-- A pass that has saved progress knows it, unless the save is reported as failed. -/
theorem Truthful.save {b : MeterBook} {K : Told} (h : Truthful b K) {space id : String} {m : Meter}
    {p : Progress}
    (grows : b.Grows (Function.update b (space, id) (some { m with progress := some p })))
    (a : Except StoreError Unit) :
    Truthful (Function.update b (space, id) (some { m with progress := some p }))
      (K.after (.backfill (.save space id p)) a) where
  listed k hk := by
    have listed : k ∈ K.listed := by
      cases a <;> exact hk
    obtain ⟨n, is⟩ := h.listed k listed
    obtain ⟨n', is', -⟩ := grows k n is
    exact ⟨n', is'⟩
  known k p known := by
    cases a with
    | error e => cases known
    | ok u =>
      cases known
      exact ⟨_, Function.update_self .., rfl⟩

/-- A request that a pass may make keeps up the snapshot, and what the pass is told is so. -/
theorem Sound.answer {σ σ' : Upkeep} (h : σ.Sound) {K : Told} (truthful : Truthful σ.registry K)
    {r : TickRequest} (allows : K.Allows r) {a : r.Answer} (answers : TickAnswers σ r a σ') :
    σ.Serves σ' ∧ Truthful σ'.registry (K.after r a) := by
  cases allows with
  | snapshot =>
    cases answers with
    | meters answers =>
      cases answers
      refine ⟨h.serves_refl, ?_, by simp [Told.after]⟩
      intro k hk
      obtain ⟨m, hm, rfl⟩ := List.mem_map.1 hk
      obtain ⟨n, is, -⟩ := h.snapshot.ahead m hm
      exact ⟨n, is⟩
  | apply known =>
    cases answers with
    | meters answers =>
      cases answers
      obtain ⟨r, stored, is⟩ := truthful.known _ _ known
      refine ⟨⟨(MeterBook.KeepsProgress.refl _).grows, ?_, ?_, rfl⟩, truthful⟩
      · exact h.snapshot.setProgress stored is
      · exact h.snapshot.fresher_setProgress stored is
  | claim =>
    cases answers
    exact ⟨h.serves_refl, truthful⟩
  | release =>
    cases answers
    exact ⟨h.serves_refl, truthful⟩
  | read listed =>
    cases answers with
    | read found =>
      refine ⟨h.serves_refl, truthful.listed, ?_⟩
      intro k p known
      obtain ⟨n, is⟩ := truthful.listed _ listed
      cases known
      exact ⟨n, is, by rw [found n is]⟩
    | unread => exact ⟨h.serves_refl, truthful⟩
  | survey =>
    cases answers
    exact ⟨h.serves_refl, truthful⟩
  | copy =>
    cases answers
    exact ⟨h.serves_refl, truthful⟩
  | save known climbs =>
    rename_i space id p q
    obtain ⟨n, is, progress⟩ := truthful.known _ _ known
    cases answers with
    | saved found =>
      rename_i m
      have same : m = n := Option.some.inj (found.symm.trans is)
      subst same
      have grows : σ.registry.Grows (Function.update σ.registry (space, id)
          (some { m with progress := some q })) := by
        refine grows_update fun n' is' => ?_
        rw [← Option.some.inj (is.symm.trans is'), progress]
        exact climbs
      exact ⟨h.serves_update grows, truthful.save grows a⟩
    | unsaved => exact ⟨h.serves_refl, truthful.listed, by simp [Told.after]⟩

/-- A refresh keeps up the snapshot, and leaves the registry and the pass alone. -/
theorem Sound.refresh {σ σ' : Upkeep} (h : σ.Sound) {r : MeterRequest}
    {next : r.Answer → Program MeterRequest MeterRequest.Answer (Except StoreError Nat)}
    (asks : Refreshing σ.registry (.ask r next)) {a : r.Answer} (answers : Answers σ r a σ') :
    σ.Serves σ' ∧ σ'.registry = σ.registry ∧ σ'.pass = σ.pass ∧
      Refreshing σ.registry (next a) := by
  generalize is : (Program.ask r next : Program MeterRequest MeterRequest.Answer _) = p at asks
  cases asks with
  | begins =>
    cases is
    cases answers with
    | listed lists => exact ⟨h.serves_refl, rfl, rfl, .read lists.covers⟩
    | unlisted => exact ⟨h.serves_refl, rfl, rfl, .ended⟩
  | read covers =>
    cases is
    cases answers
    refine ⟨⟨(MeterBook.KeepsProgress.refl _).grows, ?_, ?_, rfl⟩, rfl, rfl, .ended⟩
    · exact h.snapshot.replaced covers
    · exact (h.snapshot.fresher_replaced covers).2
  | ended => cases is

/-- Definitions may come and change while progress stays. -/
theorem Sound.define {σ : Upkeep} (h : σ.Sound) {m : Meter}
    (keeps : ∀ n, σ.registry (keyOf m) = some n → m.progress = n.progress) :
    Sound { σ with registry := Function.update σ.registry (keyOf m) (some m) } := by
  have keeps := keepsProgress_update keeps
  obtain ⟨K, truthful, knows⟩ := h.pass
  constructor
  · exact h.snapshot.grow keeps.grows
  · exact ⟨K, truthful.keep keeps, knows⟩
  · intro p hp
    exact (h.refreshes p hp).grow keeps.grows

/-- Everything stays sound, and no meter of the snapshot loses progress. -/
theorem Sound.next {σ σ' : Upkeep} (h : σ.Sound) (next : Next σ σ') :
    σ'.Sound ∧ σ.snapshot.Fresher σ'.snapshot := by
  cases next with
  | tick ended s stepsPerTick now =>
    refine ⟨⟨h.snapshot, ?_, h.refreshes⟩, h.snapshot.fresher⟩
    exact ⟨.nothing, ⟨by simp [Told.nothing], by simp [Told.nothing]⟩,
      Backfill.tick_knows s stepsPerTick now⟩
  | goOn asks answers =>
    rename_i r next a σ'
    obtain ⟨K, truthful, knows⟩ := h.pass
    rw [asks] at knows
    obtain ⟨serves, truthful⟩ := h.answer truthful knows.1 answers
    refine ⟨⟨serves.snapshot, ⟨_, truthful, knows.2 a _ rfl⟩, ?_⟩, serves.fresher⟩
    intro p hp
    rw [serves.refreshes] at hp
    exact (h.refreshes p hp).grow serves.grows
  | refresh =>
    refine ⟨⟨h.snapshot, h.pass, ?_⟩, h.snapshot.fresher⟩
    intro p hp
    rcases List.mem_append.1 hp with hp | hp
    · exact h.refreshes p hp
    · rw [List.mem_singleton.1 hp]
      exact .begins
  | refreshed asks answers =>
    rename_i i r next a σ'
    obtain ⟨serves, registry, pass, rest⟩ :=
      h.refresh (h.refreshes _ (List.mem_of_getElem? asks)) answers
    refine ⟨⟨serves.snapshot, ?_, ?_⟩, serves.fresher⟩
    · rw [registry, pass]
      exact h.pass
    · intro p hp
      rw [registry]
      rcases List.mem_or_eq_of_mem_set hp with hp | rfl
      · exact h.refreshes p hp
      · exact rest
  | add new => exact ⟨h.define (by simp [new]), h.snapshot.fresher⟩
  | redefine found kept =>
    refine ⟨h.define fun n is => ?_, h.snapshot.fresher⟩
    rw [kept, Option.some.inj (found.symm.trans is)]

theorem Sound.reaches {σ σ' : Upkeep} (h : σ.Sound) (reaches : Reaches σ σ') : σ'.Sound := by
  induction reaches with
  | refl => exact h
  | tail _ next ih => exact (ih.next next).1

/--
Whatever comes next, no meter of the snapshot loses progress; and the snapshot that a refresh puts in
lags neither what the refresh read nor what the snapshot holds then.
-/
theorem fresher_of_reaches {σ₀ σ : Upkeep} (opens : σ₀.Opens) (reaches : Reaches σ₀ σ) :
    (∀ σ', Next σ σ' → σ.snapshot.Fresher σ'.snapshot) ∧
      ∀ (i : Nat) (loaded : List Meter) (next : Unit → Program MeterRequest MeterRequest.Answer
        (Except StoreError Nat)), σ.refreshes[i]? = some (.ask (.replace loaded) next) →
        Snapshot.Fresher loaded (σ.snapshot.replaced loaded) ∧
          Snapshot.Fresher σ.snapshot (σ.snapshot.replaced loaded) := by
  have sound := opens.sound.reaches reaches
  constructor
  · intro σ' next
    exact (sound.next next).2
  · intro i loaded next asks
    have refreshing := sound.refreshes _ (List.mem_of_getElem? asks)
    cases refreshing with
    | read covers => exact sound.snapshot.fresher_replaced covers

/-- A registry of one meter. -/
def opening : Upkeep where
  registry := fun k =>
    if k = keyOf Backfill.Engine.requestCount then some Backfill.Engine.requestCount else none
  snapshot := []
  pass := .done .empty
  refreshes := []

/-- Two refreshes read the meter; then the first goes on, a pass fixes the cutover and applies it, and
the second puts in what it read before. -/
theorem fresher_after_late_refresh : ∃ σ σ', Reaches opening σ ∧ Next σ σ' ∧
    σ.snapshot.map Meter.progress = [some ⟨some (.ofSeconds 60), none, [], false⟩] ∧
    σ'.snapshot.map Meter.progress = [some ⟨some (.ofSeconds 60), none, [], false⟩] ∧
    σ.snapshot.Fresher σ'.snapshot := by
  have lists : opening.registry.Lists [Backfill.Engine.requestCount] := by
    refine ⟨by simp, fun m => ?_⟩
    constructor
    · intro hm
      rw [List.mem_singleton.1 hm]
      rfl
    · intro is
      by_cases key : keyOf m = keyOf Backfill.Engine.requestCount
      · simp only [opening, if_pos key] at is
        exact List.mem_singleton.2 (Option.some.inj is).symm
      · simp [opening, if_neg key] at is
  have loaded := ((((((Relation.ReflTransGen.refl (r := Next) (a := opening)).tail
    .refresh).tail
    .refresh).tail
    (.refreshed (i := 0) rfl (.listed lists))).tail
    (.refreshed (i := 1) rfl (.listed lists))).tail
    (.refreshed (i := 0) rfl .replaced))
  have ticked := (((((((loaded.tail
    (.tick rfl .default 1 .epoch)).tail
    (.goOn rfl (.meters .held))).tail
    (.goOn rfl (.claimed (a := true)))).tail
    (.goOn rfl (.read (m := Backfill.Engine.requestCount) fun n is => Option.some.inj is))).tail
    (.goOn rfl (.saved (a := .ok ()) rfl))).tail
    (.goOn rfl .released)).tail
    (.goOn rfl (.meters .applied)))
  obtain ⟨σ, reaches, held, σ', late, kept⟩ : ∃ σ, Reaches opening σ ∧
      σ.snapshot.map Meter.progress = [some ⟨some (.ofSeconds 60), none, [], false⟩] ∧
      ∃ σ', Next σ σ' ∧
        σ'.snapshot.map Meter.progress = [some ⟨some (.ofSeconds 60), none, [], false⟩] :=
    ⟨_, ticked, rfl, _, .refreshed (i := 1) rfl .replaced, rfl⟩
  exact ⟨σ, σ', reaches, late, held, kept,
    (fresher_of_reaches ⟨rfl, ⟨_, rfl⟩, rfl⟩ reaches).1 σ' late⟩

end Upkeep

end Metering
