import Metering.Error
import Metering.Program
import Metering.Registry.Basic

/-!
The snapshot of the registry that queries and ingestion read. A refresh reads the whole registry and
then puts what it read in the place of the snapshot. Progress that was applied to the snapshot in the
meantime is kept where what was read is behind it.

Events find their meters through an index of places, made anew from every snapshot; it leads to the
meters that the events count for, in the order of the snapshot (`Snapshot.forEvents_eq_filter`).
-/
namespace Metering

abbrev Snapshot := List Meter

/-- Places in a list of meters, in order, for each namespace and type of events. -/
abbrev EventIndex := KeyMap (KeyMap (List Nat))

namespace EventIndex

def places (x : EventIndex) (space type : String) : List Nat :=
  (((KeyMap.get? x space).getD ∅).get? type).getD []

/-- A meter's place, put after those of the same namespace and type. -/
def add (x : EventIndex) (m : Meter) (i : Nat) : EventIndex :=
  KeyMap.insert x m.space (((KeyMap.get? x m.space).getD ∅).insert m.eventType
    (x.places m.space m.eventType ++ [i]))

theorem places_add (x : EventIndex) (m : Meter) (i : Nat) (space type : String) :
    (x.add m i).places space type =
      x.places space type ++ if m.covers space type then [i] else [] := by
  simp only [places, add, KeyMap.get?_insert, Meter.covers, Bool.and_eq_true, beq_iff_eq]
  by_cases here : m.space = space
  · subst here
    by_cases same : m.eventType = type
    · subst same
      simp [KeyMap.get?_insert]
    · have other : type ≠ m.eventType := fun is => same is.symm
      simp [KeyMap.get?_insert, same, other]
  · have other : space ≠ m.space := fun is => here is.symm
    simp [here, other]

end EventIndex

namespace Snapshot

def isNamed (space id : String) (m : Meter) : Bool := m.space == space && m.id == id

def find? (s : Snapshot) (space name : String) : Option Meter :=
  List.find? (isNamed space name) s <|>
    List.find? (fun m => m.space == space && m.slug == name) s

/-- The places of the meters, by their namespaces and the types of their events. -/
def index (s : Snapshot) : EventIndex := s.zipIdx.foldl (fun places e => places.add e.1 e.2) ∅

/-- The meters that events of a type count for. -/
def forEvents (s : Snapshot) (space type : String) : List Meter :=
  (s.index.places space type).filterMap fun i => s[i]?

/-- The places that meters are put at as they are listed. -/
theorem places_foldl_add (space type : String) (s : Snapshot) (first : Nat) (x : EventIndex) :
    ((s.zipIdx first).foldl (fun places e => places.add e.1 e.2) x).places space type =
      x.places space type ++
        ((s.zipIdx first).filter fun e => e.1.covers space type).map (·.2) := by
  induction s generalizing first x with
  | nil => simp
  | cons m s ih =>
    rw [List.zipIdx_cons, List.foldl_cons, ih, EventIndex.places_add]
    by_cases own : m.covers space type = true <;> simp [own]

/-- What the index leads to are the meters of a namespace and a type, in the order of the snapshot. -/
theorem forEvents_eq_filter (s : Snapshot) (space type : String) :
    s.forEvents space type = s.filter fun m => m.covers space type := by
  have listed : s.index.places space type =
      (s.zipIdx.filter fun e => e.1.covers space type).map (·.2) :=
    places_foldl_add space type s 0 ∅
  have led (es : List (Meter × Nat)) (placed : ∀ e ∈ es, s[e.2]? = some e.1) :
      (es.map (·.2)).filterMap (fun i => s[i]?) = es.map (·.1) := by
    induction es with
    | nil => rfl
    | cons e es ih =>
      obtain ⟨here, others⟩ := List.forall_mem_cons.1 placed
      rw [List.map_cons, List.filterMap_cons_some here, ih others, List.map_cons]
  have own : s.zipIdx.map (·.1) = s := List.zipIdx_map_fst 0 s
  calc s.forEvents space type
      = (s.zipIdx.filter fun e => e.1.covers space type).map (·.1) := by
        rw [forEvents, listed]
        apply led
        intro e mem
        exact List.mk_mem_zipIdx_iff_getElem?.1 (List.mem_filter.1 mem).1
    _ = (s.zipIdx.map (·.1)).filter fun m => m.covers space type := by
        rw [List.filter_map]
        rfl
    _ = s.filter fun m => m.covers space type := by rw [own]

def progress? (s : Snapshot) (space id : String) : Option Progress :=
  (List.find? (isNamed space id) s).bind Meter.progress

/-- A meter that was read, with the progress of the snapshot if it is further along. -/
def keepProgress (s : Snapshot) (m : Meter) : Meter :=
  match s.progress? m.space m.id with
  | none => m
  | some newer =>
    if m.progress.all fun p => p.isBehind newer then { m with progress := some newer } else m

/-- The snapshot after a refresh that read some meters. -/
def replaced (s : Snapshot) (loaded : List Meter) : Snapshot := loaded.map s.keepProgress

def setProgress (space id : String) (p : Progress) : Snapshot → Snapshot
  | [] => []
  | m :: s =>
    if isNamed space id m then { m with progress := some p } :: s
    else m :: setProgress space id p s

end Snapshot

/-- What is asked of the snapshot and of the registry behind it. -/
inductive MeterRequest where
  | registry (request : RegistryRequest)
  | snapshot
  /-- Puts what was read in the place of the snapshot. -/
  | replace (loaded : List Meter)
  /-- Applies progress that has been stored. -/
  | apply (space id : String) (progress : Progress)

def MeterRequest.Answer : MeterRequest → Type
  | registry request => request.Answer
  | snapshot => Snapshot
  | replace _ => Unit
  | apply .. => Unit

namespace Snapshot

/-- Reads the registry anew and answers with the number of meters. -/
def refresh : Program MeterRequest MeterRequest.Answer (Except StoreError Nat) :=
  .ask (.registry (.list none)) fun
    | .error e => .done (.error e)
    | .ok loaded => .ask (.replace loaded) fun _ => .done (.ok loaded.length)

/-- The failure to read a meter; one that is not there is the request's fault. -/
def lookupError (name : String) (e : StoreError) : Error :=
  if e.isNotFound then .meterNotFound name else .store e

/-- A meter of the snapshot, or else of the registry. -/
def resolve (space name : String) : Program MeterRequest MeterRequest.Answer (Except Error Meter) :=
  .ask .snapshot fun s =>
    match find? s space name with
    | some m => .done (.ok m)
    | none => .ask (.registry (.get space name)) fun
      | .ok m => .done (if m.space = space then .ok m else .error (.meterNotFound name))
      | .error e => .done (.error (lookupError name e))

end Snapshot

end Metering
