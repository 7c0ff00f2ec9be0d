import Metering.Registry.Basic

/-!
A registry held in memory: the meters of each namespace by their ids. It is listed in that order, and
of several meters with one slug the one with the smallest id is found.
-/
namespace Metering

abbrev MemoryRegistry := KeyMap (KeyMap Meter)

namespace MemoryRegistry

def inSpace (r : MemoryRegistry) (space : String) : KeyMap Meter := (r.get? space).getD ∅

def metersIn (r : MemoryRegistry) (space : String) : List Meter :=
  (r.inSpace space).toList.map (·.2)

def list (r : MemoryRegistry) : Option String → List Meter
  | some space => r.metersIn space
  | none => r.toList.flatMap fun s => s.2.toList.map (·.2)

def byId? (r : MemoryRegistry) (space id : String) : Option Meter := (r.inSpace space).get? id

def find? (r : MemoryRegistry) (space name : String) : Option Meter :=
  r.byId? space name <|> (r.metersIn space).find? fun m => m.slug = name

def insert (r : MemoryRegistry) (m : Meter) : MemoryRegistry :=
  KeyMap.insert r m.space ((r.inSpace m.space).insert m.id m)

/-- The definition, with the progress stored before if there is any. -/
def put (r : MemoryRegistry) (m : Meter) : MemoryRegistry :=
  r.insert { m with progress := ((r.byId? m.space m.id).bind Meter.progress) <|> m.progress }

def setProgress? (r : MemoryRegistry) (space id : String) (p : Progress) : Option MemoryRegistry :=
  (r.byId? space id).map fun m =>
    KeyMap.insert r space ((r.inSpace space).insert id { m with progress := some p })

/-- The answer to a request, and the registry afterwards. -/
def answer (r : MemoryRegistry) : (q : RegistryRequest) → q.Answer × MemoryRegistry
  | .list space => (.ok (r.list space), r)
  | .get space name =>
    match r.find? space name with
    | some m => (.ok m, r)
    | none => (.error (.noMeter name), r)
  | .setProgress space id p =>
    match r.setProgress? space id p with
    | some r => (.ok (), r)
    | none => (.error (.noMeter id), r)
  | .put m => (.ok (), r.put m)

end MemoryRegistry

end Metering
