import Metering.Zone.Record
import Metering.Zone.Table.Alias
import Metering.Zone.Table.Region

/-!
Time zones by their names in the tz database, release 2025b. Names are case-sensitive. A further name
of a zone gives a zone with that name and the same history.
-/
namespace Metering.Zone

def histories : List (String × String) :=
  Table.africa ++ Table.america ++ Table.antarctica ++ Table.asia ++ Table.atlantic ++
    Table.australia ++ Table.etc ++ Table.europe ++ Table.indian ++ Table.pacific

/-- The name under which the history of a zone is recorded. -/
def recordedName (name : String) : String :=
  (Table.aliases.lookup name).getD name

def named? (name : String) : Option Zone :=
  (histories.lookup (recordedName name)).map (Record.read name)

/-- The zone asked for by an optional name, for which nothing and the empty name mean UTC. -/
def requested? : Option String → Option Zone
  | none => some utc
  | some name => if name = "" then some utc else named? name

end Metering.Zone
