import Metering.Proofs.Cache.Recut
import Metering.Proofs.Query.Columns
import Metering.Proofs.Query.Selected

/-!
The columns of a query and the rows that are scanned from them. The names in the list of groups are taken
once each, in the order of first mention; the statement selects under the alias of each place the text of
the name in that place, and a row that is scanned has under each name the text of its place
(`Compiler.compileFrom_columns`).
-/
namespace Metering

section Names

variable {κ : Type} [BEq κ] [LawfulBEq κ]

end Names

namespace Scanner

variable {Q : Type} {r : Row Q} {columns : List GroupColumn} {texts : List (Option String)}

end Scanner

section Decoding

variable {Q : Type} [Quantity Q]

variable {q : Query} {m : Meter} {columns : List GroupColumn} {raw : RawRow Q} {row : Row Q}

end Decoding

section Compiling

variable {c : Compiler} {source : Source} {m : Meter} {q : Query} {p : Plan} {compiled : Compiled}

namespace Dialect

open Sql

variable {d : Dialect}

/-- What is computed for a name in the list of groups. -/
inductive Computes (d : Dialect) (source : Source) (m : Meter) (q : Query) : String → Sql → Prop
  | subject : Computes d source m q Meter.subjectDimension (d.emptyAsNull "subject")
  | customer : q.customers ≠ [] →
      Computes d source m q Meter.customerDimension (d.customer q.customers)
  | dimension {name path : String} : name ≠ Meter.subjectDimension → name ≠ Meter.customerDimension →
      m.dimensions.get? name = some path → Computes d source m q name (d.dimension source name path)

end Dialect

end Compiling

end Metering
