import Metering.Filter.Json
import Metering.Meter.Json
import Metering.Query.Basic

/-!
Queries as JSON objects. All fields may be missing; all are written, with null for what is unset.
-/
namespace Metering

open Json

def WindowSize.ofTree? : Tree → Option WindowSize := Tree.named? WindowSize.all WindowSize.name

def TextFilter.ofTree? : Tree → Option TextFilter := Filter.ofTree? Tree.string?

def TextFilter.toValue (f : TextFilter) : Value := Filter.toValue .string f

def textsValue (xs : List String) : Value := .array (xs.map .string)

def Customer.ofTree? (t : Tree) : Option Customer := do
  let r ← t.record? ["id", "subject_keys"]
  return {
    id := ← r.required "id" Tree.string?
    subjects := ← r.withDefault "subject_keys" [] (Tree.array? Tree.string?) }

def Customer.toValue (c : Customer) : Value :=
  .object [("id", .string c.id), ("subject_keys", textsValue c.subjects)]

namespace Query

def fieldNames : List String :=
  ["from", "to", "window_size", "window_time_zone", "filter_subject", "filter_customer",
    "filter_group_by", "group_by", "cachable"]

def ofTree? (t : Tree) : Option Query := do
  let r ← t.record? fieldNames
  return {
    start := ← r.optional "from" Tree.instant?
    stop := ← r.optional "to" Tree.instant?
    window := ← r.optional "window_size" WindowSize.ofTree?
    zoneName := ← r.optional "window_time_zone" Tree.string?
    subjects := ← r.withDefault "filter_subject" [] (Tree.array? Tree.string?)
    customers := ← r.withDefault "filter_customer" [] (Tree.array? Customer.ofTree?)
    filters := ← r.withDefault "filter_group_by" ∅ (Tree.map? TextFilter.ofTree?)
    groupBy := ← r.withDefault "group_by" [] (Tree.array? Tree.string?)
    cachable := ← r.withDefault "cachable" false Tree.bool? }

def windowValue (size : WindowSize) : Value := .string size.name

def toValue (q : Query) : Value :=
  .object [("from", .ofOption instantValue q.start), ("to", .ofOption instantValue q.stop),
    ("window_size", .ofOption windowValue q.window),
    ("window_time_zone", .ofOption .string q.zoneName),
    ("filter_subject", textsValue q.subjects),
    ("filter_customer", .array (q.customers.map Customer.toValue)),
    ("filter_group_by", .object (q.filters.toList.map fun e => (e.1, TextFilter.toValue e.2))),
    ("group_by", textsValue q.groupBy), ("cachable", .bool q.cachable)]

end Query

end Metering
