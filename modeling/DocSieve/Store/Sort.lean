-- SUMMARY: Sorting documents by the value or the instant at a path.
import DocSieve.Filter.Query
import DocSieve.Store.Order
import DocSieve.Store.Sorting

/-!
# Sorting documents

Sorting is stable in both directions: documents of the same rank keep their
order. A field that is no path leaves the documents as they are. The order of
values is not a total preorder on all documents, so sorting by it can give up.
-/

namespace DocSieve

open Json

/-- An order or its reverse. -/
def Direction.apply (d : Direction) (o : Ordering) : Ordering :=
  match d with
  | .ascending => o
  | .descending => o.swap

/-- The order of two values under a sort key. Values that store no instant
count as missing. -/
def SortKey.order (key : SortKey) (a b : Option Value) : Ordering :=
  match key with
  | .value => orderMissing Value.order a b
  | .instant => orderMissing Instant.order (a.bind Value.instant?) (b.bind Value.instant?)

namespace OrderBy

/-- The order of two documents by the values at a path. -/
def compareAt (o : OrderBy) (path : FieldPath) (a b : Value) : Ordering :=
  o.direction.apply (o.key.order (path.lookup a) (path.lookup b))

/-- Sorts documents, unless the sort gives up. -/
def sort (o : OrderBy) (sorting : Sorting) (documents : List Value) : Option (List Value) :=
  match FieldPath.ofText? o.field with
  | some path => sorting.sort (o.compareAt path) documents
  | none => some documents

end OrderBy

end DocSieve
