-- SUMMARY: Compiled queries: conditions that all have to be met, and an ordering of the result.
import DocSieve.Filter.Condition
import DocSieve.Filter.Request

/-!
# Queries
-/

namespace DocSieve

open Json

/-- What documents are ordered by. -/
inductive SortKey where
  /-- The value itself. -/
  | value
  /-- The instant that the value stores. -/
  | instant
deriving DecidableEq

def SortKey.name : SortKey → String
  | .value => "value"
  | .instant => "instant"

/-- An ordering of documents by one field. -/
structure OrderBy where
  /-- The path of the field, as the caller gave it. -/
  field : String
  direction : Direction
  key : SortKey
deriving DecidableEq

def OrderBy.toValue (o : OrderBy) : Value :=
  .object [("field", .string o.field), ("direction", .string o.direction.name),
    ("key", .string o.key.name)]

/-- A compiled request. -/
structure Query where
  /-- The conditions, all of which a document has to meet. -/
  conditions : List Condition
  order : Option OrderBy
deriving DecidableEq

namespace Query

/-- Whether a document meets all conditions. -/
def admits (q : Query) (document : Value) : Bool := q.conditions.all (·.admits document)

def toValue (q : Query) : Value :=
  .object <| ("predicate", .array (q.conditions.map Condition.toValue))
    :: Clause.given "order" OrderBy.toValue q.order

end Query

end DocSieve
