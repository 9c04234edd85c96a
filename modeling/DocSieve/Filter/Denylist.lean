-- SUMMARY: Fields that callers may not filter or order by.
import DocSieve.Filter.Request

/-!
# Denylist

Clauses on a denied field are dropped, not refused, and so is an ordering by
one. Names are compared as they are written.
-/

namespace DocSieve

/-- The denied fields. -/
structure Denylist where
  fields : List String
deriving DecidableEq

namespace Denylist

/-- Whether a field is denied. -/
def contains (d : Denylist) (field : String) : Bool := d.fields.contains field

/-- The clauses on fields that are not denied. -/
def keep (d : Denylist) (clauses : List Clause) : List Clause :=
  clauses.filter fun c => !d.contains c.field

/-- The clauses without the denied ones. No list stays none. -/
def strip (d : Denylist) (clauses : Option (List Clause)) : Option (List Clause) :=
  clauses.map d.keep

/-- A request without its clauses on denied fields and without an ordering by
one. -/
def stripRequest (d : Denylist) (r : Request) : Request :=
  { r with filters := d.strip r.filters, orderBy := r.orderBy.filter fun f => !d.contains f }

end Denylist

/-- The clauses without those on one field. -/
def Clause.withoutField (clauses : Option (List Clause)) (field : String) : Option (List Clause) :=
  (Denylist.mk [field]).strip clauses

end DocSieve
