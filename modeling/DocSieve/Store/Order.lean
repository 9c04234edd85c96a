-- SUMMARY: The order of JSON values and of missing values that sorting uses.
import DocSieve.Json.Value

/-!
# Order of values

A missing value comes before all others, then null, booleans, numbers,
strings, arrays and objects. Within a kind, booleans, numbers and strings have
their natural order, and any two arrays or objects are equal.
-/

namespace DocSieve

open Json

namespace Json.Value

/-- The rank of the kind of a value. -/
def rank : Value → Nat
  | .null => 0
  | .bool _ => 1
  | .number _ => 2
  | .string _ => 3
  | .array _ => 4
  | .object _ => 5

/-- The order of values. Strings are ordered by code points. -/
def order (a b : Value) : Ordering :=
  match a, b with
  | .bool x, .bool y => compare x y
  | .number x, .number y => x.order y
  | .string x, .string y => compare x y
  | a, b => compare a.rank b.rank

end Json.Value

/-- Extends an order by a missing value, which comes first. -/
def orderMissing (order : α → α → Ordering) : Option α → Option α → Ordering
  | none, none => .eq
  | none, some _ => .lt
  | some _, none => .gt
  | some a, some b => order a b

end DocSieve
