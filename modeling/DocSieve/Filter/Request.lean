-- SUMMARY: Filter requests: clauses and an ordering, as a caller gives them.
import DocSieve.Filter.Clause

/-!
# Requests
-/

namespace DocSieve

open Json

/-- A direction of sorting. -/
inductive Direction where
  | ascending
  | descending
deriving DecidableEq

namespace Direction

def name : Direction → String
  | .ascending => "asc"
  | .descending => "desc"

/-- The direction of a text, without regard to the case of ASCII letters. -/
def ofText? (s : String) : Option Direction :=
  let lower := s.toList.map Char.toLower
  [ascending, descending].find? fun d => lower = d.name.toList

end Direction

structure Request where
  /-- No list is the same as an empty one: all documents match. -/
  filters : Option (List Clause)
  orderBy : Option String
  orderDirection : Option String
deriving DecidableEq

namespace Request

/-- The request that asks for all documents as they are. -/
def empty : Request := ⟨none, none, none⟩

def label : String := "FilterRequest"

def members : List (Decoder.Member Request) :=
  [.optional "filters" (Decoder.optional (Decoder.sequence Clause.decoder))
     fun a r => { r with filters := a },
   .optional "orderBy" (Decoder.optional Decoder.string) fun a r => { r with orderBy := a },
   .optional "orderDirection" (Decoder.optional Decoder.string)
     fun a r => { r with orderDirection := a }]

def decoder : Decoder Request := Decoder.record label members empty

def parse (text : String) : Except Fault Request := decoder.run text

/-- A request as a value. What it does not give is null. -/
def toValue (r : Request) : Value :=
  .object
    [("filters", (r.filters.map fun cs => .array (cs.map Clause.toValue)).getD .null),
     ("orderBy", .ofText? r.orderBy),
     ("orderDirection", .ofText? r.orderDirection)]

end Request

end DocSieve
