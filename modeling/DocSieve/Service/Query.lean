-- SUMMARY: The query service: compiling a request for a collection and running it.
import DocSieve.Filter.Compile
import DocSieve.Service.Rejection
import DocSieve.Store.Collection

/-!
# Query service

A collection has the name of the entity whose schema its requests are compiled
against. That the collection exists is checked before anything else. A query
that is not rejected still has no result if sorting the documents is given up.
-/

namespace DocSieve

open Json

/-- What queries are answered from. -/
structure Service where
  registry : Registry
  denylist : Denylist
  collections : List (String × Collection)
  /-- How documents are sorted. -/
  sorting : Sorting

namespace Service

/-- The documents of a collection that a request asks for, unless sorting them
is given up. -/
def query (s : Service) (name : String) (request : Request) :
    Except Rejection (Option (List Value)) :=
  match s.collections.lookup name with
  | none => .error (.unknownCollection name)
  | some collection => do
    let q ← (s.registry.compileAllowed s.denylist name request).mapError .filter
    return collection.run s.sorting q

/-- Documents as an answer: the documents and how many there are. -/
def listing (documents : List Value) : Value :=
  .object [("data", .array documents), ("count", .int documents.length)]

end Service

end DocSieve
