-- SUMMARY: Collections of documents: running a query on one, and loading a directory of them.
import DocSieve.Files.Entry
import DocSieve.Json.Decode
import DocSieve.Store.Sort

/-!
# Collections

A collection is a list of objects. A directory of documents has one file for
each collection, which is named after it.
-/

namespace DocSieve

open Json

/-- What keeps a file from being a collection. -/
inductive CollectionFlaw where
  | invalidJson (fault : Fault)
  | notAnObject (index : Nat)
deriving DecidableEq

def CollectionFlaw.message : CollectionFlaw → String
  | .invalidJson fault => "Invalid JSON: " ++ fault.message
  | .notAnObject index => "Element " ++ toString index ++ " is not an object"

/-- What can go wrong when collections are loaded. -/
inductive StoreError where
  | unreadable (path : String) (error : Files.Error)
  | malformed (path : String) (flaw : CollectionFlaw)
deriving DecidableEq

def StoreError.text : StoreError → String
  | .unreadable path error => "Failed to read '" ++ path ++ "': " ++ error.message
  | .malformed path flaw => "Malformed collection file '" ++ path ++ "': " ++ flaw.message

/-- The documents of an entity. -/
structure Collection where
  documents : List Value

namespace Collection

def size (c : Collection) : Nat := c.documents.length

def isEmpty (c : Collection) : Bool := c.documents.isEmpty

/-- The documents that a query asks for, in the order that it asks for, unless
sorting them is given up. -/
def run (c : Collection) (sorting : Sorting) (q : Query) : Option (List Value) :=
  let found := c.documents.filter q.admits
  match q.order with
  | some o => o.sort sorting found
  | none => some found

/-! ## Loading -/

def parse (text : String) : Except CollectionFlaw Collection :=
  match (Decoder.sequence Decoder.anyValue).run text with
  | .error fault => .error (.invalidJson fault)
  | .ok documents =>
    match documents.findIdx? (!·.isObject) with
    | some index => .error (.notAnObject index)
    | none => .ok ⟨documents⟩

/-- The collection that a file holds, from what reading it gives. -/
def ofFile (path : String) (content : Except Files.Error String) :
    Except StoreError Collection :=
  match content with
  | .error e => .error (.unreadable path e)
  | .ok text => (parse text).mapError (.malformed path)

/-- The name of the collection that a file holds: its stem, if that is a text. -/
def nameOf? (file : Files.Name) : Option String := file.jsonStem?.bind (·.text?)

/-- The collections of files of the directory `dir`, one after the other. Files
that give no name to a collection are passed over. -/
def ofFiles (fs : Files.FileSystem) (dir : String) :
    List Files.Name → Except StoreError (List (String × Collection))
  | [] => .ok []
  | file :: files =>
    match nameOf? file with
    | none => ofFiles fs dir files
    | some name => do
      let collection ← ofFile (file.pathIn dir) (fs.readIn dir file)
      let collections ← ofFiles fs dir files
      return (name, collection) :: collections

/-- Loads the collections of a directory. -/
def load (fs : Files.FileSystem) (dir : String) : Except StoreError (List (String × Collection)) :=
  match fs.list dir with
  | .error e => .error (.unreadable dir e)
  | .ok files => ofFiles fs dir files

end Collection

end DocSieve
