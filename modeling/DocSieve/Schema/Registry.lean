-- SUMMARY: The registry of entity schemas: registering, looking up, resolving paths, and loading a directory of schemas.
import DocSieve.Schema.Resolve
import DocSieve.Schema.Wire

/-!
# Schema registry

A registry holds at most one schema for an entity. It takes in schemas of good
structure only, and a schema that it refuses leaves it as it was.
-/

namespace DocSieve

/-- The schemas of the known entities, in the order in which they came. -/
structure Registry where
  schemas : List EntitySchema

namespace Registry

/-- The registry without schemas. -/
def empty : Registry := ⟨[]⟩

/-- The schema of an entity. -/
def get? (r : Registry) (entity : String) : Option EntitySchema :=
  r.schemas.find? (·.entity = entity)

def size (r : Registry) : Nat := r.schemas.length

/-- Adds a schema that comes from `file`. -/
def insert (r : Registry) (file : String) (s : EntitySchema) : Except SchemaError Registry :=
  match s.structureError? with
  | some error => .error (.malformed file (.structure error))
  | none =>
    if (r.get? s.entity).isSome then .error (.duplicateEntity s.entity)
    else .ok ⟨r.schemas ++ [s]⟩

/-- Stands for the file of a schema that comes from none. -/
def inMemory : String := "<in-memory>"

/-- Adds a schema that comes from no file. -/
def register (r : Registry) (s : EntitySchema) : Except SchemaError Registry := r.insert inMemory s

/-- Resolves a path on the schema of an entity. -/
def resolve (r : Registry) (entity : String) (path : FieldPath) : Except SchemaError ResolvedField :=
  match r.get? entity with
  | some s => s.resolve path
  | none => .error (.unknownEntity entity)

/-! ## Loading a directory -/

/-- The schema that a file holds, from what reading it gives. -/
def schemaOf (file : String) (content : Except Files.Error String) :
    Except SchemaError EntitySchema :=
  match content with
  | .error e => .error (.malformed file (.unreadableFile e))
  | .ok text => (EntitySchema.parse text).mapError fun f => .malformed file (.invalidJson f)

/-- Adds the schema of a file of the directory `dir`. -/
def insertFile (fs : Files.FileSystem) (dir : String) (r : Registry) (name : Files.Name) :
    Except SchemaError Registry := do
  let file := name.pathIn dir
  r.insert file (← schemaOf file (fs.readIn dir name))

/-- Adds the schemas of files of the directory `dir`, one after the other. -/
def insertFiles (fs : Files.FileSystem) (dir : String) (r : Registry) :
    List Files.Name → Except SchemaError Registry
  | [] => .ok r
  | name :: names => do
    let r ← r.insertFile fs dir name
    r.insertFiles fs dir names

/-- The schema files among the names of a directory, in their order. -/
def schemaFiles (names : List Files.Name) : List Files.Name :=
  (names.filter (·.jsonStem?.isSome)).mergeSort fun a b => a ≤ b

/-- Loads the schemas of a directory, one from each file with the extension
`json`. -/
def load (fs : Files.FileSystem) (dir : String) : Except SchemaError Registry :=
  match fs.list dir with
  | .error e => .error (.malformed dir (.unreadableDirectory e))
  | .ok names => empty.insertFiles fs dir (schemaFiles names)

end Registry

end DocSieve
