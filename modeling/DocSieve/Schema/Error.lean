-- SUMMARY: What can go wrong with schemas: registering them, loading them, and resolving a path on them.
import DocSieve.Files.Entry
import DocSieve.Json.Fault
import DocSieve.Path
import DocSieve.Schema.FieldType

/-!
# Schema errors
-/

namespace DocSieve

/-- Why a schema cannot be taken in. -/
inductive SchemaFlaw where
  | unreadableDirectory (error : Files.Error)
  | unreadableFile (error : Files.Error)
  | invalidJson (fault : Json.Fault)
  | structure (error : StructureError)
deriving DecidableEq

namespace SchemaFlaw

def message : SchemaFlaw → String
  | .unreadableDirectory error => "Failed to read schema directory: " ++ error.message
  | .unreadableFile error => "Failed to read file: " ++ error.message
  | .invalidJson fault => "Invalid JSON: " ++ fault.message
  | .structure error => error.message

end SchemaFlaw

/-- What can go wrong with schemas. -/
inductive SchemaError where
  | unknownEntity (entity : String)
  /-- No field `segment` where the path asks for it. -/
  | unknownField (entity segment : String) (path : FieldPath)
  /-- The field `segment` has no fields, but the path goes on. -/
  | notAnObject (entity segment typeName : String) (path : FieldPath)
  | emptyPath (path : String)
  | malformed (file : String) (flaw : SchemaFlaw)
  | duplicateEntity (entity : String)
deriving DecidableEq

namespace SchemaError

def code : SchemaError → String
  | .unknownEntity _ => "QG_UNKNOWN_ENTITY"
  | .unknownField _ _ _ => "QG_UNKNOWN_FIELD"
  | .notAnObject _ _ _ _ => "QG_NOT_AN_OBJECT"
  | .emptyPath _ => "QG_EMPTY_PATH"
  | .malformed _ _ => "QG_MALFORMED_SCHEMA"
  | .duplicateEntity _ => "QG_DUPLICATE_ENTITY"

def message : SchemaError → String
  | .unknownEntity entity => "Entity '" ++ entity ++ "' has no schema"
  | .unknownField entity segment path =>
    "Field '" ++ segment ++ "' does not exist on '" ++ entity ++ "' (path '" ++ path.toText ++ "')"
  | .notAnObject entity segment typeName path =>
    "Field '" ++ segment ++ "' on '" ++ entity ++ "' is of type " ++ typeName
      ++ " and has no nested fields (path '" ++ path.toText ++ "')"
  | .emptyPath path => "Field path '" ++ path ++ "' is empty or has an empty segment"
  | .malformed file flaw => "Malformed schema file '" ++ file ++ "': " ++ flaw.message
  | .duplicateEntity entity => "Entity '" ++ entity ++ "' is already registered"

def text (e : SchemaError) : String := e.code ++ ": " ++ e.message

end SchemaError

/-- The path of a text, or the error that one of its names is blank. -/
def FieldPath.parse (s : String) : Except SchemaError FieldPath :=
  match ofText? s with
  | some p => .ok p
  | none => .error (.emptyPath s)

end DocSieve
