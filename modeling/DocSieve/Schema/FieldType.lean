-- SUMMARY: The types of fields, entity schemas, and the structure that a schema must have.
import DocSieve.Text.Blank

/-!
# Entity schemas

A schema names an entity and gives a type to each of its fields. An object
field has fields of its own. The fields of one object have pairwise different
names, and their order carries no meaning.
-/

namespace DocSieve

inductive FieldType where
  | text
  | integerId
  | timestamp
  | bool
  | float
  | object (fields : List (String × FieldType))

/-- A type as far as a filter tells types apart. -/
inductive SemanticType where
  | text
  | timestamp
  | integerId
  /-- A type that no filter is made for. -/
  | other (name : String)
deriving DecidableEq

namespace FieldType

def name : FieldType → String
  | .text => "string"
  | .integerId => "integer_id"
  | .timestamp => "timestamp"
  | .bool => "bool"
  | .float => "float"
  | .object _ => "object"

/-- What a type is to a filter. -/
def semantic : FieldType → SemanticType
  | .text => .text
  | .integerId => .integerId
  | .timestamp => .timestamp
  | t => .other t.name

end FieldType

namespace SemanticType

def name : SemanticType → String
  | .text => "string"
  | .timestamp => "timestamp"
  | .integerId => "integer_id"
  | .other name => name

end SemanticType

structure EntitySchema where
  entity : String
  description : Option String
  fields : List (String × FieldType)

/-! ## Structure -/

/-- What is wrong with the structure of a schema. -/
inductive StructureError where
  | unnamedEntity
  | invalidFieldName (name : String)
deriving DecidableEq

namespace StructureError

def message : StructureError → String
  | .unnamedEntity => "Schema must name its entity"
  | .invalidFieldName name => "Invalid field name '" ++ name ++ "'"

end StructureError

/-- Whether a field can be reached under its name. -/
def isFieldName (name : String) : Bool := name ≠ "" && !name.toList.contains '.'

mutual

/-- The first name inside a type that no path reaches. -/
def FieldType.badName? : FieldType → Option String
  | .object fields => badNameIn? fields
  | _ => none

/-- The first name in a list of fields that no path reaches. A name comes
before the names inside its field. -/
def badNameIn? : List (String × FieldType) → Option String
  | [] => none
  | (name, t) :: fields =>
    if isFieldName name then t.badName? <|> badNameIn? fields else some name

end

namespace EntitySchema

/-- What is wrong with the structure of a schema. -/
def structureError? (s : EntitySchema) : Option StructureError :=
  if Text.isBlank s.entity then some .unnamedEntity
  else (badNameIn? s.fields).map .invalidFieldName

end EntitySchema

end DocSieve
