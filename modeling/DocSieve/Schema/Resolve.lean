-- SUMMARY: Following a field path through the declarations of a schema.
import DocSieve.Schema.Error

/-!
# Resolving paths

Each name of a path but the last must be that of an object field. The type of
the field that the last name declares is what the path resolves to.
-/

namespace DocSieve

/-- A path together with the type of the field it leads to. -/
structure ResolvedField where
  type : SemanticType
  path : FieldPath
deriving DecidableEq

namespace EntitySchema

/-- Follows `segments`, what is left of `path`, through `fields`. -/
def walk (s : EntitySchema) (path : FieldPath) :
    List String → List (String × FieldType) → Except SchemaError ResolvedField
  | [], _ => .error (.emptyPath path.toText)
  | segment :: rest, fields =>
    match fields.lookup segment, rest with
    | none, _ => .error (.unknownField s.entity segment path)
    | some t, [] => .ok ⟨t.semantic, path⟩
    | some (.object nested), rest => s.walk path rest nested
    | some t, _ => .error (.notAnObject s.entity segment t.name path)

/-- Resolves a path on a schema. -/
def resolve (s : EntitySchema) (path : FieldPath) : Except SchemaError ResolvedField :=
  s.walk path path.segments s.fields

end EntitySchema

end DocSieve
