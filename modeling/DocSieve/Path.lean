-- SUMMARY: Dotted field paths and the values they lead to.
import DocSieve.Json.Value
import DocSieve.Text.Blank
import DocSieve.Text.Pieces

/-!
# Field paths

A path is a text of names with dots between them. It has at least one name,
and no name is blank.
-/

namespace DocSieve

/-- A field path, as the names to follow. -/
structure FieldPath where
  segments : List String
deriving DecidableEq

namespace FieldPath

/-- The path of a text, unless one of its names is blank. -/
def ofText? (s : String) : Option FieldPath :=
  let segments := Text.pieces '.' s
  if segments.any Text.isBlank then none else some ⟨segments⟩

/-- The text of a path. -/
def toText (p : FieldPath) : String := String.intercalate "." p.segments

/-- The value that names lead to through nested objects. -/
def follow : List String → Json.Value → Option Json.Value
  | [], v => some v
  | s :: ss, v => (v.get? s).bind (follow ss)

/-- The value at the path of a document. -/
def lookup (p : FieldPath) (document : Json.Value) : Option Json.Value := follow p.segments document

end FieldPath

end DocSieve
