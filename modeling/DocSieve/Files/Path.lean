-- SUMMARY: File paths as text: their pieces, joining a directory with a path, and the directory that holds a file.
import DocSieve.Text.Pieces

/-!
# File paths

Paths are kept as they are written. A path that starts with a slash is
absolute. Empty pieces and pieces that are a single dot lead nowhere.
-/

namespace DocSieve.Files

/-- Whether a path is absolute. -/
def isAbsolute (path : String) : Bool := path.toList.head? = some '/'

/-- The number of bytes that the name of an entry may have. -/
def maxNameLength : Nat := 255

/-- The number of bytes that a path may have. -/
def maxPathLength : Nat := 4095

/-- The path of `path` as seen from the directory `base`. -/
def join (base path : String) : String :=
  if isAbsolute path then path
  else if base = "" ∨ base.toList.getLast? = some '/' then base ++ path
  else base ++ "/" ++ path

/-- Drops the last pieces that lead nowhere, given last piece first. The
first piece of a path stays. -/
def dropIdle : List String → List String
  | [] => []
  | [p] => [p]
  | p :: q :: ps => if p = "" ∨ p = "." then dropIdle (q :: ps) else p :: q :: ps

/-- The path of the directory that holds the last piece of `path`. -/
def parent? (path : String) : Option String :=
  match dropIdle (Text.pieces '/' path).reverse with
  | [] => none
  | [p] => if p = "" then none else some ""
  | _ :: ps =>
    match (dropIdle ps).reverse with
    | [""] => some "/"
    | qs => some (String.intercalate "/" qs)

end DocSieve.Files
