-- SUMMARY: Cutting a text at a separator character.

/-!
# Pieces of a text

A text with `n` separators has `n + 1` pieces, some of which may be empty.
-/

namespace DocSieve.Text

/-- The pieces of a list of characters between the separators. -/
def splitAt (separator : Char) : List Char → List (List Char)
  | [] => [[]]
  | c :: cs =>
    if c = separator then [] :: splitAt separator cs
    else
      match splitAt separator cs with
      | [] => [[c]]
      | p :: ps => (c :: p) :: ps

/-- The pieces of a text between the separators. -/
def pieces (separator : Char) (s : String) : List String :=
  (splitAt separator s.toList).map String.ofList

end DocSieve.Text
