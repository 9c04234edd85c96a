-- SUMMARY: A JSON text as far as it can be read: values in the order of the text, up to the place where it breaks.
import DocSieve.Json.Number
import DocSieve.Text.Utf8

/-!
# JSON trees

A tree is what a left-to-right reader sees. It keeps repeated names and the
order of members, and it marks the place where the text stops being JSON.
What a program wants of a text is judged on the tree, and the first thing
wrong on the way through it decides, be it a wrong kind of value or the end
of what is readable.
-/

namespace DocSieve.Json

open Text (Glyph)

/-- A JSON text up to the place where it breaks. -/
inductive Tree where
  | null
  | bool (b : Bool)
  | number (t : Numeral)
  /-- A string. A hole stands for an escape or a byte that is no character. -/
  | string (s : List Glyph)
  /-- An array, whose text breaks after the items if it is not closed. -/
  | array (items : List Tree) (closed : Bool)
  /-- An object, whose text breaks after the members if it is not closed. -/
  | object (members : List (List Glyph × Tree)) (closed : Bool)
  /-- No value. -/
  | broken

namespace Tree

/-- The text of a string without holes. -/
def text? (s : List Glyph) : Option String := (s.mapM id).map String.ofList

mutual

/-- Whether a tree is JSON to its end. Numbers of any size and holes are
allowed. -/
def sound : Tree → Bool
  | .null | .bool _ | .number _ | .string _ => true
  | .array items closed => soundItems items && closed
  | .object members closed => soundMembers members && closed
  | .broken => false

/-- `sound` for the items of an array. -/
def soundItems : List Tree → Bool
  | [] => true
  | t :: ts => t.sound && soundItems ts

/-- `sound` for the values of the members of an object. -/
def soundMembers : List (List Glyph × Tree) → Bool
  | [] => true
  | (_, t) :: ms => t.sound && soundMembers ms

end

end Tree

end DocSieve.Json
