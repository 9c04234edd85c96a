-- SUMMARY: Names of directory entries: bytes that may be no text, their order, the stem of a JSON file, and how a name is shown.
import DocSieve.Files.Path
import DocSieve.Text.Utf8

/-!
# Names of entries

The name of an entry is a sequence of bytes, and nothing says that they are a
text. Names are ordered byte by byte.
-/

namespace DocSieve.Files

/-- The name of an entry of a directory. -/
structure Name where
  bytes : List UInt8
deriving DecidableEq

namespace Name

instance : LE Name := ⟨fun a b => a.bytes ≤ b.bytes⟩

instance : LT Name := ⟨fun a b => a.bytes < b.bytes⟩

instance (a b : Name) : Decidable (a ≤ b) := inferInstanceAs (Decidable (a.bytes ≤ b.bytes))

instance (a b : Name) : Decidable (a < b) := inferInstanceAs (Decidable (a.bytes < b.bytes))

/-- The name that is written as a text. -/
def ofText (s : String) : Name := ⟨s.toUTF8.toList⟩

/-- The text of a name, if it is one. -/
def text? (n : Name) : Option String := String.fromUTF8? ⟨n.bytes.toArray⟩

/-- How the name is shown in a message. -/
def shown (n : Name) : String := n.text?.getD (Text.replaced ⟨n.bytes.toArray⟩)

/-- The path of the entry of that name in the directory `dir`, as it is shown. -/
def pathIn (dir : String) (n : Name) : String := join dir n.shown

/-- The end of the names of JSON files. -/
def jsonEnding : List UInt8 := ".json".toUTF8.toList

/-- The stem of a name with the extension `json`. A name that is nothing but an
extension has no stem. -/
def jsonStem? (n : Name) : Option Name :=
  match jsonEnding.isSuffixOf? n.bytes with
  | some stem => if stem.isEmpty then none else some ⟨stem⟩
  | none => none

end Name

end DocSieve.Files
