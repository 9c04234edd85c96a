-- SUMMARY: Files and directories as values, finding an entry by its path, reading it, and what can go wrong.
import DocSieve.Files.Name

/-!
# Files and directories

A program that reads files is a function of what its paths lead to. An entry
is a file with its bytes or a directory with named entries, in the order in
which it lists them. A file system may list names that are no text; the one of
an entry lists texts.
-/

namespace DocSieve.Files

/-- What can keep an entry from being read. -/
inductive Error where
  | notFound
  | notDirectory
  | isDirectory
  /-- The path, or a name in it, has too many bytes. -/
  | nameTooLong
  /-- The path holds the character that ends a path. -/
  | nulInPath
  /-- The bytes of a file are no text. -/
  | notText
  /-- Anything else that the system reports, in its words. -/
  | other (text : String)
deriving DecidableEq

namespace Error

/-- The text of an error, with the number that the system gives to it. -/
def message : Error → String
  | .notFound => "No such file or directory (os error 2)"
  | .notDirectory => "Not a directory (os error 20)"
  | .isDirectory => "Is a directory (os error 21)"
  | .nameTooLong => "File name too long (os error 36)"
  | .nulInPath => "file name contained an unexpected NUL byte"
  | .notText => "stream did not contain valid UTF-8"
  | .other text => text

end Error

/-- A file or a directory. -/
inductive Entry where
  | file (bytes : ByteArray)
  | directory (entries : List (String × Entry))

/-- Checks a path as a text, before it is followed. -/
def checkPath (path : String) : Except Error Unit :=
  if path.toList.contains '\x00' then .error .nulInPath
  else if path = "" then .error .notFound
  else if maxPathLength < path.utf8ByteSize then .error .nameTooLong
  else .ok ()

namespace Entry

/-- A directory of which nothing is known. -/
def outside : Entry := .directory []

/-- The entry that pieces of a path lead to. `above` are the directories
around `here`, nearest first, and around all of them it is `outside`. -/
def follow (above : List Entry) (here : Entry) : List String → Except Error Entry
  | [] => .ok here
  | p :: ps =>
    match here with
    | .file _ => .error .notDirectory
    | .directory entries =>
      if p = "" ∨ p = "." then follow above here ps
      else if p = ".." then
        match above with
        | [] => follow [] outside ps
        | d :: ds => follow ds d ps
      else if maxNameLength < p.utf8ByteSize then .error .nameTooLong
      else
        match entries.lookup p with
        | some e => follow (here :: above) e ps
        | none => .error .notFound

/-- The entry at a path, as seen from the directory `root`. Around that
directory there is nothing else. -/
def find (root : Entry) (path : String) : Except Error Entry := do
  checkPath path
  let start := if isAbsolute path then outside else root
  start.follow [] (Text.pieces '/' path)

/-- The text of bytes, if they are UTF-8. -/
def textOfBytes (bytes : ByteArray) : Except Error String :=
  match String.fromUTF8? bytes with
  | some s => .ok s
  | none => .error .notText

def text : Entry → Except Error String
  | .file bytes => textOfBytes bytes
  | .directory _ => .error .isDirectory

/-- The text of a file that a path leads to. -/
def textAt (path : String) (e : Entry) : Except Error String := do
  checkPath path
  e.text

/-- The entries of a directory. -/
def list : Entry → Except Error (List (String × Entry))
  | .file _ => .error .notDirectory
  | .directory entries => .ok entries

end Entry

/-- What paths lead to. -/
structure FileSystem where
  /-- The text of the file at a path. -/
  read : String → Except Error String
  /-- The names of the entries of the directory at a path, in the order in which
  it lists them. -/
  list : String → Except Error (List Name)
  /-- The text of the file of that name in the directory at a path. -/
  readIn : String → Name → Except Error String

namespace FileSystem

/-- The file system in which `find` gives the entry at a path. -/
def ofFind (find : String → Except Error Entry) : FileSystem where
  read path := (find path).bind (·.text)
  list path := do
    let entries ← (find path).bind (·.list)
    return entries.map fun e => .ofText e.1
  readIn path name := do
    let entries ← (find path).bind (·.list)
    match entries.find? fun e => Name.ofText e.1 = name with
    | some (n, e) => e.textAt (join path n)
    | none => .error .notFound

/-- The file system as seen from a directory. -/
def ofRoot (root : Entry) : FileSystem := ofFind root.find

end FileSystem

end DocSieve.Files
