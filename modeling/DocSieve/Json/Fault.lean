-- SUMMARY: What can be wrong with a JSON text: it breaks, or something in it has the wrong shape.
import DocSieve.Json.Tree
import DocSieve.Text.Quoted

/-!
# Faults of a JSON text

A text may stop being JSON, or it may be JSON of another shape than the
program wants. A fault of shape names what was found and what was wanted, and
keeps the way from the top of the text to it.
-/

namespace DocSieve.Json

/-- A kind of value that was found in the wrong place. -/
inductive Found where
  | null
  | bool (b : Bool)
  | number (n : Number)
  | string (s : String)
  | sequence
  | map
deriving DecidableEq

namespace Found

/-- How a message names what was found. -/
def message : Found → String
  | .null => "null"
  | .bool b => "boolean `" ++ toString b ++ "`"
  | .number (.int n) => "integer `" ++ toString n ++ "`"
  | .number (.double d) => "floating point `" ++ d.toText ++ "`"
  | .string s => "string " ++ Text.quoted s
  | .sequence => "sequence"
  | .map => "map"

end Found

/-- A kind of value that is wanted somewhere. -/
inductive Wanted where
  | text
  | pathText
  | sequence
  | map
  | port
  | unit
  | record (label : String)
  | variantName
  | variantIndex (count : Nat)
deriving DecidableEq

namespace Wanted

/-- How a message names what is wanted. -/
def message : Wanted → String
  | .text => "a string"
  | .pathText => "path string"
  | .sequence => "a sequence"
  | .map => "a map"
  | .port => "u16"
  | .unit => "unit"
  | .record label => "struct " ++ label
  | .variantName => "variant identifier"
  | .variantIndex count => "variant index 0 <= i < " ++ toString count

end Wanted

/-- What is wrong with the shape of a value. -/
inductive ShapeError where
  | invalidType (found : Found) (wanted : Wanted)
  | invalidValue (found : Found) (wanted : Wanted)
  /-- A record given as an array ends before a member that it needs. -/
  | invalidLength (length : Nat) (label : String) (count : Nat)
  | missingField (name : String)
  | duplicateField (name : String)
  | unknownVariant (name : String) (known : List String)
deriving DecidableEq

namespace ShapeError

/-- A name in a message. -/
def named (name : String) : String := "`" ++ name ++ "`"

def message : ShapeError → String
  | .invalidType found wanted =>
    "invalid type: " ++ found.message ++ ", expected " ++ wanted.message
  | .invalidValue found wanted =>
    "invalid value: " ++ found.message ++ ", expected " ++ wanted.message
  | .invalidLength length label count =>
    "invalid length " ++ toString length ++ ", expected struct " ++ label ++ " with "
      ++ toString count ++ " elements"
  | .missingField name => "missing field " ++ named name
  | .duplicateField name => "duplicate field " ++ named name
  | .unknownVariant name known =>
    "unknown variant " ++ named name ++ ", expected one of "
      ++ String.intercalate ", " (known.map named)

end ShapeError

/-! ## Places -/

/-- One step from a value to a part of it. -/
inductive Step where
  | member (name : String)
  | item (index : Nat)
  | variant (name : String)
deriving DecidableEq

namespace Step

/-- The text of a step. A name behind another step follows a dot. -/
def text (first : Bool) : Step → String
  | .member name | .variant name => if first then name else "." ++ name
  | .item index => "[" ++ toString index ++ "]"

/-- The text of the way to a part. -/
def pathText : List Step → String
  | [] => ""
  | s :: ss => s.text true ++ String.join (ss.map (text false))

end Step

/-! ## Faults -/

/-- What is wrong with a JSON text. -/
inductive Fault where
  /-- The text is not JSON. -/
  | malformed
  /-- The part at the end of `path` has the wrong shape. -/
  | misshapen (path : List Step) (error : ShapeError)
deriving DecidableEq

namespace Fault

/-- Stands for the wording of a fault that is not one of shape, which no
answer shows. -/
def malformedMessage : String := "<syntax>"

def message : Fault → String
  | .malformed => malformedMessage
  | .misshapen _ error => error.message

/-- The text of a fault, with its place unless that is the whole text. -/
def placedMessage : Fault → String
  | .malformed => malformedMessage
  | .misshapen [] error => error.message
  | .misshapen path error => Step.pathText path ++ ": " ++ error.message

/-- The fault as seen from one step further out. -/
def inside (step : Step) : Fault → Fault
  | .malformed => .malformed
  | .misshapen path error => .misshapen (step :: path) error

end Fault

/-! ## What a tree is found to be -/

/-- What a tree shows at its front, if that much of it can be read. -/
def Tree.found? : Tree → Option Found
  | .null => some .null
  | .bool b => some (.bool b)
  | .number t => t.number?.map .number
  | .string s => (Tree.text? s).map .string
  | .array _ _ => some .sequence
  | .object _ _ => some .map
  | .broken => none

/-- The fault of a tree where something else is wanted. -/
def Tree.unexpected (t : Tree) (wanted : Wanted) : Fault :=
  match t.found? with
  | some found => .misshapen [] (.invalidType found wanted)
  | none => .malformed

end DocSieve.Json
