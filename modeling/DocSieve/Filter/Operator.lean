-- SUMMARY: The operators of filter clauses, their names, and reading one from JSON.
import DocSieve.Json.Decode

/-!
# Operators

On the wire an operator is its name, or an object with that name as its only
member and null as its value.
-/

namespace DocSieve

open Json

/-- An operator of a clause. -/
inductive Operator where
  | equals
  | contains
  | startsWith
  | endsWith
  | notEquals
  | greaterThan
  | lessThan
  /-- Between two operands, both included. -/
  | between
deriving DecidableEq

namespace Operator

def all : List Operator :=
  [.equals, .contains, .startsWith, .endsWith, .notEquals, .greaterThan, .lessThan, .between]

def name : Operator → String
  | .equals => "EQUALS"
  | .contains => "CONTAINS"
  | .startsWith => "STARTS_WITH"
  | .endsWith => "ENDS_WITH"
  | .notEquals => "NOT_EQUALS"
  | .greaterThan => "GREATER_THAN"
  | .lessThan => "LESS_THAN"
  | .between => "BETWEEN"

/-- The operator of that name. -/
def ofName (name : String) : Except Fault Operator :=
  match all.find? (·.name = name) with
  | some op => .ok op
  | none => .error (.misshapen [] (.unknownVariant name (all.map Operator.name)))

/-- The operator that a string of a text names. -/
def ofGlyphs (s : List Text.Glyph) : Except Fault Operator :=
  match Tree.text? s with
  | some name => ofName name
  | none => .error .malformed

/-- An operator, from its name or from an object that holds nothing else. -/
def decoder : Decoder Operator := fun room t =>
  match t with
  | .string s => ofGlyphs s
  | .object ((s, t) :: rest) closed =>
    enter room fun room => do
      let op ← ofGlyphs s
      part (.variant op.name) (Decoder.unit room t)
      if rest.isEmpty && closed then return op else .error .malformed
  | _ => .error .malformed

def toValue (op : Operator) : Value := .string op.name

def parse (text : String) : Except Fault Operator := decoder.run text

end Operator

end DocSieve
