-- SUMMARY: JSON values: the documents that are stored, filtered and sorted.
import DocSieve.Json.Number

/-!
# JSON values

A value is what a document holds. The members of an object have pairwise
different names. Their order carries no meaning.
-/

namespace DocSieve.Json

/-- A JSON value. -/
inductive Value where
  | null
  | bool (b : Bool)
  | number (n : Number)
  | string (s : String)
  | array (items : List Value)
  | object (members : List (String × Value))

namespace Value

/-- The integer `n` as a value. -/
def int (n : Int) : Value := .number (.int n)

/-- An optional text as a value, `null` if it is absent. -/
def ofText? : Option String → Value
  | some s => .string s
  | none => .null

/-! ## Members -/

/-- The member of that name, if the value is an object that has it. -/
def get? (v : Value) (name : String) : Option Value :=
  match v with
  | .object members => members.lookup name
  | _ => none

/-- Whether the value is an object. -/
def isObject : Value → Bool
  | .object _ => true
  | _ => false

/-- Whether the value is null. -/
def isNull : Value → Bool
  | .null => true
  | _ => false

end Value

/-- Sets the member `name`. A member of that name keeps its place. -/
def setMember (name : String) (a : α) : List (String × α) → List (String × α)
  | [] => [(name, a)]
  | (n, b) :: ms => if n = name then (n, a) :: ms else (n, b) :: setMember name a ms

end DocSieve.Json
