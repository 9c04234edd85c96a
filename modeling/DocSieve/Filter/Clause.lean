-- SUMMARY: Filter clauses: a field, an operator and its operands, as a caller gives them.
import DocSieve.Filter.Operator

/-!
# Clauses

A clause is taken as it comes. Whether it means anything is decided when it is
compiled.
-/

namespace DocSieve

open Json

/-- One condition of a request. -/
structure Clause where
  field : String
  operator : Option Operator
  value : Option String
  /-- The upper bound of `BETWEEN`. -/
  otherValue : Option String
deriving DecidableEq

namespace Clause

/-- The clause that gives nothing. -/
def empty : Clause := ⟨"", none, none, none⟩

/-- A clause with one operand. -/
def of (field : String) (operator : Operator) (value : String) : Clause :=
  ⟨field, some operator, some value, none⟩

/-- The clause with a second operand. -/
def withOther (c : Clause) (other : String) : Clause := { c with otherValue := some other }

/-- A clause of the operator `BETWEEN`. -/
def between (field low high : String) : Clause := (of field .between low).withOther high

/-- A clause is complete when it has a field, an operator and a value, and
neither text is empty. -/
def isComplete (c : Clause) : Bool :=
  c.field ≠ "" && c.operator.isSome && c.value.any (· ≠ "")

/-! ## JSON -/

def label : String := "FilterClause"

def members : List (Decoder.Member Clause) :=
  [.optional "field" Decoder.string fun a c => { c with field := a },
   .optional "operator" (Decoder.optional Operator.decoder) fun a c => { c with operator := a },
   .optional "value" (Decoder.optional Decoder.string) fun a c => { c with value := a },
   .optional "otherValue" (Decoder.optional Decoder.string) fun a c => { c with otherValue := a }]

def decoder : Decoder Clause := Decoder.record label members empty

def parse (text : String) : Except Fault Clause := decoder.run text

/-- A member that is left out if there is no value for it. -/
def given (name : String) (f : α → Value) : Option α → List (String × Value)
  | some a => [(name, f a)]
  | none => []

/-- A clause as a value. What it does not give is left out. -/
def toValue (c : Clause) : Value :=
  .object <| ("field", .string c.field) :: given "operator" Operator.toValue c.operator
    ++ given "value" .string c.value ++ given "otherValue" .string c.otherValue

end Clause

end DocSieve
