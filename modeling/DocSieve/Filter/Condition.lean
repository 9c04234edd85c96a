-- SUMMARY: Conditions on one field of a document, and when a document meets them.
import DocSieve.Path
import DocSieve.Text.LowerCase
import DocSieve.Time.Stamp

/-!
# Conditions

A condition looks at the value that a path leads to. A document whose value is
missing or of another type meets no condition, not even a negated one.
-/

namespace DocSieve

open Json

/-! ## Texts -/

/-- A way to compare two texts, both in lower case. -/
inductive TextTest where
  | equals
  | contains
  | startsWith
  | endsWith
  | notEquals
deriving DecidableEq

namespace TextTest

def all : List TextTest := [.equals, .contains, .startsWith, .endsWith, .notEquals]

def name : TextTest → String
  | .equals => "equals"
  | .contains => "contains"
  | .startsWith => "starts_with"
  | .endsWith => "ends_with"
  | .notEquals => "not_equals"

/-- Whether `needle` occurs in a list without gaps. -/
def occursIn (needle : List Char) : List Char → Bool
  | [] => needle.isEmpty
  | c :: cs => needle.isPrefixOf (c :: cs) || occursIn needle cs

/-- Whether a text passes the test against an operand. -/
def holds (t : TextTest) (operand actual : List Char) : Bool :=
  match t with
  | .equals => actual = operand
  | .contains => occursIn operand actual
  | .startsWith => operand.isPrefixOf actual
  | .endsWith => operand.isSuffixOf actual
  | .notEquals => actual ≠ operand

end TextTest

/-! ## Ordered values -/

/-- A comparison with one or two bounds. -/
inductive Comparison (α : Type) where
  | eq (bound : α)
  | ne (bound : α)
  | gt (bound : α)
  | lt (bound : α)
  /-- Between two bounds, both included. -/
  | between (low high : α)
deriving DecidableEq

namespace Comparison

/-- Whether a value stands in the given relation to the bounds. -/
def holds (order : α → α → Ordering) (actual : α) : Comparison α → Bool
  | .eq bound => order actual bound = .eq
  | .ne bound => order actual bound ≠ .eq
  | .gt bound => order actual bound = .gt
  | .lt bound => order actual bound = .lt
  | .between low high => order actual low ≠ .lt && order actual high ≠ .gt

def toValue (f : α → Value) : Comparison α → Value
  | .eq bound => .object [("eq", f bound)]
  | .ne bound => .object [("ne", f bound)]
  | .gt bound => .object [("gt", f bound)]
  | .lt bound => .object [("lt", f bound)]
  | .between low high => .object [("between", .array [f low, f high])]

end Comparison

/-! ## What a value is read as -/

/-- The text that a value holds. -/
def Json.Value.text? : Value → Option String
  | .string s => some s
  | _ => none

/-- The signed 64-bit integer that a value holds. -/
def Json.Value.int64? : Value → Option Int
  | .number n => n.int64?
  | _ => none

/-- The instant that a value stores as a text. -/
def Json.Value.instant? (v : Value) : Option Instant := v.text?.bind Stamp.stored?

/-! ## Conditions -/

/-- A condition on one field. -/
inductive Condition where
  /-- The operand is in lower case. -/
  | text (field : FieldPath) (test : TextTest) (operand : String)
  | timestamp (field : FieldPath) (comparison : Comparison Instant)
  | integer (field : FieldPath) (comparison : Comparison Int)
deriving DecidableEq

namespace Condition

/-- The field that a condition looks at. -/
def field : Condition → FieldPath
  | .text field _ _ | .timestamp field _ | .integer field _ => field

/-- Whether a value meets a condition. -/
def accepts (c : Condition) (v : Value) : Bool :=
  match c with
  | .text _ test operand =>
    v.text?.any fun s => test.holds operand.toList (Text.lower s).toList
  | .timestamp _ comparison => v.instant?.any (comparison.holds Instant.order ·)
  | .integer _ comparison => v.int64?.any (comparison.holds compare ·)

/-- Whether a condition lets a document through. -/
def admits (c : Condition) (document : Value) : Bool :=
  (c.field.lookup document).any fun v => !v.isNull && c.accepts v

theorem accepts_null (c : Condition) : c.accepts .null = false := by
  cases c <;> rfl

/-- Null needs no case of its own, since no condition accepts it. -/
theorem admits_eq_any (c : Condition) (document : Value) :
    c.admits document = (c.field.lookup document).any c.accepts := by
  unfold admits
  congr 1
  funext v
  cases v with
  | null => exact c.accepts_null.symm
  | _ => exact Bool.true_and _

def toValue : Condition → Value
  | .text field test operand =>
    .object [("type", .string "text"), ("field", .string field.toText),
      ("op", .string test.name), ("value", .string operand)]
  | .timestamp field comparison =>
    .object [("type", .string "timestamp"), ("field", .string field.toText),
      ("cmp", comparison.toValue fun i => .string i.toText)]
  | .integer field comparison =>
    .object [("type", .string "integer"), ("field", .string field.toText),
      ("cmp", comparison.toValue .int)]

end Condition

end DocSieve
