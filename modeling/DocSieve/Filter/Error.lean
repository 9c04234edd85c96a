-- SUMMARY: Why a request cannot be compiled.
import DocSieve.Filter.Operator
import DocSieve.Schema.Error
import DocSieve.Text.Integer
import DocSieve.Time.Stamp

/-!
# Filter errors

Each error is a fault of the caller. Errors have two kinds, which a caller can
tell by their codes: an operand that is no instant, and everything else.
-/

namespace DocSieve

inductive FilterErrorKind where
  | filter
  | dateFormat
deriving DecidableEq

namespace FilterErrorKind

def code : FilterErrorKind → String
  | .filter => "FILTER_INVALID"
  | .dateFormat => "FILTER_INVALID_DATE_FORMAT"

def text (k : FilterErrorKind) (message : String) : String :=
  match k with
  | .filter => "Invalid filter: " ++ message
  | .dateFormat => "Invalid date format: " ++ message

end FilterErrorKind

/-- Why a request cannot be compiled. -/
inductive FilterError where
  /-- A clause lacks a field, an operator or a value. -/
  | incompleteClause (field : String)
  /-- The field of a clause is no path, or leads nowhere. -/
  | schema (error : SchemaError)
  | unfilterableType (path : FieldPath) (typeName : String)
  | unsupportedOperator (operator : Operator) (type : SemanticType) (path : FieldPath)
  /-- `BETWEEN` lacks its upper bound. -/
  | missingOther (path : FieldPath)
  | notInteger (value : String) (path : FieldPath) (error : Text.IntegerError)
  | notInstant (value : String) (error : Stamp.OperandError)
deriving DecidableEq

namespace FilterError

def kind : FilterError → FilterErrorKind
  | .notInstant _ _ => .dateFormat
  | _ => .filter

def message : FilterError → String
  | .incompleteClause field => "Clause on '" ++ field ++ "' must have field, operator and value"
  | .schema error => error.message
  | .unfilterableType path typeName =>
    "Field '" ++ path.toText ++ "' of type " ++ typeName ++ " cannot be filtered"
  | .unsupportedOperator operator type path =>
    "Operator " ++ operator.name ++ " is not supported on " ++ type.name ++ " field '"
      ++ path.toText ++ "'"
  | .missingOther path => "BETWEEN on '" ++ path.toText ++ "' requires otherValue"
  | .notInteger value path error =>
    "'" ++ value ++ "' is not an integer for field '" ++ path.toText ++ "': " ++ error.message
  | .notInstant value .unknownFormat =>
    "'" ++ value ++ "' is not YYYY-MM-DD, YYYY-MM-DDTHH:MM:SS or YYYY-MM-DDTHH:MM:SS.ffffffZ"
  | .notInstant value .noSuchInstant => "'" ++ value ++ "' is not a valid date"

def code (e : FilterError) : String := e.kind.code

def text (e : FilterError) : String := e.kind.text e.message

end FilterError

end DocSieve
