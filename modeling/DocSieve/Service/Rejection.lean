-- SUMMARY: Why a query is rejected: its filter, its collection, or the body that should hold it.
import DocSieve.Filter.Error
import DocSieve.Json.Fault

/-!
# Rejections
-/

namespace DocSieve

inductive RejectionKind where
  | filter (kind : FilterErrorKind)
  | unknownCollection
  | invalidBody
deriving DecidableEq

namespace RejectionKind

def code : RejectionKind → String
  | .filter kind => kind.code
  | .unknownCollection => "COLLECTION_NOT_FOUND"
  | .invalidBody => "INVALID_BODY"

def status : RejectionKind → Nat
  | .unknownCollection => 404
  | _ => 400

def text (k : RejectionKind) (message : String) : String :=
  match k with
  | .filter kind => kind.text message
  | .unknownCollection => "Collection not found: " ++ message
  | .invalidBody => "Invalid request body: " ++ message

def toValue (k : RejectionKind) (message : String) : Json.Value :=
  .object [("error", .string (k.text message)), ("code", .string k.code)]

end RejectionKind

/-- What is wrong with a body. -/
inductive BodyError where
  | contentType
  | tooLong
  | json (fault : Json.Fault)
deriving DecidableEq

def BodyError.message : BodyError → String
  | .contentType => "Expected request with `Content-Type: application/json`"
  | .tooLong => "Failed to buffer the request body: length limit exceeded"
  | .json .malformed =>
    "Failed to parse the request body as JSON: " ++ Json.Fault.malformedMessage
  | .json fault =>
    "Failed to deserialize the JSON body into the target type: " ++ fault.placedMessage

/-- Why a query is rejected. -/
inductive Rejection where
  | filter (error : FilterError)
  | unknownCollection (name : String)
  | invalidBody (error : BodyError)
deriving DecidableEq

namespace Rejection

def kind : Rejection → RejectionKind
  | .filter error => .filter error.kind
  | .unknownCollection _ => .unknownCollection
  | .invalidBody _ => .invalidBody

def message : Rejection → String
  | .filter error => error.message
  | .unknownCollection name => name
  | .invalidBody error => error.message

def code (r : Rejection) : String := r.kind.code

def text (r : Rejection) : String := r.kind.text r.message

end Rejection

end DocSieve
