-- SUMMARY: Requests and answers over HTTP: routes, methods, bodies, and the origins that may read an answer.
import DocSieve.Rest.MediaType
import DocSieve.Rest.Target
import DocSieve.Service.Query

/-!
# Router

A request is answered in this order: a question about origins, an unknown
path, a wrong method, a name that is no text, a body that is no request, and
last the query itself. A query that is given up has no answer.
-/

namespace DocSieve

open Json

/-! ## Messages -/

/-- A request over HTTP. -/
structure HttpRequest where
  method : String
  target : String
  headers : List (String × String)
  body : ByteArray

/-- The first header of that name, which is given in lower case. -/
def HttpRequest.header? (r : HttpRequest) (name : String) : Option String :=
  (r.headers.find? fun h => h.1.toList.map Char.toLower = name.toList).map (·.2)

/-- The body of an answer. -/
inductive HttpBody where
  | empty
  | text (s : String)
  | json (v : Value)

/-- The content type of a body. -/
def HttpBody.contentType? : HttpBody → Option String
  | .empty => none
  | .text _ => some "text/plain; charset=utf-8"
  | .json _ => some "application/json"

/-- An answer over HTTP. -/
structure HttpAnswer where
  status : Nat
  body : HttpBody
  contentType : Option String
  /-- The methods that the path has, if the one asked for is not among them. -/
  allow : Option String
  /-- The origin that may read the answer. -/
  allowOrigin : Option String

namespace HttpAnswer

/-- An answer with a body. -/
def of (status : Nat) (body : HttpBody) : HttpAnswer :=
  ⟨status, body, body.contentType?, none, none⟩

/-- The answer to a method that a route lacks. -/
def wrongMethod (route : Target.Route) : HttpAnswer :=
  { of 405 .empty with allow := some route.methods }

/-- The answer to a rejected query. -/
def rejected (r : Rejection) : HttpAnswer := of r.kind.status (.json (r.kind.toValue r.message))

/-- An answer without its body. -/
def headOnly (a : HttpAnswer) : HttpAnswer := { a with body := .empty }

end HttpAnswer

/-! ## Bodies -/

/-- The length that a body may have. -/
def maxBodyLength : Nat := 2 * 1024 * 1024

/-- The request in a body. What follows it in the body does not matter. -/
def HttpRequest.filterRequest (r : HttpRequest) : Except BodyError Request :=
  if !(r.header? "content-type").any MediaType.isJson then .error .contentType
  else if maxBodyLength < r.body.size then .error .tooLong
  else (Request.decoder.front (Text.glyphsOfBytes r.body)).mapError .json

/-! ## Routes -/

/-- The version of the service. -/
def serviceVersion : String := "0.1.0"

/-- The answer to the question whether the service is up. -/
def healthAnswer : HttpAnswer :=
  .of 200 (.json (.object [("status", .string "ok"), ("version", .string serviceVersion)]))

/-- The result of the query in a request. -/
def Service.queryBody (s : Service) (name : String) (r : HttpRequest) :
    Except Rejection (Option (List Value)) := do
  let request ← r.filterRequest.mapError .invalidBody
  s.query name request

/-- The answer to a query of the collection with an encoded name. -/
def Service.queryAnswer (s : Service) (encoded : String) (r : HttpRequest) : Option HttpAnswer :=
  match Target.decodeText? encoded with
  | none => some (.of 400 (.text "Invalid URL: Invalid UTF-8 in `collection`"))
  | some name =>
    match s.queryBody name r with
    | .ok documents => documents.map fun ds => .of 200 (.json (Service.listing ds))
    | .error rejection => some (.rejected rejection)

/-- The answer of a service to a request. -/
def Service.answer (s : Service) (r : HttpRequest) : Option HttpAnswer :=
  match Target.route? (Target.path r.target) with
  | none => some (.of 404 .empty)
  | some .health =>
    if r.method = "GET" then some healthAnswer
    else if r.method = "HEAD" then some healthAnswer.headOnly
    else some (.wrongMethod .health)
  | some (.query name) =>
    if r.method = "POST" then s.queryAnswer name r else some (.wrongMethod (.query name))

/-! ## Origins -/

/-- The origins that may read answers. -/
inductive Origins where
  | any
  | only (origins : List String)
deriving DecidableEq

namespace Origins

/-- Stands for every origin. -/
def wildcard : String := "*"

/-- The origins of a list. An empty list stands for all, and the sign for all
may not be in a list. -/
def ofList? (origins : List String) : Option Origins :=
  if origins.isEmpty then some .any
  else if origins.contains wildcard then none
  else some (.only origins)

/-- The origin that an answer to a request from `origin` names. -/
def allowed? (o : Origins) (origin : Option String) : Option String :=
  match o with
  | .any => some wildcard
  | .only origins => origin.filter origins.contains

end Origins

/-! ## The router -/

/-- A service together with the origins that may read its answers. -/
structure Router where
  service : Service
  origins : Origins

namespace Router

/-- The router of a service, if the origins can be listed. -/
def of? (service : Service) (origins : List String) : Option Router :=
  (Origins.ofList? origins).map (⟨service, ·⟩)

/-- The answer to a question about origins, which no route has a method for. -/
def originAnswer (request : HttpRequest) : HttpAnswer :=
  { HttpAnswer.of 200 .empty with
    allow := (Target.route? (Target.path request.target)).map Target.Route.methods }

/-- The answer to a request. The method `OPTIONS` asks about origins only. -/
def answer (r : Router) (request : HttpRequest) : Option HttpAnswer :=
  let answer :=
    if request.method = "OPTIONS" then some (originAnswer request) else r.service.answer request
  answer.map fun a => { a with allowOrigin := r.origins.allowed? (request.header? "origin") }

end Router

end DocSieve
