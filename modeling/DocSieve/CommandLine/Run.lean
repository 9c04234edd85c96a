-- SUMMARY: Running a command: loading what it needs, reading its input, and the lines that it writes.
import DocSieve.CommandLine.Address
import DocSieve.CommandLine.Arguments
import DocSieve.CommandLine.Failure
import DocSieve.Rest.Router

/-!
# Commands

A command loads the settings and the schemas first. What is wrong with a
request is an answer; everything else that goes wrong is a failure, and the
first one counts. A query that is given up is neither, and writes no line.
-/

namespace DocSieve

open Json

/-- What a command finds around it. -/
structure Surroundings where
  files : Files.FileSystem
  input : ByteArray
  /-- The ports that others listen on. -/
  takenPorts : List Nat
  /-- How documents are sorted. -/
  sorting : Sorting

/-! ## Input -/

/-- The bytes of the first line, with its end. -/
def firstLine : List UInt8 → List UInt8
  | [] => []
  | b :: bs => if b = 10 then [b] else b :: firstLine bs

/-- The request in a line of text. -/
def Request.ofLine (line : String) : Except InputError Request :=
  if Text.isBlank line then .error .empty else (Request.parse line).mapError .json

/-- The request in the first line of the input. The lines after it may hold
anything. -/
def Request.ofInput (input : ByteArray) : Except InputError Request :=
  match Files.Entry.textOfBytes ⟨(firstLine input.toList).toArray⟩ with
  | .ok line => Request.ofLine line
  | .error _ => .error .notText

/-! ## Answers -/

/-- The answer that gives `data`. -/
def okAnswer (data : Value) : Value := .object [("status", .string "ok"), ("data", data)]

/-- The answer that says what is wrong with a request. -/
def errorAnswer (code text : String) : Value :=
  .object [("status", .string "error"), ("code", .string code), ("message", .string text)]

/-- The answer with a compiled query. -/
def compileAnswer : Except FilterError Query → Value
  | .ok q => okAnswer q.toValue
  | .error e => errorAnswer e.code e.text

/-- The answer with the documents of a query. -/
def queryAnswer : Except Rejection (Option (List Value)) → Option Value
  | .ok documents => documents.map fun ds => okAnswer (.array ds)
  | .error r => some (errorAnswer r.code r.text)

/-! ## Commands -/

namespace Surroundings

/-- The settings and the schemas. -/
def boot (w : Surroundings) (config : String) : Except Failure (Settings × Registry) := do
  let settings ← (Settings.load w.files config).mapError .settings
  let registry ← (Registry.load w.files settings.schemaDir).mapError .schemas
  return (settings, registry)

/-- The collections of a directory. -/
def collections (w : Surroundings) (dir : String) :
    Except Failure (List (String × Collection)) :=
  (Collection.load w.files dir).mapError .collections

/-- The request in the input. -/
def request (w : Surroundings) : Except Failure Request :=
  (Request.ofInput w.input).mapError .input

/-- Compiles the request of the input. -/
def compile (w : Surroundings) (config entity : String) : Except Failure Value := do
  let (settings, registry) ← w.boot config
  let request ← w.request
  return compileAnswer (registry.compileAllowed settings.denylist entity request)

/-- Answers the request of the input. -/
def query (w : Surroundings) (config entity : String) : Except Failure (Option Value) := do
  let (settings, registry) ← w.boot config
  match settings.dataDir with
  | none => throw .noDataDir
  | some dir =>
    let collections ← w.collections dir
    let request ← w.request
    let service : Service := ⟨registry, settings.denylist, collections, w.sorting⟩
    return queryAnswer (service.query entity request)

/-- The settings with the port of the command line, if it gives one. -/
def overridden (settings : Settings) : Option Nat → Except Failure Settings
  | none => .ok settings
  | some port =>
    match settings.overridePort port with
    | (.ok (), settings) => .ok settings
    | (.error e, _) => .error (.settings e)

/-- The address that settings say to listen on. -/
def address (settings : Settings) : Except Failure SocketAddress :=
  match SocketAddress.ofText? settings.socketAddress with
  | some a => .ok a
  | none => .error .invalidAddress

/-- The service that answers over HTTP, the origins that may read its answers,
and the address that it listens on. -/
def serve (w : Surroundings) (config : String) (port : Option Nat) :
    Except Failure (Service × List String × SocketAddress) := do
  let (settings, registry) ← w.boot config
  let settings ← overridden settings port
  let address ← address settings
  let collections ← match settings.dataDir with
    | some dir => w.collections dir
    | none => pure []
  let origins ← settings.allowedOrigins.mapError .settings
  if w.takenPorts.contains address.port then throw .addressInUse
  return (⟨registry, settings.denylist, collections, w.sorting⟩, origins, address)

/-- Runs a command and gives the lines that it writes, unless it is given up. -/
def run (w : Surroundings) : Command → Except Failure (Option (List Value))
  | .compile config entity => (w.compile config entity).map fun line => some [line]
  | .query config entity => (w.query config entity).map fun line => line.map ([·])
  | .serve config port => (w.serve config port).map fun _ => some []

end Surroundings

end DocSieve
