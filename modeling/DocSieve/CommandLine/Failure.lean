-- SUMMARY: What makes a command fail, as opposed to an answer that says what is wrong with a request.
import DocSieve.Json.Fault
import DocSieve.Schema.Error
import DocSieve.Settings
import DocSieve.Store.Collection

/-!
# Failures of commands
-/

namespace DocSieve

inductive FailureKind where
  | config
  | input
  | load
  | serve
deriving DecidableEq

namespace FailureKind

def code : FailureKind → String
  | .config => "QG_CLI_CONFIG_ERROR"
  | .input => "QG_CLI_IO_ERROR"
  | .load => "QG_CLI_LOAD_FAILED"
  | .serve => "QG_CLI_SERVE_FAILED"

def text (k : FailureKind) (message : String) : String := k.code ++ ": " ++ message

end FailureKind

/-- What is wrong with the input of a command. -/
inductive InputError where
  | notText
  | empty
  | json (fault : Json.Fault)
deriving DecidableEq

def InputError.message : InputError → String
  | .notText => Files.Error.notText.message
  | .empty => "Empty input"
  | .json fault => "JSON error: " ++ fault.message

/-- What makes a command fail. -/
inductive Failure where
  | settings (error : SettingsError)
  /-- A query needs a directory of documents. -/
  | noDataDir
  | invalidAddress
  | schemas (error : SchemaError)
  | collections (error : StoreError)
  | input (error : InputError)
  | addressInUse
deriving DecidableEq

namespace Failure

def kind : Failure → FailureKind
  | .settings _ | .noDataDir | .invalidAddress => .config
  | .schemas _ | .collections _ => .load
  | .input _ => .input
  | .addressInUse => .serve

def message : Failure → String
  | .settings error => error.message
  | .noDataDir => "query requires data_dir"
  | .invalidAddress => "Invalid listen address: invalid socket address syntax"
  | .schemas error => error.text
  | .collections error => error.text
  | .input error => error.message
  | .addressInUse => "HTTP server failed: Address already in use (os error 98)"

def text (f : Failure) : String := f.kind.text f.message

end Failure

end DocSieve
