-- SUMMARY: Settings: reading them from a file, what they must satisfy, and replacing the port.
import DocSieve.Files.Entry
import DocSieve.Filter.Denylist
import DocSieve.Json.Decode
import DocSieve.Text.Blank

/-!
# Settings

Settings are a JSON file. Relative directories in it count from the directory
that holds the file.
-/

namespace DocSieve

open Json

/-- The settings of the program. -/
structure Settings where
  schemaDir : String
  dataDir : Option String
  /-- Fields that callers may not filter by. -/
  denied : List String
  host : String
  port : Nat
  /-- The origins that may read answers. None at all allows every origin. -/
  corsOrigins : List String
  /-- Which messages are logged, unless the environment says so. -/
  logFilter : String
deriving DecidableEq

/-- What is wrong with settings. -/
inductive SettingsError where
  | unreadable (error : Files.Error)
  | invalidJson (fault : Fault)
  | noSchemaDir
  | blankDenied
  | zeroPort
  | invalidOrigin (origin : String)
deriving DecidableEq

namespace SettingsError

def message : SettingsError → String
  | .unreadable error => "Failed to read config: " ++ error.message
  | .invalidJson fault => "Invalid config JSON: " ++ fault.message
  | .noSchemaDir => "schema_dir must not be empty"
  | .blankDenied => "denylist entries must not be empty"
  | .zeroPort => "port must be > 0"
  | .invalidOrigin origin => "Invalid CORS origin '" ++ origin ++ "'"

end SettingsError

namespace Settings

/-- The settings that name nothing but the directory of schemas. -/
def ofSchemaDir (dir : String) : Settings :=
  ⟨dir, none, ["password"], "0.0.0.0", 54321, [], "info"⟩

/-! ## JSON -/

def label : String := "Config"

def path : Decoder String := Decoder.stringAs .pathText

def texts : Decoder (List String) := Decoder.sequence Decoder.string

def members : List (Decoder.Member Settings) :=
  [.required "schema_dir" path fun a s => { s with schemaDir := a },
   .optional "data_dir" (Decoder.optional path) fun a s => { s with dataDir := a },
   .optional "denylist" texts fun a s => { s with denied := a },
   .optional "host" Decoder.string fun a s => { s with host := a },
   .optional "port" Decoder.port fun a s => { s with port := a },
   .optional "cors_origins" texts fun a s => { s with corsOrigins := a },
   .optional "log_filter" Decoder.string fun a s => { s with logFilter := a }]

def decoder : Decoder Settings := Decoder.record label members (ofSchemaDir "")

def parse (text : String) : Except Fault Settings := decoder.run text

/-- A list of texts as a value. -/
def textValues (ss : List String) : Value := .array (ss.map .string)

def toValue (s : Settings) : Value :=
  .object
    [("schema_dir", .string s.schemaDir), ("data_dir", .ofText? s.dataDir),
     ("denylist", textValues s.denied), ("host", .string s.host), ("port", .int s.port),
     ("cors_origins", textValues s.corsOrigins), ("log_filter", .string s.logFilter)]

/-! ## Validity -/

/-- Whether a character may stand in the value of a header. -/
def isHeaderChar (c : Char) : Bool := c = '\t' || (0x20 ≤ c.toNat && c.toNat ≠ 0x7F)

/-- Whether a text may be the value of a header. -/
def isHeaderValue (s : String) : Bool := s.toList.all isHeaderChar

/-- The origins that may read answers, if all of them can be sent. -/
def allowedOrigins (s : Settings) : Except SettingsError (List String) :=
  match s.corsOrigins.find? (!isHeaderValue ·) with
  | some origin => .error (.invalidOrigin origin)
  | none => .ok s.corsOrigins

/-- Checks settings. The first thing that is wrong counts. -/
def check (s : Settings) : Except SettingsError Unit :=
  if s.schemaDir = "" then .error .noSchemaDir
  else if s.denied.any Text.isBlank then .error .blankDenied
  else if s.port = 0 then .error .zeroPort
  else s.allowedOrigins.map fun _ => ()

/-! ## Loading -/

/-- Settings whose relative directories count from the directory `base`. -/
def relativeTo (s : Settings) (base : String) : Settings :=
  { s with schemaDir := Files.join base s.schemaDir, dataDir := s.dataDir.map (Files.join base) }

/-- Loads the settings of a file. -/
def load (fs : Files.FileSystem) (file : String) : Except SettingsError Settings := do
  let text ← (fs.read file).mapError .unreadable
  let given ← (parse text).mapError .invalidJson
  let s := ((Files.parent? file).map given.relativeTo).getD given
  s.check
  return s

/-! ## Use -/

/-- Replaces the port and checks the settings. The port stays replaced even
if they are refused. -/
def overridePort (s : Settings) (port : Nat) : Except SettingsError Unit × Settings :=
  let s := { s with port := port }
  (s.check, s)

def denylist (s : Settings) : Denylist := ⟨s.denied⟩

/-- The address to listen on, as a text. -/
def socketAddress (s : Settings) : String := s.host ++ ":" ++ toString s.port

/-- Which messages are logged: what the program's own variable says, then the
general one, then the settings. -/
def effectiveLogFilter (own general : Option String) (setting : String) : String :=
  (own <|> general).getD setting

end Settings

end DocSieve
