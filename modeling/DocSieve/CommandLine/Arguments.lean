-- SUMMARY: The command line: commands, options with values, and what can be wrong with arguments.
import DocSieve.Text.Integer

/-!
# Arguments

The first argument names the command, and options with values follow. The
value of an option may stand behind an equals sign or be the next argument,
which then may not start with a hyphen. An option is complete, and judged,
when the next known option or the end is reached.
-/

namespace DocSieve

/-- What the command line asks for. -/
inductive Command where
  /-- Compile the request of the input against the schema of an entity. -/
  | compile (config entity : String)
  /-- Answer the request of the input from a collection. -/
  | query (config entity : String)
  /-- Answer requests over HTTP. -/
  | serve (config : String) (port : Option Nat)
deriving DecidableEq

/-- Why arguments are no command. -/
inductive ArgumentError where
  | missingRequired
  | unknownArgument
  | invalidValue
  | conflict
  | valueValidation
  | invalidSubcommand
  | tooManyValues
  | displayHelp
  | displayVersion
  /-- There are no arguments, which shows the help as well. -/
  | displayHelpOnMissing
deriving DecidableEq

def ArgumentError.name : ArgumentError → String
  | .missingRequired => "MissingRequiredArgument"
  | .unknownArgument => "UnknownArgument"
  | .invalidValue => "InvalidValue"
  | .conflict => "ArgumentConflict"
  | .valueValidation => "ValueValidation"
  | .invalidSubcommand => "InvalidSubcommand"
  | .tooManyValues => "TooManyValues"
  | .displayHelp => "DisplayHelp"
  | .displayVersion => "DisplayVersion"
  | .displayHelpOnMissing => "DisplayHelpOnMissingArgumentOrSubcommand"

namespace Arguments

/-! ## Tokens -/

/-- The forms of an argument. -/
inductive Token where
  /-- Two hyphens: no options follow. -/
  | escape
  /-- Two hyphens and a name, with the value behind an equals sign if any. -/
  | long (name : String) (value : Option String)
  /-- A hyphen and letters, each of which is an option. -/
  | short (letter : Char) (more : List Char)
  | plain (text : String)

/-- A name and the value behind the first equals sign. -/
def splitValue : List Char → List Char × Option (List Char)
  | [] => ([], none)
  | c :: cs =>
    if c = '=' then ([], some cs)
    else
      let (name, value) := splitValue cs
      (c :: name, value)

/-- The form of an argument. A hyphen on its own is plain. -/
def Token.of (arg : String) : Token :=
  match arg.toList with
  | ['-', '-'] => .escape
  | '-' :: '-' :: cs =>
    let (name, value) := splitValue cs
    .long (String.ofList name) (value.map String.ofList)
  | '-' :: c :: cs => .short c cs
  | _ => .plain arg

/-! ## Options -/

/-- The options that take a value. -/
inductive OptionName where
  | config
  | entity
  | port
deriving DecidableEq

def OptionName.text : OptionName → String
  | .config => "config"
  | .entity => "entity"
  | .port => "port"

/-- The options given so far. -/
structure Given where
  config : Option String
  entity : Option String
  port : Option Nat

/-- The port that a text gives. -/
def readPort (s : String) : Except ArgumentError Nat :=
  match Text.int64 s with
  | .ok n => if 0 ≤ n ∧ n < 65536 then .ok n.toNat else .error .valueValidation
  | .error _ => .error .valueValidation

/-- Adds an option with its value. An option may be given once, and the path
of the configuration may not be empty. -/
def Given.put (g : Given) (o : OptionName) (value : Option String) : Except ArgumentError Given :=
  match value with
  | none => .error .invalidValue
  | some v =>
    match o with
    | .config =>
      if g.config.isSome then .error .conflict
      else if v = "" then .error .invalidValue
      else .ok { g with config := some v }
    | .entity => if g.entity.isSome then .error .conflict else .ok { g with entity := some v }
    | .port =>
      if g.port.isSome then .error .conflict
      else (readPort v).map fun n => { g with port := some n }

/-- An option that is not complete yet, with its value if it has one. -/
abbrev Pending := Option (OptionName × Option String)

/-- Completes the option that is not complete yet. -/
def Given.complete (g : Given) : Pending → Except ArgumentError Given
  | none => .ok g
  | some (o, value) => g.put o value

/-- Shows the help, once the option before it is complete. -/
def Given.help (g : Given) (pending : Pending) : Except ArgumentError Given := do
  let _ ← g.complete pending
  throw .displayHelp

/-- Reads the arguments of a command that has the options `known`. -/
def Given.read (known : List OptionName) (g : Given) (pending : Pending) :
    List String → Except ArgumentError Given
  | [] => g.complete pending
  | arg :: args =>
    match Token.of arg with
    | .escape => if args.isEmpty then g.complete pending else .error .unknownArgument
    | .plain text =>
      match pending with
      | some (o, none) => g.read known (some (o, some text)) args
      | _ => .error .unknownArgument
    | .short letter _ => if letter = 'h' then g.help pending else .error .unknownArgument
    | .long "help" none => g.help pending
    | .long "help" (some _) => .error .tooManyValues
    | .long name value =>
      match known.find? (·.text = name) with
      | none => .error .unknownArgument
      | some o => do
        let g ← g.complete pending
        match value with
        | some v =>
          let g ← g.put o (some v)
          g.read known none args
        | none => g.read known (some (o, none)) args

/-- The options that arguments give. -/
def options (known : List OptionName) (args : List String) : Except ArgumentError Given :=
  Given.read known ⟨none, none, none⟩ none args

/-! ## Commands -/

/-- The configuration that is used if none is given. -/
def defaultConfig : String := "./querygate.json"

/-- The configuration and the entity that arguments give. -/
def configAndEntity (args : List String) : Except ArgumentError (String × String) := do
  let g ← options [.config, .entity] args
  match g.entity with
  | some entity => return (g.config.getD defaultConfig, entity)
  | none => throw .missingRequired

/-- The command of that name with its arguments. -/
def command? (name : String) (args : List String) : Option (Except ArgumentError Command) :=
  match name with
  | "compile" => some ((configAndEntity args).map fun (c, e) => .compile c e)
  | "query" => some ((configAndEntity args).map fun (c, e) => .query c e)
  | "serve" =>
    some ((options [.config, .port] args).map fun g =>
      .serve (g.config.getD defaultConfig) g.port)
  | _ => none

def helpName : String := "help"

/-- Whether a command has that name. -/
def isCommandName (name : String) : Bool := (command? name []).isSome || name = helpName

/-- What help on the named commands shows. -/
def help : List String → ArgumentError
  | [] => .displayHelp
  | [name] => if isCommandName name then .displayHelp else .invalidSubcommand
  | _ => .invalidSubcommand

/-- The command that arguments give. -/
def parse : List String → Except ArgumentError Command
  | [] => .error .displayHelpOnMissing
  | arg :: args =>
    match Token.of arg with
    | .escape =>
      match args with
      | [] => .error .displayHelpOnMissing
      | name :: _ => .error (if isCommandName name then .unknownArgument else .invalidSubcommand)
    | .long "help" none | .short 'h' _ => .error .displayHelp
    | .long "version" none | .short 'V' _ => .error .displayVersion
    | .long "help" (some _) | .long "version" (some _) => .error .tooManyValues
    | .long _ _ | .short _ _ => .error .unknownArgument
    | .plain name =>
      if name = helpName then .error (help args)
      else (command? name args).getD (.error .invalidSubcommand)

end Arguments

end DocSieve
