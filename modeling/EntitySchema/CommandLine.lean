import EntitySchema.Generation

/-!
# The command line

A request is read word by word from the left.  Help is given as soon as it is asked for, and the
first word that does not fit is a usage error.
-/

namespace EntitySchema

namespace CommandLine

/-- The options of the command `generate` that have a value. -/
inductive Setting where
  | model
  | schema
  | inputFormat
  | format
  | output
  | maxIdentifierLen
deriving Repr, DecidableEq

/-- What an option of the command `generate` asks for. -/
inductive Choice where
  | set (setting : Setting)
  | verbose
  | help
deriving Repr, DecidableEq

/-- Why a command line is not understood. -/
inductive UsageError where
  | missingCommand
  | unknownCommand (word : String)
  | unexpectedWord (word : String)
  | missingValue (option : String)
  | unexpectedValue (option : String)
  | invalidValue (option value : String)
  | repeated (option : String)
  | missingOption (option : String)
deriving Repr, DecidableEq

def UsageError.message : UsageError → String
  | missingCommand => "a command is required"
  | unknownCommand word => "unrecognized command '" ++ word ++ "'"
  | unexpectedWord word => "unexpected argument '" ++ word ++ "'"
  | missingValue option => "a value is required for '" ++ option ++ "'"
  | unexpectedValue option => "no value is allowed for '" ++ option ++ "'"
  | invalidValue option value => "invalid value '" ++ value ++ "' for '" ++ option ++ "'"
  | repeated option => "'" ++ option ++ "' cannot be used several times"
  | missingOption option => "'" ++ option ++ "' is required"

namespace Setting

/-- The option as it is written in full. -/
def flag : Setting → String
  | model => "--model"
  | schema => "--schema"
  | inputFormat => "--input-format"
  | format => "--format"
  | output => "--output"
  | maxIdentifierLen => "--max-identifier-len"

def all : List Setting := [model, schema, inputFormat, format, output, maxIdentifierLen]

/-- The natural number below 2^64 of a word of digits, before which a plus may stand. -/
def number? (word : String) : Option Nat :=
  let digits := match word.toList with
    | '+' :: cs => cs
    | cs => cs
  if digits.isEmpty || !digits.all Char.isDigit then none
  else
    let n := Nat.ofDigitChars 10 digits 0
    if n < 1 <<< 64 then some n else none

/-- Whether a value can be given to the option. -/
def accepts (setting : Setting) (value : String) : Bool :=
  match setting with
  | model | output => value != ""
  | maxIdentifierLen => (number? value).isSome
  | schema | inputFormat | format => true

end Setting

namespace Choice

/-- The options in full. -/
def long : List (String × Choice) :=
  Setting.all.map (fun setting => (setting.flag, set setting))
    ++ [("--verbose", verbose), ("--help", help)]

/-- The options of one letter. -/
def short : List (Char × Choice) :=
  [('m', set .model), ('s', set .schema), ('f', set .format), ('o', set .output), ('v', verbose),
   ('h', help)]

end Choice

/-- The options given so far. -/
structure Given where
  settings : List (Setting × String)
  verbose : Bool

namespace Given

def value? (given : Given) (setting : Setting) : Option String := given.settings.lookup setting

def valueOr (given : Given) (setting : Setting) (default : String) : String :=
  (given.value? setting).getD default

/-- Takes the value of an option, which may be given once. -/
def set (given : Given) (setting : Setting) (value : String) : Except UsageError Given :=
  if !setting.accepts value then .error (.invalidValue setting.flag value)
  else if (given.value? setting).isSome then .error (.repeated setting.flag)
  else .ok { given with settings := (setting, value) :: given.settings }

/-- Takes the wish for more messages, which may be expressed once. -/
def beVerbose (given : Given) : Except UsageError Given :=
  if given.verbose then .error (.repeated "--verbose") else .ok { given with verbose := true }

end Given

/-- What a word of the command `generate` leads to. -/
inductive Step where
  /-- The options are known so far. -/
  | go (given : Given)
  /-- An option waits for its value. -/
  | await (given : Given) (setting : Setting)
  /-- Help is asked for. -/
  | help

/-- What a word of letters after a single hyphen leads to: options without a value one after the
other, up to one whose value is the rest of the word. -/
def shortOptions (given : Given) : List Char → Except UsageError Step
  | [] => .ok (.go given)
  | c :: cs =>
    match Choice.short.lookup c with
    | none => .error (.unexpectedWord (String.ofList ['-', c]))
    | some .help => .ok .help
    | some .verbose =>
      match given.beVerbose with
      | .ok given => shortOptions given cs
      | .error error => .error error
    | some (.set setting) =>
      match cs with
      | [] => .ok (.await given setting)
      | '=' :: value => (given.set setting (String.ofList value)).map .go
      | value => (given.set setting (String.ofList value)).map .go

/-- What a word after two hyphens leads to; a value may follow after an equals sign. -/
def longOption (given : Given) (word : String) : Except UsageError Step :=
  let name := String.ofList (word.toList.takeWhile (· != '='))
  let attached? := match word.toList.dropWhile (· != '=') with
    | [] => none
    | _ :: value => some (String.ofList value)
  match Choice.long.lookup name, attached? with
  | none, _ => .error (.unexpectedWord word)
  | some (.set setting), some value => (given.set setting value).map .go
  | some (.set setting), none => .ok (.await given setting)
  | some .verbose, none => given.beVerbose.map .go
  | some .help, none => .ok .help
  | some _, some _ => .error (.unexpectedValue name)

/-- Whether a word begins like an option. -/
def isOption (word : String) : Bool :=
  match word.toList with
  | '-' :: _ :: _ => true
  | _ => false

/-- What a word of the command `generate` leads to. -/
def step (given : Given) (word : String) : Except UsageError Step :=
  match word.toList with
  | '-' :: '-' :: _ => longOption given word
  | '-' :: c :: cs => shortOptions given (c :: cs)
  | _ => .error (.unexpectedWord word)

/-- The options of the command `generate`, or nothing if help is asked for. -/
def readOptions (given : Given) : List String → Except UsageError (Option Given)
  | [] => .ok (some given)
  | ["--"] => .ok (some given)
  | word :: words =>
    if word = "--" then .error (.unexpectedWord (words.headD ""))
    else
      match step given word with
      | .error error => .error error
      | .ok .help => .ok none
      | .ok (.go given) => readOptions given words
      | .ok (.await given setting) =>
        match words with
        | [] => .error (.missingValue setting.flag)
        | value :: words =>
          if isOption value then .error (.missingValue setting.flag)
          else
            match given.set setting value with
            | .ok given => readOptions given words
            | .error error => .error error

/-- What the command `generate` is to do. -/
structure GenerateCommand where
  modelPath : String
  schema : String
  inputFormat : String
  format : String
  outputPath? : Option String
  limit : Nat
  verbose : Bool
deriving Repr, DecidableEq

/-- The command of the given options. -/
def Given.command (given : Given) : Except UsageError GenerateCommand :=
  match given.value? .model, given.value? .schema with
  | none, _ => .error (.missingOption "--model")
  | _, none => .error (.missingOption "--schema")
  | some modelPath, some schema => .ok {
      modelPath, schema
      inputFormat := given.valueOr .inputFormat "model"
      format := given.valueOr .format "sql"
      outputPath? := given.value? .output
      limit := ((given.value? .maxIdentifierLen).bind Setting.number?).getD Identifier.defaultLimit
      verbose := given.verbose }

/-- What a command line asks for. -/
inductive Request where
  /-- A text to print. -/
  | information (text : String)
  | generate (command : GenerateCommand)
deriving Repr, DecidableEq

def versionText : String := "rust-exstruct 0.1.0"

def helpText : String := "\n".intercalate
  ["Relational schema compiler for extracted document entity types",
   "",
   "Usage: rust-exstruct <COMMAND>",
   "",
   "Commands:",
   "  generate  Generate tables, association tables and triggers from a schema model",
   "  help      Print this message or the help of the given subcommand(s)",
   "",
   "Options:",
   "  -h, --help     Print help",
   "  -V, --version  Print version"]

def generateHelpText : String := "\n".intercalate
  ["Generate tables, association tables and triggers from a schema model",
   "",
   "Usage: rust-exstruct generate [OPTIONS] --model <MODEL> --schema <SCHEMA>",
   "",
   "Options:",
   "  -m, --model <MODEL>",
   "          Path to the schema model (or collected-info mapping) JSON file",
   "  -s, --schema <SCHEMA>",
   "          Target schema name",
   "      --input-format <INPUT_FORMAT>",
   "          Input file shape (model, mapping) [default: model]",
   "  -f, --format <FORMAT>",
   "          Output format (sql, json) [default: sql]",
   "  -o, --output <OUTPUT>",
   "          Output path (defaults to <model dir>/<schema>_schema.<ext>)",
   "      --max-identifier-len <MAX_IDENTIFIER_LEN>",
   "          Maximum identifier length in bytes [default: 63]",
   "  -v, --verbose",
   "          Enable verbose output",
   "  -h, --help",
   "          Print help"]

def helpHelpText : String := "\n".intercalate
  ["Print this message or the help of the given subcommand(s)",
   "",
   "Usage: rust-exstruct help [COMMAND]...",
   "",
   "Arguments:",
   "  [COMMAND]...  Print help for the subcommand(s)"]

/-- The request of the command `help` with the names of commands. -/
def readHelp : List String → Except UsageError Request
  | [] => .ok (.information helpText)
  | ["generate"] => .ok (.information generateHelpText)
  | ["help"] => .ok (.information helpHelpText)
  | "generate" :: word :: _ | "help" :: word :: _ | word :: _ => .error (.unknownCommand word)

/-- The request of the words of a command line. -/
def read : List String → Except UsageError Request
  | [] => .error .missingCommand
  | "generate" :: words =>
    match readOptions ⟨[], false⟩ words with
    | .error error => .error error
    | .ok none => .ok (.information generateHelpText)
    | .ok (some given) => given.command.map .generate
  | "help" :: words => readHelp words
  | "--help" :: _ => .ok (.information helpText)
  | "--version" :: _ => .ok (.information versionText)
  | word :: _ =>
    match word.toList with
    | '-' :: 'h' :: _ => .ok (.information helpText)
    | '-' :: 'V' :: _ => .ok (.information versionText)
    | '-' :: _ :: _ => .error (.unexpectedWord word)
    | _ => .error (.unknownCommand word)

/-- The generation that a command asks for. -/
def GenerateCommand.generation (command : GenerateCommand) : Except UnknownFormat Generation :=
  match InputFormat.ofWord command.inputFormat with
  | .error fault => .error fault
  | .ok inputFormat =>
    match OutputFormat.ofWord command.format with
    | .error fault => .error fault
    | .ok outputFormat => .ok {
        modelPath := command.modelPath
        inputFormat
        outputPath? := command.outputPath?
        outputFormat
        config := { schema := command.schema, limit := command.limit } }

/-- What the program prints and how it ends. -/
structure Report where
  /-- Zero for success, one for a fault, two for a command line that is not understood. -/
  exitCode : Nat
  output : String
  errors : String
deriving Repr, DecidableEq

namespace Report

def success (output : String) : Report := ⟨0, output ++ "\n", ""⟩

def failure (message : String) : Report := ⟨1, "", "Error: " ++ message ++ "\n"⟩

def usage (error : UsageError) : Report := ⟨2, "", "error: " ++ error.message ++ "\n"⟩

end Report

/-- Runs the program on the words of a command line and a file tree. -/
def run (words : List String) (files : FileTree) : Report × FileTree :=
  match read words with
  | .error error => (.usage error, files)
  | .ok (.information text) => (.success text, files)
  | .ok (.generate command) =>
    match command.generation with
    | .error fault => (.failure fault.message, files)
    | .ok generation =>
      match generation.run files ∅ with
      | ⟨.ok path, files, _⟩ => (.success path, files)
      | ⟨.error error, files, _⟩ => (.failure error.message, files)

end CommandLine

end EntitySchema
