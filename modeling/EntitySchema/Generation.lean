import EntitySchema.Files.Tree
import EntitySchema.Mapping.Model
import EntitySchema.Model.Document
import EntitySchema.Schema.Json
import EntitySchema.Schema.OfModel
import EntitySchema.Sql.Script

/-!
# From a model file to a schema file

A model is read in one of two forms, its schema is made and rendered, and only then is the result
written, beside the model file unless a path is given.
-/

namespace EntitySchema

/-- The form of the model file. -/
inductive InputFormat where
  /-- A list of entities. -/
  | model
  /-- A mapping of collected information. -/
  | mapping
deriving Repr, DecidableEq

/-- The form in which a schema is rendered. -/
inductive OutputFormat where
  /-- A script of statements. -/
  | sql
  | json
deriving Repr, DecidableEq

/-- A word that names no format. -/
inductive UnknownFormat where
  | input (word : String)
  | output (word : String)
deriving Repr, DecidableEq

def UnknownFormat.message : UnknownFormat → String
  | input word => "Unknown input format: " ++ word
  | output word => "Unknown output format: " ++ word

def lowercaseWord (word : String) : String := String.ofList (Text.lowercase word.toList)

namespace InputFormat

def name : InputFormat → String
  | model => "model"
  | mapping => "mapping"

/-- The format that a word names, in letters of any case. -/
def ofWord (word : String) : Except UnknownFormat InputFormat :=
  let lower := lowercaseWord word
  if lower = "model" then .ok model
  else if lower = "mapping" then .ok mapping
  else .error (.input word)

end InputFormat

namespace OutputFormat

/-- The ending of the names of files in the format. -/
def extension : OutputFormat → String
  | sql => "sql"
  | json => "json"

/-- The format that a word names, in letters of any case. -/
def ofWord (word : String) : Except UnknownFormat OutputFormat :=
  let lower := lowercaseWord word
  if lower = "sql" ∨ lower = "postgres" ∨ lower = "postgresql" then .ok sql
  else if lower = "json" then .ok json
  else .error (.output word)

/-- The text of a schema in the format. -/
def render (format : OutputFormat) (schema : Schema) : String :=
  match format with
  | sql => Sql.script schema
  | json => schema.jsonText

end OutputFormat

namespace Model

/-- The model of the text of a file, where `path` names the file in faults and there is no text if it
cannot be read. -/
def ofText? (format : InputFormat) (delimiter path : String) (text? : Option String) :
    Except Error Model :=
  match text? with
  | none => .error (.unreadableModel path)
  | some text =>
    match format with
    | .model =>
      match entitiesOfText? text with
      | none => .error (.unparsableModel path)
      | some entities =>
        match ofList entities with
        | .ok model => .ok model
        | .error cause => .error (.inconsistent cause)
    | .mapping =>
      match Json.ofText? text with
      | none => .error (.unparsableModel path)
      | some json =>
        match Mapping.toModel delimiter json with
        | .ok model => .ok model
        | .error fault => .error (.invalidMapping fault)

def load (files : FileTree) (format : InputFormat) (delimiter path : String) :
    Except Error Model :=
  ofText? format delimiter path (files.readText? path)

end Model

/-- What to generate from which file. -/
structure Generation where
  modelPath : String
  inputFormat : InputFormat := .model
  /-- The file to write, if it is not to stand beside the model file. -/
  outputPath? : Option String := none
  outputFormat : OutputFormat := .sql
  config : Config := {}
deriving Repr, DecidableEq

namespace Generation

/-- The name of the file that is written beside the model file. -/
def defaultFileName (g : Generation) : String :=
  g.config.schema ++ "_schema." ++ g.outputFormat.extension

/-- The path of the file to write. -/
def outputPath (g : Generation) : String :=
  g.outputPath?.getD (Path.join ((Path.parent? g.modelPath).getD ".") g.defaultFileName)

/-- The rendered schema for the text of the model file, with the cache of row types after it. -/
def compile (g : Generation) (cache : RowTypeCache) (text? : Option String) :
    Except Error String × RowTypeCache :=
  match Model.ofText? g.inputFormat g.config.delimiter g.modelPath text? with
  | .error error => (.error error, cache)
  | .ok model =>
    match Schema.ofModel g.config model cache with
    | (.ok schema, cache) => (.ok (g.outputFormat.render schema), cache)
    | (.error error, cache) => (.error error, cache)

/-- What is left when a generation has ended: the path that was written or the cause why not, the
files, and the cache of row types. -/
structure Outcome where
  result : Except Error String
  files : FileTree
  cache : RowTypeCache

def run (g : Generation) (files : FileTree) (cache : RowTypeCache) : Outcome :=
  match g.compile cache (files.readText? g.modelPath) with
  | (.error error, cache) => ⟨.error error, files, cache⟩
  | (.ok text, cache) =>
    match files.save g.outputPath text.toUTF8 with
    | (files, true) => ⟨.ok g.outputPath, files, cache⟩
    | (files, false) => ⟨.error (.unwritableOutput g.outputPath), files, cache⟩

end Generation

end EntitySchema
