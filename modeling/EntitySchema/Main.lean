import EntitySchema.CommandLine

/-!
# The program

Reads the command line, the model file, and writes the schema file.
-/

namespace EntitySchema

namespace Program

open CommandLine (Report)

/-- The text of a file, if it can be read. -/
def readText? (path : String) : IO (Option String) := do
  try
    return String.fromUTF8? (← IO.FS.readBinFile path)
  catch _ =>
    return none

/-- Writes a file and creates its directory, and tells whether that was possible. -/
def writeText (path text : String) : IO Bool := do
  try
    match Path.parent? path with
    | none | some "" => pure ()
    | some directory => IO.FS.createDirAll directory
    IO.FS.writeBinFile path text.toUTF8
    return true
  catch _ =>
    return false

def generate (generation : Generation) : IO Report := do
  match (generation.compile ∅ (← readText? generation.modelPath)).1 with
  | .error error => return .failure error.message
  | .ok text =>
    if ← writeText generation.outputPath text then
      return .success generation.outputPath
    else
      return .failure (Error.unwritableOutput generation.outputPath).message

def report (words : List String) : IO Report := do
  match CommandLine.read words with
  | .error error => return .usage error
  | .ok (.information text) => return .success text
  | .ok (.generate command) =>
    match command.generation with
    | .error fault => return .failure fault.message
    | .ok generation => generate generation

end Program

end EntitySchema

def main (words : List String) : IO UInt32 := do
  let result ← EntitySchema.Program.report words
  IO.print result.output
  IO.eprint result.errors
  return result.exitCode.toUInt32
