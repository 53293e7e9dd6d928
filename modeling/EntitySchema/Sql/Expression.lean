import EntitySchema.Text.Quoted
import EntitySchema.ExternalId.Derivation

/-!
# Expressions in trigger functions

The value that a trigger function assigns, in terms of the new row.
-/

namespace EntitySchema

namespace Sql

/-- An identifier between double quotes. -/
def identifier (name : String) : String := Text.quoted '"' name

/-- A literal between single quotes. -/
def literal (text : String) : String := Text.quoted '\'' text

/-- An expression over the columns of the new row. -/
inductive Expression where
  /-- The text of a column of the new row. -/
  | newText (column : String)
  | literal (text : String)
  | call (function : String) (arguments : List Expression)

namespace Expression

mutual

def text : Expression → String
  | newText column => "NEW." ++ identifier column ++ "::text"
  | literal s => Sql.literal s
  | call function [] => function ++ "()"
  | call function (argument :: arguments) =>
    function ++ "(" ++ argument.text ++ moreText arguments ++ ")"

/-- The written form of the arguments of a call after the first. -/
def moreText : List Expression → String
  | [] => ""
  | argument :: arguments => ", " ++ argument.text ++ moreText arguments

end

/-- The expression of an external id. -/
def ofDerivation : ExternalId.Derivation → Expression
  | .direct source => newText source
  | .contentHash sources =>
    let content := call "concat" (sources.map newText)
    call "encode" [call "sha256" [call "convert_to" [content, literal "UTF8"]], literal "hex"]

end Expression

end Sql

end EntitySchema
