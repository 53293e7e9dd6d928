import EntitySchema.Identifier.Scope
import EntitySchema.Model.Basic
import EntitySchema.RowType.Basic
import EntitySchema.ExternalId.Derivation
import EntitySchema.Mapping.Fault

/-!
# Why no schema is made

All causes for which a schema is not made or not written, and their wording.
-/

namespace EntitySchema

def Inconsistency.message : Inconsistency → String
  | repeatedEntity entity => "entity type '" ++ entity ++ "' is declared more than once"
  | repeatedColumn column entity =>
    "column '" ++ column ++ "' is declared more than once on entity type '" ++ entity ++ "'"
  | unknownSide entity => "cannot relate unknown entity type '" ++ entity ++ "'"
  | undeclaredRelated entity related =>
    "'" ++ entity ++ "' is related to undeclared entity type '" ++ related ++ "'"
  | unreturnedRelation entity related =>
    "'" ++ entity ++ "' is related to '" ++ related ++ "' but '" ++ related
      ++ "' does not declare the relation back"
  | undeclaredOwned entity owned =>
    "'" ++ entity ++ "' owns '" ++ owned ++ "' without declaring a relation to it"
  | uncoveredRelation entity related tables =>
    "relation " ++ entity ++ "/" ++ related ++ " maps to " ++ Nat.repr tables
      ++ " association tables"

/-- A cause for which no schema is made or written. -/
inductive Error where
  /-- The file of the model cannot be read as text. -/
  | unreadableModel (path : String)
  /-- The text of the file is not a model or not JSON. -/
  | unparsableModel (path : String)
  /-- The JSON value is no mapping. -/
  | invalidMapping (fault : Mapping.Fault)
  /-- The entities do not fit together. -/
  | inconsistent (cause : Inconsistency)
  /-- Two meanings have one identifier. -/
  | collision (collision : Identifier.Collision)
  /-- A column has no column type. -/
  | unsupportedTag (column : UnsupportedTag)
  /-- An external id is derived from something that is no column. -/
  | missingSource (source : ExternalId.MissingSource)
  /-- The schema cannot be written to the file. -/
  | unwritableOutput (path : String)
deriving Repr, DecidableEq

namespace Error

def message : Error → String
  | unreadableModel path => "Failed to read schema model: " ++ path
  | unparsableModel path => "Failed to parse schema model: " ++ path
  | invalidMapping fault => "Invalid collected-info mapping: " ++ fault.message
  | inconsistent cause => "Schema inconsistency: " ++ cause.message
  | collision c =>
    "Identifier collision in " ++ c.scope ++ ": '" ++ c.first ++ "' and '" ++ c.second
      ++ "' both map to '" ++ c.identifier ++ "'"
  | unsupportedTag c =>
    "Unsupported type tag '" ++ c.tag ++ "' for column " ++ c.entity ++ "." ++ c.column
  | missingSource s =>
    "External id source column '" ++ s.column ++ "' is not declared on entity type '" ++ s.entity
      ++ "'"
  | unwritableOutput path => "Failed to write schema output to " ++ path

end Error

end EntitySchema
