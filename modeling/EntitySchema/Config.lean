import EntitySchema.Identifier.Namer

/-!
# Settings

The schemas that tables and routines belong to, the limit on identifiers, and the separator of paths
in mappings.
-/

namespace EntitySchema

/-- The settings shared by all stages. -/
structure Config where
  /-- The schema of primary tables and association tables. -/
  schema : String := "public"
  /-- What the name of the archive schema adds to that schema. -/
  archiveSuffix : String := "_arch"
  /-- The schema of shared routines. -/
  systemSchema : String := "sys"
  /-- The routine that archives a table. -/
  archiveRoutine : String := "archive_table"
  /-- The longest an identifier may be, in bytes. -/
  limit : Nat := Identifier.defaultLimit
  /-- What separates the steps of a path in a mapping. -/
  delimiter : String := " -> "
deriving Repr, DecidableEq

namespace Config

def namer (config : Config) : Identifier.Namer := ⟨config.limit⟩

/-- The schema of archive tables. -/
def archiveSchema (config : Config) : String := config.schema ++ config.archiveSuffix

/-- The archive routine together with its schema. -/
def routinePath (config : Config) : String :=
  config.systemSchema ++ "." ++ config.archiveRoutine

end Config

end EntitySchema
