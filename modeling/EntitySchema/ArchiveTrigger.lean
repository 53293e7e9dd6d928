import EntitySchema.Config

/-!
# Triggers that archive tables

Before a table is truncated, a trigger hands it to the archive routine of the database.
-/

namespace EntitySchema

open Identifier (Namer)

/-- A trigger that archives the rows of a table before they are truncated. -/
structure ArchiveTrigger where
  name : String
  table : String
  sourceSchema : String
  archiveSchema : String
  primaryKey : String
  /-- The routine to call, together with its schema. -/
  routine : String
deriving Repr, DecidableEq

namespace ArchiveTrigger

def suffix : String := "_arch_trg"

/-- The archive trigger of a primary table. -/
def ofTable (config : Config) (namer : Namer) (table primaryKey : String) : ArchiveTrigger where
  name := namer.derived table suffix
  table := table
  sourceSchema := config.schema
  archiveSchema := config.archiveSchema
  primaryKey := primaryKey
  routine := config.routinePath

def arguments (trigger : ArchiveTrigger) : List String :=
  [trigger.table, trigger.sourceSchema, trigger.archiveSchema, trigger.primaryKey]

end ArchiveTrigger

end EntitySchema
