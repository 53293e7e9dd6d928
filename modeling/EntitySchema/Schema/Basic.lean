import EntitySchema.Schema.Table
import EntitySchema.Schema.Association
import EntitySchema.ExternalId.Trigger
import EntitySchema.ArchiveTrigger

/-!
# Schemas

A schema is everything that is made for a model: the tables of each entity, the association tables,
and the triggers.  All names in it are final.
-/

namespace EntitySchema

/-- The relation of an entity to another one, through an association table. -/
structure Relationship where
  attributeName : String
  target : String
  associationTable : String
  /-- The column that refers to this entity. -/
  localColumn : String
  /-- The column that refers to the target. -/
  remoteColumn : String
deriving Repr, DecidableEq

/-- What is made for one entity. -/
structure EntityTables where
  entity : String
  annotation : String
  primary : Table
  archive : Table
  relationships : List Relationship
deriving Repr, DecidableEq

/-- What is made for a model. -/
structure Schema where
  /-- The schema of primary tables and association tables. -/
  name : String
  /-- The schemas to create first, in this order. -/
  schemas : List String
  entities : List EntityTables
  associations : List Association
  externalIdTriggers : List ExternalId.Trigger
  archiveTriggers : List ArchiveTrigger
deriving Repr, DecidableEq

namespace Schema

/-- What was made for the first entity of that name. -/
def entity? (schema : Schema) (name : String) : Option EntityTables :=
  schema.entities.find? (·.entity = name)

/-- The first association table of that name. -/
def association? (schema : Schema) (name : String) : Option Association :=
  schema.associations.find? (·.name = name)

/-- The external id triggers of a table. -/
def externalIdTriggersOf (schema : Schema) (table : String) : List ExternalId.Trigger :=
  schema.externalIdTriggers.filter (·.table = table)

/-- The first archive trigger of a table. -/
def archiveTrigger? (schema : Schema) (table : String) : Option ArchiveTrigger :=
  schema.archiveTriggers.find? (·.table = table)

end Schema

end EntitySchema
