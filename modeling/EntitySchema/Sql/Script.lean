import EntitySchema.Sql.Statement
import EntitySchema.Schema.Basic

/-!
# The script of a schema

The statements of a schema in the order in which they can be run: schemas, the tables of each entity,
association tables, external id triggers and archive triggers.  They stand in paragraphs with a blank
line between them, after a heading.
-/

namespace EntitySchema

namespace Sql

/-- The clauses of a column. -/
def clausesOf (column : TableColumn) : List ColumnClause :=
  (if column.default? = some .identity then [.identity] else [])
  ++ (if column.primaryKey then [.primaryKey] else if column.nullable then [] else [.notNull])
  ++ (if column.default? = some .currentTimestamp then [.defaultNow] else [])
  ++ (if column.unique then [.unique] else [])
  ++ (column.references?.map fun r => .references ⟨r.schema, r.table⟩ r.column).toList

def tableName (table : Table) : QualifiedName := ⟨table.schema, table.name⟩

def createTable (table : Table) : Statement :=
  .createTable (tableName table) (table.columns.map fun c => .column c.name c.sqlType (clausesOf c))

/-- The comments on the annotated columns of a table. -/
def columnComments (table : Table) : List Statement :=
  (table.columns.filter fun c => c.annotation != "").map fun c =>
    .commentOnColumn (tableName table) c.name c.annotation

/-- The paragraphs of an entity: its primary table with comments, and its archive table. -/
def entityParagraphs (tables : EntityTables) : List (List Statement) :=
  [createTable tables.primary
    :: (if tables.annotation = "" then []
      else [.commentOnTable (tableName tables.primary) tables.annotation])
    ++ columnComments tables.primary,
   [createTable tables.archive]]

/-- A column of an association table in a schema. -/
def associationItem (schema : String) (column : AssociationColumn) : TableItem :=
  .column column.name "BIGINT" [.notNull, .references ⟨schema, column.table⟩ column.key]

/-- The statement that creates an association table in a schema. -/
def createAssociation (schema : String) (association : Association) : Statement :=
  .createTable ⟨schema, association.name⟩
    [associationItem schema association.owner, associationItem schema association.other,
     .primaryKey [association.owner.name, association.other.name]]

/-- The paragraphs of an external id trigger: its function, and the trigger itself. -/
def triggerParagraphs (trigger : ExternalId.Trigger) : List (List Statement) :=
  let function : QualifiedName := ⟨trigger.schema, trigger.function⟩
  [[.createFunction function trigger.target (.ofDerivation trigger.derivation)],
   [.createRowTrigger trigger.name trigger.event ⟨trigger.schema, trigger.table⟩ function]]

def createArchiveTrigger (trigger : ArchiveTrigger) : Statement :=
  .createTruncateTrigger trigger.name ⟨trigger.sourceSchema, trigger.table⟩ trigger.routine
    trigger.arguments

/-- The paragraphs of a schema. -/
def paragraphs (schema : Schema) : List (List Statement) :=
  schema.schemas.map .createSchema
    :: schema.entities.flatMap entityParagraphs
    ++ schema.associations.map (fun association => [createAssociation schema.name association])
    ++ schema.externalIdTriggers.flatMap triggerParagraphs
    ++ schema.archiveTriggers.map fun trigger => [createArchiveTrigger trigger]

/-- The statements of a schema, in order. -/
def statements (schema : Schema) : List Statement := (paragraphs schema).flatten

/-- The first line of a script. -/
def heading : String := "-- Generated by rust-exstruct. Do not edit."

def script (schema : Schema) : String :=
  heading ++ "\n"
    ++ String.join ((paragraphs schema).map fun paragraph =>
      "\n" ++ String.join (paragraph.map Statement.text))

end Sql

end EntitySchema
