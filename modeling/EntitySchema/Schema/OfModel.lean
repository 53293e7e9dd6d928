import EntitySchema.Schema.Basic
import EntitySchema.RowType.Cache

/-!
# The schema of a model

First the relations are resolved into association tables.  Then every entity gets its primary table,
its archive table and its triggers, and at last the association tables take their names.  The first
fault ends the work, and nothing of the schema is kept; row types that were shared before stay
shared.
-/

namespace EntitySchema

open Identifier (Namer Scope Collision Role)

namespace TableColumn

/-- A column named after an entity in a role. -/
def ofRole (namer : Namer) (entity : Entity) (role : Role) (kind : ColumnKind) (sqlType : String) :
    TableColumn :=
  { name := namer.name role entity.name false, kind, sqlType }

/-- The column of a declared field. -/
def ofField (field : RowField) : TableColumn :=
  { name := field.identifier, kind := .scalar, sqlType := field.sqlType,
    nullable := !field.required, annotation := field.annotation }

/-- The meaning of a column of an entity: its role, or its name if it is a declared one. -/
def meaning (entity : Entity) (column : TableColumn) : String :=
  match column.kind with
  | .primaryKey => ofRoleLabel .primaryKey
  | .createdAt => ofRoleLabel .timestamp
  | .externalId => ofRoleLabel .externalId
  | .value => ofRoleLabel .value
  | .archivedAt => ofRoleLabel .archiveTimestamp
  | .scalar => "column " ++ column.name
where
  ofRoleLabel (role : Role) : String := role.label ++ " of " ++ entity.name

/-- The column of the archive table for a column of the primary table: without constraints, except
that an external id refers to the primary table. -/
def archived (primary : Table) (column : TableColumn) : TableColumn :=
  { name := column.name, kind := column.kind, sqlType := column.sqlType,
    annotation := column.annotation,
    nullable := column.kind != .primaryKey && column.kind != .createdAt,
    references? :=
      if column.kind = .externalId then some ⟨primary.schema, primary.name, column.name⟩ else none }

end TableColumn

namespace EntityTables

/-- The column type of times. -/
def timestampType : String := "TIMESTAMP WITH TIME ZONE"

/-- The columns of a primary table that are not declared: the primary key, the time of creation, the
external id and the text content. -/
def leadingColumns (namer : Namer) (entity : Entity) (hasExternalId : Bool) : List TableColumn :=
  [{ TableColumn.ofRole namer entity .primaryKey .primaryKey "BIGINT" with
      primaryKey := true, nullable := false, default? := some .identity },
   { TableColumn.ofRole namer entity .timestamp .createdAt timestampType with
      nullable := false, default? := some .currentTimestamp }]
  ++ (if hasExternalId then
      [{ TableColumn.ofRole namer entity .externalId .externalId "TEXT" with unique := true }]
    else [])
  ++ (if entity.hasValueColumn then [.ofRole namer entity .value .value "TEXT"] else [])

def primaryTable (config : Config) (entity : Entity) (rowType : RowType) (hasExternalId : Bool) :
    Table where
  schema := config.schema
  name := config.namer.name .table entity.name false
  columns := leadingColumns config.namer entity hasExternalId ++ rowType.fields.map .ofField

/-- The column of an archive table that tells when a row was archived. -/
def archivedAtColumn (namer : Namer) (entity : Entity) : TableColumn :=
  { TableColumn.ofRole namer entity .archiveTimestamp .archivedAt timestampType with
    nullable := false, default? := some .currentTimestamp }

def archiveTable (config : Config) (entity : Entity) (primary : Table) : Table where
  schema := config.archiveSchema
  name := primary.name
  columns := primary.columns.map (.archived primary) ++ [archivedAtColumn config.namer entity]

/-- The meaning of a declared column, which tells its place, so that two columns of one name have two
meanings. -/
def fieldMeaning (field : RowField) (place : Nat) : String :=
  "column " ++ field.source ++ " (#" ++ Nat.repr place ++ ")"

/-- The claims of the columns of a primary table on their names. -/
def primaryClaims (namer : Namer) (entity : Entity) (rowType : RowType) (hasExternalId : Bool) :
    List (String × String) :=
  (leadingColumns namer entity hasExternalId).map (fun column => (column.meaning entity, column.name))
    ++ (rowType.fields.zipIdx 1).map fun (field, place) => (fieldMeaning field place, field.identifier)

/-- The claims of the columns of an archive table on their names. -/
def archiveClaims (entity : Entity) (archive : Table) : List (String × String) :=
  archive.columns.map fun column => (column.meaning entity, column.name)

/-- The scope of the columns of a table. -/
def columnScope (table : Table) : Scope := .named ("table " ++ table.schema ++ "." ++ table.name)

/-- The relation through an association table from one side of it to the other. -/
def relationshipBetween (association : Association) (here there : AssociationColumn) :
    Relationship where
  attributeName := "relationship_" ++ there.table
  target := there.entity
  associationTable := association.name
  localColumn := here.name
  remoteColumn := there.name

/-- The relation of an entity through an association table, if it is on one side of it. -/
def relationship? (entity : Entity) (association : Association) : Option Relationship :=
  if association.owner.entity = entity.name then
    some (relationshipBetween association association.owner association.other)
  else if association.other.entity = entity.name then
    some (relationshipBetween association association.other association.owner)
  else
    none

/-- The tables of an entity, in each of which the columns have to differ in name. -/
def ofEntity (config : Config) (associations : List Association) (entity : Entity)
    (rowType : RowType) (hasExternalId : Bool) : Except Collision EntityTables :=
  let primary := primaryTable config entity rowType hasExternalId
  let archive := archiveTable config entity primary
  match (columnScope primary).claimAll (primaryClaims config.namer entity rowType hasExternalId) with
  | .error collision => .error collision
  | .ok _ =>
    match (columnScope archive).claimAll (archiveClaims entity archive) with
    | .error collision => .error collision
    | .ok _ =>
      .ok ⟨entity.name, entity.annotation, primary, archive,
        associations.filterMap (relationship? entity)⟩

end EntityTables

/-- What a schema holds for one entity. -/
structure EntityPart where
  tables : EntityTables
  externalIdTriggers : List ExternalId.Trigger
  archiveTrigger : ArchiveTrigger
deriving Repr, DecidableEq

namespace EntityPart

/-- The external id triggers of an entity, none if it has no external id. -/
def triggersOf (config : Config) (entity : Entity) :
    Option ExternalId.Derivation → List ExternalId.Trigger
  | none => []
  | some derivation =>
    ExternalId.Trigger.both config.namer config.schema (config.namer.name .table entity.name false)
      (config.namer.name .externalId entity.name false) derivation

/-- The part of an entity of the given row type. -/
def ofEntity (config : Config) (associations : List Association) (entity : Entity)
    (rowType : RowType) : Except Error EntityPart :=
  match ExternalId.Derivation.ofEntity config.namer entity with
  | .error source => .error (.missingSource source)
  | .ok derivation =>
    match EntityTables.ofEntity config associations entity rowType derivation.isSome with
    | .error collision => .error (.collision collision)
    | .ok tables =>
      .ok ⟨tables, triggersOf config entity derivation,
        .ofTable config config.namer (config.namer.name .table entity.name false)
          (config.namer.name .primaryKey entity.name false)⟩

/-- The claims of the triggers of an entity on the names of their functions. -/
def functionClaims (entity : Entity) (part : EntityPart) : List (String × String) :=
  part.externalIdTriggers.map fun trigger =>
    (trigger.event.keyword ++ " external id of " ++ entity.name, trigger.function)

end EntityPart

namespace Schema

/-- The names that are taken in a schema. -/
structure Scopes where
  tables : Scope
  functions : Scope

/-- The parts of entities, with the names taken by them.  An entity takes the name of its table, gets
its row type, and then all the rest. -/
def parts (config : Config) (associations : List Association) :
    Scopes → RowTypeCache → List Entity →
      Except Error (List EntityPart × Scopes) × RowTypeCache
  | scopes, cache, [] => (.ok ([], scopes), cache)
  | scopes, cache, entity :: entities =>
    match scopes.tables.claim ("entity " ++ entity.name)
        (config.namer.name .table entity.name false) with
    | .error collision => (.error (.collision collision), cache)
    | .ok tables =>
      match cache.request config.namer entity with
      | (.error column, cache) => (.error (.unsupportedTag column), cache)
      | (.ok shared, cache) =>
        match EntityPart.ofEntity config associations entity shared.rowType with
        | .error error => (.error error, cache)
        | .ok part =>
          match scopes.functions.claimAll (part.functionClaims entity) with
          | .error collision => (.error (.collision collision), cache)
          | .ok functions =>
            match parts config associations ⟨tables, functions⟩ cache entities with
            | (.ok (rest, scopes), cache) => (.ok (part :: rest, scopes), cache)
            | (.error error, cache) => (.error error, cache)

/-- The first relation that does not have exactly one association table. -/
def uncovered? (model : Model) (associations : List Association) : Option Inconsistency :=
  (model.toList.flatMap fun entity => entity.related.toList.map (entity.name, ·)).findSome?
    fun (entity, related) =>
      let tables := associations.countP (·.joins entity related)
      if tables = 1 then none else some (.uncoveredRelation entity related tables)

/-- The names that are taken before the first entity. -/
def initialScopes (config : Config) : Scopes :=
  ⟨.named ("schema " ++ config.schema), .named ("functions of schema " ++ config.schema)⟩

/-- The claims of association tables on their names. -/
def associationClaims (associations : List Association) : List (String × String) :=
  associations.map fun association =>
    ("association " ++ association.owner.entity ++ "/" ++ association.other.entity,
      association.name)

/-- The schema of the parts of all entities. -/
def assemble (config : Config) (associations : List Association) (parts : List EntityPart) :
    Schema where
  name := config.schema
  schemas := [config.schema, config.systemSchema, config.archiveSchema]
  entities := parts.map EntityPart.tables
  associations := associations
  externalIdTriggers := parts.flatMap EntityPart.externalIdTriggers
  archiveTriggers := parts.map EntityPart.archiveTrigger

/-- The schema of a model, with the cache of row types after it. -/
def ofModel (config : Config) (model : Model) (cache : RowTypeCache) :
    Except Error Schema × RowTypeCache :=
  match Association.ofModel config.namer model with
  | .error error => (.error error, cache)
  | .ok associations =>
    match uncovered? model associations with
    | some cause => (.error (.inconsistent cause), cache)
    | none =>
      match parts config associations (initialScopes config) cache model.toList with
      | (.error error, cache) => (.error error, cache)
      | (.ok (parts, scopes), cache) =>
        match scopes.tables.claimAll (associationClaims associations) with
        | .error collision => (.error (.collision collision), cache)
        | .ok _ => (.ok (assemble config associations parts), cache)

end Schema

end EntitySchema
