import EntitySchema.Proofs.Schema.Triggers

/-!
# The two tables of an entity

The kinds of the columns of a primary table follow from the entity alone, and so do the declared
columns with all that they hold. The archive table is not made from the entity but from the primary
table: column by column it keeps what a value of the column is, and leaves out what the database
would see to.
-/

namespace EntitySchema

open Identifier (Namer)

/-- The column is the declared one under its identifier. -/
structure TableColumn.Renders (namer : Namer) (declared : Column) (column : TableColumn) : Prop
    extends column.StandsFor declared where
  name : column.name = namer.name .column declared.name false

/-- What a column of an archive table has in common with that of the primary table. -/
structure TableColumn.Copies (column copy : TableColumn) : Prop where
  name : copy.name = column.name
  kind : copy.kind = column.kind
  sqlType : copy.sqlType = column.sqlType
  annotation : copy.annotation = column.annotation

/-- The kinds of the columns of a primary table, in their order. -/
def Entity.columnKinds (entity : Entity) : List ColumnKind :=
  [.primaryKey, .createdAt] ++ (if entity.externalIdSources = [] then [] else [.externalId])
    ++ (if entity.hasValueColumn then [.value] else [])
    ++ entity.columns.map fun _ => .scalar

namespace Table

/-- The table has the columns of a primary table of the entity, each at its place. -/
structure Presents (namer : Namer) (entity : Entity) (table : Table) : Prop where
  kinds : table.columns.map TableColumn.kind = entity.columnKinds
  scalars : List.Forall₂ (TableColumn.Renders namer) entity.columns table.scalars

/-- The archive table has the columns of the primary table without their constraints, and behind them
the time of archiving. -/
structure Mirrors (primary archive : Table) : Prop where
  columns : ∃ copies last, archive.columns = copies ++ [last] ∧
    List.Forall₂ TableColumn.Copies primary.columns copies ∧
    archive.columns.filter (·.kind = .archivedAt) = [last]
  unconstrained : ∀ column ∈ archive.columns, column.primaryKey = false ∧ column.unique = false
  default : ∀ column ∈ archive.columns,
    column.default? = if column.kind = .archivedAt then some .currentTimestamp else none
  nullable : ∀ column ∈ archive.columns,
    column.nullable = false ↔ column.kind ∈ [.primaryKey, .createdAt, .archivedAt]

end Table

/-- The tables are those of the entity, and one is the other's archive. -/
structure EntityTables.Archived (namer : Namer) (entity : Entity) (tables : EntityTables) : Prop where
  name : tables.entity = entity.name
  primary : tables.primary.Presents namer entity
  archive : tables.primary.Mirrors tables.archive

namespace EntityTables

variable {config : Config} {entity : Entity} {rowType : RowType} {hasExternalId : Bool}

theorem map_kind_primaryTable (hrowType : RowType.ofEntity config.namer entity = .ok rowType)
    (hexternal : hasExternalId = true ↔ entity.externalIdSources ≠ []) :
    (primaryTable config entity rowType hasExternalId).columns.map TableColumn.kind =
      entity.columnKinds := by
  have hleading : (if hasExternalId then [ColumnKind.externalId] else []) =
      if entity.externalIdSources = [] then [] else [.externalId] := by
    by_cases hsources : entity.externalIdSources = []
    · have hnone : hasExternalId = false := by simpa [hsources] using hexternal
      rw [hnone, if_pos hsources]
      rfl
    · rw [hexternal.2 hsources, if_neg hsources]
      rfl
  have hfields : (rowType.fields.map TableColumn.ofField).map TableColumn.kind =
      entity.columns.map fun _ => .scalar := by
    rw [List.map_map]
    exact (map_eq_map_of_forall₂ (fun _ _ _ => rfl) (RowType.ofEntity_eq_ok_iff.1 hrowType).2).symm
  rw [primaryTable, List.map_append, map_kind_leadingColumns, hleading, hfields]
  rfl

theorem renders_ofField {namer : Namer} {column : Column} {field : RowField}
    (h : RowType.field? namer column = some field) :
    (TableColumn.ofField field).Renders namer column := by
  refine ⟨standsFor_ofField h, ?_⟩
  obtain ⟨tag, sqlType, -, -, rfl⟩ := RowType.field?_eq_some_iff.1 h
  rfl

theorem presents_primaryTable (hrowType : RowType.ofEntity config.namer entity = .ok rowType)
    (hexternal : hasExternalId = true ↔ entity.externalIdSources ≠ []) :
    (primaryTable config entity rowType hasExternalId).Presents config.namer entity where
  kinds := map_kind_primaryTable hrowType hexternal
  scalars := by
    rw [scalars_primaryTable, List.forall₂_map_right_iff]
    exact (RowType.ofEntity_eq_ok_iff.1 hrowType).2.imp fun _ _ => renders_ofField

variable {primary : Table} (hkinds : ∀ column ∈ primary.columns, column.kind ≠ .archivedAt)

include hkinds

theorem filter_archivedAt_archiveTable :
    (archiveTable config entity primary).columns.filter (·.kind = .archivedAt) =
      [archivedAtColumn config.namer entity] := by
  have hcopies : (primary.columns.map (TableColumn.archived primary)).filter
      (·.kind = .archivedAt) = [] := by
    rw [List.filter_eq_nil_iff]
    intro copy hcopy heq
    obtain ⟨column, hcolumn, rfl⟩ := List.mem_map.1 hcopy
    exact hkinds column hcolumn (of_decide_eq_true heq)
  rw [archiveTable, List.filter_append, hcopies, List.nil_append]
  rfl

/-- What holds of copies of the other kinds, and of the time of archiving, holds of all columns. -/
theorem forall_mem_archiveTable {P : TableColumn → Prop}
    (hcopy : ∀ column : TableColumn, column.kind ≠ .archivedAt → P (column.archived primary))
    (hlast : P (archivedAtColumn config.namer entity)) :
    ∀ column ∈ (archiveTable config entity primary).columns, P column := by
  intro column hmem
  rcases List.mem_append.1 hmem with hmem | hmem
  · obtain ⟨original, horiginal, rfl⟩ := List.mem_map.1 hmem
    exact hcopy original (hkinds original horiginal)
  · exact List.mem_singleton.1 hmem ▸ hlast

theorem mirrors_archiveTable : primary.Mirrors (archiveTable config entity primary) where
  columns := by
    refine ⟨_, _, rfl, ?_, filter_archivedAt_archiveTable hkinds⟩
    rw [List.forall₂_map_right_iff, List.forall₂_same]
    intro column _
    exact ⟨rfl, rfl, rfl, rfl⟩
  unconstrained := forall_mem_archiveTable hkinds (fun _ _ => ⟨rfl, rfl⟩) ⟨rfl, rfl⟩
  default := forall_mem_archiveTable hkinds (fun _ hkind => (if_neg hkind).symm) rfl
  nullable := by
    refine forall_mem_archiveTable hkinds (fun column hkind => ?_) ?_
    · simp [TableColumn.archived, hkind, Decidable.or_iff_not_imp_left]
    · simp [archivedAtColumn, TableColumn.ofRole]

end EntityTables

theorem EntityPart.archived_of_isOf {config : Config} {associations : List Association}
    {entity : Entity} {part : EntityPart} (h : part.IsOf config associations entity) :
    part.tables.Archived config.namer entity := by
  obtain ⟨rowType, hrowType, hmade⟩ := h
  obtain ⟨derivation, tables, hderivation, htables, rfl⟩ := ofEntity_eq_ok_iff.1 hmade
  obtain ⟨-, -, rfl⟩ := EntityTables.ofEntity_eq_ok_iff.1 htables
  have hexternal := ExternalId.Derivation.isSome_of_ofEntity hderivation
  constructor
  case name => rfl
  case primary => exact EntityTables.presents_primaryTable hrowType hexternal
  case archive => exact EntityTables.mirrors_archiveTable fun _ => EntityTables.kind_ne_archivedAt

namespace Schema

/-- The tables of a schema are those of the entities of its model, in their order. -/
theorem archived_of_ofModel {config : Config} {model : Model} {cache : RowTypeCache}
    {schema : Schema} (hserves : cache.Serves config.namer model.toList)
    (h : (ofModel config model cache).1 = .ok schema) :
    List.Forall₂ (fun entity tables => tables.Archived config.namer entity) model.toList
      schema.entities := by
  obtain ⟨associations, made, -, -, hemits, -, -, rfl⟩ :=
    ofModel_eq_ok_iff.1 (Prod.ext (y := (Except.ok schema, _)) h rfl)
  have hmade := (exists_emits_iff hserves).1 ⟨_, hemits⟩
  change List.Forall₂ _ model.toList (made.map EntityPart.tables)
  rw [List.forall₂_map_right_iff]
  exact hmade.imp fun _ _ => EntityPart.archived_of_isOf

/-- Entities with and without an external id, with and without text content, of which one is a table
of flags. -/
def theatre : Model where
  entities := ⟨[
    ("Aisle", {
      name := "Aisle"
      columns := [{ name := "lit", type := "bool", required := true }] }),
    ("Notice", { name := "Notice", hasValueColumn := true, annotation := "on the door" }),
    ("Play", {
      name := "Play"
      columns := [{ name := "Title", type := "text", annotation := "as on the bill" },
        { name := "acts", type := "int", required := true }]
      externalIdSources := ["Title"]
      hasValueColumn := true }),
    ("Seat", {
      name := "Seat"
      columns := [{ name := "row", type := "text", required := true },
        { name := "No.", type := "int" }]
      externalIdSources := ["row", "No."] })], by decide +kernel⟩

theorem archived_theatre :
    (RowTypeCache.after [.emit { limit := 20 } theatre]).Serves ⟨20⟩ theatre.toList ∧
      ∃ schema, (ofModel { limit := 20 } theatre
          (RowTypeCache.after [.emit { limit := 20 } theatre])).1 = .ok schema ∧
        List.Forall₂ (fun entity tables => tables.Archived ⟨20⟩ entity) theatre.toList
          schema.entities := by
  have hserves : (RowTypeCache.after [.emit { limit := 20 } theatre]).Serves ⟨20⟩
      theatre.toList := by decide +kernel
  have hok : ∃ schema, (ofModel { limit := 20 } theatre
      (RowTypeCache.after [.emit { limit := 20 } theatre])).1 = .ok schema :=
    exists_eq_ok_of_isOk (by decide +kernel)
  obtain ⟨schema, h⟩ := hok
  refine ⟨hserves, schema, h, archived_of_ofModel ?_ h⟩
  exact hserves

end Schema

end EntitySchema
