import EntitySchema.Sql.Script
import EntitySchema.Proofs.Schema.ColumnNames

/-!
# References between tables

An association table refers to the primary keys of the entities on its sides, and an archive table
to the external id of its primary table. The names in such a reference are made apart from the table
that they are meant for. They lead to it because both are made from the name of the entity, and
nowhere else because no two entities share the name of their primary table.
-/

namespace EntitySchema

open Identifier (Namer Scope)

theorem Table.column?_name {table : Table} (h : table.columnNames.Nodup) {column : TableColumn}
    (hmem : column ∈ table.columns) : table.column? column.name = some column := by
  rw [column?, ← List.head?_filter, filter_eq_singleton h hmem, List.head?_cons]

namespace Schema

/-- These are the only tables whose primary table has that name. -/
def Finds (schema : Schema) (name : Sql.QualifiedName) (tables : EntityTables) : Prop :=
  schema.entities.filter (fun tables => Sql.tableName tables.primary = name) = [tables]

theorem Finds.hasPrimary {schema : Schema} {name : Sql.QualifiedName} {tables : EntityTables}
    (h : schema.Finds name tables) :
    tables ∈ schema.entities ∧ Sql.tableName tables.primary = name := by
  have hmem : tables ∈ schema.entities.filter fun tables => Sql.tableName tables.primary = name := by
    rw [h]
    exact List.mem_cons_self
  simpa using hmem

def RefersToKey (schema : Schema) (column : AssociationColumn) : Prop :=
  ∃ tables key, schema.Finds ⟨schema.name, column.table⟩ tables ∧ tables.entity = column.entity ∧
    tables.primary.column? column.key = some key ∧ key.kind = .primaryKey ∧ key.primaryKey = true

/-- Every reference of a column of the archive table is that of its external id to the one of the
primary table. -/
def ArchiveRefers (schema : Schema) (tables : EntityTables) : Prop :=
  ∀ column ∈ tables.archive.columns, ∀ r, column.references? = some r →
    tables.archive.columns.filter (·.kind = .externalId) = [column] ∧
      schema.Finds ⟨r.schema, r.table⟩ tables ∧
      ∃ target, tables.primary.column? r.column = some target ∧ target.kind = .externalId ∧
        target.unique = true

/-- Every reference leads to the table and the column that it is meant for. -/
structure Linked (schema : Schema) : Prop where
  owner : ∀ association ∈ schema.associations, schema.RefersToKey association.owner
  other : ∀ association ∈ schema.associations, schema.RefersToKey association.other
  primary : ∀ tables ∈ schema.entities, ∀ column ∈ tables.primary.columns, column.references? = none
  archive : ∀ tables ∈ schema.entities, schema.ArchiveRefers tables

def HasPrimary (schema : Schema) (name : Sql.QualifiedName) : Prop :=
  ∃ tables ∈ schema.entities, Sql.tableName tables.primary = name

/-- Tables stand in schemas that are to be created, and triggers on primary tables. -/
structure Placed (schema : Schema) : Prop where
  name : schema.name ∈ schema.schemas
  primary : ∀ tables ∈ schema.entities, tables.primary.schema ∈ schema.schemas
  archive : ∀ tables ∈ schema.entities, tables.archive.schema ∈ schema.schemas
  function : ∀ trigger ∈ schema.externalIdTriggers, trigger.schema ∈ schema.schemas
  rowTrigger : ∀ trigger ∈ schema.externalIdTriggers,
    schema.HasPrimary ⟨trigger.schema, trigger.table⟩
  archiveTrigger : ∀ trigger ∈ schema.archiveTriggers,
    schema.HasPrimary ⟨trigger.sourceSchema, trigger.table⟩

end Schema

namespace EntityTables

variable {config : Config} {associations : List Association} {namer : Namer} {entity : Entity}
  {rowType : RowType} {hasExternalId : Bool} {tables : EntityTables}

def keyColumn (namer : Namer) (entity : Entity) : TableColumn :=
  { TableColumn.ofRole namer entity .primaryKey .primaryKey "BIGINT" with
    primaryKey := true, nullable := false, default? := some .identity }

def externalIdColumn (namer : Namer) (entity : Entity) : TableColumn :=
  { TableColumn.ofRole namer entity .externalId .externalId "TEXT" with unique := true }

theorem filter_kind_primaryTable {kind : ColumnKind} (hkind : kind ≠ .scalar) :
    (primaryTable config entity rowType hasExternalId).columns.filter (·.kind = kind) =
      (leadingColumns config.namer entity hasExternalId).filter (·.kind = kind) := by
  have hfields : (rowType.fields.map TableColumn.ofField).filter (·.kind = kind) = [] := by
    rw [List.filter_eq_nil_iff]
    intro column hcolumn
    obtain ⟨field, -, rfl⟩ := List.mem_map.1 hcolumn
    exact fun heq => hkind (of_decide_eq_true heq).symm
  rw [primaryTable, List.filter_append, hfields, List.append_nil]

theorem filter_externalId_primaryTable (config : Config) (entity : Entity) (rowType : RowType)
    (hasExternalId : Bool) :
    (primaryTable config entity rowType hasExternalId).columns.filter (·.kind = .externalId) =
      if hasExternalId then [externalIdColumn config.namer entity] else [] := by
  rw [filter_kind_primaryTable (by decide)]
  unfold leadingColumns
  cases hasExternalId <;> cases entity.hasValueColumn <;> rfl

theorem references?_eq_none_of_mem_primaryTable {column : TableColumn}
    (h : column ∈ (primaryTable config entity rowType hasExternalId).columns) :
    column.references? = none := by
  rcases List.mem_append.1 h with hcolumn | hcolumn
  · unfold leadingColumns at hcolumn
    revert hcolumn
    cases hasExternalId <;> cases entity.hasValueColumn <;>
      simp +contextual [TableColumn.ofRole, or_imp]
  · obtain ⟨field, -, rfl⟩ := List.mem_map.1 hcolumn
    rfl

theorem filter_externalId_archiveTable (config : Config) (entity : Entity) (primary : Table) :
    (archiveTable config entity primary).columns.filter (·.kind = .externalId) =
      (primary.columns.filter (·.kind = .externalId)).map (.archived primary) := by
  have harchived : (primary.columns.map (TableColumn.archived primary)).filter
      (·.kind = .externalId) =
        (primary.columns.filter (·.kind = .externalId)).map (.archived primary) := List.filter_map
  rw [archiveTable, List.filter_append, harchived]
  exact List.append_nil _

theorem exists_source_of_mem_archiveTable {primary : Table} {column : TableColumn}
    {r : ColumnReference} (h : column ∈ (archiveTable config entity primary).columns)
    (hreference : column.references? = some r) :
    ∃ source ∈ primary.columns.filter (·.kind = .externalId),
      column = source.archived primary ∧ r = ⟨primary.schema, primary.name, source.name⟩ := by
  rcases List.mem_append.1 h with hcolumn | hcolumn
  · obtain ⟨source, hsource, rfl⟩ := List.mem_map.1 hcolumn
    simp only [TableColumn.archived, Option.ite_none_right_eq_some, Option.some.injEq] at hreference
    obtain ⟨hkind, rfl⟩ := hreference
    exact ⟨source, List.mem_filter.2 ⟨hsource, decide_eq_true hkind⟩, rfl, rfl⟩
  · rw [List.mem_singleton.1 hcolumn] at hreference
    cases hreference

end EntityTables

namespace EntityPart

/-- The tables stand in the schemas of the settings, and the triggers on the primary table. -/
structure Stands (config : Config) (part : EntityPart) : Prop where
  primary : part.tables.primary.schema = config.schema
  archive : part.tables.archive.schema = config.archiveSchema
  rowTrigger : ∀ trigger ∈ part.externalIdTriggers,
    trigger.schema = config.schema ∧ trigger.table = part.tables.primary.name
  archiveTrigger : part.archiveTrigger.sourceSchema = config.schema ∧
    part.archiveTrigger.table = part.tables.primary.name

theorem stands_of_ofEntity {config : Config} {associations : List Association} {entity : Entity}
    {rowType : RowType} {part : EntityPart}
    (h : ofEntity config associations entity rowType = .ok part) : part.Stands config := by
  obtain ⟨derivation, tables, -, htables, rfl⟩ := ofEntity_eq_ok_iff.1 h
  obtain ⟨-, -, rfl⟩ := EntityTables.ofEntity_eq_ok_iff.1 htables
  refine ⟨rfl, rfl, ?_, rfl, rfl⟩
  intro trigger htrigger
  cases derivation with
  | none => cases htrigger
  | some derivation =>
      obtain ⟨event, -, rfl⟩ := List.mem_map.1 htrigger
      exact ⟨rfl, rfl⟩

end EntityPart

namespace Association

variable {namer : Namer} {model : Model} {associations : List Association}

theorem exists_eq_toEntity (hkeyed : model.Keyed) (h : ofModel namer model = .ok associations)
    {association : Association} (hmem : association ∈ associations) :
    (∃ entity ∈ model.toList, ∃ parent, association.owner = .toEntity namer entity parent) ∧
      ∃ entity ∈ model.toList, ∃ parent, association.other = .toEntity namer entity parent := by
  obtain ⟨relations, hrelations, rfl⟩ := eq_map_table hkeyed h
  obtain ⟨relation, hrelation, rfl⟩ := List.mem_map.1 hmem
  obtain ⟨howner, hother⟩ := get?_sides hkeyed hrelations (List.mem_filter.1 hrelation).1
  exact ⟨⟨_, hkeyed.mem_toList_iff.2 howner, _, rfl⟩, _, hkeyed.mem_toList_iff.2 hother, _, rfl⟩

end Association

namespace Schema

variable {config : Config} {associations : List Association} {cache last : RowTypeCache}
  {made : List EntityPart}

theorem map_tableName_of_emits {entities : List Entity}
    (h : Emits config associations cache entities made last) :
    made.map (fun part => Sql.tableName part.tables.primary) =
      entities.map fun entity => ⟨config.schema, (tableClaim config entity).2⟩ := by
  induction h with
  | nil cache => rfl
  | cons _ hpart _ ih =>
      obtain ⟨derivation, tables, -, htables, rfl⟩ := EntityPart.ofEntity_eq_ok_iff.1 hpart
      obtain ⟨-, -, rfl⟩ := EntityTables.ofEntity_eq_ok_iff.1 htables
      rw [List.map_cons, List.map_cons, ih]
      rfl

theorem nodup_tableNames_of_agree {model : Model} (hkeyed : model.Keyed)
    (h : (model.toList.map (tableClaim config)).Pairwise Scope.Agree) :
    (model.toList.map fun entity =>
      (⟨config.schema, (tableClaim config entity).2⟩ : Sql.QualifiedName)).Nodup := by
  have hlabels : ((model.toList.map (tableClaim config)).map Prod.fst).Nodup := by
    have hnames := hkeyed.nodup_names
    rw [List.nodup_iff_pairwise_ne, List.pairwise_map] at hnames
    rw [List.map_map, List.nodup_iff_pairwise_ne, List.pairwise_map]
    apply hnames.imp
    intro a b hne heq
    exact hne ((String.append_right_inj "entity ").1 heq)
  have hnames := Scope.nodup_identifiers h hlabels
  rw [List.nodup_iff_pairwise_ne, List.map_map, List.pairwise_map] at hnames
  rw [List.nodup_iff_pairwise_ne, List.pairwise_map]
  apply hnames.imp
  intro a b hne heq
  exact hne (congrArg Sql.QualifiedName.name heq)

section Keyed

variable {model : Model} (hkeyed : model.Keyed)
  (hemits : Emits config associations cache model.toList made last)
  (hagree : (model.toList.map (tableClaim config)).Pairwise Scope.Agree)

include hkeyed hemits hagree

theorem finds_of_emits {part : EntityPart} (hpart : part ∈ made) :
    (assemble config associations made).Finds (Sql.tableName part.tables.primary) part.tables := by
  have hnames : ((made.map EntityPart.tables).map
      fun tables => Sql.tableName tables.primary).Nodup := by
    rw [List.map_map]
    exact (map_tableName_of_emits hemits) ▸ nodup_tableNames_of_agree hkeyed hagree
  exact filter_eq_singleton hnames (List.mem_map_of_mem hpart)

theorem refersToKey_toEntity {entity : Entity} (hentity : entity ∈ model.toList) (parent : Bool) :
    (assemble config associations made).RefersToKey (.toEntity config.namer entity parent) := by
  obtain ⟨part, hpart, rowType, hmade⟩ := hemits.exists_part_of_mem entity hentity
  have hfinds := finds_of_emits hkeyed hemits hagree hpart
  obtain ⟨derivation, tables, -, htables, rfl⟩ := EntityPart.ofEntity_eq_ok_iff.1 hmade
  have hnodup := (EntityTables.nodup_columnNames_of_ofEntity htables).1
  obtain ⟨-, -, rfl⟩ := EntityTables.ofEntity_eq_ok_iff.1 htables
  refine ⟨_, EntityTables.keyColumn config.namer entity, hfinds, rfl, ?_, rfl, rfl⟩
  exact Table.column?_name hnodup List.mem_cons_self

theorem archiveRefers_of_emits {part : EntityPart} (hpart : part ∈ made) :
    (assemble config associations made).ArchiveRefers part.tables := by
  intro column hcolumn r hr
  have hfinds := finds_of_emits hkeyed hemits hagree hpart
  obtain ⟨entity, -, rowType, hmade⟩ := hemits.exists_of_mem part hpart
  obtain ⟨derivation, tables, -, htables, rfl⟩ := EntityPart.ofEntity_eq_ok_iff.1 hmade
  generalize derivation.isSome = hasExternalId at htables
  have hnodup := (EntityTables.nodup_columnNames_of_ofEntity htables).1
  obtain ⟨-, -, rfl⟩ := EntityTables.ofEntity_eq_ok_iff.1 htables
  obtain ⟨source, hsource, rfl, rfl⟩ := EntityTables.exists_source_of_mem_archiveTable hcolumn hr
  have htarget := (List.mem_filter.1 hsource).1
  have hfilter := EntityTables.filter_externalId_primaryTable config entity rowType hasExternalId
  rw [hfilter] at hsource
  cases hasExternalId with
  | false => cases hsource
  | true =>
      obtain rfl := List.mem_singleton.1 hsource
      refine ⟨?_, hfinds, _, Table.column?_name hnodup htarget, rfl, rfl⟩
      rw [EntityTables.filter_externalId_archiveTable, hfilter]
      rfl

end Keyed

theorem references?_eq_none_of_emits {entities : List Entity}
    (hemits : Emits config associations cache entities made last) {part : EntityPart}
    (hpart : part ∈ made) : ∀ column ∈ part.tables.primary.columns, column.references? = none := by
  intro column hcolumn
  obtain ⟨entity, -, rowType, hmade⟩ := hemits.exists_of_mem part hpart
  obtain ⟨derivation, tables, -, htables, rfl⟩ := EntityPart.ofEntity_eq_ok_iff.1 hmade
  obtain ⟨-, -, rfl⟩ := EntityTables.ofEntity_eq_ok_iff.1 htables
  exact EntityTables.references?_eq_none_of_mem_primaryTable hcolumn

theorem linked_of_emits {model : Model} (hkeyed : model.Keyed)
    (hassociations : Association.ofModel config.namer model = .ok associations)
    (hemits : Emits config associations cache model.toList made last)
    (hagree : (model.toList.map (tableClaim config)).Pairwise Scope.Agree) :
    (assemble config associations made).Linked where
  owner association hmem := by
    obtain ⟨⟨entity, hentity, parent, howner⟩, -⟩ :=
      Association.exists_eq_toEntity hkeyed hassociations hmem
    rw [howner]
    exact refersToKey_toEntity hkeyed hemits hagree hentity parent
  other association hmem := by
    obtain ⟨-, entity, hentity, parent, hother⟩ :=
      Association.exists_eq_toEntity hkeyed hassociations hmem
    rw [hother]
    exact refersToKey_toEntity hkeyed hemits hagree hentity parent
  primary tables hmem := by
    obtain ⟨part, hpart, rfl⟩ := List.mem_map.1 hmem
    exact references?_eq_none_of_emits hemits hpart
  archive tables hmem := by
    obtain ⟨part, hpart, rfl⟩ := List.mem_map.1 hmem
    exact archiveRefers_of_emits hkeyed hemits hagree hpart

theorem placed_of_emits {entities : List Entity}
    (hemits : Emits config associations cache entities made last) :
    (assemble config associations made).Placed := by
  have hstands : ∀ part ∈ made, part.Stands config := by
    intro part hpart
    obtain ⟨entity, -, rowType, hmade⟩ := hemits.exists_of_mem part hpart
    exact EntityPart.stands_of_ofEntity hmade
  have hprimary : ∀ part ∈ made, (assemble config associations made).HasPrimary
      ⟨config.schema, part.tables.primary.name⟩ := by
    intro part hpart
    refine ⟨part.tables, List.mem_map_of_mem hpart, ?_⟩
    rw [Sql.tableName, (hstands part hpart).primary]
  have hschema : config.schema ∈ [config.schema, config.systemSchema, config.archiveSchema] :=
    List.mem_cons_self
  have harchive : config.archiveSchema ∈
      [config.schema, config.systemSchema, config.archiveSchema] := by simp
  constructor
  case name => exact hschema
  case primary =>
    intro tables hmem
    obtain ⟨part, hpart, rfl⟩ := List.mem_map.1 hmem
    exact (hstands part hpart).primary ▸ hschema
  case archive =>
    intro tables hmem
    obtain ⟨part, hpart, rfl⟩ := List.mem_map.1 hmem
    exact (hstands part hpart).archive ▸ harchive
  case function =>
    intro trigger hmem
    obtain ⟨part, hpart, htrigger⟩ := List.mem_flatMap.1 hmem
    exact ((hstands part hpart).rowTrigger trigger htrigger).1 ▸ hschema
  case rowTrigger =>
    intro trigger hmem
    obtain ⟨part, hpart, htrigger⟩ := List.mem_flatMap.1 hmem
    obtain ⟨hname, htable⟩ := (hstands part hpart).rowTrigger trigger htrigger
    rw [hname, htable]
    exact hprimary part hpart
  case archiveTrigger =>
    intro trigger hmem
    obtain ⟨part, hpart, rfl⟩ := List.mem_map.1 hmem
    obtain ⟨hname, htable⟩ := (hstands part hpart).archiveTrigger
    rw [hname, htable]
    exact hprimary part hpart

end Schema

end EntitySchema
