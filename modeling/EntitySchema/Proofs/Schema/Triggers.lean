import EntitySchema.Proofs.RowType.Serving
import EntitySchema.Proofs.Schema.Integrity

/-!
# Triggers of tables

The triggers of a schema stand in the order of its entities. They find the columns that they work on
by names that are derived apart from the table: the table is made from the row type of the entity,
the sources of an external id are looked up by name, and the trigger takes both for granted.
-/

namespace EntitySchema

open Identifier (Namer Scope)

theorem filter_flatMap_of_forall {α β : Type} {f : α → List β} {p : β → Bool} {q : α → Bool}
    {xs : List α} (h : ∀ x ∈ xs, ∀ y ∈ f x, p y = q x) :
    (xs.flatMap f).filter p = (xs.filter q).flatMap f := by
  induction xs with
  | nil => rfl
  | cons x xs ih =>
      obtain ⟨hx, hrest⟩ := List.forall_mem_cons.1 h
      rw [List.flatMap_cons, List.filter_append, ih hrest, List.filter_cons]
      split
      next hq => rw [List.flatMap_cons, List.filter_eq_self.2 fun y hy => (hx y hy).trans hq]
      next hq =>
        have hnone : (f x).filter p = [] :=
          List.filter_eq_nil_iff.2 fun y hy hp => hq ((hx y hy).symm.trans hp)
        rw [hnone, List.nil_append]

theorem exists_mem_zip_of_forall₂ {α β : Type} {R : α → β → Prop} {xs : List α} {ys : List β}
    (h : List.Forall₂ R xs ys) {x : α} (hx : x ∈ xs) : ∃ y, (x, y) ∈ xs.zip ys ∧ R x y := by
  obtain ⟨i, hi, rfl⟩ := List.mem_iff_getElem.1 hx
  have hi' : i < ys.length := h.length_eq ▸ hi
  have hzip : i < (xs.zip ys).length := by
    rw [List.length_zip]
    exact Nat.lt_min.2 ⟨hi, hi'⟩
  refine ⟨ys[i], ?_, h.get hi hi'⟩
  rw [← List.getElem_zip (h := hzip)]
  exact List.getElem_mem hzip

/-- The column has the type, the nullability and the annotation of a declared one. -/
structure TableColumn.StandsFor (declared : Column) (column : TableColumn) : Prop where
  sqlType : declared.tag?.bind TypeTag.sqlType? = some column.sqlType
  nullable : column.nullable = !declared.required
  annotation : column.annotation = declared.annotation

/-- The columns of a table that were declared. -/
def Table.scalars (table : Table) : List TableColumn := table.columns.filter (·.kind = .scalar)

/-- The trigger derives the external id in the primary table from the columns that stand for the
declared sources. -/
structure ExternalId.Trigger.Keeps (entity : Entity) (primary : Table) (trigger : Trigger) :
    Prop where
  schema : trigger.schema = primary.schema
  table : trigger.table = primary.name
  target : ∃ column, primary.columns.filter (·.kind = .externalId) = [column] ∧
    trigger.target = column.name
  direct_iff : (∃ source, trigger.derivation = .direct source) ↔
    entity.externalIdSources.length = 1
  sources : List.Forall₂
    (fun source identifier => ∃ p ∈ entity.columns.zip primary.scalars,
      p.1.name = source ∧ p.2.name = identifier)
    entity.externalIdSources trigger.derivation.sources

/-- The triggers are those that keep the external id of the entity current. -/
structure EntityTables.KeptBy (entity : Entity) (triggers : List ExternalId.Trigger)
    (tables : EntityTables) : Prop where
  name : tables.entity = entity.name
  scalars : List.Forall₂ TableColumn.StandsFor entity.columns tables.primary.scalars
  none : entity.externalIdSources = [] → triggers = []
  both : entity.externalIdSources ≠ [] → ∃ insert update, triggers = [insert, update] ∧
    insert.event = .insert ∧ update.event = .update ∧ insert.derivation = update.derivation ∧
    insert.Keeps entity tables.primary ∧ update.Keeps entity tables.primary

/-- The trigger hands the primary table to the archive routine, by its primary key. -/
structure ArchiveTrigger.Archives (tables : EntityTables) (trigger : ArchiveTrigger) : Prop where
  table : trigger.sourceSchema = tables.primary.schema ∧ trigger.table = tables.primary.name
  archive : trigger.archiveSchema = tables.archive.schema
  primaryKey : ∃ column, tables.primary.columns.filter (·.kind = .primaryKey) = [column] ∧
    column.primaryKey = true ∧ trigger.primaryKey = column.name

/-- The triggers follow the entities of the model, and each works on the table of its entity. -/
structure Schema.Wired (model : Model) (schema : Schema) : Prop where
  ordered : (schema.entities.map EntityTables.entity).Pairwise (· < ·)
  grouped : schema.externalIdTriggers =
    schema.entities.flatMap fun tables => schema.externalIdTriggersOf tables.primary.name
  kept : List.Forall₂
    (fun entity tables => tables.KeptBy entity (schema.externalIdTriggersOf tables.primary.name))
    model.toList schema.entities
  archived : List.Forall₂ (fun tables trigger => trigger.Archives tables) schema.entities
    schema.archiveTriggers

namespace EntityTables

variable {namer : Namer} {config : Config} {entity : Entity} {rowType : RowType}
  {hasExternalId : Bool}

theorem scalars_primaryTable (config : Config) (entity : Entity) (rowType : RowType)
    (hasExternalId : Bool) :
    (primaryTable config entity rowType hasExternalId).scalars =
      rowType.fields.map .ofField := by
  have hleading : (leadingColumns config.namer entity hasExternalId).filter
      (·.kind = .scalar) = [] := by
    rw [List.filter_eq_nil_iff]
    intro column hcolumn
    simpa using (kind_of_mem_leadingColumns hcolumn).1
  have hfields : (rowType.fields.map TableColumn.ofField).filter (·.kind = .scalar) =
      rowType.fields.map .ofField := by
    rw [List.filter_eq_self]
    intro column hcolumn
    obtain ⟨field, -, rfl⟩ := List.mem_map.1 hcolumn
    rfl
  rw [Table.scalars, primaryTable, List.filter_append, hleading, hfields, List.nil_append]

theorem filter_primaryKey_primaryTable (config : Config) (entity : Entity) (rowType : RowType)
    (hasExternalId : Bool) :
    (primaryTable config entity rowType hasExternalId).columns.filter (·.kind = .primaryKey) =
      [keyColumn config.namer entity] := by
  rw [filter_kind_primaryTable (by decide)]
  unfold leadingColumns
  cases hasExternalId <;> cases entity.hasValueColumn <;> rfl

theorem standsFor_ofField {column : Column} {field : RowField}
    (h : RowType.field? namer column = some field) : (TableColumn.ofField field).StandsFor column := by
  obtain ⟨tag, sqlType, htag, hsqlType, rfl⟩ := RowType.field?_eq_some_iff.1 h
  exact ⟨by rw [htag, Option.bind_some, hsqlType]; rfl, rfl, rfl⟩

end EntityTables

namespace ExternalId

theorem Derivation.direct_iff_of_ofSources? {sources : List String} {derivation : Derivation}
    (h : ofSources? sources = some derivation) :
    (∃ source, derivation = .direct source) ↔ sources.length = 1 := by
  match sources with
  | [] => cases h
  | [source] =>
      cases h
      exact ⟨fun _ => rfl, fun _ => ⟨source, rfl⟩⟩
  | first :: second :: rest =>
      cases h
      constructor
      · rintro ⟨source, hsource⟩
        cases hsource
      · intro hlength
        simp at hlength

theorem Trigger.keeps_forEvent {config : Config} {entity : Entity} {rowType : RowType}
    {derivation : Derivation} (hrowType : RowType.ofEntity config.namer entity = .ok rowType)
    (hderivation : Derivation.ofEntity config.namer entity = .ok (some derivation)) (event : Event) :
    (forEvent config.namer config.schema (config.namer.name .table entity.name false)
      (config.namer.name .externalId entity.name false) derivation event).Keeps entity
        (EntityTables.primaryTable config entity rowType true) := by
  obtain ⟨hdeclared, hsources⟩ := Derivation.ofEntity_eq_ok_iff.1 hderivation
  constructor
  case schema => rfl
  case table => rfl
  case target =>
    have hfilter := EntityTables.filter_externalId_primaryTable config entity rowType true
    exact ⟨_, hfilter, rfl⟩
  case direct_iff =>
    have hlength : (entity.externalIdSources.map (config.namer.name .column · false)).length =
        entity.externalIdSources.length := List.length_map _
    rw [← hlength]
    exact Derivation.direct_iff_of_ofSources? hsources.symm
  case sources =>
    change List.Forall₂ _ _ derivation.sources
    rw [Derivation.sources_of_ofSources? hsources.symm, List.forall₂_map_right_iff,
      List.forall₂_same]
    intro source hsource
    -- The name of the source is bounded on its own, and the name of its field alike.
    obtain ⟨column, hcolumn, rfl⟩ := List.mem_map.1 (hdeclared source hsource)
    obtain ⟨field, hzip, hfield⟩ :=
      exists_mem_zip_of_forall₂ (RowType.ofEntity_eq_ok_iff.1 hrowType).2 hcolumn
    obtain ⟨tag, sqlType, -, -, hidentifier⟩ := RowType.field?_eq_some_iff.1 hfield
    refine ⟨(column, .ofField field), ?_, rfl, congrArg RowField.identifier hidentifier⟩
    rw [EntityTables.scalars_primaryTable, List.zip_map_right]
    exact List.mem_map_of_mem hzip

end ExternalId

namespace EntityPart

variable {config : Config} {associations : List Association} {entity : Entity} {part : EntityPart}

theorem keptBy_of_isOf (h : part.IsOf config associations entity) :
    part.tables.KeptBy entity part.externalIdTriggers := by
  obtain ⟨rowType, hrowType, hmade⟩ := h
  obtain ⟨derivation, tables, hderivation, htables, rfl⟩ := ofEntity_eq_ok_iff.1 hmade
  obtain ⟨-, -, rfl⟩ := EntityTables.ofEntity_eq_ok_iff.1 htables
  have hsome := ExternalId.Derivation.isSome_of_ofEntity hderivation
  constructor
  case name => rfl
  case scalars =>
    rw [EntityTables.scalars_primaryTable, List.forall₂_map_right_iff]
    exact (RowType.ofEntity_eq_ok_iff.1 hrowType).2.imp fun _ _ => EntityTables.standsFor_ofField
  case none =>
    intro hnone
    cases derivation with
    | none => rfl
    | some derivation => exact absurd hnone (hsome.1 rfl)
  case both =>
    intro hsources
    cases derivation with
    | none => cases hsome.2 hsources
    | some derivation =>
        have hkeeps := ExternalId.Trigger.keeps_forEvent hrowType hderivation
        exact ⟨_, _, rfl, rfl, rfl, rfl, hkeeps .insert, hkeeps .update⟩

theorem archives_of_isOf (h : part.IsOf config associations entity) :
    part.archiveTrigger.Archives part.tables := by
  obtain ⟨rowType, -, hmade⟩ := h
  obtain ⟨derivation, tables, -, htables, rfl⟩ := ofEntity_eq_ok_iff.1 hmade
  obtain ⟨-, -, rfl⟩ := EntityTables.ofEntity_eq_ok_iff.1 htables
  exact ⟨⟨rfl, rfl⟩, rfl, _, EntityTables.filter_primaryKey_primaryTable _ _ _ _, rfl, rfl⟩

theorem stands_of_isOf (h : part.IsOf config associations entity) : part.Stands config := by
  obtain ⟨rowType, -, hmade⟩ := h
  exact stands_of_ofEntity hmade

theorem primary_name_of_isOf (h : part.IsOf config associations entity) :
    part.tables.primary.name = (Schema.tableClaim config entity).2 := by
  obtain ⟨rowType, -, hmade⟩ := h
  obtain ⟨derivation, tables, -, htables, rfl⟩ := ofEntity_eq_ok_iff.1 hmade
  obtain ⟨-, -, rfl⟩ := EntityTables.ofEntity_eq_ok_iff.1 htables
  rfl

end EntityPart

namespace Schema

variable {config : Config} {associations : List Association} {model : Model}
  {made : List EntityPart}

section Made

variable {entities : List Entity}
  (hmade : List.Forall₂ (fun entity part => part.IsOf config associations entity) entities made)

include hmade

theorem exists_isOf_of_mem {part : EntityPart} (hpart : part ∈ made) :
    ∃ entity, part.IsOf config associations entity := by
  obtain ⟨entity, -, hentity⟩ := exists_mem_zip_of_forall₂ hmade.flip hpart
  exact ⟨entity, hentity⟩

theorem stands_of_mem : ∀ part ∈ made, part.Stands config := by
  intro part hpart
  obtain ⟨entity, hentity⟩ := exists_isOf_of_mem hmade hpart
  exact EntityPart.stands_of_isOf hentity

theorem map_name_eq : entities.map Entity.name = made.map fun part => part.tables.entity :=
  map_eq_map_of_forall₂ (fun _ _ hpart => (EntityPart.keptBy_of_isOf hpart).name.symm) hmade

theorem map_primaryName_eq : (entities.map fun entity => (tableClaim config entity).2) =
    made.map fun part => part.tables.primary.name :=
  map_eq_map_of_forall₂ (fun _ _ hpart => (EntityPart.primary_name_of_isOf hpart).symm) hmade

end Made

theorem nodup_primaryNames (hkeyed : model.Keyed)
    (hmade : List.Forall₂ (fun entity part => part.IsOf config associations entity)
      model.toList made)
    (hagree : (model.toList.map (tableClaim config)).Pairwise Scope.Agree) :
    (made.map fun part => part.tables.primary.name).Nodup := by
  rw [← map_primaryName_eq hmade]
  apply List.Nodup.of_map (Sql.QualifiedName.mk config.schema)
  rw [List.map_map]
  exact nodup_tableNames_of_agree hkeyed hagree

theorem externalIdTriggersOf_of_mem (hstands : ∀ part ∈ made, part.Stands config)
    (hnames : (made.map fun part => part.tables.primary.name).Nodup) {part : EntityPart}
    (hpart : part ∈ made) :
    (assemble config associations made).externalIdTriggersOf part.tables.primary.name =
      part.externalIdTriggers := by
  -- The triggers of one part work on one table, whose name no other part has.
  have htable : ∀ other ∈ made, ∀ trigger ∈ other.externalIdTriggers,
      decide (trigger.table = part.tables.primary.name) =
        decide (other.tables.primary.name = part.tables.primary.name) := by
    intro other hother trigger htrigger
    rw [((hstands other hother).rowTrigger trigger htrigger).2]
  have hself := filter_eq_singleton hnames hpart
  rw [externalIdTriggersOf, assemble, filter_flatMap_of_forall htable, hself, List.flatMap_singleton]

/-- The triggers of a schema are those of the entities of the model, each on the columns that stand for
what the entity declares. -/
theorem wired_of_ofModel {cache : RowTypeCache} {schema : Schema} (hkeyed : model.Keyed)
    (hserves : cache.Serves config.namer model.toList)
    (h : (ofModel config model cache).1 = .ok schema) : schema.Wired model := by
  obtain ⟨associations, made, -, hmade, hagree, -, rfl⟩ :=
    (ofModel_eq_ok_iff_of_serves hkeyed hserves).1 h
  have hnames := nodup_primaryNames hkeyed hmade (List.pairwise_append.1 hagree).1
  have htriggers : ∀ part ∈ made, (assemble config associations made).externalIdTriggersOf
      part.tables.primary.name = part.externalIdTriggers :=
    fun part hpart => externalIdTriggersOf_of_mem (stands_of_mem hmade) hnames hpart
  have hkept := hmade.imp fun _ _ hpart => EntityPart.keptBy_of_isOf hpart
  constructor
  case ordered =>
    have hentities : (made.map EntityPart.tables).map EntityTables.entity =
        model.toList.map Entity.name := List.map_map.trans (map_name_eq hmade).symm
    change ((made.map EntityPart.tables).map EntityTables.entity).Pairwise (· < ·)
    rw [hentities, List.pairwise_map]
    exact hkeyed.pairwise_name_lt
  case grouped =>
    change made.flatMap EntityPart.externalIdTriggers = (made.map EntityPart.tables).flatMap _
    rw [List.flatMap_map]
    exact (List.flatMap_congr htriggers).symm
  case kept =>
    change List.Forall₂ _ model.toList (made.map EntityPart.tables)
    rw [List.forall₂_map_right_iff, List.forall₂_iff_zip]
    refine ⟨hkept.length_eq, fun {entity part} hmem => ?_⟩
    rw [htriggers part (List.of_mem_zip hmem).2]
    exact List.forall₂_zip hkept hmem
  case archived =>
    change List.Forall₂ _ (made.map EntityPart.tables) (made.map EntityPart.archiveTrigger)
    rw [List.forall₂_map_left_iff, List.forall₂_map_right_iff, List.forall₂_same]
    intro part hpart
    obtain ⟨entity, hentity⟩ := exists_isOf_of_mem hmade hpart
    exact EntityPart.archives_of_isOf hentity

/-- Three kinds of entity: without an external id, with a copied one, and with one that is hashed from
its sources in another order than that of the columns. -/
def depot : Model where
  entities := ⟨[
    ("Bay", { name := "Bay", columns := [{ name := "free", type := "bool", required := true }] }),
    ("Freight wagon", {
      name := "Freight wagon"
      columns := [{ name := "Wagon No.", type := "string" }]
      externalIdSources := ["Wagon No."]
      related := .ofList ["Train"] }),
    ("Train", {
      name := "Train"
      columns := [{ name := "day", type := "date" }, { name := "from", type := "text" },
        { name := "to", type := "text" }]
      externalIdSources := ["to", "day"]
      hasValueColumn := true
      related := .ofList ["Freight wagon"] })], by decide +kernel⟩

theorem wired_depot : depot.Keyed ∧
    (RowTypeCache.after [.request ⟨20⟩ { name := "Bay" }]).Serves ⟨20⟩ depot.toList ∧ ∃ schema,
      (ofModel { limit := 20 } depot (RowTypeCache.after [.request ⟨20⟩ { name := "Bay" }])).1 =
        .ok schema ∧ schema.Wired depot := by
  have hkeyed : depot.Keyed := Model.keyed_iff_entries.2 (by decide +kernel)
  have hserves : (RowTypeCache.after [.request ⟨20⟩ { name := "Bay" }]).Serves ⟨20⟩
      depot.toList := by decide +kernel
  have hok : ∃ schema, (ofModel { limit := 20 } depot
      (RowTypeCache.after [.request ⟨20⟩ { name := "Bay" }])).1 = .ok schema :=
    exists_eq_ok_of_isOk (by decide +kernel)
  obtain ⟨schema, h⟩ := hok
  refine ⟨hkeyed, hserves, schema, h, wired_of_ofModel hkeyed ?_ h⟩
  exact hserves

end Schema

end EntitySchema
