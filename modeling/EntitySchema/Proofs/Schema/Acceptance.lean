import EntitySchema.Proofs.RowType.Serving
import EntitySchema.Proofs.Schema.TableNames
import EntitySchema.Proofs.Schema.ColumnNames

/-!
# Models that have a schema

Whether a model has a schema can be told without making it. Its relations have to fit together, its
columns need types and the sources of its external ids have to be columns; apart from that the
identifiers of columns, of tables and of functions have to differ.
-/

namespace EntitySchema

open Identifier (Namer Scope)

namespace Entity

/-- The identifiers of the columns that are made for an entity. -/
def columnIdentifiers (namer : Namer) (entity : Entity) : List String :=
  [namer.name .primaryKey entity.name false, namer.name .timestamp entity.name false]
    ++ (if entity.externalIdSources = [] then [] else [namer.name .externalId entity.name false])
    ++ (if entity.hasValueColumn then [namer.name .value entity.name false] else [])
    ++ [namer.name .archiveTimestamp entity.name false]
    ++ entity.columns.map (namer.name .column ·.name false)

/-- The identifiers of the functions that keep the external id of an entity current. -/
def functionIdentifiers (namer : Namer) (entity : Entity) : List String :=
  if entity.externalIdSources = [] then []
  else [ExternalId.Event.insert, .update].map fun event =>
    namer.derived (namer.name .table entity.name false) (event.suffix ++ "_fn")

end Entity

/-- Nothing stands in the way of a schema of the model. -/
structure Model.Unobstructed (config : Config) (model : Model) : Prop where
  returned : ∀ a b, model.Relates a b → model.Relates b a
  owned : ∀ a b, model.Owns a b → model.Relates a b
  scalar : ∀ entity ∈ model.toList, ∀ column ∈ entity.columns, ∃ tag ∈ column.tag?, tag ≠ .object
  declared : ∀ entity ∈ model.toList, ∀ source ∈ entity.externalIdSources,
    source ∈ entity.columns.map Column.name
  columns : ∀ entity ∈ model.toList, (entity.columnIdentifiers config.namer).Nodup
  sides : ∀ a b, model.Relates a b →
    config.namer.name .primaryKey a (a = b) ≠ config.namer.name .primaryKey b false
  tables : (model.toList.map fun entity => config.namer.name .table entity.name false).Nodup
  associations : ∀ a b, model.Joined a b → ∀ c d, model.Joined c d →
    config.namer.join [a, b] = config.namer.join [c, d] → a = c ∧ b = d
  apart : ∀ entity ∈ model.toList, ∀ a b, model.Joined a b →
    config.namer.name .table entity.name false ≠ config.namer.join [a, b]
  functions : (model.toList.flatMap (Entity.functionIdentifiers config.namer)).Nodup

namespace EntityTables

variable {config : Config} {entity : Entity} {rowType : RowType} {hasExternalId : Bool}

/-- All columns of an entity are in its archive table. -/
theorem columnNames_archiveTable_perm (hrowType : RowType.ofEntity config.namer entity = .ok rowType)
    (hexternal : hasExternalId = true ↔ entity.externalIdSources ≠ []) :
    (archiveTable config entity (primaryTable config entity rowType hasExternalId)).columnNames.Perm
      (entity.columnIdentifiers config.namer) := by
  have hfields : (rowType.fields.map TableColumn.ofField).map TableColumn.name =
      entity.columns.map (config.namer.name .column ·.name false) := by
    rw [List.map_map, ← RowType.map_identifier_of_ofEntity hrowType]
    rfl
  rw [columnNames_archiveTable, Table.columnNames, primaryTable, List.map_append, hfields,
    List.append_assoc, Entity.columnIdentifiers, List.append_assoc _ _ (entity.columns.map _)]
  have hleading : (leadingColumns config.namer entity hasExternalId).map TableColumn.name =
      [config.namer.name .primaryKey entity.name false,
          config.namer.name .timestamp entity.name false]
        ++ (if entity.externalIdSources = [] then []
          else [config.namer.name .externalId entity.name false])
        ++ (if entity.hasValueColumn then [config.namer.name .value entity.name false] else []) := by
    by_cases hsources : entity.externalIdSources = []
    · have hnone : hasExternalId = false := by simpa [hsources] using hexternal
      cases hvalue : entity.hasValueColumn <;>
        simp [leadingColumns, TableColumn.ofRole, hsources, hnone, hvalue]
    · have hsome : hasExternalId = true := hexternal.2 hsources
      cases hvalue : entity.hasValueColumn <;>
        simp [leadingColumns, TableColumn.ofRole, hsources, hsome, hvalue]
  rw [hleading]
  -- The time of archiving comes after the declared columns in the table.
  exact List.Perm.append_left _ List.perm_append_comm

theorem exists_ofEntity_eq_ok (associations : List Association)
    (hrowType : RowType.ofEntity config.namer entity = .ok rowType)
    (hexternal : hasExternalId = true ↔ entity.externalIdSources ≠ [])
    (hcolumns : (entity.columnIdentifiers config.namer).Nodup) :
    ∃ tables, ofEntity config associations entity rowType hasExternalId = .ok tables := by
  have harchive : (archiveTable config entity
      (primaryTable config entity rowType hasExternalId)).columnNames.Nodup :=
    (columnNames_archiveTable_perm hrowType hexternal).nodup_iff.2 hcolumns
  have hprimary : (primaryTable config entity rowType hasExternalId).columnNames.Nodup := by
    rw [columnNames_archiveTable] at harchive
    exact (List.nodup_append.1 harchive).1
  refine ⟨_, ofEntity_eq_ok_iff.2 ⟨?_, ?_, rfl⟩⟩
  · rw [columnScope, Scope.exists_claimAll_named_eq_ok_iff]
    apply Scope.agree_of_nodup
    rw [map_snd_primaryClaims]
    exact hprimary
  · rw [columnScope, Scope.exists_claimAll_named_eq_ok_iff]
    apply Scope.agree_of_nodup
    rw [archiveClaims, List.map_map]
    exact harchive

end EntityTables

namespace EntityPart

variable {config : Config} {entity : Entity}

theorem exists_isOf (associations : List Association)
    (hscalar : ∀ column ∈ entity.columns, ∃ tag ∈ column.tag?, tag ≠ .object)
    (hdeclared : ∀ source ∈ entity.externalIdSources, source ∈ entity.columns.map Column.name)
    (hcolumns : (entity.columnIdentifiers config.namer).Nodup) :
    ∃ part, IsOf config associations entity part := by
  obtain ⟨rowType, hrowType⟩ := (@RowType.exists_ofEntity_iff config.namer entity).2 hscalar
  have hderivation : ExternalId.Derivation.ofEntity config.namer entity = .ok _ :=
    ExternalId.Derivation.ofEntity_eq_ok_iff.2 ⟨hdeclared, rfl⟩
  obtain ⟨tables, htables⟩ := EntityTables.exists_ofEntity_eq_ok associations hrowType
    (ExternalId.Derivation.isSome_of_ofEntity hderivation) hcolumns
  exact ⟨_, rowType, hrowType, ofEntity_eq_ok_iff.2 ⟨_, tables, hderivation, htables, rfl⟩⟩

theorem map_snd_functionClaims {associations : List Association} {part : EntityPart}
    (h : part.IsOf config associations entity) :
    (part.functionClaims entity).map Prod.snd = entity.functionIdentifiers config.namer := by
  obtain ⟨rowType, -, hmade⟩ := h
  obtain ⟨derivation, tables, hderivation, -, rfl⟩ := ofEntity_eq_ok_iff.1 hmade
  have hsome := ExternalId.Derivation.isSome_of_ofEntity hderivation
  cases derivation with
  | none =>
      have hnone : entity.externalIdSources = [] := by simpa using hsome
      simp [functionClaims, triggersOf, Entity.functionIdentifiers, hnone]
  | some derivation =>
      have hsources : entity.externalIdSources ≠ [] := hsome.1 rfl
      rw [Entity.functionIdentifiers, if_neg hsources]
      rfl

end EntityPart

namespace Association

variable {namer : Namer} {model : Model}

theorem exists_associations (hkeyed : model.Keyed) {relations : List Relation}
    (h : Relation.ofModel model = .ok relations)
    (hsides : ∀ a b, model.Relates a b →
      namer.name .primaryKey a (a = b) ≠ namer.name .primaryKey b false) :
    ∃ associations, ofModel namer model = .ok associations := by
  refine ⟨_, ofModel_eq_ok_iff.2 ⟨relations, h, ?_, rfl⟩⟩
  intro r hr
  rw [Relation.firstPerPair_eq_filter hkeyed h] at hr
  have hrelates := relates_sides hkeyed h (List.mem_filter.1 hr).1
  apply Scope.agree_of_nodup
  have hne : (r.table namer).owner.name ≠ (r.table namer).other.name := hsides _ _ hrelates
  rw [columnClaims, List.map_cons, List.map_cons, List.map_nil]
  exact List.nodup_cons.2 ⟨by simpa using hne, List.nodup_singleton _⟩

theorem nodup_names (hkeyed : model.Keyed) {associations : List Association}
    (h : ofModel namer model = .ok associations)
    (hnames : ∀ a b, model.Joined a b → ∀ c d, model.Joined c d →
      namer.join [a, b] = namer.join [c, d] → a = c ∧ b = d) :
    (associations.map Association.name).Nodup := by
  have hpairs := nodup_pairs hkeyed h
  rw [List.nodup_iff_pairwise_ne, List.pairwise_map] at hpairs ⊢
  refine hpairs.imp_of_mem fun {x y} hx hy hne heq => ?_
  rw [Schema.name_of_mem hkeyed h hx, Schema.name_of_mem hkeyed h hy] at heq
  obtain ⟨howner, hother⟩ := hnames _ _ ((exists_sides_iff hkeyed h _ _).1 ⟨x, hx, rfl, rfl⟩) _ _
    ((exists_sides_iff hkeyed h _ _).1 ⟨y, hy, rfl, rfl⟩) heq
  exact hne (by rw [pair, howner, hother, pair])

end Association

namespace Schema

variable {config : Config} {model : Model} {cache : RowTypeCache}

theorem map_snd_functionClaims {associations : List Association} {entities : List Entity}
    {made : List EntityPart}
    (h : List.Forall₂ (fun entity part => part.IsOf config associations entity) entities made) :
    (functionClaims entities made).map Prod.snd =
      entities.flatMap (Entity.functionIdentifiers config.namer) := by
  induction h with
  | nil => rfl
  | cons hpart _ ih =>
      rw [functionClaims_cons, List.map_append, List.flatMap_cons, ih,
        EntityPart.map_snd_functionClaims hpart]

theorem nodup_map_snd_tableClaims (hkeyed : model.Keyed) (h : model.Unobstructed config)
    {associations : List Association}
    (hassociations : Association.ofModel config.namer model = .ok associations) :
    ((model.toList.map (tableClaim config) ++ associationClaims associations).map
      Prod.snd).Nodup := by
  have htables : (model.toList.map (tableClaim config)).map Prod.snd =
      model.toList.map fun entity => config.namer.name .table entity.name false := List.map_map
  have hnames : (associationClaims associations).map Prod.snd =
      associations.map Association.name := List.map_map
  rw [List.map_append, htables, hnames, List.nodup_append]
  refine ⟨h.tables, Association.nodup_names hkeyed hassociations h.associations, ?_⟩
  intro name hname other hother
  obtain ⟨entity, hentity, rfl⟩ := List.mem_map.1 hname
  obtain ⟨association, hmem, rfl⟩ := List.mem_map.1 hother
  rw [name_of_mem hkeyed hassociations hmem]
  exact h.apart entity hentity _ _
    ((Association.exists_sides_iff hkeyed hassociations _ _).1 ⟨association, hmem, rfl, rfl⟩)

/-- A model has a schema unless something stands in its way. -/
theorem exists_ofModel_eq_ok (hkeyed : model.Keyed)
    (hserves : cache.Serves config.namer model.toList) (h : model.Unobstructed config) :
    ∃ schema, (ofModel config model cache).1 = .ok schema := by
  obtain ⟨relations, hrelations⟩ :=
    (Relation.exists_ofModel_eq_ok_iff_of_keyed hkeyed).2 ⟨h.returned, h.owned⟩
  obtain ⟨associations, hassociations⟩ :=
    Association.exists_associations hkeyed hrelations h.sides
  have hparts : ∀ entity ∈ model.toList, ∃ part, EntityPart.IsOf config associations entity part := by
    intro entity hentity
    exact EntityPart.exists_isOf associations (h.scalar entity hentity) (h.declared entity hentity)
      (h.columns entity hentity)
  obtain ⟨made, hmade⟩ := exists_forall₂_iff.2 hparts
  have hfunctions : ((functionClaims model.toList made).map Prod.snd).Nodup := by
    rw [map_snd_functionClaims hmade]
    exact h.functions
  exact ⟨_, (ofModel_eq_ok_iff_of_serves hkeyed hserves).2 ⟨associations, made, hassociations, hmade,
    Scope.agree_of_nodup (nodup_map_snd_tableClaims hkeyed h hassociations),
    Scope.agree_of_nodup hfunctions, rfl⟩⟩

/-- Tools that are kept in boxes, which can stand in each other. The names are too long for the limit
below, and the marks are flags whose row type is shared. -/
def workshop : Model where
  entities := ⟨[
    ("Mark", { name := "Mark", columns := [{ name := "in use", type := "bool" }] }),
    ("Storage box", {
      name := "Storage box"
      columns := [{ name := "Label", type := "string" }]
      hasValueColumn := true
      externalIdSources := ["Label"]
      related := .ofList ["Storage box", "Tool"] }),
    ("Tool", {
      name := "Tool"
      columns := [{ name := "maker", type := "text" }, { name := "no.", type := "int" }]
      externalIdSources := ["no.", "maker"]
      related := .ofList ["Storage box"]
      owned := .ofList ["Storage box"] })], by decide +kernel⟩

theorem unobstructed_workshop : workshop.Unobstructed { limit := 20 } where
  returned := Model.forall_relates_iff.2 (by decide +kernel)
  owned := Model.forall_owns_iff.2 (by decide +kernel)
  scalar := by decide +kernel
  declared := by decide +kernel
  columns := by decide +kernel
  sides := Model.forall_relates_iff.2 (by decide +kernel)
  tables := by decide +kernel
  associations := by
    simp only [Model.forall_joined_iff]
    decide +kernel
  apart := by
    simp only [Model.forall_joined_iff]
    decide +kernel
  functions := by decide +kernel

theorem exists_ofModel_eq_ok_workshop : workshop.Keyed ∧
    (RowTypeCache.after [.emit { limit := 20 } workshop, .emit {} workshop]).Serves ⟨20⟩
      workshop.toList ∧
    workshop.Unobstructed { limit := 20 } ∧ ∃ schema, (ofModel { limit := 20 } workshop
      (RowTypeCache.after [.emit { limit := 20 } workshop, .emit {} workshop])).1 = .ok schema := by
  have hkeyed : workshop.Keyed := Model.keyed_iff_entries.2 (by decide +kernel)
  have hseparable : ∀ entity ∈ workshop.toList, RowTypeCache.Separable entity := by
    simp only [RowTypeCache.Separable]
    decide +kernel
  have hfaithful : (RowTypeCache.after [.emit { limit := 20 } workshop,
      .emit {} workshop]).Faithful fun _ entity => RowTypeCache.Separable entity := by
    apply RowTypeCache.faithful_after
    simpa [RowTypeCache.Use.Within] using hseparable
  have hserves : (RowTypeCache.after [.emit { limit := 20 } workshop, .emit {} workshop]).Serves ⟨20⟩
      workshop.toList := hfaithful.serves RowTypeCache.apart_separable hseparable
  exact ⟨hkeyed, hserves, unobstructed_workshop,
    exists_ofModel_eq_ok hkeyed hserves unobstructed_workshop⟩

end Schema

end EntitySchema
