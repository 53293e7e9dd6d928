import EntitySchema.Proofs.Schema.Faults
import EntitySchema.Proofs.Schema.Integrity

/-!
# Relationships of entities

The relationships of an entity are those association tables that have it on one side, seen from that
side. As every pair of related entities has one table, an entity has one relationship for each entity
that it is related to, and that entity has the same one in the other direction.
-/

namespace EntitySchema

open Identifier (Namer Scope)

/-- The columns of the table seen from `a`: first the one that refers to `a`, then the one of the other
side. If both refer to `a`, the owning column comes first. -/
def Association.Faces (association : Association) (a : String) (here there : AssociationColumn) :
    Prop :=
  here.entity = a ∧
    (here = association.owner ∧ there = association.other ∨
      there.entity ≠ a ∧ here = association.other ∧ there = association.owner)

/-- The relationship leads from `a` through the table to its target: from the column that refers to the
key of `a` to the column that refers to the key of the target. -/
structure Relationship.Crosses (schema : Schema) (a : String) (association : Association)
    (relationship : Relationship) : Prop where
  table : relationship.associationTable = association.name
  columns : ∃ here there, association.Faces a here there ∧ there.entity = relationship.target ∧
    schema.RefersToKey here ∧ schema.RefersToKey there ∧
    relationship.localColumn = here.name ∧ relationship.remoteColumn = there.name

/-- The relationship leads back to `a`, over the same table. -/
structure Relationship.Returns (a : String) (relationship back : Relationship) : Prop where
  target : back.target = a
  table : back.associationTable = relationship.associationTable
  localColumn : back.localColumn = relationship.remoteColumn
  remoteColumn : back.remoteColumn = relationship.localColumn

/-- The relationships of every entity lead to the entities that it is related to in the model, each over
the one table of both and back again. -/
structure Schema.Navigable (namer : Namer) (model : Model) (schema : Schema) : Prop where
  entities : schema.entities.map EntityTables.entity = model.toList.map Entity.name
  nodup : ∀ tables ∈ schema.entities, (tables.relationships.map Relationship.target).Nodup
  mem_iff : ∀ tables ∈ schema.entities, ∀ b,
    b ∈ tables.relationships.map Relationship.target ↔ model.Relates tables.entity b
  attributes : ∀ tables ∈ schema.entities,
    (tables.relationships.map Relationship.attributeName).Nodup
  crosses : ∀ tables ∈ schema.entities, ∀ relationship ∈ tables.relationships, ∃ association,
    schema.associations.filter (·.joins tables.entity relationship.target) = [association] ∧
      relationship.Crosses schema tables.entity association
  returns : ∀ tables ∈ schema.entities, ∀ relationship ∈ tables.relationships,
    relationship.target ≠ tables.entity → ∃ others ∈ schema.entities,
      others.entity = relationship.target ∧
        ∃ back ∈ others.relationships, relationship.Returns tables.entity back
  self : ∀ tables ∈ schema.entities, model.Relates tables.entity tables.entity → ∃ relationship,
    tables.relationships.filter (·.target = tables.entity) = [relationship] ∧
      relationship.localColumn = namer.name .primaryKey tables.entity true ∧
      relationship.remoteColumn = namer.name .primaryKey tables.entity false

namespace Association

variable {association : Association} {a b : String} {here there : AssociationColumn}

theorem Faces.pair_eq (h : association.Faces a here there) :
    association.pair = s(a, there.entity) := by
  obtain ⟨rfl, ⟨rfl, rfl⟩ | ⟨-, rfl, rfl⟩⟩ := h
  · rfl
  · exact Sym2.eq_swap

theorem exists_faces_iff :
    (∃ here there, association.Faces a here there ∧ there.entity = b) ↔
      association.pair = s(a, b) := by
  constructor
  · rintro ⟨here, there, hfaces, rfl⟩
    exact hfaces.pair_eq
  · intro hpair
    by_cases howner : association.owner.entity = a
    · refine ⟨_, _, ⟨howner, .inl ⟨rfl, rfl⟩⟩, ?_⟩
      rw [pair, howner] at hpair
      exact Sym2.congr_right.1 hpair
    · rcases Sym2.eq_iff.1 hpair with ⟨heq, -⟩ | ⟨hb, ha⟩
      · exact absurd heq howner
      · exact ⟨_, _, ⟨ha, .inr ⟨howner, rfl, rfl⟩⟩, hb⟩

theorem Faces.back (h : association.Faces a here there) (hne : there.entity ≠ a) :
    association.Faces there.entity there here := by
  obtain ⟨rfl, ⟨rfl, rfl⟩ | ⟨-, rfl, rfl⟩⟩ := h
  · exact ⟨rfl, .inr ⟨hne.symm, rfl, rfl⟩⟩
  · exact ⟨rfl, .inl ⟨rfl, rfl⟩⟩

/-- Only the owning column of an entity with itself is marked. -/
theorem columnNames_of_mem {namer : Namer} {model : Model} {associations : List Association}
    (hkeyed : model.Keyed) (h : ofModel namer model = .ok associations)
    (hmem : association ∈ associations) :
    association.owner.name = namer.name .primaryKey association.owner.entity
        (association.owner.entity = association.other.entity) ∧
      association.other.name = namer.name .primaryKey association.other.entity false := by
  obtain ⟨relations, -, rfl⟩ := eq_map_table hkeyed h
  obtain ⟨relation, -, rfl⟩ := List.mem_map.1 hmem
  exact ⟨rfl, rfl⟩

end Association

namespace EntityTables

variable {config : Config} {model : Model} {associations : List Association} {entity : Entity}
  {relationship : Relationship}

theorem relationship?_eq_some_iff {association : Association} :
    relationship? entity association = some relationship ↔
      ∃ here there, association.Faces entity.name here there ∧
        relationship = relationshipBetween association here there := by
  unfold relationship?
  constructor
  · intro h
    split at h
    next howner =>
      cases h
      exact ⟨_, _, ⟨howner, .inl ⟨rfl, rfl⟩⟩, rfl⟩
    next howner =>
      split at h
      next hother =>
        cases h
        exact ⟨_, _, ⟨hother, .inr ⟨howner, rfl, rfl⟩⟩, rfl⟩
      · cases h
  · rintro ⟨here, there, ⟨hname, ⟨rfl, rfl⟩ | ⟨hne, rfl, rfl⟩⟩, rfl⟩
    · rw [if_pos hname]
    · rw [if_neg hne, if_pos hname]

theorem mem_relationships_iff :
    relationship ∈ associations.filterMap (relationship? entity) ↔
      ∃ association ∈ associations, ∃ here there, association.Faces entity.name here there ∧
        relationship = relationshipBetween association here there := by
  simp only [List.mem_filterMap, relationship?_eq_some_iff]

section Resolved

variable (hkeyed : model.Keyed) (h : Association.ofModel config.namer model = .ok associations)

include hkeyed h

theorem mem_targets_iff {b : String} :
    b ∈ (associations.filterMap (relationship? entity)).map Relationship.target ↔
      model.Relates entity.name b := by
  have htargets : b ∈ (associations.filterMap (relationship? entity)).map Relationship.target ↔
      s(entity.name, b) ∈ associations.map Association.pair := by
    simp only [List.mem_map, mem_relationships_iff]
    constructor
    · rintro ⟨-, ⟨association, hmem, here, there, hfaces, rfl⟩, rfl⟩
      exact ⟨association, hmem, hfaces.pair_eq⟩
    · rintro ⟨association, hmem, hpair⟩
      obtain ⟨here, there, hfaces, rfl⟩ := Association.exists_faces_iff.2 hpair
      exact ⟨_, ⟨association, hmem, here, there, hfaces, rfl⟩, rfl⟩
  rw [htargets, Association.mem_pairs_iff hkeyed h]
  constructor
  · rintro ⟨a, c, hrelates, hpair⟩
    obtain ⟨relations, hrelations, -⟩ := Association.eq_map_table hkeyed h
    rcases Sym2.eq_iff.1 hpair with ⟨rfl, rfl⟩ | ⟨rfl, rfl⟩
    · exact hrelates
    · exact Association.relates_symm hkeyed hrelations hrelates
  · intro hrelates
    exact ⟨_, _, hrelates, rfl⟩

theorem nodup_targets (entity : Entity) :
    ((associations.filterMap (relationship? entity)).map Relationship.target).Nodup := by
  have hpairs := Association.nodup_pairs hkeyed h
  rw [List.nodup_iff_pairwise_ne, List.pairwise_map] at hpairs
  rw [List.nodup_iff_pairwise_ne, List.pairwise_map, List.pairwise_filterMap]
  refine hpairs.imp fun {x y} hne r hr t ht htarget => hne ?_
  obtain ⟨here, there, hfaces, rfl⟩ := relationship?_eq_some_iff.1 hr
  obtain ⟨here', there', hfaces', rfl⟩ := relationship?_eq_some_iff.1 ht
  rw [hfaces.pair_eq, hfaces'.pair_eq]
  exact congrArg (fun b => s(entity.name, b)) htarget

/-- An attribute is named after the table of the entity that it leads to. -/
theorem attributeName_eq (hmem : relationship ∈ associations.filterMap (relationship? entity)) :
    relationship.attributeName =
      "relationship_" ++ config.namer.name .table relationship.target false := by
  obtain ⟨association, hassociation, here, there, ⟨-, hsides⟩, rfl⟩ := mem_relationships_iff.1 hmem
  obtain ⟨⟨a, -, parent, howner⟩, b, -, parent', hother⟩ :=
    Association.exists_eq_toEntity hkeyed h hassociation
  rcases hsides with ⟨-, rfl⟩ | ⟨-, -, rfl⟩
  · rw [hother]
    rfl
  · rw [howner]
    rfl

theorem nodup_attributeNames (entity : Entity)
    (hagree : (model.toList.map (Schema.tableClaim config)).Pairwise Scope.Agree) :
    ((associations.filterMap (relationship? entity)).map Relationship.attributeName).Nodup := by
  have htables := Schema.nodup_tableNames_of_agree hkeyed hagree
  have hattributes : (associations.filterMap (relationship? entity)).map Relationship.attributeName =
      ((associations.filterMap (relationship? entity)).map Relationship.target).map
        fun b => "relationship_" ++ config.namer.name .table b false := by
    rw [List.map_map]
    exact List.map_congr_left fun r hr => attributeName_eq hkeyed h hr
  rw [hattributes]
  refine (nodup_targets hkeyed h entity).map_on fun b hb c hc heq => ?_
  obtain ⟨relations, hrelations, -⟩ := Association.eq_map_table hkeyed h
  have hentity : ∀ b ∈ (associations.filterMap (relationship? entity)).map Relationship.target,
      ∃ other ∈ model.toList, other.name = b := by
    intro b hb
    obtain ⟨other, hget, -⟩ :=
      Association.relates_symm hkeyed hrelations ((mem_targets_iff hkeyed h).1 hb)
    exact ⟨other, Model.mem_toList_iff.2 ⟨b, hget⟩, hkeyed b other hget⟩
  obtain ⟨x, hx, rfl⟩ := hentity b hb
  obtain ⟨y, hy, rfl⟩ := hentity c hc
  have hname : config.namer.name .table x.name false = config.namer.name .table y.name false :=
    (String.append_right_inj "relationship_").1 heq
  exact congrArg Entity.name (List.inj_on_of_nodup_map htables hx hy (congrArg _ hname))

theorem filter_joins_eq {association : Association} (hmem : association ∈ associations)
    {a b : String} (hpair : association.pair = s(a, b)) :
    associations.filter (·.joins a b) = [association] := by
  rw [← filter_eq_singleton (Association.nodup_pairs hkeyed h) hmem]
  apply List.filter_congr
  intro other _
  rw [Bool.eq_iff_iff, Association.joins_iff, decide_eq_true_iff, hpair]

theorem exists_crossed (hmem : relationship ∈ associations.filterMap (relationship? entity))
    {schema : Schema} (howner : ∀ association ∈ associations, schema.RefersToKey association.owner)
    (hother : ∀ association ∈ associations, schema.RefersToKey association.other) :
    ∃ association, associations.filter (·.joins entity.name relationship.target) = [association] ∧
      relationship.Crosses schema entity.name association := by
  obtain ⟨association, hassociation, here, there, hfaces, rfl⟩ := mem_relationships_iff.1 hmem
  refine ⟨association, filter_joins_eq hkeyed h hassociation hfaces.pair_eq, rfl, here, there, hfaces,
    rfl, ?_, ?_, rfl, rfl⟩
  · rcases hfaces.2 with ⟨rfl, -⟩ | ⟨-, rfl, -⟩
    · exact howner association hassociation
    · exact hother association hassociation
  · rcases hfaces.2 with ⟨-, rfl⟩ | ⟨-, -, rfl⟩
    · exact hother association hassociation
    · exact howner association hassociation

theorem exists_returning (hmem : relationship ∈ associations.filterMap (relationship? entity))
    (hne : relationship.target ≠ entity.name) :
    ∃ other ∈ model.toList, other.name = relationship.target ∧
      ∃ back ∈ associations.filterMap (relationship? other),
        relationship.Returns entity.name back := by
  obtain ⟨relations, hrelations, -⟩ := Association.eq_map_table hkeyed h
  have hrelates : model.Relates entity.name relationship.target :=
    (mem_targets_iff hkeyed h).1 (List.mem_map_of_mem hmem)
  obtain ⟨other, hget, -⟩ := Association.relates_symm hkeyed hrelations hrelates
  have hother : other.name = relationship.target := hkeyed _ other hget
  obtain ⟨association, hassociation, here, there, hfaces, rfl⟩ := mem_relationships_iff.1 hmem
  have hback : association.Faces other.name there here := hother ▸ hfaces.back hne
  refine ⟨other, Model.mem_toList_iff.2 ⟨_, hget⟩, hother, ?_⟩
  exact ⟨relationshipBetween association there here,
    mem_relationships_iff.2 ⟨association, hassociation, there, here, hback, rfl⟩,
    hfaces.1, rfl, rfl, rfl⟩

theorem columns_of_self (hmem : relationship ∈ associations.filterMap (relationship? entity))
    (hself : relationship.target = entity.name) :
    relationship.localColumn = config.namer.name .primaryKey entity.name true ∧
      relationship.remoteColumn = config.namer.name .primaryKey entity.name false := by
  obtain ⟨association, hassociation, here, there, ⟨hhere, hsides⟩, rfl⟩ :=
    mem_relationships_iff.1 hmem
  change there.entity = entity.name at hself
  obtain ⟨howner, hother⟩ := Association.columnNames_of_mem hkeyed h hassociation
  obtain ⟨rfl, rfl⟩ | ⟨hne, -⟩ := hsides
  · rw [hhere, hself, decide_eq_true rfl] at howner
    rw [hself] at hother
    exact ⟨howner, hother⟩
  · exact absurd hself hne

end Resolved

end EntityTables

/-- What the part of an entity holds of its relations. -/
theorem EntityPart.relationships_of_ofEntity {config : Config} {associations : List Association}
    {entity : Entity} {rowType : RowType} {part : EntityPart}
    (h : ofEntity config associations entity rowType = .ok part) :
    part.tables.entity = entity.name ∧
      part.tables.relationships = associations.filterMap (EntityTables.relationship? entity) := by
  obtain ⟨derivation, tables, -, htables, rfl⟩ := ofEntity_eq_ok_iff.1 h
  obtain ⟨-, -, rfl⟩ := EntityTables.ofEntity_eq_ok_iff.1 htables
  exact ⟨rfl, rfl⟩

namespace Schema

variable {config : Config} {model : Model} {associations : List Association}
  {cache last : RowTypeCache} {made : List EntityPart}

theorem map_entity_of_emits {entities : List Entity}
    (h : Emits config associations cache entities made last) :
    (made.map EntityPart.tables).map EntityTables.entity = entities.map Entity.name := by
  induction h with
  | nil cache => rfl
  | cons _ hpart _ ih =>
      rw [List.map_cons, List.map_cons, ih, List.map_cons,
        (EntityPart.relationships_of_ofEntity hpart).1]

section Emitted

variable {entities : List Entity} (hemits : Emits config associations cache entities made last)

include hemits

theorem exists_entity_of_mem {tables : EntityTables} (htables : tables ∈ made.map EntityPart.tables) :
    ∃ entity ∈ entities, tables.entity = entity.name ∧
      tables.relationships = associations.filterMap (EntityTables.relationship? entity) := by
  obtain ⟨part, hpart, rfl⟩ := List.mem_map.1 htables
  obtain ⟨entity, hentity, rowType, hmade⟩ := hemits.exists_of_mem part hpart
  exact ⟨entity, hentity, EntityPart.relationships_of_ofEntity hmade⟩

theorem exists_tables_of_mem {entity : Entity} (hentity : entity ∈ entities) :
    ∃ tables ∈ made.map EntityPart.tables, tables.entity = entity.name ∧
      tables.relationships = associations.filterMap (EntityTables.relationship? entity) := by
  obtain ⟨part, hpart, rowType, hmade⟩ := hemits.exists_part_of_mem entity hentity
  exact ⟨part.tables, List.mem_map_of_mem hpart, EntityPart.relationships_of_ofEntity hmade⟩

end Emitted

/-- The relationships of a schema are those that the model declares. Each leads over the association
table of both entities, and back over the same table. -/
theorem navigable_of_ofModel (hkeyed : model.Keyed) {schema : Schema}
    (h : (ofModel config model cache).1 = .ok schema) : schema.Navigable config.namer model := by
  have hpair := Prod.ext (y := (Except.ok schema, _)) h rfl
  obtain ⟨associations, made, hassociations, -, hemits, hagree, -, rfl⟩ := ofModel_eq_ok_iff.1 hpair
  have hclaims := (List.pairwise_append.1 hagree).1
  have hlinked := linked_of_emits hkeyed hassociations hemits hclaims
  constructor
  case entities => exact map_entity_of_emits hemits
  case nodup =>
    intro tables htables
    obtain ⟨entity, -, -, hrelationships⟩ := exists_entity_of_mem hemits htables
    rw [hrelationships]
    exact EntityTables.nodup_targets hkeyed hassociations entity
  case mem_iff =>
    intro tables htables b
    obtain ⟨entity, -, hname, hrelationships⟩ := exists_entity_of_mem hemits htables
    rw [hrelationships, hname]
    exact EntityTables.mem_targets_iff hkeyed hassociations
  case attributes =>
    intro tables htables
    obtain ⟨entity, -, -, hrelationships⟩ := exists_entity_of_mem hemits htables
    rw [hrelationships]
    exact EntityTables.nodup_attributeNames hkeyed hassociations entity hclaims
  case crosses =>
    intro tables htables relationship hmem
    obtain ⟨entity, -, hname, hrelationships⟩ := exists_entity_of_mem hemits htables
    rw [hrelationships] at hmem
    rw [hname]
    exact EntityTables.exists_crossed hkeyed hassociations hmem hlinked.owner hlinked.other
  case returns =>
    intro tables htables relationship hmem hne
    obtain ⟨entity, -, hname, hrelationships⟩ := exists_entity_of_mem hemits htables
    rw [hrelationships] at hmem
    rw [hname] at hne ⊢
    obtain ⟨other, hother, htarget, back, hback, hreturns⟩ :=
      EntityTables.exists_returning hkeyed hassociations hmem hne
    obtain ⟨others, hothers, hothersName, hothersMade⟩ := exists_tables_of_mem hemits hother
    exact ⟨others, hothers, hothersName.trans htarget, back, hothersMade ▸ hback, hreturns⟩
  case self =>
    intro tables htables hrelates
    obtain ⟨entity, -, hname, hrelationships⟩ := exists_entity_of_mem hemits htables
    rw [hname] at hrelates ⊢
    rw [hrelationships]
    obtain ⟨relationship, hmem, htarget⟩ :=
      List.mem_map.1 ((EntityTables.mem_targets_iff hkeyed hassociations).2 hrelates)
    have hfilter := filter_eq_singleton (EntityTables.nodup_targets hkeyed hassociations entity) hmem
    rw [htarget] at hfilter
    exact ⟨relationship, hfilter, EntityTables.columns_of_self hkeyed hassociations hmem htarget⟩

/-- A node related to itself, and a customer of whom the orders are met later but own the relation. -/
theorem navigable_family : Association.family.Keyed ∧ ∃ schema,
    (ofModel {} Association.family ∅).1 = .ok schema ∧
      schema.Navigable (Config.namer {}) Association.family := by
  have hkeyed : Association.family.Keyed := Model.keyed_iff_entries.2 (by decide +kernel)
  have hok : ∃ schema, (ofModel {} Association.family ∅).1 = .ok schema :=
    exists_eq_ok_of_isOk (by decide +kernel)
  obtain ⟨schema, h⟩ := hok
  exact ⟨hkeyed, schema, h, navigable_of_ofModel hkeyed h⟩

end Schema

end EntitySchema
