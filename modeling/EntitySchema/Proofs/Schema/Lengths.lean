import EntitySchema.Proofs.Identifier.Bounds
import EntitySchema.Proofs.RowType.Serving

/-!
# Lengths of the names of a schema

Every name of a schema comes from the namer of its settings, with one exception: the names of declared
columns come with the row type that the cache hands out. If that was made for another entity under a
larger limit, its names may be too long. Whether this happens can be told from what the cache shares
before the schema is made.
-/

namespace EntitySchema

open Identifier (Namer)

/-- All columns have names of at most `limit` bytes. -/
def RowType.Within (limit : Nat) (rowType : RowType) : Prop :=
  ∀ field ∈ rowType.fields, field.identifier.utf8ByteSize ≤ limit

/-- The table and all its columns have names of at most `limit` bytes. -/
structure Table.Within (limit : Nat) (table : Table) : Prop where
  name : table.name.utf8ByteSize ≤ limit
  columns : ∀ column ∈ table.columns, column.name.utf8ByteSize ≤ limit

/-- All names in the schema take at most `limit` bytes. -/
structure Schema.Within (limit : Nat) (schema : Schema) : Prop where
  primary : ∀ tables ∈ schema.entities, tables.primary.Within limit
  archive : ∀ tables ∈ schema.entities, tables.archive.Within limit
  association : ∀ association ∈ schema.associations, association.name.utf8ByteSize ≤ limit
  owner : ∀ association ∈ schema.associations, association.owner.name.utf8ByteSize ≤ limit
  other : ∀ association ∈ schema.associations, association.other.name.utf8ByteSize ≤ limit
  rowTrigger : ∀ trigger ∈ schema.externalIdTriggers, trigger.name.utf8ByteSize ≤ limit
  function : ∀ trigger ∈ schema.externalIdTriggers, trigger.function.utf8ByteSize ≤ limit
  archiveTrigger : ∀ trigger ∈ schema.archiveTriggers, trigger.name.utf8ByteSize ≤ limit

/-- A row type that the cache shares under the key of the entity has names of at most that many bytes
as the namer allows. -/
def RowTypeCache.SharesWithin (cache : RowTypeCache) (namer : Namer) (entity : Entity) : Prop :=
  isBooleanOnly entity = true → ∀ found, cache.shared.get? (key namer entity) = some found →
    found.rowType.Within namer.limit

theorem RowType.within_of_ofEntity {namer : Namer} {entity : Entity} {rowType : RowType}
    (h : ofEntity namer entity = .ok rowType) : rowType.Within namer.limit := by
  intro field hfield
  have hidentifier : field.identifier ∈ entity.columns.map (namer.name .column ·.name false) := by
    rw [← map_identifier_of_ofEntity h]
    exact List.mem_map_of_mem hfield
  obtain ⟨column, -, heq⟩ := List.mem_map.1 hidentifier
  rw [← heq]
  exact (namer.bounds.name .column column.name false).size_le

namespace RowTypeCache

variable {cache next : RowTypeCache} {namer : Namer} {entity : Entity} {shared : SharedRowType}

/-- What is handed out has long names only if it was there before, and nothing with long names is
added. -/
theorem within_request (h : cache.request namer entity = (.ok shared, next)) :
    (shared.rowType.Within namer.limit ↔ cache.SharesWithin namer entity) ∧
      ∀ other, next.SharesWithin namer other ↔ cache.SharesWithin namer other := by
  rcases request_cases cache namer entity with ⟨found, hflags, hfound, heq⟩ |
    ⟨made, after, hflags, hnone, hrowType, hafter, heq⟩ | ⟨hnot, heq⟩
  · cases heq.symm.trans h
    refine ⟨⟨fun hwithin _ found hget => ?_, fun hshares => hshares hflags _ hfound⟩,
      fun _ => Iff.rfl⟩
    cases hfound.symm.trans hget
    exact hwithin
  · cases heq.symm.trans h
    have hwithin := RowType.within_of_ofEntity hrowType
    refine ⟨iff_of_true hwithin fun _ found hget => ?_, fun other => ?_⟩
    · cases hnone.symm.trans hget
    · simp only [SharesWithin, hafter, NameMap.get?_insert]
      by_cases hkey : key namer entity = key namer other
      · simp [← hkey, hnone, hwithin]
      · simp [hkey]
  · obtain ⟨hrowType, -, rfl⟩ := make_eq_ok_iff.1 (heq.symm.trans h)
    refine ⟨iff_of_true (RowType.within_of_ofEntity hrowType) fun hflags => ?_, fun _ => Iff.rfl⟩
    cases hnot.symm.trans hflags

/-- A cache that was used under no larger limit shares no longer names. -/
theorem Faithful.sharesWithin (h : Faithful (fun maker _ => maker.limit ≤ namer.limit) cache)
    (entity : Entity) : cache.SharesWithin namer entity := by
  intro _ found hfound field hfield
  obtain ⟨maker, source, hlimit, -, -, hsource⟩ := h _ _ hfound
  exact (RowType.within_of_ofEntity hsource field hfield).trans hlimit

end RowTypeCache

namespace EntityTables

variable {config : Config} {entity : Entity} {rowType : RowType} {hasExternalId : Bool}

theorem within_primaryTable_iff :
    (primaryTable config entity rowType hasExternalId).Within config.limit ↔
      rowType.Within config.limit := by
  constructor
  · intro h field hfield
    exact h.columns _ (List.mem_append_right _ (List.mem_map_of_mem hfield))
  · intro h
    refine ⟨(config.namer.bounds.name .table entity.name false).size_le, fun column hcolumn => ?_⟩
    rcases List.mem_append.1 hcolumn with hcolumn | hcolumn
    · obtain ⟨role, hrole⟩ : ∃ role, column.name = config.namer.name role entity.name false := by
        simp only [leadingColumns, List.mem_append, List.mem_cons, List.not_mem_nil,
          or_false] at hcolumn
        rcases hcolumn with ((rfl | rfl) | hexternal) | hvalue
        · exact ⟨.primaryKey, rfl⟩
        · exact ⟨.timestamp, rfl⟩
        · split at hexternal
          · exact ⟨.externalId, List.mem_singleton.1 hexternal ▸ rfl⟩
          · cases hexternal
        · split at hvalue
          · exact ⟨.value, List.mem_singleton.1 hvalue ▸ rfl⟩
          · cases hvalue
      rw [hrole]
      exact (config.namer.bounds.name role entity.name false).size_le
    · obtain ⟨field, hfield, rfl⟩ := List.mem_map.1 hcolumn
      exact h field hfield

theorem within_archiveTable {primary : Table} (h : primary.Within config.limit) :
    (archiveTable config entity primary).Within config.limit := by
  refine ⟨h.name, fun column hcolumn => ?_⟩
  rcases List.mem_append.1 hcolumn with hcolumn | hcolumn
  · obtain ⟨original, horiginal, rfl⟩ := List.mem_map.1 hcolumn
    exact h.columns original horiginal
  · rw [List.mem_singleton.1 hcolumn]
    exact (config.namer.bounds.name .archiveTimestamp entity.name false).size_le

end EntityTables

namespace EntityPart

variable {config : Config} {associations : List Association} {entity : Entity} {rowType : RowType}
  {part : EntityPart}

theorem within_primary_iff (h : ofEntity config associations entity rowType = .ok part) :
    part.tables.primary.Within config.limit ↔ rowType.Within config.limit := by
  obtain ⟨derivation, tables, -, htables, rfl⟩ := ofEntity_eq_ok_iff.1 h
  obtain ⟨-, -, rfl⟩ := EntityTables.ofEntity_eq_ok_iff.1 htables
  exact EntityTables.within_primaryTable_iff

theorem within_archive (h : ofEntity config associations entity rowType = .ok part)
    (hprimary : part.tables.primary.Within config.limit) :
    part.tables.archive.Within config.limit := by
  obtain ⟨derivation, tables, -, htables, rfl⟩ := ofEntity_eq_ok_iff.1 h
  obtain ⟨-, -, rfl⟩ := EntityTables.ofEntity_eq_ok_iff.1 htables
  exact EntityTables.within_archiveTable hprimary

theorem within_triggers (h : ofEntity config associations entity rowType = .ok part) :
    (∀ trigger ∈ part.externalIdTriggers,
      trigger.name.utf8ByteSize ≤ config.limit ∧ trigger.function.utf8ByteSize ≤ config.limit) ∧
        part.archiveTrigger.name.utf8ByteSize ≤ config.limit := by
  obtain ⟨derivation, tables, -, -, rfl⟩ := ofEntity_eq_ok_iff.1 h
  refine ⟨fun trigger htrigger => ?_, (config.namer.bounds.derived _ _).size_le⟩
  cases derivation with
  | none => cases htrigger
  | some derivation =>
      obtain ⟨event, -, rfl⟩ := List.mem_map.1 htrigger
      exact ⟨(config.namer.bounds.derived _ _).size_le, (config.namer.bounds.derived _ _).size_le⟩

end EntityPart

theorem Association.within_of_ofModel {namer : Namer} {model : Model}
    {associations : List Association} (h : ofModel namer model = .ok associations) :
    ∀ association ∈ associations, association.name.utf8ByteSize ≤ namer.limit ∧
      association.owner.name.utf8ByteSize ≤ namer.limit ∧
      association.other.name.utf8ByteSize ≤ namer.limit := by
  obtain ⟨relations, -, -, rfl⟩ := ofModel_eq_ok_iff.1 h
  intro association hmem
  obtain ⟨relation, -, rfl⟩ := List.mem_map.1 hmem
  exact ⟨(namer.bounds.join _).size_le, (namer.bounds.name .primaryKey _ _).size_le,
    (namer.bounds.name .primaryKey _ _).size_le⟩

namespace Schema

variable {config : Config} {associations : List Association} {model : Model} {cache : RowTypeCache}
  {schema : Schema}

/-- The induction is on the entities. Each step leaves the cache as it was, as far as long names are
concerned, so that the condition on it can be read off the beginning. -/
theorem Emits.within_primary_iff {last : RowTypeCache} {entities : List Entity}
    {made : List EntityPart} (h : Emits config associations cache entities made last) :
    (∀ part ∈ made, part.tables.primary.Within config.limit) ↔
      ∀ entity ∈ entities, cache.SharesWithin config.namer entity := by
  induction h with
  | nil => simp
  | cons hrequest hpart _ ih =>
      obtain ⟨hshared, hnext⟩ := RowTypeCache.within_request hrequest
      rw [List.forall_mem_cons, List.forall_mem_cons, ih, EntityPart.within_primary_iff hpart]
      simp only [hnext]
      exact and_congr_left' hshared

/-- All names of a schema are within the limit as long as its primary tables are. -/
theorem within_iff_of_ofModel (h : (ofModel config model cache).1 = .ok schema) :
    schema.Within config.limit ↔
      ∀ entity ∈ model.toList, cache.SharesWithin config.namer entity := by
  obtain ⟨associations, made, hassociations, -, hemits, -, -, rfl⟩ :=
    ofModel_eq_ok_iff.1 (Prod.ext (y := (Except.ok schema, _)) h rfl)
  rw [← hemits.within_primary_iff]
  have hmade : ∀ part ∈ made, ∃ entity rowType,
      EntityPart.ofEntity config associations entity rowType = .ok part := by
    intro part hpart
    obtain ⟨entity, -, rowType, hentity⟩ := hemits.exists_of_mem part hpart
    exact ⟨entity, rowType, hentity⟩
  have hsides := Association.within_of_ofModel hassociations
  constructor
  · intro hwithin part hpart
    exact hwithin.primary part.tables (List.mem_map_of_mem hpart)
  · intro hprimary
    have htriggers : ∀ trigger ∈ (assemble config associations made).externalIdTriggers,
        trigger.name.utf8ByteSize ≤ config.limit ∧
          trigger.function.utf8ByteSize ≤ config.limit := by
      intro trigger htrigger
      obtain ⟨part, hpart, hmem⟩ := List.mem_flatMap.1 htrigger
      obtain ⟨entity, rowType, hentity⟩ := hmade part hpart
      exact (EntityPart.within_triggers hentity).1 trigger hmem
    constructor
    case primary => exact List.forall_mem_map.2 hprimary
    case archive =>
      refine List.forall_mem_map.2 fun part hpart => ?_
      obtain ⟨entity, rowType, hentity⟩ := hmade part hpart
      exact EntityPart.within_archive hentity (hprimary part hpart)
    case association => exact fun association hmem => (hsides association hmem).1
    case owner => exact fun association hmem => (hsides association hmem).2.1
    case other => exact fun association hmem => (hsides association hmem).2.2
    case rowTrigger => exact fun trigger htrigger => (htriggers trigger htrigger).1
    case function => exact fun trigger htrigger => (htriggers trigger htrigger).2
    case archiveTrigger =>
      refine List.forall_mem_map.2 fun part hpart => ?_
      obtain ⟨entity, rowType, hentity⟩ := hmade part hpart
      exact (EntityPart.within_triggers hentity).2

/-- A cache whose history knows no larger limit leaves all names within the limit. -/
theorem within_of_history {history : List RowTypeCache.Use}
    (hhistory : ∀ step ∈ history, step.Within fun namer _ => namer.limit ≤ config.limit)
    (h : (ofModel config model (RowTypeCache.after history)).1 = .ok schema) :
    schema.Within config.limit := by
  have hfaithful : (RowTypeCache.after history).Faithful
      fun maker _ => maker.limit ≤ config.namer.limit := RowTypeCache.faithful_after hhistory
  exact (within_iff_of_ofModel h).2 fun entity _ => hfaithful.sharesWithin entity

/-- Under every limit, the namer keeps it with every name, and a schema has longer names exactly if the
cache shares a row type with longer names under the key of one of its entities. -/
theorem within_iff (config : Config) : config.namer.Bounds ∧
    ∀ {model : Model} {cache : RowTypeCache} {schema : Schema},
      (ofModel config model cache).1 = .ok schema →
        (schema.Within config.limit ↔
          ∀ entity ∈ model.toList, cache.SharesWithin config.namer entity) :=
  ⟨config.namer.bounds, within_iff_of_ofModel⟩

/-- Names that are cut within letters of two bytes, on both sides of a relation and in all roles. -/
def gallery : Model where
  entities := ⟨[
    ("Gemälde", {
      name := "Gemälde"
      columns := [{ name := "Größe", type := "text" }, { name := "Künstlername", type := "text" }]
      externalIdSources := ["Künstlername"]
      hasValueColumn := true
      related := .ofList ["Gemälde", "Räume"] }),
    ("Räume", {
      name := "Räume"
      columns := [{ name := "öffentlich?", type := "bool" }]
      related := .ofList ["Gemälde"] })], by decide +kernel⟩

theorem within_iff_gallery : ∃ schema,
    (ofModel { limit := 12 } gallery (RowTypeCache.after [.emit { limit := 12 } gallery])).1 =
        .ok schema ∧
      (schema.Within 12 ↔ ∀ entity ∈ gallery.toList,
        (RowTypeCache.after [.emit { limit := 12 } gallery]).SharesWithin ⟨12⟩ entity) ∧
      schema.Within 12 := by
  have hok : ∃ schema, (ofModel { limit := 12 } gallery
      (RowTypeCache.after [.emit { limit := 12 } gallery])).1 = .ok schema :=
    exists_eq_ok_of_isOk (by decide +kernel)
  obtain ⟨schema, h⟩ := hok
  refine ⟨schema, h, (within_iff { limit := 12 }).2 h, within_of_history ?_ h⟩
  simp [RowTypeCache.Use.Within, Config.namer]

/-- A flag with a long name, whose annotation reads like a limit. -/
def longFlag : Entity where
  name := "flag"
  columns := [{ name := "enabled_for_all_customers", type := "bool", annotation := "|8" }]

/-- An entity without columns, whose name reads like the flag. -/
def impostor : Model := (∅ : Model).put "impostor"
  { name := "flag|63|enabled_for_all_customers:bool:false:" }

/-- Under a limit of 8 bytes the second entity is handed the long name of the first. -/
theorem not_within_impostor : ∃ schema,
    (ofModel { limit := 8 } impostor (RowTypeCache.after [.request {} longFlag])).1 = .ok schema ∧
      ¬ schema.Within 8 := by
  have hlong : (ofModel { limit := 8 } impostor
      (RowTypeCache.after [.request {} longFlag])).1.map (fun schema =>
        decide (∀ tables ∈ schema.entities, ∀ column ∈ tables.primary.columns,
          column.name.utf8ByteSize ≤ 8)) = .ok false := by decide +kernel
  cases h : (ofModel { limit := 8 } impostor (RowTypeCache.after [.request {} longFlag])).1 with
  | error error =>
      rw [h] at hlong
      cases hlong
  | ok schema =>
      rw [h] at hlong
      refine ⟨schema, rfl, fun hwithin => ?_⟩
      apply of_decide_eq_false (Except.ok.inj hlong)
      exact fun tables htables => (hwithin.primary tables htables).columns

end Schema

end EntitySchema
