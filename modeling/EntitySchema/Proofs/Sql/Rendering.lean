import EntitySchema.Proofs.Identifier.Characters
import EntitySchema.Proofs.Schema.ColumnTypes
import EntitySchema.Proofs.Sql.Script

/-!
# Scripts of models

In a schema that is made for a model, the types of columns are among those of the tags, and trigger
functions name identifiers only. Therefore its script splits into its statements.
-/

namespace EntitySchema

namespace Sql

variable {config : Config} {entity : Entity} {rowType : RowType} {part : EntityPart}
  {associations : List Association}

theorem plain_of_mem_columnTypes : ∀ type ∈ columnTypes, Plain isCode type := by decide

theorem sound_createTable {table : Table}
    (h : ∀ column ∈ table.columns, column.sqlType ∈ columnTypes) : (createTable table).Sound := by
  intro item hitem
  obtain ⟨column, hcolumn, rfl⟩ := List.mem_map.1 hitem
  exact plain_of_mem_columnTypes _ (h column hcolumn)

theorem sound_createAssociation (schema : String) (association : Association) :
    (createAssociation schema association).Sound := by
  have hbigint : Plain isCode "BIGINT" := by decide
  intro item hitem
  simp only [List.mem_cons, List.not_mem_nil, or_false] at hitem
  rcases hitem with rfl | rfl | rfl
  · exact hbigint
  · exact hbigint
  · trivial

theorem sound_triggerStatements {trigger : ExternalId.Trigger} (htarget : '$' ∉ trigger.target.toList)
    (hsources : ∀ source ∈ trigger.derivation.sources, '$' ∉ source.toList) :
    ∀ statement ∈ triggerStatements trigger, statement.Sound := by
  intro statement hstatement
  simp only [triggerStatements, List.mem_cons, List.not_mem_nil, or_false] at hstatement
  rcases hstatement with rfl | rfl
  · exact ⟨htarget, Expression.reads_ofDerivation _,
      Expression.notMem_quoted_ofDerivation hsources (by decide)⟩
  · trivial

/-- All statements of the part are sound. -/
structure SoundPart (part : EntityPart) : Prop where
  tables : ∀ statement ∈ entityStatements part.tables, statement.Sound
  externalIdTriggers : ∀ trigger ∈ part.externalIdTriggers,
    ∀ statement ∈ triggerStatements trigger, statement.Sound
  archiveTrigger : (createArchiveTrigger part.archiveTrigger).Sound

theorem sound_of_mem_externalIdTriggers
    (h : EntityPart.ofEntity config associations entity rowType = .ok part) :
    ∀ trigger ∈ part.externalIdTriggers, ∀ statement ∈ triggerStatements trigger,
      statement.Sound := by
  obtain ⟨derivation, tables, hderivation, -, rfl⟩ := EntityPart.ofEntity_eq_ok_iff.1 h
  intro trigger htrigger
  cases derivation with
  | none => cases htrigger
  | some derivation =>
      obtain ⟨event, -, rfl⟩ := List.mem_map.1 htrigger
      apply sound_triggerStatements
      · exact config.namer.dollar_notMem_name .externalId entity.name false
      · exact ExternalId.Derivation.dollar_notMem_of_mem_sources hderivation

theorem soundPart_of_ofEntity (hroutine : Plain isCode config.routinePath) (htyped : part.Typed)
    (h : EntityPart.ofEntity config associations entity rowType = .ok part) : SoundPart part := by
  refine ⟨?_, sound_of_mem_externalIdTriggers h, ?_⟩
  · intro statement hstatement
    simp only [entityStatements, List.mem_append, List.mem_singleton] at hstatement
    rcases hstatement with ((rfl | hcomment) | hcomment) | rfl
    · exact sound_createTable htyped.primary
    · split at hcomment
      · cases hcomment
      · rw [List.mem_singleton.1 hcomment]
        trivial
    · obtain ⟨column, -, rfl⟩ := List.mem_map.1 hcomment
      trivial
    · exact sound_createTable htyped.archive
  · obtain ⟨derivation, tables, -, -, rfl⟩ := EntityPart.ofEntity_eq_ok_iff.1 h
    exact hroutine

theorem soundPart_of_emits {cache last : RowTypeCache} {entities : List Entity}
    {made : List EntityPart} (hroutine : Plain isCode config.routinePath)
    (hcache : cache.Faithful fun _ _ => True)
    (h : Schema.Emits config associations cache entities made last) :
    ∀ part ∈ made, SoundPart part := by
  intro part hpart
  obtain ⟨entity, -, rowType, hmade⟩ := h.exists_of_mem part hpart
  exact soundPart_of_ofEntity hroutine (Schema.typed_of_emits hcache h part hpart) hmade

theorem sound_of_mem_ordered {made : List EntityPart}
    (h : ∀ part ∈ made, SoundPart part) :
    ∀ statement ∈ ordered (Schema.assemble config associations made), statement.Sound := by
  intro statement hstatement
  simp only [ordered, Schema.assemble, List.mem_append, List.flatMap_map, List.flatMap_assoc,
    List.map_map, List.mem_map, List.mem_flatMap] at hstatement
  rcases hstatement with (((⟨name, -, rfl⟩ | ⟨part, hpart, hentity⟩) | ⟨association, -, rfl⟩) |
    ⟨part, hpart, trigger, htrigger, hstatement⟩) | ⟨part, hpart, rfl⟩
  · trivial
  · exact (h part hpart).tables statement hentity
  · exact sound_createAssociation config.schema association
  · exact (h part hpart).externalIdTriggers trigger htrigger statement hstatement
  · exact (h part hpart).archiveTrigger

/-- The script of a model splits into the statements of its schema, and the names and texts of the
schema can be read back from them. -/
theorem splits_of_ofModel (name : String) (limit : Nat) (model : Model)
    (history : List RowTypeCache.Use) {schema : Schema}
    (h : (Schema.ofModel { schema := name, limit := limit } model (RowTypeCache.after history)).1 =
      .ok schema) : Splits schema := by
  have hroutine : Plain isCode (Config.routinePath { schema := name, limit := limit }) := by
    change Plain isCode ("sys" ++ "." ++ "archive_table")
    decide
  have hcache := RowTypeCache.faithful_after_history history
  obtain ⟨associations, made, -, -, hemits, -, -, rfl⟩ :=
    Schema.ofModel_eq_ok_iff.1 (Prod.ext (y := (Except.ok schema, _)) h rfl)
  exact split_script (sound_of_mem_ordered (soundPart_of_emits hroutine hcache hemits))

/-- An entity related to itself, whose names and annotations contain whatever could end something. -/
def adverse : Model where
  entities := ⟨[("a\";$$--b", {
    name := "a\";$$--b"
    columns := [{ name := "c$$;'", type := "text", annotation := "it's; \"$$\" --" },
      { name := "d\";--", type := "boolean" }]
    externalIdSources := ["c$$;'", "d\";--"]
    hasValueColumn := true
    annotation := "--';$$"
    related := .ofList ["a\";$$--b"] })], by decide +kernel⟩

theorem splits_adverse : ∃ schema,
    (Schema.ofModel { schema := "s\"$$;" } adverse (RowTypeCache.after [])).1 = .ok schema ∧
      Splits schema := by
  have hok : (Schema.ofModel { schema := "s\"$$;" } adverse (RowTypeCache.after [])).1.isOk = true := by
    decide +kernel
  cases h : (Schema.ofModel { schema := "s\"$$;" } adverse (RowTypeCache.after [])).1 with
  | error error =>
      rw [h] at hok
      cases hok
  | ok schema => exact ⟨schema, rfl, splits_of_ofModel "s\"$$;" 63 adverse [] h⟩

end Sql

end EntitySchema
