import EntitySchema.Proofs.Identifier.Endings
import EntitySchema.Proofs.Schema.Triggers

/-!
# Names of triggers

No scope takes the names of triggers. Those of one table all come from the name of that table, so that
only their endings tell them apart, and these do so under every limit of at least two bytes. Under a
smaller one the two functions of an external id have one name, and for functions there is a scope.
-/

namespace EntitySchema

open Identifier (Namer Scope Diverge)

namespace ExternalId

theorem diverge_insert_update : Diverge 2 Event.insert.suffix.toList Event.update.suffix.toList :=
  ⟨by decide, by decide, by decide, by decide⟩

theorem diverge_event_archive (event : Event) :
    Diverge 2 event.suffix.toList ArchiveTrigger.suffix.toList := by
  cases event <;> exact ⟨by decide, by decide, by decide, by decide⟩

theorem two_le_limit {namer : Namer} {table : String}
    (h : namer.derived table (Event.insert.suffix ++ "_fn") ≠
      namer.derived table (Event.update.suffix ++ "_fn")) : 2 ≤ namer.limit := by
  by_contra hlimit
  have hcut : ∀ event : Event, (namer.derived table (event.suffix ++ "_fn")).toList =
      Text.takeBytes namer.limit (event.suffix ++ "_fn").toList := by
    intro event
    rw [Namer.derived, Namer.toList_bounded]
    apply Identifier.boundedChars_of_le
    have hlength : 2 ≤ Text.byteLength (event.suffix ++ "_fn").toList := by
      cases event <;> decide
    omega
  apply h
  rw [← String.toList_inj, hcut, hcut]
  obtain hzero | hone : namer.limit = 0 ∨ namer.limit = 1 := by omega
  · rw [hzero]
    decide
  · rw [hone]
    decide

theorem eq_of_functionMeaning_eq {a b : Event} {x y : String}
    (h : a.keyword ++ " external id of " ++ x = b.keyword ++ " external id of " ++ y) :
    a = b ∧ x = y := by
  have hheads := congrArg (fun text : String => text.toList.head?) h
  cases a <;> cases b
  · exact ⟨rfl, (String.append_right_inj _).1 h⟩
  · simp [Event.keyword] at hheads
  · simp [Event.keyword] at hheads
  · exact ⟨rfl, (String.append_right_inj _).1 h⟩

end ExternalId

open ExternalId (Trigger)

namespace EntityPart

variable {config : Config} {associations : List Association} {entity : Entity} {rowType : RowType}
  {part : EntityPart}

theorem triggers_of_ofEntity (h : ofEntity config associations entity rowType = .ok part) :
    (∃ derivation, part.externalIdTriggers = triggersOf config entity derivation) ∧
      part.archiveTrigger = .ofTable config config.namer
        (config.namer.name .table entity.name false)
        (config.namer.name .primaryKey entity.name false) := by
  obtain ⟨derivation, tables, -, -, rfl⟩ := ofEntity_eq_ok_iff.1 h
  exact ⟨⟨derivation, rfl⟩, rfl⟩

/-- Functions that differ in name belong to triggers that differ in name, also from the archive
trigger. -/
theorem nodup_triggerNames (h : ofEntity config associations entity rowType = .ok part)
    (hfunctions : (part.externalIdTriggers.map Trigger.function).Nodup) :
    (part.externalIdTriggers.map Trigger.name ++ [part.archiveTrigger.name]).Nodup := by
  obtain ⟨⟨derivation, htriggers⟩, harchive⟩ := triggers_of_ofEntity h
  rw [htriggers] at hfunctions ⊢
  rw [harchive]
  cases derivation with
  | none => exact List.nodup_singleton _
  | some derivation =>
      have hne : config.namer.derived _ _ ≠ config.namer.derived _ _ :=
        List.ne_of_not_mem_cons (List.nodup_cons.1 hfunctions).1
      have hlimit := ExternalId.two_le_limit hne
      have hevents := ExternalId.diverge_insert_update.derived_ne hlimit
        (config.namer.name .table entity.name false) (config.namer.name .table entity.name false)
      have harchived := fun event => (ExternalId.diverge_event_archive event).derived_ne hlimit
        (config.namer.name .table entity.name false) (config.namer.name .table entity.name false)
      change [config.namer.derived _ _, config.namer.derived _ _, config.namer.derived _ _].Nodup
      simp only [List.nodup_cons, List.mem_cons, List.not_mem_nil, or_false, not_or,
        not_false_eq_true, List.nodup_nil, and_true]
      exact ⟨⟨hevents, harchived .insert⟩, harchived .update⟩

theorem nodup_functionMeanings (h : ofEntity config associations entity rowType = .ok part) :
    ((part.functionClaims entity).map Prod.fst).Nodup := by
  obtain ⟨⟨derivation, htriggers⟩, -⟩ := triggers_of_ofEntity h
  rw [functionClaims, htriggers]
  cases derivation with
  | none => exact List.nodup_nil
  | some derivation =>
      change [_, _].Nodup
      rw [List.nodup_cons, List.mem_singleton]
      refine ⟨fun heq => ?_, List.nodup_singleton _⟩
      cases (ExternalId.eq_of_functionMeaning_eq (a := .insert) (b := .update) heq).1

theorem map_snd_functionClaims_eq (entity : Entity) (part : EntityPart) :
    (part.functionClaims entity).map Prod.snd = part.externalIdTriggers.map Trigger.function :=
  List.map_map

end EntityPart

namespace Schema

variable {config : Config} {associations : List Association} {cache last : RowTypeCache}
  {entities : List Entity} {made : List EntityPart}

/-- The names of the triggers on a table. -/
def triggerNames (schema : Schema) (table : Sql.QualifiedName) : List String :=
  (schema.externalIdTriggers.filter fun trigger =>
      (⟨trigger.schema, trigger.table⟩ : Sql.QualifiedName) = table).map Trigger.name
    ++ (schema.archiveTriggers.filter fun trigger =>
      (⟨trigger.sourceSchema, trigger.table⟩ : Sql.QualifiedName) = table).map ArchiveTrigger.name

/-- The names of the functions of external id triggers. -/
def functionNames (schema : Schema) : List String :=
  schema.externalIdTriggers.map Trigger.function

theorem map_snd_functionClaims_of_emits (h : Emits config associations cache entities made last) :
    (functionClaims entities made).map Prod.snd =
      (assemble config associations made).functionNames := by
  rw [functionNames, assemble, List.map_flatMap]
  induction h with
  | nil => rfl
  | cons _ _ _ ih =>
      rw [functionClaims_cons, List.map_append, List.flatMap_cons, ih,
        EntityPart.map_snd_functionClaims_eq]

theorem exists_of_mem_functionClaims (h : Emits config associations cache entities made last) :
    ∀ claim ∈ functionClaims entities made, ∃ entity ∈ entities, ∃ event : ExternalId.Event,
      claim.1 = event.keyword ++ " external id of " ++ entity.name := by
  induction h with
  | nil => exact List.forall_mem_nil _
  | @cons _ _ _ entity _ _ _ _ _ _ _ ih =>
      intro claim hclaim
      rw [functionClaims_cons] at hclaim
      rcases List.mem_append.1 hclaim with hclaim | hclaim
      · obtain ⟨trigger, -, rfl⟩ := List.mem_map.1 hclaim
        exact ⟨entity, List.mem_cons_self, trigger.event, rfl⟩
      · obtain ⟨other, hother, hmeaning⟩ := ih claim hclaim
        exact ⟨other, List.mem_cons_of_mem _ hother, hmeaning⟩

theorem nodup_functionMeanings (h : Emits config associations cache entities made last)
    (hnames : (entities.map Entity.name).Nodup) :
    ((functionClaims entities made).map Prod.fst).Nodup := by
  induction h with
  | nil => exact List.nodup_nil
  | cons _ hpart hrest ih =>
      obtain ⟨hname, hnames⟩ := List.nodup_cons.1 hnames
      rw [functionClaims_cons, List.map_append, List.nodup_append]
      refine ⟨EntityPart.nodup_functionMeanings hpart, ih hnames, ?_⟩
      intro meaning hmeaning other hother heq
      obtain ⟨claim, hclaim, rfl⟩ := List.mem_map.1 hmeaning
      obtain ⟨trigger, -, rfl⟩ := List.mem_map.1 hclaim
      obtain ⟨claim, hclaim, rfl⟩ := List.mem_map.1 hother
      obtain ⟨entity, hentity, event, hevent⟩ := exists_of_mem_functionClaims hrest claim hclaim
      rw [hevent] at heq
      apply hname
      rw [(ExternalId.eq_of_functionMeaning_eq heq).2]
      exact List.mem_map_of_mem hentity

theorem triggerNames_assemble (hstands : ∀ part ∈ made, part.Stands config)
    (table : Sql.QualifiedName) :
    (assemble config associations made).triggerNames table =
      let parts := made.filter fun part => Sql.tableName part.tables.primary = table
      (parts.flatMap EntityPart.externalIdTriggers).map Trigger.name
        ++ (parts.map EntityPart.archiveTrigger).map ArchiveTrigger.name := by
  have hprimary : ∀ part ∈ made, (⟨config.schema, part.tables.primary.name⟩ : Sql.QualifiedName) =
      Sql.tableName part.tables.primary := by
    intro part hpart
    rw [Sql.tableName, (hstands part hpart).primary]
  have hrows : ∀ part ∈ made, ∀ trigger ∈ part.externalIdTriggers,
      decide ((⟨trigger.schema, trigger.table⟩ : Sql.QualifiedName) = table) =
        decide (Sql.tableName part.tables.primary = table) := by
    intro part hpart trigger htrigger
    obtain ⟨hschema, htable⟩ := (hstands part hpart).rowTrigger trigger htrigger
    rw [hschema, htable, hprimary part hpart]
  have harchive : ∀ part ∈ made,
      decide ((⟨part.archiveTrigger.sourceSchema, part.archiveTrigger.table⟩ : Sql.QualifiedName) =
        table) = decide (Sql.tableName part.tables.primary = table) := by
    intro part hpart
    obtain ⟨hschema, htable⟩ := (hstands part hpart).archiveTrigger
    rw [hschema, htable, hprimary part hpart]
  rw [triggerNames, assemble, filter_flatMap_of_forall hrows, List.filter_map]
  congr 3
  exact List.filter_congr harchive

/-- Trigger functions differ in name, and so do the triggers on each table. -/
theorem nodup_triggerNames_of_ofModel {model : Model} {schema : Schema} (hkeyed : model.Keyed)
    (h : (ofModel config model cache).1 = .ok schema) :
    schema.functionNames.Nodup ∧ ∀ table, (schema.triggerNames table).Nodup := by
  obtain ⟨associations, made, -, -, hemits, hagree, hclaims, rfl⟩ :=
    ofModel_eq_ok_iff.1 (Prod.ext (y := (Except.ok schema, _)) h rfl)
  have hfunctions : (assemble config associations made).functionNames.Nodup := by
    rw [← map_snd_functionClaims_of_emits hemits]
    exact Scope.nodup_identifiers hclaims (nodup_functionMeanings hemits hkeyed.nodup_names)
  have hpart : ∀ part ∈ made, (part.externalIdTriggers.map Trigger.name ++
      [part.archiveTrigger.name]).Nodup := by
    intro part hpart
    obtain ⟨entity, -, rowType, hmade⟩ := hemits.exists_of_mem part hpart
    apply EntityPart.nodup_triggerNames hmade
    rw [functionNames, assemble, List.map_flatMap] at hfunctions
    exact (List.nodup_flatMap.1 hfunctions).1 part hpart
  have hstands : ∀ part ∈ made, part.Stands config := by
    intro part hpart
    obtain ⟨entity, -, rowType, hmade⟩ := hemits.exists_of_mem part hpart
    exact EntityPart.stands_of_ofEntity hmade
  have htables : (made.map fun part => Sql.tableName part.tables.primary).Nodup :=
    map_tableName_of_emits hemits ▸
      nodup_tableNames_of_agree hkeyed (List.pairwise_append.1 hagree).1
  refine ⟨hfunctions, fun table => ?_⟩
  rw [triggerNames_assemble hstands]
  -- No table is the primary table of two parts.
  by_cases htable : ∃ part ∈ made, Sql.tableName part.tables.primary = table
  · obtain ⟨part, hmem, rfl⟩ := htable
    rw [filter_eq_singleton htables hmem]
    simpa using hpart part hmem
  · have hnone : made.filter (fun part => Sql.tableName part.tables.primary = table) = [] := by
      rw [List.filter_eq_nil_iff]
      intro part hmem heq
      exact htable ⟨part, hmem, of_decide_eq_true heq⟩
    rw [hnone]
    exact List.nodup_nil

/-- Two entities, of which one has an external id. -/
def stubs : Model where
  entities := ⟨[
    ("ab", {
      name := "ab"
      columns := [{ name := "x", type := "text" }, { name := "y", type := "int" }]
      externalIdSources := ["x", "y"]
      hasValueColumn := true }),
    ("cd", { name := "cd" })], by decide +kernel⟩

/-- Under the smallest limit that leaves them apart, when nothing is left of the name of the table. -/
theorem nodup_triggerNames_stubs : stubs.Keyed ∧ ∃ schema,
    (ofModel { limit := 2 } stubs ∅).1 = .ok schema ∧
      schema.triggerNames ⟨"public", "ab"⟩ = ["_i", "_u", "_a"] ∧
      schema.functionNames.Nodup ∧ ∀ table, (schema.triggerNames table).Nodup := by
  have hkeyed : stubs.Keyed := Model.keyed_iff_entries.2 (by decide +kernel)
  have hnames : (ofModel { limit := 2 } stubs ∅).1.map
      (·.triggerNames ⟨"public", "ab"⟩) = .ok ["_i", "_u", "_a"] := by decide +kernel
  cases h : (ofModel { limit := 2 } stubs ∅).1 with
  | error error =>
      rw [h] at hnames
      cases hnames
  | ok schema =>
      rw [h] at hnames
      exact ⟨hkeyed, schema, rfl, Except.ok.inj hnames, nodup_triggerNames_of_ofModel hkeyed h⟩

end Schema

end EntitySchema
