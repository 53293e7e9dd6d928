import EntitySchema.Schema.OfModel
import EntitySchema.Proofs.Identifier.Claims

/-!
# What a schema is made of

When a schema is made, its parts are those of the entities, one after another, over the row types
that the cache hands out. Apart from that only claims have to succeed: those of the tables of
entities and relations in one scope, and those of trigger functions in another.
-/

namespace EntitySchema

open Identifier (Namer Scope)

theorem exists_eq_ok_of_isOk {ε α : Type} {result : Except ε α} (h : result.isOk = true) :
    ∃ made, result = .ok made := by
  cases result with
  | error cause => cases h
  | ok made => exact ⟨made, rfl⟩

theorem eq_ok_of_toOption {ε α : Type} {result : Except ε α} {made : α}
    (h : result.toOption = some made) : result = .ok made := by
  cases result with
  | error cause => cases h
  | ok found => exact congrArg _ (Option.some.inj h)

namespace EntityTables

variable {config : Config} {associations : List Association} {entity : Entity} {rowType : RowType}
  {hasExternalId : Bool} {tables : EntityTables}

theorem ofEntity_eq_ok_iff :
    ofEntity config associations entity rowType hasExternalId = .ok tables ↔
      let primary := primaryTable config entity rowType hasExternalId
      let archive := archiveTable config entity primary
      (∃ after, (columnScope primary).claimAll
          (primaryClaims config.namer entity rowType hasExternalId) = .ok after) ∧
        (∃ after, (columnScope archive).claimAll (archiveClaims entity archive) = .ok after) ∧
        tables = ⟨entity.name, entity.annotation, primary, archive,
          associations.filterMap (relationship? entity)⟩ := by
  unfold ofEntity
  cases hprimary : (columnScope (primaryTable config entity rowType hasExternalId)).claimAll
      (primaryClaims config.namer entity rowType hasExternalId) with
  | error collision => simp [hprimary]
  | ok after =>
      simp only [hprimary]
      split
      next collision harchive => simp [harchive]
      next harchive => simp [harchive, eq_comm]

end EntityTables

namespace EntityPart

variable {config : Config} {associations : List Association} {entity : Entity} {rowType : RowType}
  {part : EntityPart}

theorem ofEntity_eq_ok_iff :
    ofEntity config associations entity rowType = .ok part ↔
      ∃ derivation tables,
        ExternalId.Derivation.ofEntity config.namer entity = .ok derivation ∧
        EntityTables.ofEntity config associations entity rowType derivation.isSome = .ok tables ∧
        part = ⟨tables, triggersOf config entity derivation,
          .ofTable config config.namer (config.namer.name .table entity.name false)
            (config.namer.name .primaryKey entity.name false)⟩ := by
  unfold ofEntity
  cases ExternalId.Derivation.ofEntity config.namer entity with
  | error source => simp
  | ok derivation =>
      cases htables :
          EntityTables.ofEntity config associations entity rowType derivation.isSome with
      | error collision => simp [htables]
      | ok tables => simp [htables, eq_comm]

theorem cases_of_ofEntity_eq_error {error : Error}
    (h : ofEntity config associations entity rowType = .error error) :
    (∃ source, ExternalId.Derivation.ofEntity config.namer entity = .error source ∧
        error = .missingSource source) ∨ ∃ collision, error = .collision collision := by
  unfold ofEntity at h
  split at h
  next source hsource =>
    cases h
    exact .inl ⟨source, hsource, rfl⟩
  · split at h
    next collision _ =>
      cases h
      exact .inr ⟨collision, rfl⟩
    · cases h

end EntityPart

namespace Schema

variable {config : Config} {associations : List Association}

/-- The claim of an entity on the name of its table. -/
def tableClaim (config : Config) (entity : Entity) : String × String :=
  ("entity " ++ entity.name, config.namer.name .table entity.name false)

/-- The claims of the triggers of entities on the names of their functions. -/
def functionClaims (entities : List Entity) (made : List EntityPart) : List (String × String) :=
  (List.zipWith EntityPart.functionClaims entities made).flatten

/-- The parts made of entities in turn, each over the row type that the cache holds ready. -/
inductive Emits (config : Config) (associations : List Association) :
    RowTypeCache → List Entity → List EntityPart → RowTypeCache → Prop
  | nil (cache : RowTypeCache) : Emits config associations cache [] [] cache
  | cons {cache next last : RowTypeCache} {entity : Entity} {entities : List Entity}
      {shared : SharedRowType} {part : EntityPart} {made : List EntityPart} :
      cache.request config.namer entity = (.ok shared, next) →
      EntityPart.ofEntity config associations entity shared.rowType = .ok part →
      Emits config associations next entities made last →
      Emits config associations cache (entity :: entities) (part :: made) last

theorem emits_nil_iff {cache last : RowTypeCache} {made : List EntityPart} :
    Emits config associations cache [] made last ↔ made = [] ∧ last = cache := by
  constructor
  · rintro ⟨⟩
    exact ⟨rfl, rfl⟩
  · rintro ⟨rfl, rfl⟩
    exact .nil _

theorem emits_cons_iff {cache last : RowTypeCache} {entity : Entity} {entities : List Entity}
    {made : List EntityPart} :
    Emits config associations cache (entity :: entities) made last ↔
      ∃ shared next part rest, cache.request config.namer entity = (.ok shared, next) ∧
        EntityPart.ofEntity config associations entity shared.rowType = .ok part ∧
        Emits config associations next entities rest last ∧ made = part :: rest := by
  constructor
  · intro h
    cases h with
    | cons hrequest hpart hrest => exact ⟨_, _, _, _, hrequest, hpart, hrest, rfl⟩
  · rintro ⟨shared, next, part, rest, hrequest, hpart, hrest, rfl⟩
    exact .cons hrequest hpart hrest

theorem Emits.length_eq {cache last : RowTypeCache} {entities : List Entity}
    {made : List EntityPart} (h : Emits config associations cache entities made last) :
    made.length = entities.length := by
  induction h with
  | nil => rfl
  | cons _ _ _ ih => exact congrArg Nat.succ ih

/-- Every part is made of one of the entities. -/
theorem Emits.exists_of_mem {cache last : RowTypeCache} {entities : List Entity}
    {made : List EntityPart} (h : Emits config associations cache entities made last) :
    ∀ part ∈ made, ∃ entity ∈ entities, ∃ rowType,
      EntityPart.ofEntity config associations entity rowType = .ok part := by
  induction h with
  | nil cache => exact List.forall_mem_nil _
  | cons _ hpart _ ih =>
      refine List.forall_mem_cons.2 ⟨⟨_, List.mem_cons_self, _, hpart⟩, ?_⟩
      intro part hmem
      obtain ⟨entity, hentity, hmade⟩ := ih part hmem
      exact ⟨entity, List.mem_cons_of_mem _ hentity, hmade⟩

/-- Every one of the entities has a part made of it. -/
theorem Emits.exists_part_of_mem {cache last : RowTypeCache} {entities : List Entity}
    {made : List EntityPart} (h : Emits config associations cache entities made last) :
    ∀ entity ∈ entities, ∃ part ∈ made, ∃ rowType,
      EntityPart.ofEntity config associations entity rowType = .ok part := by
  induction h with
  | nil cache => exact List.forall_mem_nil _
  | cons _ hpart _ ih =>
      refine List.forall_mem_cons.2 ⟨⟨_, List.mem_cons_self, _, hpart⟩, ?_⟩
      intro entity hmem
      obtain ⟨part, hmade, hentity⟩ := ih entity hmem
      exact ⟨part, List.mem_cons_of_mem _ hmade, hentity⟩

theorem parts_cons_eq_ok_iff {scopes after : Scopes} {cache last : RowTypeCache} {entity : Entity}
    {entities : List Entity} {made : List EntityPart} :
    parts config associations scopes cache (entity :: entities) = (.ok (made, after), last) ↔
      ∃ tables shared next part functions rest,
        scopes.tables.claim (tableClaim config entity).1 (tableClaim config entity).2 = .ok tables ∧
        cache.request config.namer entity = (.ok shared, next) ∧
        EntityPart.ofEntity config associations entity shared.rowType = .ok part ∧
        scopes.functions.claimAll (part.functionClaims entity) = .ok functions ∧
        parts config associations ⟨tables, functions⟩ next entities = (.ok (rest, after), last) ∧
        made = part :: rest := by
  constructor
  · intro h
    rw [parts] at h
    split at h
    · cases h
    next tables htables =>
      split at h
      · cases h
      next shared next hrequest =>
        split at h
        · cases h
        next part hpart =>
          split at h
          · cases h
          next functions hfunctions =>
            split at h
            next rest scopes cache hrest =>
              cases h
              exact ⟨tables, shared, next, part, functions, rest, htables, hrequest, hpart,
                hfunctions, hrest, rfl⟩
            · cases h
  · rintro ⟨tables, shared, next, part, functions, rest, htables, hrequest, hpart, hfunctions,
      hrest, rfl⟩
    simp only [tableClaim] at htables
    simp only [parts, htables, hrequest, hpart, hfunctions, hrest]

theorem functionClaims_cons (entity : Entity) (entities : List Entity) (part : EntityPart)
    (made : List EntityPart) :
    functionClaims (entity :: entities) (part :: made) =
      part.functionClaims entity ++ functionClaims entities made := rfl

/-- Parts are made exactly when each entity has one and all claims agree. -/
theorem parts_eq_ok_iff {scopes after : Scopes} {cache last : RowTypeCache}
    {entities : List Entity} {made : List EntityPart} :
    parts config associations scopes cache entities = (.ok (made, after), last) ↔
      Emits config associations cache entities made last ∧
        scopes.tables.claimAll (entities.map (tableClaim config)) = .ok after.tables ∧
        scopes.functions.claimAll (functionClaims entities made) = .ok after.functions := by
  induction entities generalizing scopes cache made with
  | nil =>
      simp only [parts, emits_nil_iff, functionClaims, List.map_nil, List.zipWith_nil_left,
        List.flatten_nil, Scope.claimAll_nil, Prod.mk.injEq, Except.ok.injEq]
      constructor
      · rintro ⟨⟨rfl, rfl⟩, rfl⟩
        exact ⟨⟨rfl, rfl⟩, rfl, rfl⟩
      · rintro ⟨⟨rfl, rfl⟩, htables, hfunctions⟩
        exact ⟨⟨rfl, by cases scopes; cases after; simp_all⟩, rfl⟩
  | cons entity entities ih =>
      rw [parts_cons_eq_ok_iff, emits_cons_iff, List.map_cons]
      constructor
      · rintro ⟨tables, shared, next, part, functions, rest, htables, hrequest, hpart, hfunctions,
          hrest, rfl⟩
        obtain ⟨hemits, hclaims, hmore⟩ := ih.1 hrest
        refine ⟨⟨shared, next, part, rest, hrequest, hpart, hemits, rfl⟩, ?_, ?_⟩
        · exact Scope.claimAll_cons_eq_ok_iff.2 ⟨tables, htables, hclaims⟩
        · rw [functionClaims_cons, Scope.claimAll_append_eq_ok_iff]
          exact ⟨functions, hfunctions, hmore⟩
      · rintro ⟨⟨shared, next, part, rest, hrequest, hpart, hemits, rfl⟩, hclaims, hmore⟩
        obtain ⟨tables, htables, hclaims⟩ := Scope.claimAll_cons_eq_ok_iff.1 hclaims
        rw [functionClaims_cons, Scope.claimAll_append_eq_ok_iff] at hmore
        obtain ⟨functions, hfunctions, hmore⟩ := hmore
        exact ⟨tables, shared, next, part, functions, rest, htables, hrequest, hpart, hfunctions,
          ih.2 ⟨hemits, hclaims, hmore⟩, rfl⟩

/-- What stops a run of entities: a collision, a column without a type, or a fault in a part. -/
theorem cases_of_parts_eq_error {scopes : Scopes} {cache : RowTypeCache} {entities : List Entity}
    {error : Error} (h : (parts config associations scopes cache entities).1 = .error error) :
    (∃ collision, error = .collision collision) ∨ (∃ column, error = .unsupportedTag column) ∨
      ∃ entity ∈ entities, ∃ rowType,
        EntityPart.ofEntity config associations entity rowType = .error error := by
  induction entities generalizing scopes cache with
  | nil => cases h
  | cons entity entities ih =>
      rw [parts] at h
      split at h
      next collision _ =>
        cases h
        exact .inl ⟨collision, rfl⟩
      · split at h
        next column _ _ =>
          cases h
          exact .inr (.inl ⟨column, rfl⟩)
        next shared _ _ =>
          split at h
          next cause hpart =>
            cases h
            exact .inr (.inr ⟨entity, List.mem_cons_self, shared.rowType, hpart⟩)
          · split at h
            next collision _ =>
              cases h
              exact .inl ⟨collision, rfl⟩
            · split at h
              · cases h
              next hrest =>
                cases h
                rcases ih (congrArg Prod.fst hrest) with hcollision | hcolumn |
                  ⟨other, hother, hpart⟩
                · exact .inl hcollision
                · exact .inr (.inl hcolumn)
                · exact .inr (.inr ⟨other, List.mem_cons_of_mem _ hother, hpart⟩)

/-- What it takes for a model to have a schema. -/
theorem ofModel_eq_ok_iff {model : Model} {cache last : RowTypeCache} {schema : Schema} :
    ofModel config model cache = (.ok schema, last) ↔
      ∃ associations made,
        Association.ofModel config.namer model = .ok associations ∧
        uncovered? model associations = none ∧
        Emits config associations cache model.toList made last ∧
        (model.toList.map (tableClaim config) ++ associationClaims associations).Pairwise
          Scope.Agree ∧
        (functionClaims model.toList made).Pairwise Scope.Agree ∧
        schema = assemble config associations made := by
  constructor
  · intro h
    rw [ofModel] at h
    split at h
    · cases h
    next associations hassociations =>
      split at h
      · cases h
      next hcovered =>
        split at h
        · cases h
        next made scopes cache hmade =>
          split at h
          · cases h
          next tables htables =>
            cases h
            obtain ⟨hemits, hclaims, hfunctions⟩ := parts_eq_ok_iff.1 hmade
            refine ⟨associations, made, hassociations, hcovered, hemits, ?_, ?_, rfl⟩
            · exact (Scope.exists_claimAll_named_eq_ok_iff _).1
                ⟨tables, Scope.claimAll_append_eq_ok_iff.2 ⟨scopes.tables, hclaims, htables⟩⟩
            · exact (Scope.exists_claimAll_named_eq_ok_iff _).1 ⟨scopes.functions, hfunctions⟩
  · rintro ⟨associations, made, hassociations, hcovered, hemits, hclaims, hfunctions, rfl⟩
    obtain ⟨tables, htables⟩ := (Scope.exists_claimAll_named_eq_ok_iff
      ("schema " ++ config.schema)).2 hclaims
    obtain ⟨entityTables, hentities, htables⟩ := Scope.claimAll_append_eq_ok_iff.1 htables
    obtain ⟨functions, hfunctions⟩ := (Scope.exists_claimAll_named_eq_ok_iff
      ("functions of schema " ++ config.schema)).2 hfunctions
    have hparts : parts config associations (initialScopes config) cache model.toList =
        (.ok (made, ⟨entityTables, functions⟩), last) :=
      parts_eq_ok_iff.2 ⟨hemits, hentities, hfunctions⟩
    simp only [ofModel, hassociations, hcovered, hparts, htables]

/-- Why a model has no schema: its relations are not resolved, or what follows is stopped. -/
theorem cases_of_ofModel_eq_error {model : Model} {cache : RowTypeCache} {error : Error}
    (h : (ofModel config model cache).1 = .error error) :
    Association.ofModel config.namer model = .error error ∨
      ∃ associations, Association.ofModel config.namer model = .ok associations ∧
        (uncovered? model associations ≠ none ∨ (∃ collision, error = .collision collision) ∨
          (∃ column, error = .unsupportedTag column) ∨ ∃ entity ∈ model.toList, ∃ rowType,
            EntityPart.ofEntity config associations entity rowType = .error error) := by
  rw [ofModel] at h
  split at h
  next cause hassociations =>
    cases h
    exact .inl hassociations
  next associations hassociations =>
    refine .inr ⟨associations, hassociations, ?_⟩
    split at h
    next cause huncovered => exact .inl (by simp [huncovered])
    · refine .inr ?_
      split at h
      next hparts =>
        cases h
        exact cases_of_parts_eq_error (congrArg Prod.fst hparts)
      · split at h
        next collision _ =>
          cases h
          exact .inl ⟨collision, rfl⟩
        · cases h

end Schema

end EntitySchema
