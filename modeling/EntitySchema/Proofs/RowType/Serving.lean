import EntitySchema.Proofs.RowType.Fields
import EntitySchema.Proofs.RowType.Transparency
import EntitySchema.Proofs.Schema.Faults

/-!
# Caches that keep their word

A cache serves entities if it answers one request after the other with the row type of the entity
that it is asked for. Every cache does so whose history tells apart what it was asked for. The parts
of a schema are then those that the entities have by themselves.
-/

namespace EntitySchema

open Identifier (Namer Scope)

namespace RowTypeCache

/-- Asked for the entities in turn, the cache hands out the row type of each. -/
def Serves (namer : Namer) : RowTypeCache → List Entity → Prop
  | _, [] => True
  | cache, entity :: entities =>
      (cache.request namer entity).1.map SharedRowType.rowType = RowType.ofEntity namer entity ∧
        Serves namer (cache.request namer entity).2 entities

instance decidableServes (namer : Namer) :
    (cache : RowTypeCache) → (entities : List Entity) → Decidable (cache.Serves namer entities)
  | _, [] => isTrue trivial
  | cache, entity :: entities =>
      have := decidableServes namer (cache.request namer entity).2 entities
      inferInstanceAs (Decidable (_ ∧ _))

variable {Asked : Namer → Entity → Prop} {cache : RowTypeCache} {namer : Namer}

theorem Faithful.serves (h : Faithful Asked cache) (hapart : Apart Asked) {entities : List Entity}
    (hasked : ∀ entity ∈ entities, Asked namer entity) : cache.Serves namer entities := by
  induction entities generalizing cache with
  | nil => trivial
  | cons entity entities ih =>
      obtain ⟨hentity, hrest⟩ := List.forall_mem_cons.1 hasked
      exact ⟨map_rowType_request hapart h hentity, ih (h.request hentity) hrest⟩

end RowTypeCache

namespace EntityPart

/-- The part that an entity has over its own row type. -/
def IsOf (config : Config) (associations : List Association) (entity : Entity) (part : EntityPart) :
    Prop :=
  ∃ rowType, RowType.ofEntity config.namer entity = .ok rowType ∧
    ofEntity config associations entity rowType = .ok part

variable {config : Config} {associations : List Association} {entity : Entity} {part : EntityPart}

theorem isOf_iff_of_map_eq {answer : Except UnsupportedTag SharedRowType}
    (h : answer.map SharedRowType.rowType = RowType.ofEntity config.namer entity) :
    part.IsOf config associations entity ↔
      ∃ shared, answer = .ok shared ∧
        ofEntity config associations entity shared.rowType = .ok part := by
  rw [IsOf, ← h]
  cases answer with
  | error fault => simp [Except.map]
  | ok shared => simp [Except.map]

end EntityPart

namespace Schema

variable {config : Config} {associations : List Association} {cache : RowTypeCache}

theorem exists_emits_iff {entities : List Entity} {made : List EntityPart}
    (h : cache.Serves config.namer entities) :
    (∃ last, Emits config associations cache entities made last) ↔
      List.Forall₂ (fun entity part => part.IsOf config associations entity) entities made := by
  induction entities generalizing cache made with
  | nil => simp [emits_nil_iff]
  | cons entity entities ih =>
      obtain ⟨hrequest, hnext⟩ := h
      rw [List.forall₂_cons_left_iff]
      simp only [emits_cons_iff, EntityPart.isOf_iff_of_map_eq hrequest, ← ih hnext]
      rcases cache.request config.namer entity with ⟨answer, next⟩
      constructor
      · rintro ⟨last, shared, after, part, rest, heq, hpart, hrest, rfl⟩
        cases heq
        exact ⟨part, rest, ⟨shared, rfl, hpart⟩, ⟨last, hrest⟩, rfl⟩
      · rintro ⟨part, rest, ⟨shared, rfl, hpart⟩, ⟨last, hrest⟩, rfl⟩
        exact ⟨last, shared, next, part, rest, rfl, hpart, hrest, rfl⟩

/-- What it takes for a model to have a schema, if the cache keeps its word: no state passes from one
entity to the next. -/
theorem ofModel_eq_ok_iff_of_serves {model : Model} (hkeyed : model.Keyed)
    (hserves : cache.Serves config.namer model.toList) {schema : Schema} :
    (ofModel config model cache).1 = .ok schema ↔
      ∃ associations made,
        Association.ofModel config.namer model = .ok associations ∧
        List.Forall₂ (fun entity part => part.IsOf config associations entity) model.toList made ∧
        (model.toList.map (tableClaim config) ++ associationClaims associations).Pairwise
          Scope.Agree ∧
        (functionClaims model.toList made).Pairwise Scope.Agree ∧
        schema = assemble config associations made := by
  constructor
  · intro h
    obtain ⟨associations, made, hassociations, -, hemits, hrest⟩ :=
      ofModel_eq_ok_iff.1 (Prod.ext (y := (Except.ok schema, _)) h rfl)
    exact ⟨associations, made, hassociations, (exists_emits_iff hserves).1 ⟨_, hemits⟩, hrest⟩
  · rintro ⟨associations, made, hassociations, hmade, hrest⟩
    obtain ⟨last, hemits⟩ := (exists_emits_iff hserves).2 hmade
    have hcovered := uncovered?_eq_none hkeyed hassociations
    exact congrArg Prod.fst
      (ofModel_eq_ok_iff.2 ⟨associations, made, hassociations, hcovered, hemits, hrest⟩)

end Schema

end EntitySchema
