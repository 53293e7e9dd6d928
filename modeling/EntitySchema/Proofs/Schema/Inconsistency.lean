import EntitySchema.Proofs.Schema.Faults

/-!
# When entities do not fit together

Relations are checked before anything else, so that a relation that is not declared on both sides is
reported whatever else is wrong with the model. Nothing is reported of relations after that: the
tables that they are resolved into always cover them.
-/

namespace EntitySchema

/-- The model has the defect that is reported; a model that stands has none of the others. -/
def Inconsistency.HoldsIn (model : Model) : Inconsistency → Prop
  | undeclaredRelated a b => model.Relates a b ∧ model.get? b = none
  | unreturnedRelation a b => model.Relates a b ∧ model.get? b ≠ none ∧ ¬ model.Relates b a
  | undeclaredOwned a b => model.Owns a b ∧ ¬ model.Relates a b
  | repeatedEntity _ | repeatedColumn _ _ | unknownSide _ | uncoveredRelation _ _ _ => False

namespace Relation

variable {model : Model} {entity : Entity} {cause : Inconsistency}

theorem holdsIn_of_toEach {keys : List String} (hget : model.get? entity.name = some entity)
    (hkeys : ∀ key ∈ keys, key ∈ entity.related) (h : toEach model entity keys = .error cause) :
    cause.HoldsIn model := by
  induction keys with
  | nil => cases h
  | cons key keys ih =>
      obtain ⟨hkey, hrest⟩ := List.forall_mem_cons.1 hkeys
      have hrelates : model.Relates entity.name key := ⟨entity, hget, hkey⟩
      rw [toEach] at h
      split at h
      next hnone =>
        cases h
        exact ⟨hrelates, hnone⟩
      next target htarget =>
        split at h
        next hback =>
          cases h
          refine ⟨hrelates, by simp [htarget], ?_⟩
          rintro ⟨found, hfound, hreturned⟩
          cases htarget.symm.trans hfound
          simp [Entity.isRelatedTo, hreturned] at hback
        · split at h
          · cases h
          next herror =>
            cases h
            exact ih hrest herror

theorem holdsIn_of_ofEntity (hget : model.get? entity.name = some entity)
    (h : ofEntity model entity = .error cause) : cause.HoldsIn model := by
  rw [ofEntity] at h
  split at h
  next herror =>
    cases h
    exact holdsIn_of_toEach hget (fun _ hkey => hkey) herror
  · split at h
    next other hother =>
      cases h
      refine ⟨⟨entity, hget, List.mem_of_find?_eq_some hother⟩, ?_⟩
      rintro ⟨found, hfound, hrelated⟩
      cases hget.symm.trans hfound
      simpa [Entity.isRelatedTo, hrelated] using List.find?_some hother
    · cases h

theorem holdsIn_of_ofEntities {entities : List Entity}
    (hget : ∀ entity ∈ entities, model.get? entity.name = some entity)
    (h : ofEntities model entities = .error cause) : cause.HoldsIn model := by
  induction entities with
  | nil => cases h
  | cons entity entities ih =>
      obtain ⟨hentity, hrest⟩ := List.forall_mem_cons.1 hget
      rw [ofEntities] at h
      split at h
      next herror =>
        cases h
        exact holdsIn_of_ofEntity hentity herror
      · split at h
        · cases h
        next herror =>
          cases h
          exact ih hrest herror

/-- What is reported of relations is true of the model. -/
theorem holdsIn_of_ofModel (hkeyed : model.Keyed) (h : ofModel model = .error cause) :
    cause.HoldsIn model :=
  holdsIn_of_ofEntities (fun _ hentity => hkeyed.mem_toList_iff.1 hentity) h

end Relation

namespace Schema

variable {config : Config} {model : Model} {cache : RowTypeCache}

/-- Of all faults, only those of relations are reported as inconsistent. -/
theorem inconsistent_iff_relation (hkeyed : model.Keyed) {cause : Inconsistency} :
    (ofModel config model cache).1 = .error (.inconsistent cause) ↔
      Relation.ofModel model = .error cause := by
  constructor
  · intro h
    rcases cases_of_ofModel_eq_error h with hassociations | ⟨associations, hassociations, hcause⟩
    · rw [Association.ofModel] at hassociations
      split at hassociations
      next hrelations =>
        cases hassociations
        exact hrelations
      · split at hassociations <;> cases hassociations
    · rcases hcause with huncovered | ⟨collision, hcollision⟩ | ⟨column, hcolumn⟩ |
        ⟨entity, -, rowType, hpart⟩
      · exact absurd (uncovered?_eq_none hkeyed hassociations) huncovered
      · cases hcollision
      · cases hcolumn
      · rcases EntityPart.cases_of_ofEntity_eq_error hpart with ⟨source, -, hsource⟩ |
          ⟨collision, hcollision⟩
        · cases hsource
        · cases hcollision
  · intro h
    simp only [ofModel, Association.ofModel, h]

/-- A model is refused as inconsistent exactly if it relates an entity to one that is not in the model
or not related to it, or has an entity own a relation that it does not declare. What is reported is
such a defect, and never a relation without its one association table. -/
theorem inconsistent_iff (hkeyed : model.Keyed) (config : Config) (cache : RowTypeCache) :
    ((∃ cause, (ofModel config model cache).1 = .error (.inconsistent cause)) ↔
        ∃ a b, model.Relates a b ∧ model.get? b = none ∨ model.Relates a b ∧ ¬ model.Relates b a ∨
          model.Owns a b ∧ ¬ model.Relates a b) ∧
      (∀ cause, (ofModel config model cache).1 = .error (.inconsistent cause) →
        cause.HoldsIn model) ∧
      ∀ associations, Association.ofModel config.namer model = .ok associations →
        uncovered? model associations = none := by
  have hholds : ∀ cause, (ofModel config model cache).1 = .error (.inconsistent cause) →
      cause.HoldsIn model := by
    intro cause h
    exact Relation.holdsIn_of_ofModel hkeyed ((inconsistent_iff_relation hkeyed).1 h)
  refine ⟨⟨?_, ?_⟩, hholds, fun associations => uncovered?_eq_none hkeyed⟩
  · rintro ⟨cause, h⟩
    have hcause := hholds cause h
    cases cause with
    | undeclaredRelated a b => exact ⟨a, b, .inl hcause⟩
    | unreturnedRelation a b => exact ⟨a, b, .inr (.inl ⟨hcause.1, hcause.2.2⟩)⟩
    | undeclaredOwned a b => exact ⟨a, b, .inr (.inr hcause)⟩
    | _ => cases hcause
  · rintro ⟨a, b, hdefect⟩
    cases hrelations : Relation.ofModel model with
    | error cause => exact ⟨cause, (inconsistent_iff_relation hkeyed).2 hrelations⟩
    | ok relations =>
        obtain ⟨hreturned, howned⟩ :=
          (Relation.exists_ofModel_eq_ok_iff_of_keyed hkeyed).1 ⟨relations, hrelations⟩
        rcases hdefect with ⟨hrelates, hnone⟩ | ⟨hrelates, hback⟩ | ⟨howns, hrelates⟩
        · obtain ⟨target, htarget, -⟩ := hreturned a b hrelates
          cases hnone.symm.trans htarget
        · exact absurd (hreturned a b hrelates) hback
        · exact absurd (howned a b howns) hrelates

/-- Customers do not know of their orders. Apart from that, their columns collide, one of them has no
type, and their external id has no source. -/
def torn : Model where
  entities := ⟨[
    ("customer", {
      name := "customer"
      columns := [{ name := "first name", type := "string" }, { name := "first-name", type := "object" }]
      externalIdSources := ["number"] }),
    ("order", { name := "order", related := .ofList ["customer"] })], by decide +kernel⟩

theorem inconsistent_iff_torn : torn.Keyed ∧ torn.Relates "order" "customer" ∧
    ¬ torn.Relates "customer" "order" ∧
    ∃ cause, (ofModel {} torn ∅).1 = .error (.inconsistent cause) ∧ cause.HoldsIn torn := by
  have hkeyed : torn.Keyed := Model.keyed_iff_entries.2 (by decide +kernel)
  have hrelates : torn.Relates "order" "customer" := by decide +kernel
  have hback : ¬ torn.Relates "customer" "order" := by decide +kernel
  obtain ⟨hiff, hholds, -⟩ := inconsistent_iff hkeyed {} ∅
  obtain ⟨cause, hcause⟩ := hiff.2 ⟨"order", "customer", .inr (.inl ⟨hrelates, hback⟩)⟩
  exact ⟨hkeyed, hrelates, hback, cause, hcause, hholds cause hcause⟩

end Schema

end EntitySchema
