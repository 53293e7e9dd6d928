import EntitySchema.Proofs.Schema.Relations

/-!
# Reflected relations

Reflection leaves everything as it is except for the related names. There it adds what an entity owns
and what is related to it.
-/

namespace EntitySchema

namespace Model

variable {model : Model}

theorem exists_get?_reflect_iff {key : String} :
    (∃ entity, model.reflect.get? key = some entity) ↔ ∃ entity, model.get? key = some entity := by
  rw [get?_reflect]
  simp only [Option.map_eq_some_iff]
  constructor
  · rintro ⟨-, entity, hget, -⟩
    exact ⟨entity, hget⟩
  · rintro ⟨entity, hget⟩
    exact ⟨_, entity, hget, rfl⟩

theorem mem_relatedTo_iff {a b : String} :
    b ∈ relatedTo (model.entities.mapValues fun _ entity => withOwnedRelated entity).values a ↔
      ∃ key entity, model.get? key = some entity ∧ entity.name = b ∧
        (a ∈ entity.related ∨ a ∈ entity.owned) := by
  let declared : Model := ⟨model.entities.mapValues fun _ entity => withOwnedRelated entity⟩
  have hvalues : ∀ found : Entity, found ∈ declared.toList ↔
      ∃ key entity, model.get? key = some entity ∧ withOwnedRelated entity = found := by
    intro found
    rw [mem_toList_iff]
    simp only [declared, get?, NameMap.get?_mapValues, Option.map_eq_some_iff]
  change b ∈ relatedTo declared.toList a ↔ _
  simp only [relatedTo, List.mem_map, List.mem_filter, hvalues]
  constructor
  · rintro ⟨-, ⟨⟨key, entity, hget, rfl⟩, hrelated⟩, hname⟩
    refine ⟨key, entity, hget, hname, ?_⟩
    simpa [Entity.isRelatedTo, withOwnedRelated, NameSet.mem_toList, or_comm] using hrelated
  · rintro ⟨key, entity, hget, hname, hrelated⟩
    refine ⟨_, ⟨⟨key, entity, hget, rfl⟩, ?_⟩, hname⟩
    simpa [Entity.isRelatedTo, withOwnedRelated, NameSet.mem_toList, or_comm] using hrelated

theorem owns_reflect_iff {a b : String} : model.reflect.Owns a b ↔ model.Owns a b := by
  simp only [Owns, get?_reflect, Option.map_eq_some_iff]
  constructor
  · rintro ⟨-, ⟨entity, hget, rfl⟩, howned⟩
    exact ⟨entity, hget, howned⟩
  · rintro ⟨entity, hget, howned⟩
    exact ⟨_, ⟨entity, hget, rfl⟩, howned⟩

/-- An entity is then related to what it declared in either way, and to what declared it. -/
theorem relates_reflect_iff (hkeyed : model.Keyed) {a b : String} :
    model.reflect.Relates a b ↔ (model.Relates a b ∨ model.Owns a b) ∨
      (∃ entity, model.get? a = some entity) ∧ (model.Relates b a ∨ model.Owns b a) := by
  have hreflected : model.reflect.Relates a b ↔ ∃ entity, model.get? a = some entity ∧
      (b ∈ entity.related ∨ b ∈ entity.owned ∨ ∃ key other, model.get? key = some other ∧
        other.name = b ∧ (a ∈ other.related ∨ a ∈ other.owned)) := by
    simp only [Relates, get?_reflect, Option.map_eq_some_iff]
    constructor
    · rintro ⟨-, ⟨entity, hget, rfl⟩, hrelated⟩
      refine ⟨entity, hget, ?_⟩
      rw [NameSet.mem_insertAll, NameSet.mem_insertAll, mem_relatedTo_iff] at hrelated
      rcases hrelated with hback | howned | hrelated
      · exact .inr (.inr hback)
      · exact .inr (.inl howned)
      · exact .inl hrelated
    · rintro ⟨entity, hget, hrelated⟩
      refine ⟨_, ⟨entity, hget, rfl⟩, ?_⟩
      rw [NameSet.mem_insertAll, NameSet.mem_insertAll, mem_relatedTo_iff]
      rcases hrelated with hrelated | howned | hback
      · exact .inr (.inr hrelated)
      · exact .inr (.inl howned)
      · exact .inl hback
  rw [hreflected]
  constructor
  · rintro ⟨entity, hget, hrelated | howned | ⟨key, other, hother, hname, hback⟩⟩
    · exact .inl (.inl ⟨entity, hget, hrelated⟩)
    · exact .inl (.inr ⟨entity, hget, howned⟩)
    · obtain rfl : key = b := (hkeyed key other hother).symm.trans hname
      exact .inr ⟨⟨entity, hget⟩, hback.imp (⟨other, hother, ·⟩) (⟨other, hother, ·⟩)⟩
  · rintro ((⟨entity, hget, hrelated⟩ | ⟨entity, hget, howned⟩) | ⟨⟨entity, hget⟩, hback⟩)
    · exact ⟨entity, hget, .inl hrelated⟩
    · exact ⟨entity, hget, .inr (.inl howned)⟩
    · refine ⟨entity, hget, .inr (.inr ?_)⟩
      rcases hback with ⟨other, hother, hrelated⟩ | ⟨other, hother, howned⟩
      · exact ⟨b, other, hother, hkeyed b other hother, .inl hrelated⟩
      · exact ⟨b, other, hother, hkeyed b other hother, .inr howned⟩

end Model

end EntitySchema
