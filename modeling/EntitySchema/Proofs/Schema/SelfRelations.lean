import EntitySchema.Proofs.Identifier.ParentMark
import EntitySchema.Proofs.Schema.Acceptance

/-!
# Relations of an entity to itself

Once the relations of a model fit together, only columns of one name keep them from being resolved. For
an entity that is related to itself, both columns are named after it, and then everything depends on the
mark of the owning side.
-/

namespace EntitySchema

open Identifier (Namer Scope)

namespace Association

variable {namer : Namer} {model : Model}

theorem agree_columnClaims_iff {relation : Relation} :
    (relation.table namer).columnClaims.Pairwise Scope.Agree ↔
      (relation.table namer).owner.name ≠ (relation.table namer).other.name := by
  refine ⟨owner_name_ne_other_name, fun hne => Scope.agree_of_nodup ?_⟩
  rw [columnClaims, List.map_cons, List.map_cons, List.map_nil]
  exact List.nodup_cons.2 ⟨by simpa using hne, List.nodup_singleton _⟩

theorem exists_collision_of_self_iff {relation : Relation}
    (h : relation.entity.name = relation.target.name) :
    (∃ collision, ofRelation namer relation = .error collision) ↔
      namer.Absorbs relation.entity.name := by
  have hsides : relation.sides = (relation.entity, relation.entity) := if_pos h
  have howner : (relation.table namer).owner.name =
      namer.name .primaryKey relation.entity.name true := by
    rw [Relation.table, hsides]
    simp [ofSides, AssociationColumn.toEntity]
  have hother : (relation.table namer).other.name =
      namer.name .primaryKey relation.entity.name false := by
    rw [Relation.table, hsides]
    rfl
  rw [← namer.name_marked_eq_iff, ← howner, ← hother]
  cases hresult : ofRelation namer relation with
  | ok association =>
      have hne := agree_columnClaims_iff.1 (ofRelation_eq_ok_iff.1 hresult).1
      simp [hne]
  | error collision =>
      refine iff_of_true ⟨collision, rfl⟩ (Decidable.byContradiction fun hne => ?_)
      have hok := ofRelation_eq_ok_iff.2 ⟨agree_columnClaims_iff.2 hne, rfl⟩
      cases hresult.symm.trans hok

theorem name_ne_of_relates (hkeyed : model.Keyed) {associations : List Association}
    (h : ofModel namer model = .ok associations) {a b : String} (hrelates : model.Relates a b) :
    namer.name .primaryKey a (a = b) ≠ namer.name .primaryKey b false := by
  obtain ⟨association, hmem, hpair⟩ :=
    List.mem_map.1 ((mem_pairs_iff hkeyed h _).2 ⟨a, b, hrelates, rfl⟩)
  have hne := owner_name_ne_other_name_of_ofModel h association hmem
  obtain ⟨relations, -, rfl⟩ := eq_map_table hkeyed h
  obtain ⟨relation, -, rfl⟩ := List.mem_map.1 hmem
  change namer.name .primaryKey relation.sides.1.name
    (relation.sides.1.name = relation.sides.2.name) ≠
      namer.name .primaryKey relation.sides.2.name false at hne
  rcases Sym2.eq_iff.1 hpair with ⟨howner, hother⟩ | ⟨howner, hother⟩
  · exact howner ▸ hother ▸ hne
  · change relation.sides.1.name = b at howner
    change relation.sides.2.name = a at hother
    rw [howner, hother] at hne
    by_cases heq : a = b
    · simpa [heq] using hne
    · simpa [heq, Ne.symm heq] using hne.symm

/-- Relations that fit together are resolved exactly if no two columns of a table share a name. -/
theorem exists_associations_iff (hkeyed : model.Keyed)
    (hrelations : ∃ relations, Relation.ofModel model = .ok relations) :
    (∃ associations, ofModel namer model = .ok associations) ↔
      ∀ a b, model.Relates a b →
        namer.name .primaryKey a (a = b) ≠ namer.name .primaryKey b false := by
  constructor
  · rintro ⟨associations, h⟩ a b hrelates
    exact name_ne_of_relates hkeyed h hrelates
  · intro hne
    obtain ⟨relations, h⟩ := hrelations
    exact exists_associations hkeyed h hne

theorem exists_collision_iff (hkeyed : model.Keyed)
    (hrelations : ∃ relations, Relation.ofModel model = .ok relations) :
    (∃ collision, ofModel namer model = .error (.collision collision)) ↔
      (∃ a, model.Relates a a ∧ namer.Absorbs a) ∨
        ∃ a b, model.Relates a b ∧ a ≠ b ∧
          namer.name .primaryKey a false = namer.name .primaryKey b false := by
  have hfails : (∃ collision, ofModel namer model = .error (.collision collision)) ↔
      ¬ ∃ associations, ofModel namer model = .ok associations := by
    cases h : ofModel namer model with
    | ok associations => simp
    | error error =>
        obtain ⟨relations, hfit⟩ := hrelations
        obtain ⟨collision, rfl⟩ := exists_collision_of_ofModel hfit h
        simp
  rw [hfails, exists_associations_iff hkeyed hrelations]
  simp only [not_forall, not_not]
  constructor
  · rintro ⟨a, b, hrelates, heq⟩
    by_cases hself : a = b
    · subst hself
      exact .inl ⟨a, hrelates, (namer.name_marked_eq_iff a).1 (by simpa using heq)⟩
    · exact .inr ⟨a, b, hrelates, hself, by simpa [hself] using heq⟩
  · rintro (⟨a, hrelates, habsorbs⟩ | ⟨a, b, hrelates, hne, heq⟩)
    · exact ⟨a, a, hrelates, by simpa using (namer.name_marked_eq_iff a).2 habsorbs⟩
    · exact ⟨a, b, hrelates, by simpa [hne] using heq⟩

end Association

/-- When the mark of the owning side tells the two columns of a relation to itself apart. -/
structure Identifier.Namer.TellsSides (namer : Namer) : Prop where
  column : ∀ base, namer.name .primaryKey base true = namer.name .primaryKey base false ↔
    namer.Absorbs base
  relation : ∀ relation : Relation, relation.entity.name = relation.target.name →
    ((∃ collision, Association.ofRelation namer relation = .error collision) ↔
      namer.Absorbs relation.entity.name)
  model : ∀ model : Model, model.Keyed → (∃ relations, Relation.ofModel model = .ok relations) →
    ((∃ collision, Association.ofModel namer model = .error (.collision collision)) ↔
      (∃ a, model.Relates a a ∧ namer.Absorbs a) ∨
        ∃ a b, model.Relates a b ∧ a ≠ b ∧
          namer.name .primaryKey a false = namer.name .primaryKey b false)
  /-- Under a limit with room for mark and suffix, the name has to begin with the mark to lose it. -/
  begins : Identifier.parentMark.length + Identifier.Role.primaryKey.suffix.length ≤ namer.limit →
    ∀ base, namer.Absorbs base →
      Identifier.parentMark.toList <+: (Identifier.normalize base).toList

/-- The two columns of a relation to itself have one name exactly if the limit leaves nothing but marks
of the name of the entity. -/
theorem Identifier.Namer.tellsSides (namer : Namer) : namer.TellsSides where
  column := namer.name_marked_eq_iff
  relation _ := Association.exists_collision_of_self_iff
  model _ := Association.exists_collision_iff
  begins hlimit _ habsorbs := habsorbs.begins hlimit

/-- A name that has only marks as far as the usual limit reaches. -/
def ancestor : String := "Parent Parent Parent Parent Parent Parent Parent Parent Parent"

def ancestry : Model := (∅ : Model).put ancestor { name := ancestor, related := .ofList [ancestor] }

/-- Under the usual limit both columns of the relation have one name, and it is not resolved. -/
theorem not_resolved_ancestry : ancestry.Keyed ∧
    (∃ relations, Relation.ofModel ancestry = .ok relations) ∧ ancestry.Relates ancestor ancestor ∧
    Namer.name {} .primaryKey ancestor true = Namer.name {} .primaryKey ancestor false ∧
    ∃ collision, Association.ofModel {} ancestry = .error (.collision collision) := by
  have hkeyed : ancestry.Keyed := Model.keyed_iff_entries.2 (by decide +kernel)
  have hrelations : ∃ relations, Relation.ofModel ancestry = .ok relations := by
    rw [Relation.exists_ofModel_eq_ok_iff_of_keyed hkeyed]
    exact ⟨Model.forall_relates_iff.2 (by decide +kernel),
      Model.forall_owns_iff.2 (by decide +kernel)⟩
  have hrelates : ancestry.Relates ancestor ancestor := by decide +kernel
  have habsorbs : Namer.Absorbs {} ancestor := by decide +kernel
  refine ⟨hkeyed, hrelations, hrelates, (Namer.name_marked_eq_iff _ _).2 habsorbs, ?_⟩
  exact (Association.exists_collision_iff hkeyed hrelations).2 (.inl ⟨ancestor, hrelates, habsorbs⟩)

end EntitySchema
