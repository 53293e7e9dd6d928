import EntitySchema.Proofs.Model.WellFormed
import EntitySchema.Proofs.Schema.Emission
import EntitySchema.Proofs.Schema.Resolution

/-!
# Why there is no schema

Relations are resolved exactly if each of them is declared on both sides. Then every one of them has
its association table, and what is left to go wrong are tags without a column type, sources that are
not declared, and identifiers.
-/

namespace EntitySchema

open Identifier (Namer Scope)

namespace Relation

variable {model : Model}

theorem exists_map_eq {pairs : List (Entity × String)}
    (h : ∀ p ∈ pairs, ∃ target, model.get? p.2 = some target ∧ p.1.name ∈ target.related) :
    ∃ relations : List Relation, relations.map (fun r => (r.entity, r.key)) = pairs ∧
      ∀ r ∈ relations, r.Returned model := by
  induction pairs with
  | nil => exact ⟨[], rfl, List.forall_mem_nil _⟩
  | cons p pairs ih =>
      obtain ⟨⟨target, hget, hback⟩, hrest⟩ := List.forall_mem_cons.1 h
      obtain ⟨relations, hmap, hreturned⟩ := ih hrest
      refine ⟨⟨p.1, p.2, target⟩ :: relations, by rw [List.map_cons, hmap], ?_⟩
      exact List.forall_mem_cons.2 ⟨⟨hget, decide_eq_true hback⟩, hreturned⟩

theorem exists_ofModel_eq_ok_iff :
    (∃ relations, ofModel model = .ok relations) ↔
      ∀ entity ∈ model.toList,
        (∀ key ∈ entity.related,
          ∃ target, model.get? key = some target ∧ entity.name ∈ target.related) ∧
        ∀ other ∈ entity.owned, other ∈ entity.related := by
  constructor
  · rintro ⟨relations, h⟩ entity hmem
    obtain ⟨-, hreturned, howned⟩ := ofModel_eq_ok_iff.1 h
    refine ⟨?_, howned entity hmem⟩
    intro key hkey
    obtain ⟨r, hr, rfl, rfl⟩ := exists_of_related h hmem hkey
    obtain ⟨hget, hback⟩ := hreturned r hr
    exact ⟨r.target, hget, of_decide_eq_true hback⟩
  · intro h
    have hpairs : ∀ p ∈ model.toList.flatMap (fun e => e.related.toList.map (Prod.mk e)),
        ∃ target, model.get? p.2 = some target ∧ p.1.name ∈ target.related := by
      intro p hp
      obtain ⟨entity, hentity, hpair⟩ := List.mem_flatMap.1 hp
      obtain ⟨key, hkey, rfl⟩ := List.mem_map.1 hpair
      exact (h entity hentity).1 key hkey
    obtain ⟨relations, hmap, hreturned⟩ := exists_map_eq hpairs
    exact ⟨relations, ofModel_eq_ok_iff.2 ⟨hmap, hreturned, fun entity hmem => (h entity hmem).2⟩⟩

theorem exists_ofModel_eq_ok_iff_of_keyed (hkeyed : model.Keyed) :
    (∃ relations, ofModel model = .ok relations) ↔
      (∀ a b, model.Relates a b → model.Relates b a) ∧
        ∀ a b, model.Owns a b → model.Relates a b := by
  rw [exists_ofModel_eq_ok_iff]
  constructor
  · intro h
    constructor
    · rintro a b ⟨entity, hget, hrelated⟩
      obtain ⟨target, htarget, hback⟩ := (h entity (Model.mem_toList_iff.2 ⟨a, hget⟩)).1 b hrelated
      exact ⟨target, htarget, hkeyed a entity hget ▸ hback⟩
    · rintro a b ⟨entity, hget, howned⟩
      exact ⟨entity, hget, (h entity (Model.mem_toList_iff.2 ⟨a, hget⟩)).2 b howned⟩
  · rintro ⟨hreturned, howned⟩ entity hentity
    have hget := hkeyed.mem_toList_iff.1 hentity
    constructor
    · intro key hkey
      exact hreturned entity.name key ⟨entity, hget, hkey⟩
    · intro other hother
      obtain ⟨found, hfound, hrelated⟩ := howned entity.name other ⟨entity, hget, hother⟩
      cases hget.symm.trans hfound
      exact hrelated

end Relation

theorem Model.WellFormed.resolvable {model : Model} (h : model.WellFormed) :
    ∃ relations, Relation.ofModel model = .ok relations := by
  rw [Relation.exists_ofModel_eq_ok_iff_of_keyed h.keyed]
  refine ⟨h.symmetric, ?_⟩
  rintro a b ⟨entity, hget, howned⟩
  exact ⟨entity, hget, (h.entities entity (mem_toList_iff.2 ⟨a, hget⟩)).owned b howned⟩

namespace Association

variable {namer : Namer} {model : Model} {associations : List Association}

theorem joins_iff {association : Association} {a b : String} :
    association.joins a b = true ↔ association.pair = s(a, b) := by
  simp [joins, pair]

theorem countP_joins (hkeyed : model.Keyed) (h : ofModel namer model = .ok associations)
    {a b : String} (hrelates : model.Relates a b) : associations.countP (·.joins a b) = 1 := by
  have hmem : s(a, b) ∈ associations.map pair :=
    (mem_pairs_iff hkeyed h _).2 ⟨a, b, hrelates, rfl⟩
  have hcount : associations.countP (·.joins a b) = (associations.map pair).count s(a, b) := by
    rw [List.count, List.countP_map]
    apply List.countP_congr
    intro association _
    rw [joins_iff, Function.comp_apply, beq_iff_eq]
  rw [hcount]
  exact List.count_eq_one_of_mem (nodup_pairs hkeyed h) hmem

theorem exists_collision_of_ofModel {relations : List Relation} {error : Error}
    (hrelations : Relation.ofModel model = .ok relations) (h : ofModel namer model = .error error) :
    ∃ collision, error = .collision collision := by
  simp only [ofModel, hrelations] at h
  split at h
  · cases h
  next collision _ =>
    cases h
    exact ⟨collision, rfl⟩

end Association

namespace ExternalId.Derivation

variable {namer : Namer} {entity : Entity}

theorem column?_eq_none_iff {source : String} :
    entity.column? source = none ↔ source ∉ entity.columns.map Column.name := by
  simp [Entity.column?, List.find?_eq_none]

theorem sourceIdentifiers_eq_ok_iff {sources identifiers : List String} :
    sourceIdentifiers namer entity sources = .ok identifiers ↔
      (∀ source ∈ sources, source ∈ entity.columns.map Column.name) ∧
        identifiers = sources.map (namer.name .column · false) := by
  induction sources generalizing identifiers with
  | nil => simp [sourceIdentifiers, eq_comm]
  | cons source sources ih =>
      rw [sourceIdentifiers, List.forall_mem_cons, List.map_cons]
      constructor
      · intro h
        split at h
        · cases h
        next column hcolumn =>
          split at h
          next rest hrest =>
            obtain ⟨hsources, rfl⟩ := ih.1 hrest
            cases h
            refine ⟨⟨?_, hsources⟩, rfl⟩
            by_contra hnot
            rw [column?_eq_none_iff.2 hnot] at hcolumn
            cases hcolumn
          · cases h
      · rintro ⟨⟨hsource, hsources⟩, rfl⟩
        have hrest := ih.2 ⟨hsources, rfl⟩
        split
        next hnone => exact absurd hsource (column?_eq_none_iff.1 hnone)
        · simp only [hrest]

theorem ofEntity_eq_ok_iff {derivation : Option Derivation} :
    ofEntity namer entity = .ok derivation ↔
      (∀ source ∈ entity.externalIdSources, source ∈ entity.columns.map Column.name) ∧
        derivation = ofSources? (entity.externalIdSources.map (namer.name .column · false)) := by
  unfold ofEntity
  constructor
  · intro h
    split at h
    next identifiers hidentifiers =>
      obtain ⟨hdeclared, rfl⟩ := sourceIdentifiers_eq_ok_iff.1 hidentifiers
      cases h
      exact ⟨hdeclared, rfl⟩
    · cases h
  · rintro ⟨hdeclared, rfl⟩
    have hidentifiers : sourceIdentifiers namer entity entity.externalIdSources = .ok _ :=
      sourceIdentifiers_eq_ok_iff.2 ⟨hdeclared, rfl⟩
    simp only [hidentifiers]

theorem isSome_ofSources? (sources : List String) :
    (ofSources? sources).isSome = true ↔ sources ≠ [] := by
  match sources with
  | [] => simp [ofSources?]
  | [source] => simp [ofSources?]
  | first :: second :: rest => simp [ofSources?]

theorem isSome_of_ofEntity {derivation : Option Derivation}
    (h : ofEntity namer entity = .ok derivation) :
    derivation.isSome = true ↔ entity.externalIdSources ≠ [] := by
  rw [(ofEntity_eq_ok_iff.1 h).2, isSome_ofSources?, ne_eq, List.map_eq_nil_iff]

theorem ofEntity_ne_error (h : entity.WellFormed) (source : MissingSource) :
    ofEntity namer entity ≠ .error source := by
  intro herror
  cases herror.symm.trans (ofEntity_eq_ok_iff.2 ⟨h.declared, rfl⟩)

end ExternalId.Derivation

/-- The cause is a tag without a column type, or an identifier with two meanings. -/
def Error.IsTagOrCollision : Error → Prop
  | unsupportedTag _ | collision _ => True
  | unreadableModel _ | unparsableModel _ | invalidMapping _ | inconsistent _ | missingSource _
  | unwritableOutput _ => False

theorem EntityPart.isTagOrCollision_of_ofEntity {config : Config} {associations : List Association}
    {entity : Entity} {rowType : RowType} {error : Error} (hentity : entity.WellFormed)
    (h : ofEntity config associations entity rowType = .error error) : error.IsTagOrCollision := by
  rcases cases_of_ofEntity_eq_error h with ⟨source, hsource, -⟩ | ⟨collision, rfl⟩
  · exact absurd hsource (ExternalId.Derivation.ofEntity_ne_error hentity source)
  · trivial

namespace Schema

variable {config : Config} {associations : List Association} {model : Model} {error : Error}

theorem uncovered?_eq_none (hkeyed : model.Keyed)
    (h : Association.ofModel config.namer model = .ok associations) :
    uncovered? model associations = none := by
  rw [uncovered?, List.findSome?_eq_none_iff]
  intro p hp
  obtain ⟨entity, hentity, hpair⟩ := List.mem_flatMap.1 hp
  obtain ⟨related, hrelated, rfl⟩ := List.mem_map.1 hpair
  have hrelates : model.Relates entity.name related :=
    ⟨entity, hkeyed.mem_toList_iff.1 hentity, hrelated⟩
  simp only [Association.countP_joins hkeyed h hrelates, ↓reduceIte]

/-- A well-formed model can only be refused for a tag or a collision. -/
theorem isTagOrCollision_of_ofModel {cache : RowTypeCache} (hmodel : model.WellFormed)
    (h : (ofModel config model cache).1 = .error error) : error.IsTagOrCollision := by
  obtain ⟨relations, hrelations⟩ := hmodel.resolvable
  rcases cases_of_ofModel_eq_error h with hassociations | ⟨associations, hassociations, hcause⟩
  · obtain ⟨collision, rfl⟩ := Association.exists_collision_of_ofModel hrelations hassociations
    trivial
  · rcases hcause with huncovered | ⟨collision, rfl⟩ | ⟨column, rfl⟩ | ⟨entity, hentity, rowType, hpart⟩
    · exact absurd (uncovered?_eq_none hmodel.keyed hassociations) huncovered
    · trivial
    · trivial
    · exact EntityPart.isTagOrCollision_of_ofEntity (hmodel.entities entity hentity) hpart

end Schema

end EntitySchema
