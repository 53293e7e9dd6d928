import Mathlib.Data.Sym.Sym2
import EntitySchema.Proofs.Identifier.Claims
import EntitySchema.Proofs.Schema.Relations

/-!
# Resolved relations

In a model under its own names, every related pair of names becomes one association table. The tables
stand in the lexicographic order of the pairs, and which side is the owner depends on the model only,
not on the side from which the pair was met.
-/

namespace EntitySchema

open Identifier (Namer Scope)

namespace Model

/-- The entities under `a` and `b` are related and `a` is the side that owns the relation: it alone
says so, or both or neither do and it has the smaller name. -/
def Joined (model : Model) (a b : String) : Prop :=
  model.Relates a b ∧ (a ≠ b →
    model.Owns a b ∧ ¬ model.Owns b a ∨ (model.Owns a b ↔ model.Owns b a) ∧ a < b)

instance (model : Model) (a b : String) : Decidable (model.Joined a b) :=
  inferInstanceAs (Decidable (_ ∧ (_ → _)))

theorem forall_joined_iff {model : Model} {P : String → String → Prop} :
    (∀ a b, model.Joined a b → P a b) ↔
      ∀ e ∈ model.entities.entries, ∀ b ∈ e.2.related.toList, model.Joined e.1 b → P e.1 b := by
  rw [← @forall_relates_iff model fun a b => model.Joined a b → P a b]
  constructor
  · intro h a b _ hjoined
    exact h a b hjoined
  · intro h a b hjoined
    exact h a b hjoined.1 hjoined

end Model

namespace Relation

/-- The association table of a relation. -/
def table (namer : Namer) (relation : Relation) : Association :=
  .ofSides namer relation.sides.1 relation.sides.2

theorem sides_eq (relation : Relation) :
    relation.sides = (relation.entity, relation.target) ∨
      relation.sides = (relation.target, relation.entity) ∨
      relation.entity.name = relation.target.name ∧
        relation.sides = (relation.entity, relation.entity) := by
  unfold sides
  dsimp only
  split
  next heq => exact .inr (.inr ⟨heq, rfl⟩)
  · split
    · exact .inl rfl
    · split
      · exact .inr (.inl rfl)
      · split
        · exact .inl rfl
        · exact .inr (.inl rfl)

theorem owner_of_sides {relation : Relation} {a b : Entity} (h : relation.sides = (a, b))
    (hne : a.name ≠ b.name) :
    a.owns b.name = true ∧ b.owns a.name = false ∨ a.owns b.name = b.owns a.name ∧ a.name < b.name := by
  unfold sides at h
  dsimp only at h
  split at h
  · cases h
    exact absurd rfl hne
  next hnames =>
    split at h
    next howns =>
      cases h
      exact .inl (by simpa using howns)
    next hnot =>
      split at h
      next howns =>
        cases h
        exact .inl (by simpa using howns)
      next hnot' =>
        have heq : relation.entity.owns relation.target.name =
            relation.target.owns relation.entity.name := by
          cases h₁ : relation.entity.owns relation.target.name <;>
            cases h₂ : relation.target.owns relation.entity.name <;> simp_all
        split at h
        next hlt =>
          cases h
          exact .inr ⟨heq, hlt⟩
        next hlt =>
          cases h
          exact .inr ⟨heq.symm, (NameSet.eq_or_lt_of_not_lt hlt).resolve_left fun he => hnames he.symm⟩

end Relation

namespace Association

variable {namer : Namer} {model : Model} {associations : List Association}

/-- The names of both sides, the smaller one first. -/
def names (association : Association) : String × String :=
  Relation.orderedPair association.owner.entity association.other.entity

/-- The names of both sides without regard to which one is the owner. -/
def pair (association : Association) : Sym2 String :=
  s(association.owner.entity, association.other.entity)

theorem ofRelation_eq_ok_iff {relation : Relation} {association : Association} :
    ofRelation namer relation = .ok association ↔
      (relation.table namer).columnClaims.Pairwise Scope.Agree ∧
        association = relation.table namer := by
  rw [← Scope.exists_claimAll_named_eq_ok_iff
    ("association table " ++ (relation.table namer).name), ofRelation, Relation.table]
  rcases relation.sides with ⟨owner, other⟩
  simp only
  cases (Scope.named ("association table " ++ (ofSides namer owner other).name)).claimAll
      (ofSides namer owner other).columnClaims with
  | error collision => simp
  | ok after => simp [eq_comm]

theorem ofRelations_eq_ok_iff {relations : List Relation} :
    ofRelations namer relations = .ok associations ↔
      (∀ r ∈ relations, (r.table namer).columnClaims.Pairwise Scope.Agree) ∧
        associations = relations.map (Relation.table namer) := by
  induction relations generalizing associations with
  | nil => simp [ofRelations, eq_comm]
  | cons relation relations ih =>
      rw [ofRelations, List.forall_mem_cons, List.map_cons]
      constructor
      · intro h
        split at h
        · cases h
        next association hassociation =>
          obtain ⟨hclaims, rfl⟩ := ofRelation_eq_ok_iff.1 hassociation
          split at h
          next rest hrest =>
            obtain ⟨hall, rfl⟩ := ih.1 hrest
            cases h
            exact ⟨⟨hclaims, hall⟩, rfl⟩
          · cases h
      · rintro ⟨⟨hclaims, hall⟩, rfl⟩
        have hfirst : ofRelation namer relation = .ok (relation.table namer) :=
          ofRelation_eq_ok_iff.2 ⟨hclaims, rfl⟩
        simp only [hfirst, ih.2 ⟨hall, rfl⟩]

theorem ofModel_eq_ok_iff :
    ofModel namer model = .ok associations ↔
      ∃ relations, Relation.ofModel model = .ok relations ∧
        (∀ r ∈ Relation.firstPerPair [] relations,
          (r.table namer).columnClaims.Pairwise Scope.Agree) ∧
        associations = (Relation.firstPerPair [] relations).map (Relation.table namer) := by
  rw [ofModel]
  cases Relation.ofModel model with
  | error cause => simp
  | ok relations =>
      simp only [Except.ok.injEq, exists_eq_left']
      rw [← ofRelations_eq_ok_iff]
      cases ofRelations namer (Relation.firstPerPair [] relations) with
      | error collision => simp
      | ok found => simp

section Keyed

variable {relations : List Relation} (hkeyed : model.Keyed)
  (h : Relation.ofModel model = .ok relations)

include hkeyed h

theorem pair_table {r : Relation} (hr : r ∈ relations) :
    (r.table namer).pair = s(r.entity.name, r.key) := by
  have hkey := Relation.target_name hkeyed h hr
  change s(r.sides.1.name, r.sides.2.name) = _
  rcases r.sides_eq with hsides | hsides | ⟨heq, hsides⟩
  · rw [hsides, hkey]
  · rw [hsides, hkey]
    exact Sym2.eq_swap
  · rw [hsides, ← hkey, ← heq]

theorem names_table {r : Relation} (hr : r ∈ relations) (hlt : ¬ r.key < r.entity.name) :
    (r.table namer).names = r.names := by
  have hkey := Relation.target_name hkeyed h hr
  have hordered : Relation.orderedPair r.entity.name r.key = r.names :=
    Relation.orderedPair_of_not_lt hlt
  change Relation.orderedPair r.sides.1.name r.sides.2.name = _
  rcases r.sides_eq with hsides | hsides | ⟨heq, hsides⟩
  · rw [hsides, hkey, hordered]
  · rw [hsides, hkey, Relation.orderedPair_comm, hordered]
  · rw [hsides, ← hordered, ← hkey, ← heq]

theorem get?_sides {r : Relation} (hr : r ∈ relations) :
    model.get? r.sides.1.name = some r.sides.1 ∧ model.get? r.sides.2.name = some r.sides.2 := by
  have hentity := Relation.get?_entity_name hkeyed h hr
  have htarget := Relation.get?_target_name hkeyed h hr
  rcases r.sides_eq with hsides | hsides | ⟨-, hsides⟩
  · rw [hsides]
    exact ⟨hentity, htarget⟩
  · rw [hsides]
    exact ⟨htarget, hentity⟩
  · rw [hsides]
    exact ⟨hentity, hentity⟩

theorem exists_kept_of_relates {a b : String} (hrelates : model.Relates a b) :
    ∃ r ∈ relations, ¬ r.key < r.entity.name ∧ s(r.entity.name, r.key) = s(a, b) := by
  obtain ⟨entity, hget, hmem⟩ := hrelates
  have hname : entity.name = a := hkeyed a entity hget
  have hentity : entity ∈ model.toList := Model.mem_toList_iff.2 ⟨a, hget⟩
  obtain ⟨r, hr, hfrom, hkey⟩ := Relation.exists_of_related h hentity hmem
  by_cases hlt : b < a
  · obtain ⟨t, ht, hnames⟩ := Relation.exists_mirrored hkeyed h hr
    obtain ⟨htname, htkey⟩ := Prod.mk.inj hnames
    refine ⟨t, ht, ?_, ?_⟩
    · rw [htname, htkey, hkey, hfrom, hname]
      exact String.lt_asymm hlt
    · rw [htname, htkey, hkey, hfrom, hname]
      exact Sym2.eq_swap
  · refine ⟨r, hr, ?_, ?_⟩
    · rw [hkey, hfrom, hname]
      exact hlt
    · rw [hkey, hfrom, hname]

theorem relates_symm {a b : String} (hrelates : model.Relates a b) : model.Relates b a := by
  obtain ⟨entity, hget, hmem⟩ := hrelates
  have hentity : entity ∈ model.toList := Model.mem_toList_iff.2 ⟨a, hget⟩
  obtain ⟨r, hr, rfl, rfl⟩ := Relation.exists_of_related h hentity hmem
  obtain ⟨htarget, hback⟩ := (Relation.ofModel_eq_ok_iff.1 h).2.1 r hr
  rw [hkeyed a r.entity hget] at hback
  exact ⟨r.target, htarget, by simpa [Entity.isRelatedTo] using hback⟩

theorem relates_sides {r : Relation} (hr : r ∈ relations) :
    model.Relates r.sides.1.name r.sides.2.name := by
  have hrelates : model.Relates r.entity.name r.key :=
    ⟨r.entity, Relation.get?_entity_name hkeyed h hr, (Relation.mem_of_ofModel h hr).2⟩
  have hpair : s(r.sides.1.name, r.sides.2.name) = s(r.entity.name, r.key) :=
    @pair_table {} _ _ hkeyed h _ hr
  rcases Sym2.eq_iff.1 hpair with ⟨howner, hother⟩ | ⟨howner, hother⟩
  · rw [howner, hother]
    exact hrelates
  · rw [howner, hother]
    exact relates_symm hkeyed h hrelates

end Keyed

section Resolved

variable (hkeyed : model.Keyed) (h : ofModel namer model = .ok associations)

include hkeyed h

theorem eq_map_table : ∃ relations, Relation.ofModel model = .ok relations ∧
    associations = (relations.filter fun r => !(r.key < r.entity.name)).map
      (Relation.table namer) := by
  obtain ⟨relations, hrelations, -, rfl⟩ := ofModel_eq_ok_iff.1 h
  exact ⟨relations, hrelations, by rw [Relation.firstPerPair_eq_filter hkeyed hrelations]⟩

theorem mem_pairs_iff (pair : Sym2 String) :
    pair ∈ associations.map Association.pair ↔ ∃ a b, model.Relates a b ∧ s(a, b) = pair := by
  obtain ⟨relations, hrelations, rfl⟩ := eq_map_table hkeyed h
  rw [List.map_map, List.mem_map]
  constructor
  · rintro ⟨r, hr, rfl⟩
    have hmem := (List.mem_filter.1 hr).1
    refine ⟨r.entity.name, r.key, ?_, (pair_table hkeyed hrelations hmem).symm⟩
    exact ⟨r.entity, Relation.get?_entity_name hkeyed hrelations hmem,
      (Relation.mem_of_ofModel hrelations hmem).2⟩
  · rintro ⟨a, b, hrelates, rfl⟩
    obtain ⟨r, hr, hlt, hpair⟩ := exists_kept_of_relates hkeyed hrelations hrelates
    refine ⟨r, List.mem_filter.2 ⟨hr, by simpa using hlt⟩, ?_⟩
    exact (pair_table hkeyed hrelations hr).trans hpair

theorem pairwise_names_before : (associations.map Association.names).Pairwise Relation.Before := by
  obtain ⟨relations, hrelations, rfl⟩ := eq_map_table hkeyed h
  have hnames : ((relations.filter fun r => !(r.key < r.entity.name)).map
      (Relation.table namer)).map Association.names =
        (relations.filter fun r => !(r.key < r.entity.name)).map Relation.names := by
    rw [List.map_map]
    refine List.map_congr_left fun r hr => ?_
    obtain ⟨hmem, hlt⟩ := List.mem_filter.1 hr
    exact names_table hkeyed hrelations hmem (by simpa using hlt)
  rw [hnames]
  have hsublist := List.filter_sublist (p := fun r : Relation => !(r.key < r.entity.name))
    (l := relations)
  exact (Relation.pairwise_before hkeyed hrelations).sublist (hsublist.map _)

omit hkeyed h in
theorem names_eq_of_pair_eq {a b : Association} (heq : a.pair = b.pair) : a.names = b.names := by
  rcases Sym2.eq_iff.1 heq with ⟨howner, hother⟩ | ⟨howner, hother⟩
  · rw [names, howner, hother, names]
  · rw [names, howner, hother, names]
    exact Relation.orderedPair_comm _ _

theorem nodup_pairs : (associations.map Association.pair).Nodup := by
  have hbefore := pairwise_names_before hkeyed h
  rw [List.pairwise_map] at hbefore
  rw [List.nodup_iff_pairwise_ne, List.pairwise_map]
  refine hbefore.imp fun hlt heq => ?_
  exact Relation.before_irrefl _ (names_eq_of_pair_eq heq ▸ hlt)

theorem isSelfRelation_iff {association : Association} (hmem : association ∈ associations) :
    association.isSelfRelation = true ↔ association.owner.entity = association.other.entity := by
  obtain ⟨relations, -, rfl⟩ := eq_map_table hkeyed h
  obtain ⟨r, -, rfl⟩ := List.mem_map.1 hmem
  exact decide_eq_true_iff

theorem owner_of_mem {association : Association} (hmem : association ∈ associations)
    (hne : association.owner.entity ≠ association.other.entity) :
    model.Owns association.owner.entity association.other.entity ∧
        ¬ model.Owns association.other.entity association.owner.entity ∨
      (model.Owns association.owner.entity association.other.entity ↔
          model.Owns association.other.entity association.owner.entity) ∧
        association.owner.entity < association.other.entity := by
  obtain ⟨relations, hrelations, rfl⟩ := eq_map_table hkeyed h
  obtain ⟨r, hr, rfl⟩ := List.mem_map.1 hmem
  obtain ⟨howner, hother⟩ := get?_sides hkeyed hrelations (List.mem_filter.1 hr).1
  have howns {a : Entity} (ha : model.get? a.name = some a) (b : String) :
      model.Owns a.name b ↔ a.owns b = true := by
    simp [Model.Owns, ha, Entity.owns]
  change r.sides.1.name ≠ r.sides.2.name at hne
  change model.Owns r.sides.1.name r.sides.2.name ∧ ¬ model.Owns r.sides.2.name r.sides.1.name ∨
    (model.Owns r.sides.1.name r.sides.2.name ↔ model.Owns r.sides.2.name r.sides.1.name) ∧
      r.sides.1.name < r.sides.2.name
  rw [howns howner, howns hother]
  have hsides : r.sides = (r.sides.1, r.sides.2) := Prod.mk.eta.symm
  rcases Relation.owner_of_sides hsides hne with ⟨hown, hnot⟩ | ⟨heq, hlt⟩
  · exact .inl ⟨hown, by simp [hnot]⟩
  · exact .inr ⟨by rw [heq], hlt⟩

end Resolved

/-- The sides of the tables, owner first, are exactly the pairs that the model joins. -/
theorem exists_sides_iff (hkeyed : model.Keyed) (h : ofModel namer model = .ok associations)
    (a b : String) :
    (∃ association ∈ associations, association.owner.entity = a ∧ association.other.entity = b) ↔
      model.Joined a b := by
  obtain ⟨relations, hrelations, -⟩ := eq_map_table hkeyed h
  have hpairs := mem_pairs_iff hkeyed h
  constructor
  · rintro ⟨association, hmem, rfl, rfl⟩
    refine ⟨?_, owner_of_mem hkeyed h hmem⟩
    obtain ⟨a, b, hrelates, heq⟩ := (hpairs association.pair).1 (List.mem_map_of_mem hmem)
    rcases Sym2.eq_iff.1 heq with ⟨ha, hb⟩ | ⟨ha, hb⟩
    · exact ha ▸ hb ▸ hrelates
    · exact ha ▸ hb ▸ relates_symm hkeyed hrelations hrelates
  · rintro ⟨hrelates, howner⟩
    obtain ⟨association, hmem, heq⟩ := List.mem_map.1 ((hpairs s(a, b)).2 ⟨a, b, hrelates, rfl⟩)
    refine ⟨association, hmem, ?_⟩
    rcases Sym2.eq_iff.1 heq with hsides | ⟨ha, hb⟩
    · exact hsides
    by_cases hab : a = b
    · exact ⟨ha.trans hab.symm, hb.trans hab⟩
    -- The table has the other side as its owner, which the declarations exclude.
    have hother := owner_of_mem hkeyed h hmem (by rw [ha, hb]; exact Ne.symm hab)
    rw [ha, hb] at hother
    rcases howner hab with ⟨hown, hnot⟩ | ⟨hiff, hlt⟩
    · rcases hother with ⟨hown', -⟩ | ⟨hiff', -⟩
      · exact absurd hown' hnot
      · exact absurd (hiff'.2 hown) hnot
    · rcases hother with ⟨hown', hnot'⟩ | ⟨-, hlt'⟩
      · exact absurd (hiff.2 hown') hnot'
      · exact absurd hlt (String.lt_asymm hlt')

/-- The tables are those of the related pairs of the model, each once, in the order of the pairs, and
with the owner that the declarations of both sides decide on. -/
structure Resolves (model : Model) (associations : List Association) : Prop where
  mem_iff : ∀ pair, pair ∈ associations.map Association.pair ↔
    ∃ a b, model.Relates a b ∧ s(a, b) = pair
  nodup : (associations.map Association.pair).Nodup
  ordered : (associations.map Association.names).Pairwise (Prod.Lex (· < ·) (· < ·))
  self_iff : ∀ association ∈ associations,
    association.isSelfRelation = true ↔ association.owner.entity = association.other.entity
  owner : ∀ association ∈ associations, association.owner.entity ≠ association.other.entity →
    model.Owns association.owner.entity association.other.entity ∧
        ¬ model.Owns association.other.entity association.owner.entity ∨
      (model.Owns association.owner.entity association.other.entity ↔
          model.Owns association.other.entity association.owner.entity) ∧
        association.owner.entity < association.other.entity

theorem resolves_of_ofModel (hkeyed : model.Keyed) (h : ofModel namer model = .ok associations) :
    Resolves model associations where
  mem_iff := mem_pairs_iff hkeyed h
  nodup := nodup_pairs hkeyed h
  ordered := pairwise_names_before hkeyed h
  self_iff _ hmem := isSelfRelation_iff hkeyed h hmem
  owner _ hmem hne := owner_of_mem hkeyed h hmem hne

/-- A node related to itself, a customer owned by its orders and met before them, and a pair of which
neither side is the owner. -/
def family : Model where
  entities := ⟨[
    ("customer", { name := "customer", related := .ofList ["node", "order"] }),
    ("node", { name := "node", related := .ofList ["customer", "node"] }),
    ("order",
      { name := "order", related := .ofList ["customer"], owned := .ofList ["customer"] })],
    by decide +kernel⟩

theorem resolves_family : family.Keyed ∧ ∃ associations,
    ofModel {} family = .ok associations ∧ Resolves family associations := by
  have hkeyed : family.Keyed := Model.keyed_iff_entries.2 (by decide +kernel)
  have hok : (ofModel {} family).isOk = true := by decide +kernel
  cases h : ofModel {} family with
  | error error =>
      rw [h] at hok
      cases hok
  | ok associations => exact ⟨hkeyed, associations, rfl, resolves_of_ofModel hkeyed h⟩

end Association

end EntitySchema
