import EntitySchema.Proofs.Model.Closure
import EntitySchema.Proofs.Model.Editing

/-!
# Relating entities

Of a list of pairs to be related, those count of which both names are in the model. Each of them adds
one relation to both sides and one to what its owner owns, whatever was asked for before or after it, so
that neither the order of the pairs matters nor how often one is asked for, nor when relations are
reflected.
-/

namespace EntitySchema

namespace Model

variable {model after : Model} {pairs others : List (String × String)} {owner other a b : String}

/-- The model after all pairs were asked to be related, one after another. A pair that is refused leaves
the model as it is. -/
def relateAll (model : Model) (pairs : List (String × String)) : Model :=
  performAll model (pairs.map fun pair => .relate pair.1 pair.2)

/-- It is asked that `a` be related to `b` and own the relation, and both are in the model. -/
def Grants (model : Model) (pairs : List (String × String)) (a b : String) : Prop :=
  (a, b) ∈ pairs ∧ (∃ entity, model.get? a = some entity) ∧ ∃ entity, model.get? b = some entity

theorem grants_iff_of_bare_eq (h : after.bare = model.bare) :
    after.Grants pairs a b ↔ model.Grants pairs a b := by
  rw [Grants, Grants, exists_get?_iff_of_bare_eq h, exists_get?_iff_of_bare_eq h]

theorem grants_cons_iff (pair : String × String) (pairs : List (String × String)) :
    model.Grants (pair :: pairs) a b ↔ model.Grants [pair] a b ∨ model.Grants pairs a b := by
  simp only [Grants, List.mem_cons, List.not_mem_nil, or_false, or_and_right]

theorem not_grants_of_eq_none (h : model.get? owner = none ∨ model.get? other = none) :
    ¬model.Grants [(owner, other)] a b := by
  rintro ⟨hpair, ⟨entity, howner⟩, ⟨found, hother⟩⟩
  cases List.mem_singleton.1 hpair
  simp [howner, hother] at h

theorem bare_relateTo (entity : Entity) (name : String) : (entity.relateTo name).bare = entity.bare :=
  rfl

theorem bare_own (entity : Entity) (name : String) : (entity.own name).bare = entity.bare := rfl

theorem bare_modify (key : String) {f : Entity → Entity} (hf : ∀ entity, (f entity).bare = entity.bare) :
    (model.modify key f).bare = model.bare := by
  ext1 other
  rw [get?_bare, get?_bare, get?_modify]
  split
  · rw [Option.map_map]
    exact Option.map_congr fun entity _ => hf entity
  · rfl

theorem exists_mem_modify_iff (names : Entity → NameSet) (gained : String → Prop) {key : String}
    {f : Entity → Entity} (hf : ∀ entity : Entity, ∀ name,
      name ∈ names (f entity) ↔ name ∈ names entity ∨ gained name) :
    (∃ entity, (model.modify key f).get? a = some entity ∧ b ∈ names entity) ↔
      (∃ entity, model.get? a = some entity ∧ b ∈ names entity) ∨
        (∃ entity, model.get? a = some entity) ∧ a = key ∧ gained b := by
  rw [get?_modify]
  split
  next heq =>
    subst heq
    cases model.get? key with
    | none => simp
    | some entity => simp [hf]
  next hne => simp [Ne.symm hne]

theorem relates_modify_own_iff {key name : String} :
    (model.modify key (·.own name)).Relates a b ↔
      model.Relates a b ∨ (∃ entity, model.get? a = some entity) ∧ a = key ∧ b = name :=
  exists_mem_modify_iff Entity.related (· = name) fun _ _ => NameSet.mem_insert.trans or_comm

theorem relates_modify_relateTo_iff {key name : String} :
    (model.modify key (·.relateTo name)).Relates a b ↔
      model.Relates a b ∨ (∃ entity, model.get? a = some entity) ∧ a = key ∧ b = name :=
  exists_mem_modify_iff Entity.related (· = name) fun _ _ => NameSet.mem_insert.trans or_comm

theorem owns_modify_own_iff {key name : String} :
    (model.modify key (·.own name)).Owns a b ↔
      model.Owns a b ∨ (∃ entity, model.get? a = some entity) ∧ a = key ∧ b = name :=
  exists_mem_modify_iff Entity.owned (· = name) fun _ _ => NameSet.mem_insert.trans or_comm

theorem owns_modify_relateTo_iff {key name : String} :
    (model.modify key (·.relateTo name)).Owns a b ↔ model.Owns a b := by
  have howned : (model.modify key (·.relateTo name)).Owns a b ↔
      model.Owns a b ∨ (∃ entity, model.get? a = some entity) ∧ a = key ∧ False :=
    exists_mem_modify_iff Entity.owned (fun _ => False) fun _ _ => (iff_of_eq (or_false _)).symm
  rw [howned, and_false, and_false, or_false]

/-- A request for one pair either adds what it asks for or is refused. -/
theorem cases_of_perform_relate (model : Model) (owner other : String) :
    ((∃ entity, model.get? owner = some entity) ∧ (∃ entity, model.get? other = some entity) ∧
        ((Edit.relate owner other).perform model).1 =
          (model.modify owner (·.own other)).modify other (·.relateTo owner)) ∨
      (model.get? owner = none ∨ model.get? other = none) ∧
        ((Edit.relate owner other).perform model).1 = model := by
  obtain ⟨after, happly, hperform⟩ | ⟨cause, happly, hperform⟩ :=
    (Edit.relate owner other).cases_of_perform model
  · obtain ⟨howner, hother, rfl⟩ := relate_eq_ok_iff.1 happly
    rw [hperform]
    exact .inl ⟨Option.isSome_iff_exists.1 howner, Option.isSome_iff_exists.1 hother, rfl⟩
  · rw [hperform]
    refine .inr ⟨?_, rfl⟩
    by_contra hnone
    have hfit : ¬(Edit.relate owner other).Unfit model := hnone
    obtain ⟨after, hafter⟩ := Edit.exists_apply_eq_ok_iff.2 hfit
    cases hafter.symm.trans happly

theorem bare_perform_relate (model : Model) (owner other : String) :
    ((Edit.relate owner other).perform model).1.bare = model.bare := by
  obtain ⟨-, -, hafter⟩ | ⟨-, hafter⟩ := cases_of_perform_relate model owner other
  · rw [hafter, bare_modify other fun entity => bare_relateTo entity owner,
      bare_modify owner fun entity => bare_own entity other]
  · rw [hafter]

theorem relates_perform_relate_iff :
    ((Edit.relate owner other).perform model).1.Relates a b ↔
      model.Relates a b ∨ model.Grants [(owner, other)] a b ∨ model.Grants [(owner, other)] b a := by
  obtain ⟨howner, hother, hafter⟩ | ⟨hnone, hafter⟩ := cases_of_perform_relate model owner other
  · rw [hafter, relates_modify_relateTo_iff, relates_modify_own_iff,
      exists_get?_iff_of_bare_eq (bare_modify owner fun entity => bare_own entity other)]
    simp only [Grants, List.mem_singleton, Prod.mk.injEq]
    constructor
    · rintro ((hrelates | ⟨-, rfl, rfl⟩) | ⟨-, rfl, rfl⟩)
      · exact .inl hrelates
      · exact .inr (.inl ⟨⟨rfl, rfl⟩, howner, hother⟩)
      · exact .inr (.inr ⟨⟨rfl, rfl⟩, howner, hother⟩)
    · rintro (hrelates | ⟨⟨rfl, rfl⟩, -⟩ | ⟨⟨rfl, rfl⟩, -⟩)
      · exact .inl (.inl hrelates)
      · exact .inl (.inr ⟨howner, rfl, rfl⟩)
      · exact .inr ⟨hother, rfl, rfl⟩
  · rw [hafter]
    simp [not_grants_of_eq_none hnone]

theorem owns_perform_relate_iff :
    ((Edit.relate owner other).perform model).1.Owns a b ↔
      model.Owns a b ∨ model.Grants [(owner, other)] a b := by
  obtain ⟨howner, hother, hafter⟩ | ⟨hnone, hafter⟩ := cases_of_perform_relate model owner other
  · rw [hafter, owns_modify_relateTo_iff, owns_modify_own_iff]
    simp only [Grants, List.mem_singleton, Prod.mk.injEq]
    constructor
    · rintro (howns | ⟨-, rfl, rfl⟩)
      · exact .inl howns
      · exact .inr ⟨⟨rfl, rfl⟩, howner, hother⟩
    · rintro (howns | ⟨⟨rfl, rfl⟩, -⟩)
      · exact .inl howns
      · exact .inr ⟨howner, rfl, rfl⟩
  · rw [hafter]
    simp [not_grants_of_eq_none hnone]

theorem relateAll_cons (model : Model) (pair : String × String) (pairs : List (String × String)) :
    model.relateAll (pair :: pairs) =
      ((Edit.relate pair.1 pair.2).perform model).1.relateAll pairs := rfl

theorem bare_relateAll (model : Model) (pairs : List (String × String)) :
    (model.relateAll pairs).bare = model.bare := by
  induction pairs generalizing model with
  | nil => rfl
  | cons pair pairs ih => rw [relateAll_cons, ih, bare_perform_relate]

theorem relates_relateAll_iff :
    (model.relateAll pairs).Relates a b ↔
      model.Relates a b ∨ model.Grants pairs a b ∨ model.Grants pairs b a := by
  induction pairs generalizing model with
  | nil => simp [relateAll, performAll, Grants]
  | cons pair pairs ih =>
      have hbare := bare_perform_relate model pair.1 pair.2
      rw [relateAll_cons, ih, relates_perform_relate_iff, grants_iff_of_bare_eq hbare,
        grants_iff_of_bare_eq hbare, grants_cons_iff pair pairs, grants_cons_iff pair pairs]
      tauto

theorem owns_relateAll_iff :
    (model.relateAll pairs).Owns a b ↔ model.Owns a b ∨ model.Grants pairs a b := by
  induction pairs generalizing model with
  | nil => simp [relateAll, performAll, Grants]
  | cons pair pairs ih =>
      have hbare := bare_perform_relate model pair.1 pair.2
      rw [relateAll_cons, ih, owns_perform_relate_iff, grants_iff_of_bare_eq hbare,
        grants_cons_iff pair pairs, or_assoc]

theorem relateAll_eq_of_grants_iff
    (h : ∀ a b, model.Grants others a b ↔ model.Grants pairs a b) :
    model.relateAll others = model.relateAll pairs := by
  apply eq_of_bare_eq
  · rw [bare_relateAll, bare_relateAll]
  · intro a b
    rw [relates_relateAll_iff, relates_relateAll_iff, h, h]
  · intro a b
    rw [owns_relateAll_iff, owns_relateAll_iff, h]

theorem relateAll_reflect (hkeyed : model.Keyed) (pairs : List (String × String)) :
    model.reflect.relateAll pairs = (model.relateAll pairs).reflect := by
  have hbare := bare_relateAll model pairs
  apply eq_of_bare_eq
  · rw [bare_relateAll, bare_reflect, bare_reflect, hbare]
  · intro a b
    rw [relates_relateAll_iff, relates_reflect_iff hkeyed,
      relates_reflect_iff (hkeyed.of_bare_eq hbare), grants_iff_of_bare_eq (bare_reflect model),
      grants_iff_of_bare_eq (bare_reflect model), exists_get?_iff_of_bare_eq hbare,
      relates_relateAll_iff, relates_relateAll_iff, owns_relateAll_iff, owns_relateAll_iff]
    have hpresent : model.Grants pairs b a → ∃ entity, model.get? a = some entity :=
      fun h => h.2.2
    have hpresent' : model.Grants pairs a b → ∃ entity, model.get? a = some entity :=
      fun h => h.2.1
    tauto
  · intro a b
    rw [owns_relateAll_iff, owns_reflect_iff, owns_reflect_iff, owns_relateAll_iff,
      grants_iff_of_bare_eq (bare_reflect model)]

theorem exists_ofModel_relateAll (hkeyed : model.Keyed) (pairs : List (String × String))
    (h : ∃ relations, Relation.ofModel model = .ok relations) :
    ∃ relations, Relation.ofModel (model.relateAll pairs) = .ok relations := by
  rw [Relation.exists_ofModel_eq_ok_iff_of_keyed (hkeyed.of_bare_eq (bare_relateAll model pairs))]
  obtain ⟨hreturned, howned⟩ := (Relation.exists_ofModel_eq_ok_iff_of_keyed hkeyed).1 h
  constructor
  · intro a b
    rw [relates_relateAll_iff, relates_relateAll_iff]
    exact Or.imp (hreturned a b) Or.symm
  · intro a b
    rw [owns_relateAll_iff, relates_relateAll_iff]
    exact Or.imp (howned a b) Or.inl

/-- What comes of relating pairs. Of those that are in the model with both names, each is a relation of
both sides and owned by its first, and nothing else changes: it neither matters in which order they are
asked for and how often, nor whether relations are reflected before. Relations that resolution accepts
stay so. -/
structure RelatesAll (model : Model) (pairs : List (String × String)) : Prop where
  bare : (model.relateAll pairs).bare = model.bare
  relates_iff : ∀ a b, (model.relateAll pairs).Relates a b ↔
    model.Relates a b ∨ model.Grants pairs a b ∨ model.Grants pairs b a
  owns_iff : ∀ a b, (model.relateAll pairs).Owns a b ↔ model.Owns a b ∨ model.Grants pairs a b
  determined : ∀ others, (∀ a b, model.Grants others a b ↔ model.Grants pairs a b) →
    model.relateAll others = model.relateAll pairs
  unordered : ∀ others, (∀ pair, pair ∈ others ↔ pair ∈ pairs) →
    model.relateAll others = model.relateAll pairs
  reflected : model.reflect.relateAll pairs = (model.relateAll pairs).reflect
  resolved : (∃ relations, Relation.ofModel model = .ok relations) →
    ∃ relations, Relation.ofModel (model.relateAll pairs) = .ok relations

theorem relatesAll (hkeyed : model.Keyed) (pairs : List (String × String)) :
    model.RelatesAll pairs where
  bare := bare_relateAll model pairs
  relates_iff _ _ := relates_relateAll_iff
  owns_iff _ _ := owns_relateAll_iff
  determined _ := relateAll_eq_of_grants_iff
  unordered others hmem := relateAll_eq_of_grants_iff fun a b => by rw [Grants, Grants, hmem]
  reflected := relateAll_reflect hkeyed pairs
  resolved := exists_ofModel_relateAll hkeyed pairs

/-- A line and an order without relations, and a node that is related to itself. -/
def ordering : Model where
  entities := ⟨[
    ("line", { name := "line" }),
    ("node", { name := "node", related := .ofList ["node"] }),
    ("order", { name := "order" })], by decide +kernel⟩

/-- One pair twice and the other way round as well, the node with itself, and one of a customer who is not
there. -/
def orderingPairs : List (String × String) :=
  [("line", "order"), ("node", "node"), ("order", "line"), ("line", "customer"), ("line", "order")]

theorem relatesAll_ordering : ordering.Keyed ∧ ordering.RelatesAll orderingPairs := by
  have hkeyed : ordering.Keyed := keyed_iff_entries.2 (by decide +kernel)
  exact ⟨hkeyed, relatesAll hkeyed orderingPairs⟩

end Model

end EntitySchema
