import EntitySchema.Schema.Association
import EntitySchema.Proofs.Model.Keyed

/-!
# Declared relations

The relations of a model in the order in which they are met. In a model under its own names this is
the lexicographic order of the two names, and every relation is met from both sides, so that the
first relation of a pair is the one met from the smaller name.
-/

namespace EntitySchema

open Identifier (Namer Scope)

namespace Model

/-- The entity under `a` declares a relation to `b`. -/
def Relates (model : Model) (a b : String) : Prop :=
  ∃ entity, model.get? a = some entity ∧ b ∈ entity.related

/-- The entity under `a` declares that it owns its relation to `b`. -/
def Owns (model : Model) (a b : String) : Prop :=
  ∃ entity, model.get? a = some entity ∧ b ∈ entity.owned

instance (model : Model) (a b : String) : Decidable (model.Relates a b) :=
  decidable_of_iff ((model.get? a).any fun entity => decide (b ∈ entity.related)) (by
    simp [Relates, Option.any_eq_true])

instance (model : Model) (a b : String) : Decidable (model.Owns a b) :=
  decidable_of_iff ((model.get? a).any fun entity => decide (b ∈ entity.owned)) (by
    simp [Owns, Option.any_eq_true])

theorem forall_relates_iff {model : Model} {P : String → String → Prop} :
    (∀ a b, model.Relates a b → P a b) ↔
      ∀ e ∈ model.entities.entries, ∀ b ∈ e.2.related.toList, P e.1 b := by
  constructor
  · intro h e he b hb
    exact h e.1 b ⟨e.2, NameMap.get?_eq_some.2 he, hb⟩
  · rintro h a b ⟨entity, hget, hb⟩
    exact h (a, entity) (NameMap.get?_eq_some.1 hget) b hb

theorem forall_owns_iff {model : Model} {P : String → String → Prop} :
    (∀ a b, model.Owns a b → P a b) ↔
      ∀ e ∈ model.entities.entries, ∀ b ∈ e.2.owned.toList, P e.1 b := by
  constructor
  · intro h e he b hb
    exact h e.1 b ⟨e.2, NameMap.get?_eq_some.2 he, hb⟩
  · rintro h a b ⟨entity, hget, hb⟩
    exact h (a, entity) (NameMap.get?_eq_some.1 hget) b hb

end Model

namespace Relation

variable {model : Model} {entity : Entity} {relations : List Relation}

/-- The name of the entity, and the key of what it is related to. -/
def names (relation : Relation) : String × String := (relation.entity.name, relation.key)

/-- The target is in the model and relates back. -/
def Returned (model : Model) (relation : Relation) : Prop :=
  model.get? relation.key = some relation.target ∧
    relation.target.isRelatedTo relation.entity.name = true

/-- The order in which relations are met. -/
abbrev Before : String × String → String × String → Prop := Prod.Lex (· < ·) (· < ·)

theorem before_irrefl (p : String × String) : ¬ Before p p := by
  rw [Before, Prod.lex_def]
  rintro (h | ⟨-, h⟩)
  · exact String.lt_irrefl _ h
  · exact String.lt_irrefl _ h

theorem before_asymm {p q : String × String} (h : Before p q) : ¬ Before q p := by
  rw [Before, Prod.lex_def] at *
  rintro (h' | ⟨he', h'⟩)
  · rcases h with h | ⟨he, -⟩
    · exact String.lt_asymm h h'
    · exact String.lt_irrefl _ (he ▸ h')
  · rcases h with h | ⟨-, h⟩
    · exact String.lt_irrefl _ (he' ▸ h)
    · exact String.lt_asymm h h'

theorem toEach_eq_ok_iff {keys : List String} :
    toEach model entity keys = .ok relations ↔
      relations.map (fun r => (r.entity, r.key)) = keys.map (Prod.mk entity) ∧
        ∀ r ∈ relations, r.Returned model := by
  induction keys generalizing relations with
  | nil => cases relations <;> simp [toEach]
  | cons key keys ih =>
      rw [toEach]
      constructor
      · intro h
        split at h
        · cases h
        next target htarget =>
          split at h
          · cases h
          next hback =>
            split at h
            next rest hrest =>
              obtain ⟨hmap, hreturned⟩ := ih.1 hrest
              cases h
              refine ⟨by rw [List.map_cons, List.map_cons, hmap], ?_⟩
              rw [List.forall_mem_cons]
              exact ⟨⟨htarget, by simpa using hback⟩, hreturned⟩
            · cases h
      · rintro ⟨hmap, hreturned⟩
        cases relations with
        | nil => simp at hmap
        | cons r rest =>
            obtain ⟨from', key', target⟩ := r
            simp only [List.map_cons, List.cons.injEq, Prod.mk.injEq] at hmap
            obtain ⟨⟨rfl, rfl⟩, hmap⟩ := hmap
            obtain ⟨⟨htarget, hback⟩, hreturned⟩ := List.forall_mem_cons.1 hreturned
            simp only [htarget, hback, ih.2 ⟨hmap, hreturned⟩, Bool.not_true, Bool.false_eq_true,
              ↓reduceIte]

theorem ofEntity_eq_ok_iff :
    ofEntity model entity = .ok relations ↔
      relations.map (fun r => (r.entity, r.key)) = entity.related.toList.map (Prod.mk entity) ∧
        (∀ r ∈ relations, r.Returned model) ∧ ∀ other ∈ entity.owned, other ∈ entity.related := by
  rw [← and_assoc, ← toEach_eq_ok_iff, ofEntity]
  have howned : entity.owned.toList.find? (!entity.isRelatedTo ·) = none ↔
      ∀ other ∈ entity.owned, other ∈ entity.related := by
    simp [List.find?_eq_none, Entity.isRelatedTo, NameSet.mem_toList]
  rw [← howned]
  cases toEach model entity entity.related.toList with
  | error cause => simp
  | ok found =>
      cases entity.owned.toList.find? (!entity.isRelatedTo ·) with
      | some other => simp
      | none => simp

theorem ofEntities_eq_ok_iff {entities : List Entity} :
    ofEntities model entities = .ok relations ↔
      relations.map (fun r => (r.entity, r.key)) =
          entities.flatMap (fun e => e.related.toList.map (Prod.mk e)) ∧
        (∀ r ∈ relations, r.Returned model) ∧
        ∀ e ∈ entities, ∀ other ∈ e.owned, other ∈ e.related := by
  induction entities generalizing relations with
  | nil => cases relations <;> simp [ofEntities]
  | cons entity entities ih =>
      have hstep : ofEntities model (entity :: entities) = .ok relations ↔
          ∃ here rest, ofEntity model entity = .ok here ∧ ofEntities model entities = .ok rest ∧
            relations = here ++ rest := by
        rw [ofEntities]
        cases ofEntity model entity with
        | error cause => simp
        | ok here =>
            cases ofEntities model entities with
            | error cause => simp
            | ok rest => simp [eq_comm]
      rw [hstep, List.flatMap_cons, List.forall_mem_cons]
      constructor
      · rintro ⟨here, rest, hhere, hrest, rfl⟩
        obtain ⟨hmap, hreturned, howned⟩ := ofEntity_eq_ok_iff.1 hhere
        obtain ⟨hmaps, hall, howneds⟩ := ih.1 hrest
        refine ⟨by rw [List.map_append, hmap, hmaps], ?_, howned, howneds⟩
        intro r hr
        exact (List.mem_append.1 hr).elim (hreturned r) (hall r)
      · rintro ⟨hmap, hreturned, howned, howneds⟩
        obtain ⟨here, rest, rfl, hhere, hrest⟩ := List.map_eq_append_iff.1 hmap
        refine ⟨here, rest, ofEntity_eq_ok_iff.2 ⟨hhere, ?_, howned⟩,
          ih.2 ⟨hrest, ?_, howneds⟩, rfl⟩
        · exact fun r hr => hreturned r (List.mem_append_left rest hr)
        · exact fun r hr => hreturned r (List.mem_append_right here hr)

theorem ofModel_eq_ok_iff :
    ofModel model = .ok relations ↔
      relations.map (fun r => (r.entity, r.key)) =
          model.toList.flatMap (fun e => e.related.toList.map (Prod.mk e)) ∧
        (∀ r ∈ relations, r.Returned model) ∧
        ∀ e ∈ model.toList, ∀ other ∈ e.owned, other ∈ e.related :=
  ofEntities_eq_ok_iff

theorem mem_of_ofModel (h : ofModel model = .ok relations) {r : Relation} (hr : r ∈ relations) :
    r.entity ∈ model.toList ∧ r.key ∈ r.entity.related := by
  have hmem : (r.entity, r.key) ∈ relations.map (fun r => (r.entity, r.key)) :=
    List.mem_map_of_mem hr
  rw [(ofModel_eq_ok_iff.1 h).1, List.mem_flatMap] at hmem
  obtain ⟨e, he, hpair⟩ := hmem
  obtain ⟨key, hkey, heq⟩ := List.mem_map.1 hpair
  cases heq
  exact ⟨he, hkey⟩

theorem exists_of_related (h : ofModel model = .ok relations) (he : entity ∈ model.toList)
    {key : String} (hkey : key ∈ entity.related) :
    ∃ r ∈ relations, r.entity = entity ∧ r.key = key := by
  have hmem : (entity, key) ∈ model.toList.flatMap (fun e => e.related.toList.map (Prod.mk e)) :=
    List.mem_flatMap.2 ⟨entity, he, List.mem_map_of_mem hkey⟩
  rw [← (ofModel_eq_ok_iff.1 h).1] at hmem
  obtain ⟨r, hr, heq⟩ := List.mem_map.1 hmem
  cases heq
  exact ⟨r, hr, rfl, rfl⟩

section Keyed

variable (hkeyed : model.Keyed) (h : ofModel model = .ok relations)

include hkeyed h

theorem target_name {r : Relation} (hr : r ∈ relations) : r.target.name = r.key :=
  hkeyed r.key r.target ((ofModel_eq_ok_iff.1 h).2.1 r hr).1

theorem get?_entity_name {r : Relation} (hr : r ∈ relations) :
    model.get? r.entity.name = some r.entity :=
  hkeyed.mem_toList_iff.1 (mem_of_ofModel h hr).1

theorem get?_target_name {r : Relation} (hr : r ∈ relations) :
    model.get? r.target.name = some r.target := by
  rw [target_name hkeyed h hr]
  exact ((ofModel_eq_ok_iff.1 h).2.1 r hr).1

theorem pairwise_before : (relations.map names).Pairwise Before := by
  have hnames : relations.map names =
      model.toList.flatMap fun e => e.related.toList.map (Prod.mk e.name) := by
    have hmap := congrArg (List.map fun p : Entity × String => (p.1.name, p.2))
      (ofModel_eq_ok_iff.1 h).1
    simp only [List.map_map, List.map_flatMap, Function.comp_def] at hmap
    exact hmap
  rw [hnames, List.pairwise_flatMap]
  constructor
  · intro e _
    rw [List.pairwise_map]
    exact e.related.sorted.imp fun hlt => Prod.Lex.right _ hlt
  · refine hkeyed.pairwise_name_lt.imp fun {e f} hlt => ?_
    intro p hp q hq
    obtain ⟨a, -, rfl⟩ := List.mem_map.1 hp
    obtain ⟨b, -, rfl⟩ := List.mem_map.1 hq
    exact Prod.Lex.left _ _ hlt

theorem exists_mirrored {r : Relation} (hr : r ∈ relations) :
    ∃ t ∈ relations, t.names = (r.key, r.entity.name) := by
  obtain ⟨hget, hback⟩ := (ofModel_eq_ok_iff.1 h).2.1 r hr
  have htarget : r.target ∈ model.toList := Model.mem_toList_iff.2 ⟨r.key, hget⟩
  have hrelated : r.entity.name ∈ r.target.related := by
    simpa [Entity.isRelatedTo] using hback
  obtain ⟨t, ht, hentity, hkey⟩ := exists_of_related h htarget hrelated
  exact ⟨t, ht, by rw [names, hentity, hkey, target_name hkeyed h hr]⟩

end Keyed

theorem orderedPair_eq_swap {a b c d : String} (h : orderedPair a b = orderedPair c d) :
    a = c ∧ b = d ∨ a = d ∧ b = c := by
  unfold orderedPair at h
  split at h <;> split at h <;> obtain ⟨rfl, rfl⟩ := Prod.mk.inj h <;> simp

theorem orderedPair_of_not_lt {a b : String} (h : ¬ b < a) : orderedPair a b = (a, b) := if_neg h

theorem pair_eq_of_names {r t : Relation} (h : t.names = (r.key, r.entity.name)) :
    t.pair = r.pair := by
  rw [pair, (Prod.mk.inj h).1, (Prod.mk.inj h).2]
  exact orderedPair_comm _ _

/-- Of two relations of one pair, the later one is met from the larger name. -/
theorem key_lt_of_pair_eq {r t : Relation} (hbefore : Before t.names r.names)
    (hpair : t.pair = r.pair) : r.key < r.entity.name := by
  rw [Before, Prod.lex_def] at hbefore
  simp only [names] at hbefore
  rcases orderedPair_eq_swap hpair with ⟨hname, hkey⟩ | ⟨hname, hkey⟩
  · rw [hname, hkey] at hbefore
    rcases hbefore with hlt | ⟨-, hlt⟩
    · exact absurd hlt (String.lt_irrefl _)
    · exact absurd hlt (String.lt_irrefl _)
  · rw [hname, hkey] at hbefore
    rcases hbefore with hlt | ⟨heq, hlt⟩
    · exact hlt
    · exact absurd (heq ▸ hlt) (String.lt_irrefl _)

/-- Of the relations of a pair, the one from the smaller name is met first. The induction carries
along what was met already, whose pairs are `seen`. -/
theorem firstPerPair_append_eq_filter {seen : List (String × String)} (met : List Relation)
    (hsorted : ((met ++ relations).map names).Pairwise Before)
    (hmirrored : ∀ r ∈ met ++ relations, ∃ t ∈ met ++ relations, t.names = (r.key, r.entity.name))
    (hseen : ∀ p, p ∈ seen ↔ ∃ r ∈ met, r.pair = p) :
    firstPerPair seen relations = relations.filter fun r => !(r.key < r.entity.name) := by
  induction relations generalizing seen met with
  | nil => rfl
  | cons r rest ih =>
      have hassoc : met ++ r :: rest = (met ++ [r]) ++ rest := List.append_cons met r rest
      have hparts := hsorted
      rw [List.map_append, List.map_cons, List.pairwise_append] at hparts
      obtain ⟨-, hfrom, hacross⟩ := hparts
      -- What was met of the same pair can only be the relation from the smaller name.
      have hmem : r.pair ∈ seen ↔ r.key < r.entity.name := by
        rw [hseen]
        constructor
        · rintro ⟨t, ht, hpair⟩
          have hbefore : Before t.names r.names :=
            hacross _ (List.mem_map_of_mem ht) _ List.mem_cons_self
          exact key_lt_of_pair_eq hbefore hpair
        · intro hlt
          obtain ⟨t, ht, hnames⟩ := hmirrored r (by simp)
          have hbefore : Before t.names r.names := hnames ▸ Prod.Lex.left _ _ hlt
          refine ⟨t, ?_, pair_eq_of_names hnames⟩
          rcases List.mem_append.1 ht with ht | ht
          · exact ht
          rcases List.mem_cons.1 ht with rfl | ht
          · exact absurd hbefore (before_irrefl _)
          · have hafter : Before r.names t.names :=
              (List.pairwise_cons.1 hfrom).1 _ (List.mem_map_of_mem ht)
            exact absurd hbefore (before_asymm hafter)
      rw [firstPerPair]
      by_cases hlt : r.key < r.entity.name
      · rw [if_pos (hmem.2 hlt), List.filter_cons_of_neg (by simpa using hlt)]
        refine ih (met ++ [r]) (hassoc ▸ hsorted) (hassoc ▸ hmirrored) fun p => ?_
        rw [hseen]
        constructor
        · rintro ⟨t, ht, hpair⟩
          exact ⟨t, List.mem_append_left _ ht, hpair⟩
        · rintro ⟨t, ht, hpair⟩
          rcases List.mem_append.1 ht with ht | ht
          · exact ⟨t, ht, hpair⟩
          · rw [List.mem_singleton.1 ht] at hpair
            exact hpair ▸ (hseen _).1 (hmem.2 hlt)
      · rw [if_neg (fun h => hlt (hmem.1 h)), List.filter_cons_of_pos (by simpa using hlt)]
        congr 1
        refine ih (met ++ [r]) (hassoc ▸ hsorted) (hassoc ▸ hmirrored) fun p => ?_
        rw [List.mem_cons, hseen]
        constructor
        · rintro (rfl | ⟨t, ht, hpair⟩)
          · exact ⟨r, by simp, rfl⟩
          · exact ⟨t, List.mem_append_left _ ht, hpair⟩
        · rintro ⟨t, ht, hpair⟩
          rcases List.mem_append.1 ht with ht | ht
          · exact .inr ⟨t, ht, hpair⟩
          · rw [List.mem_singleton.1 ht] at hpair
            exact .inl hpair.symm

theorem firstPerPair_eq_filter (hkeyed : model.Keyed) (h : ofModel model = .ok relations) :
    firstPerPair [] relations = relations.filter fun r => !(r.key < r.entity.name) :=
  firstPerPair_append_eq_filter [] (pairwise_before hkeyed h)
    (fun _ hr => exists_mirrored hkeyed h hr) (by simp)

end Relation

end EntitySchema
