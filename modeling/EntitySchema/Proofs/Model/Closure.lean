import EntitySchema.Proofs.Model.Reflection
import EntitySchema.Proofs.Schema.Faults

/-!
# Reflection as closure

A model is told by its entities without their relations, and by who relates to whom and who owns what.
Of these, reflection changes who relates to whom, and does all there is to do at once: a second
reflection changes nothing, and what is left for resolution to refuse are names of no entity.
-/

namespace EntitySchema

open Identifier (Namer)

/-- The entity without its relations. -/
def Entity.bare (entity : Entity) : Entity := { entity with related := ∅, owned := ∅ }

namespace Model

variable {model after : Model}

/-- The model without relations. -/
def bare (model : Model) : Model := ⟨model.entities.mapValues fun _ entity => entity.bare⟩

theorem get?_bare (model : Model) (key : String) :
    model.bare.get? key = (model.get? key).map Entity.bare :=
  model.entities.get?_mapValues _ key

theorem relates_iff_of_get? {a b : String} {entity : Entity} (h : model.get? a = some entity) :
    model.Relates a b ↔ b ∈ entity.related := by
  simp [Relates, h]

theorem owns_iff_of_get? {a b : String} {entity : Entity} (h : model.get? a = some entity) :
    model.Owns a b ↔ b ∈ entity.owned := by
  simp [Owns, h]

theorem exists_get?_iff_of_bare_eq (h : after.bare = model.bare) {key : String} :
    (∃ entity, after.get? key = some entity) ↔ ∃ entity, model.get? key = some entity := by
  have hkey : (after.get? key).map Entity.bare = (model.get? key).map Entity.bare := by
    rw [← get?_bare, ← get?_bare, h]
  rw [← Option.isSome_iff_exists, ← Option.isSome_iff_exists, ← Option.isSome_map, hkey,
    Option.isSome_map]

theorem Keyed.of_bare_eq (hkeyed : model.Keyed) (h : after.bare = model.bare) : after.Keyed := by
  intro key entity hget
  have hkey : (model.get? key).map Entity.bare = some entity.bare := by
    rw [← get?_bare, ← h, get?_bare, hget, Option.map_some]
  obtain ⟨found, hfound, heq⟩ := Option.map_eq_some_iff.1 hkey
  have hname : found.bare.name = entity.bare.name := congrArg Entity.name heq
  exact hname.symm.trans (hkeyed key found hfound)

/-- Two models are equal if they are so without their relations and have the same relations. -/
theorem eq_of_bare_eq (hbare : after.bare = model.bare)
    (hrelates : ∀ a b, after.Relates a b ↔ model.Relates a b)
    (howns : ∀ a b, after.Owns a b ↔ model.Owns a b) : after = model := by
  ext1 key
  have hkey : (after.get? key).map Entity.bare = (model.get? key).map Entity.bare := by
    rw [← get?_bare, ← get?_bare, hbare]
  cases hget : model.get? key with
  | none => rwa [hget, Option.map_none, Option.map_eq_none_iff] at hkey
  | some entity =>
      rw [hget, Option.map_some] at hkey
      obtain ⟨found, hfound, heq⟩ := Option.map_eq_some_iff.1 hkey
      have hrelated : found.related = entity.related := by
        ext b
        rw [← relates_iff_of_get? hfound, ← relates_iff_of_get? hget, hrelates]
      have howned : found.owned = entity.owned := by
        ext b
        rw [← owns_iff_of_get? hfound, ← owns_iff_of_get? hget, howns]
      obtain ⟨name, columns, sources, hasValueColumn, annotation, related, owned⟩ := found
      cases entity
      cases hrelated
      cases howned
      cases heq
      exact hfound

theorem bare_reflect (model : Model) : model.reflect.bare = model.bare := by
  ext1 key
  rw [get?_bare, get?_bare, get?_reflect, Option.map_map]
  rfl

theorem reflect_reflect (hkeyed : model.Keyed) : model.reflect.reflect = model.reflect := by
  apply eq_of_bare_eq (bare_reflect _) _ fun a b => owns_reflect_iff
  intro a b
  rw [relates_reflect_iff hkeyed.reflect, owns_reflect_iff, owns_reflect_iff,
    exists_get?_reflect_iff, relates_reflect_iff hkeyed, relates_reflect_iff hkeyed]
  have hpresent : model.Relates a b ∨ model.Owns a b → ∃ entity, model.get? a = some entity := by
    rintro (⟨entity, hget, -⟩ | ⟨entity, hget, -⟩)
    · exact ⟨entity, hget⟩
    · exact ⟨entity, hget⟩
  tauto

/-- A name of an entity is all that the relations of a reflected model can lack. -/
theorem exists_ofModel_reflect_iff (hkeyed : model.Keyed) :
    (∃ relations, Relation.ofModel model.reflect = .ok relations) ↔
      ∀ a b, model.Relates a b ∨ model.Owns a b → ∃ entity, model.get? b = some entity := by
  rw [Relation.exists_ofModel_eq_ok_iff_of_keyed hkeyed.reflect]
  constructor
  · rintro ⟨hreturned, -⟩ a b hnames
    obtain ⟨entity, hget, -⟩ := hreturned a b ((relates_reflect_iff hkeyed).2 (.inl hnames))
    exact exists_get?_reflect_iff.1 ⟨entity, hget⟩
  · intro hpresent
    constructor
    · intro a b hrelates
      rw [relates_reflect_iff hkeyed] at hrelates ⊢
      rcases hrelates with hnames | ⟨-, hnamed⟩
      · exact .inr ⟨hpresent a b hnames, hnames⟩
      · exact .inl hnamed
    · intro a b howns
      exact (relates_reflect_iff hkeyed).2 (.inl (.inr (owns_reflect_iff.1 howns)))

end Model

namespace Association

variable {namer : Namer} {model : Model}

/-- Resolution calls a model inconsistent exactly if the model has a fault in its relations. -/
theorem ofModel_eq_inconsistent_iff {cause : Inconsistency} :
    ofModel namer model = .error (.inconsistent cause) ↔ Relation.ofModel model = .error cause := by
  constructor
  · intro h
    rw [ofModel] at h
    split at h
    next hrelations =>
      cases h
      exact hrelations
    · split at h
      · cases h
      · cases h
  · intro h
    simp only [ofModel, h]

theorem exists_inconsistent_iff :
    (∃ cause, ofModel namer model = .error (.inconsistent cause)) ↔
      ¬ ∃ relations, Relation.ofModel model = .ok relations := by
  simp only [ofModel_eq_inconsistent_iff]
  cases Relation.ofModel model with
  | error cause => simp
  | ok relations => simp

end Association

namespace Model

variable {model : Model}

/-- Reflection changes related names only. An entity is then related to what it named and to what named
it, and that is all: no second reflection changes it, and resolution finds no fault but names that no
entity has. -/
structure Reflects (model : Model) : Prop where
  bare : model.reflect.bare = model.bare
  owns_iff : ∀ a b, model.reflect.Owns a b ↔ model.Owns a b
  relates_iff : ∀ a b, model.reflect.Relates a b ↔
    (model.Relates a b ∨ model.Owns a b) ∨
      (∃ entity, model.get? a = some entity) ∧ (model.Relates b a ∨ model.Owns b a)
  idempotent : model.reflect.reflect = model.reflect
  inconsistent_iff : ∀ namer : Namer,
    (∃ cause, Association.ofModel namer model.reflect = .error (.inconsistent cause)) ↔
      ∃ a b, (model.Relates a b ∨ model.Owns a b) ∧ model.get? b = none

theorem reflects (hkeyed : model.Keyed) : model.Reflects where
  bare := bare_reflect model
  owns_iff _ _ := owns_reflect_iff
  relates_iff _ _ := relates_reflect_iff hkeyed
  idempotent := reflect_reflect hkeyed
  inconsistent_iff namer := by
    rw [Association.exists_inconsistent_iff, exists_ofModel_reflect_iff hkeyed]
    simp only [not_forall, ← Option.isSome_iff_exists, Option.not_isSome_iff_eq_none, exists_prop]

/-- A line that only says that it owns its order, a node that names itself, and an order that names a
customer who is not there. -/
def tangled : Model where
  entities := ⟨[
    ("line", { name := "line", owned := .ofList ["order"] }),
    ("node", { name := "node", related := .ofList ["node"], owned := .ofList ["line"] }),
    ("order", { name := "order", related := .ofList ["customer"] })], by decide +kernel⟩

theorem reflects_tangled : tangled.Keyed ∧ tangled.Reflects := by
  have hkeyed : tangled.Keyed := keyed_iff_entries.2 (by decide +kernel)
  exact ⟨hkeyed, reflects hkeyed⟩

end Model

end EntitySchema
