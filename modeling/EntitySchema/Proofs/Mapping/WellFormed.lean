import EntitySchema.Proofs.Mapping.Recording
import EntitySchema.Proofs.Schema.Faults

/-!
# Models of mappings

A mapping that is accepted gives a well-formed model, so that the checks that the recording of
findings leaves out would all have passed, and the model can be told from the list of its entities.
-/

namespace EntitySchema

namespace Mapping

theorem toModel_eq_ok_iff {delimiter : String} {mapping : Json} {model : Model} :
    toModel delimiter mapping = .ok model ↔
      ∃ found, findings delimiter mapping = .ok found ∧ model = modelOf found := by
  unfold toModel
  cases findings delimiter mapping with
  | error fault => simp
  | ok found => simp [eq_comm]

/-- The model of a mapping is well-formed. It is the model of its entities in any order, and if it
has no schema, the reason is a tag or a collision. -/
theorem wellFormed_of_toModel {delimiter : String} {mapping : Json} {model : Model}
    (h : toModel delimiter mapping = .ok model) :
    model.WellFormed ∧
      (∀ entities : List Entity, entities.Perm model.toList → Model.ofList entities = .ok model) ∧
      ∀ (config : Config) (cache : RowTypeCache) (error : Error),
        (Schema.ofModel config model cache).1 = .error error → error.IsTagOrCollision := by
  obtain ⟨found, hfound, rfl⟩ := toModel_eq_ok_iff.1 h
  have hmodel := wellFormed_modelOf (isScalar_of_findings hfound)
  refine ⟨hmodel, ?_, ?_⟩
  · intro entities hperm
    exact hmodel.ofList hperm
  · intro config cache error herror
    exact Schema.isTagOrCollision_of_ofModel hmodel herror

/-- What is collected about a node, and the nodes below it. -/
def node (info : List (String × Json)) (below : List (String × Json)) : Json :=
  .object ((infoKey, .object info) :: below)

/-- A person stands in its own address. The street is a column of the person, and the town is one of
a city, which is no entity but for that. -/
def household : Json := .object [
  ("person", node [("annotation", .string "who")] [
    ("age", node [("type", .string "int"), ("external_id", .bool true)] []),
    ("address", node [("type", .string "Object"), ("value_column", .bool true)] [
      ("street", node [("type", .string "text"), ("mapping", .string "person -> street"),
        ("external_id", .bool true)] []),
      ("person", node [("type", .string "object")] [
        ("age", node [("type", .string "string"), ("external_id", .bool true)] []),
        ("town", node [("type", .string "place"), ("mapping", .string "city -> name")] [])])])])]

theorem wellFormed_household : ∃ model, toModel " -> " household = .ok model ∧
    model.WellFormed ∧
      (∀ entities : List Entity, entities.Perm model.toList → Model.ofList entities = .ok model) ∧
      ∀ (config : Config) (cache : RowTypeCache) (error : Error),
        (Schema.ofModel config model cache).1 = .error error → error.IsTagOrCollision := by
  have hok : ∃ model, toModel " -> " household = .ok model :=
    exists_eq_ok_of_isOk (by decide +kernel)
  obtain ⟨model, h⟩ := hok
  exact ⟨model, h, wellFormed_of_toModel h⟩

end Mapping

end EntitySchema
