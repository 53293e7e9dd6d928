import EntitySchema.Mapping.Finding
import EntitySchema.Model.Basic

/-!
# The model of a mapping

The model holds everything that was found, in the order of the findings, with every relation visible
from both sides.
-/

namespace EntitySchema

namespace Mapping

/-- The entity with an annotation, if there is one. -/
def annotate (annotation? : Option String) (entity : Entity) : Entity :=
  { entity with annotation := annotation?.getD entity.annotation }

/-- The entity with a column, which may be a source of its external id. -/
def addColumn (column : Column) (isSource : Bool) (entity : Entity) : Entity :=
  if isSource then (entity.merge column).addSource column.name else entity.merge column

/-- The model after a finding. -/
def record (model : Model) : Finding → Model
  | .entity name annotation? => model.update name (annotate annotation?)
  | .nesting parent child hasValueColumn =>
    (model.update parent (·.own child)).update child fun entity =>
      if hasValueColumn then entity.withValueColumn else entity
  | .column entity column isSource => model.update entity (addColumn column isSource)

def modelOf (findings : List Finding) : Model := (findings.foldl record ∅).reflect

def toModel (delimiter : String) (mapping : Json) : Except Fault Model :=
  match findings delimiter mapping with
  | .ok findings => .ok (modelOf findings)
  | .error fault => .error fault

@[simp] theorem modelOf_nil : modelOf [] = (∅ : Model).reflect := rfl

end Mapping

end EntitySchema
