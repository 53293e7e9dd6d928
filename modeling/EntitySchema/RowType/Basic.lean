import EntitySchema.Identifier.Namer
import EntitySchema.Model.Entity

/-!
# Row types

The declared columns of an entity with their identifiers and column types.
-/

namespace EntitySchema

/-- A column whose type spells no tag, or the tag of a nested element. -/
structure UnsupportedTag where
  entity : String
  column : String
  tag : String
deriving Repr, DecidableEq

/-- A declared column with its identifier and its column type. -/
structure RowField where
  source : String
  identifier : String
  tag : TypeTag
  sqlType : String
  required : Bool
  annotation : String
deriving Repr, DecidableEq

/-- The fields of the rows of an entity, in declared order. -/
structure RowType where
  entity : String
  fields : List RowField
deriving Repr, DecidableEq

namespace RowType

open Identifier (Namer)

/-- The field of a column, if there is a column type for it. -/
def field? (namer : Namer) (column : Column) : Option RowField :=
  match column.tag? with
  | none => none
  | some tag =>
    tag.sqlType?.map fun sqlType =>
      ⟨column.name, namer.name .column column.name false, tag, sqlType, column.required,
        column.annotation⟩

/-- The fields of columns of an entity, up to the first column that has none. -/
def fieldsOf (namer : Namer) (entity : String) : List Column → Except UnsupportedTag (List RowField)
  | [] => .ok []
  | column :: columns =>
    match field? namer column with
    | none => .error ⟨entity, column.name, column.type⟩
    | some field =>
      match fieldsOf namer entity columns with
      | .ok fields => .ok (field :: fields)
      | .error fault => .error fault

def ofEntity (namer : Namer) (entity : Entity) : Except UnsupportedTag RowType :=
  match fieldsOf namer entity.name entity.columns with
  | .ok fields => .ok ⟨entity.name, fields⟩
  | .error fault => .error fault

@[simp] theorem fieldsOf_nil (namer : Namer) (entity : String) :
    fieldsOf namer entity [] = .ok [] := rfl

end RowType

end EntitySchema
