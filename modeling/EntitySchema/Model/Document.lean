import EntitySchema.Model.Basic
import EntitySchema.Json.Printer

/-!
# Models in files

A model file holds a list of entities in JSON.  Each record of the file is an object with named
fields, of which unknown ones are passed over and known ones must not be repeated, or an array with
the fields in order, of which the last ones may be missing if they have a default.
-/

namespace EntitySchema

namespace Json.Tree

/-- The members of an object whose keys are among `names`; there is a fault if one of them is
repeated, or if any key is not a text. -/
def knownMembers? (names : List String) :
    List (Option String × Tree) → Option (List (String × Tree))
  | [] => some []
  | (none, _) :: _ => none
  | (some key, tree) :: members =>
    match knownMembers? names members with
    | none => none
    | some known =>
      if key ∈ names then
        if (NameMap.lookup? key known).isSome then none else some ((key, tree) :: known)
      else
        some known

/-- The fields of a record: the known members of an object, or the items of an array under the names
in order. -/
def fields? (names : List String) : Tree → Option (List (String × Tree))
  | object members => knownMembers? names members
  | array items => if items.length ≤ names.length then some (names.zip items) else none
  | _ => none

def asText? : Tree → Option String
  | string text? => text?
  | _ => none

def asBool? : Tree → Option Bool
  | bool value => some value
  | _ => none

/-- The decoded items, if all can be decoded. -/
def decodeEach {α : Type} (decode : Tree → Option α) : List Tree → Option (List α)
  | [] => some []
  | item :: items => do return (← decode item) :: (← decodeEach decode items)

/-- The decoded items of an array. -/
def asList? {α : Type} (decode : Tree → Option α) : Tree → Option (List α)
  | array items => decodeEach decode items
  | _ => none

/-- A field that must be there. -/
def field? {α : Type} (decode : Tree → Option α) (fields : List (String × Tree))
    (name : String) : Option α :=
  (NameMap.lookup? name fields).bind decode

/-- A field that has a default. -/
def fieldOr? {α : Type} (default : α) (decode : Tree → Option α) (fields : List (String × Tree))
    (name : String) : Option α :=
  match NameMap.lookup? name fields with
  | none => some default
  | some tree => decode tree

end Json.Tree

open Json Json.Tree

namespace Column

def fieldNames : List String := ["name", "type", "annotation", "required"]

def toJson (c : Column) : Json :=
  .object
    [("name", .string c.name), ("type", .string c.type), ("annotation", .string c.annotation),
     ("required", .bool c.required)]

/-- The column of a record. -/
def ofTree? (tree : Tree) : Option Column := do
  let fields ← tree.fields? fieldNames
  return {
    name := ← field? asText? fields "name"
    type := ← field? asText? fields "type"
    annotation := ← fieldOr? "" asText? fields "annotation"
    required := ← fieldOr? false asBool? fields "required" }

end Column

namespace Entity

def fieldNames : List String :=
  ["name", "columns", "external_id_sources", "has_value_column", "annotation", "related_types",
   "foreign_keys"]

def toJson (e : Entity) : Json :=
  .object
    [("name", .string e.name), ("columns", .array (e.columns.map Column.toJson)),
     ("external_id_sources", .array (e.externalIdSources.map .string)),
     ("has_value_column", .bool e.hasValueColumn), ("annotation", .string e.annotation),
     ("related_types", .array (e.related.toList.map .string)),
     ("foreign_keys", .array (e.owned.toList.map .string))]

/-- The entity of a record. -/
def ofTree? (tree : Tree) : Option Entity := do
  let fields ← tree.fields? fieldNames
  return {
    name := ← field? asText? fields "name"
    columns := ← fieldOr? [] (asList? Column.ofTree?) fields "columns"
    externalIdSources := ← fieldOr? [] (asList? asText?) fields "external_id_sources"
    hasValueColumn := ← fieldOr? false asBool? fields "has_value_column"
    annotation := ← fieldOr? "" asText? fields "annotation"
    related := NameSet.ofList (← fieldOr? [] (asList? asText?) fields "related_types")
    owned := NameSet.ofList (← fieldOr? [] (asList? asText?) fields "foreign_keys") }

end Entity

namespace Model

/-- The field of a model file that holds the entities. -/
def entitiesField : String := "entity_types"

/-- The entities of a model file. -/
def entitiesOfTree? (tree : Tree) : Option (List Entity) := do
  let fields ← tree.fields? [entitiesField]
  field? (asList? Entity.ofTree?) fields entitiesField

/-- The entities of the text of a model file. -/
def entitiesOfText? (text : String) : Option (List Entity) :=
  (Tree.ofText? text).bind entitiesOfTree?

/-- The text of a model file with the given entities. -/
def documentText (entities : List Entity) : String :=
  (Json.object [(entitiesField, .array (entities.map Entity.toJson))]).print

end Model

end EntitySchema
