import EntitySchema.Json.Basic
import EntitySchema.Mapping.Fault
import EntitySchema.Model.Entity
import EntitySchema.Text.Split

/-!
# What a mapping says

A mapping is a tree of nodes, each of which tells what was collected about it.  A node of type object
is an entity, any other node below one is a column.  A mapping is read as the list of its findings,
node by node with the keys in order, each node before those below it.
-/

namespace EntitySchema

namespace Mapping

/-- Something that a node of a mapping says. -/
inductive Finding where
  /-- There is an entity, perhaps with an annotation. -/
  | entity (name : String) (annotation? : Option String)
  /-- An entity stands within another one, perhaps with text content. -/
  | nesting (parent child : String) (hasValueColumn : Bool)
  /-- An entity has a column, which may be a source of its external id. -/
  | column (entity : String) (column : Column) (isSource : Bool)
deriving Repr, DecidableEq

/-- The text under a key of what was collected. -/
def text? (info : List (String × Json)) (key : String) : Option String :=
  (Json.member? info key).bind Json.asString?

/-- Whether the truth value under a key of what was collected is true. -/
def flag (info : List (String × Json)) (key : String) : Bool :=
  ((Json.member? info key).bind Json.asBool?).getD false

theorem flag_eq_true_iff {info : List (String × Json)} {key : String} :
    flag info key = true ↔ Json.member? info key = some (.bool true) := by
  unfold flag
  cases Json.member? info key with
  | none => simp
  | some value => cases value <;> simp [Json.asBool?]

/-- What was collected about the node of that name. -/
def collected (name : String) (node : Json) : Except Fault (List (String × Json)) :=
  match node with
  | .object members =>
    match (Json.member? members infoKey).bind Json.asObject? with
    | some info => .ok info
    | none => .error (.noInfo name)
  | _ => .error (.notObject name)

/-- The entity and the name of the column of a node: the last two steps of its path, or, as far as
there are none, the entity that the node stands in and its key. -/
def target (delimiter parent key path : String) : String × String :=
  if path = "" then (parent, key)
  else
    match (Text.splitAt delimiter.toList path.toList).reverse with
    | column :: table :: _ => (String.ofList table, String.ofList column)
    | [column] => (parent, String.ofList column)
    | [] => (parent, key)

/-- The finding of a node that is a column. -/
def columnFinding (delimiter parent key type : String) (info : List (String × Json)) : Finding :=
  let (entity, name) := target delimiter parent key ((text? info "mapping").getD "")
  .column entity
    { name, type, annotation := (text? info "annotation").getD "", required := flag info "occurence" }
    (flag info "external_id")

mutual

/-- The findings of an entity and of all below it. -/
def entityFindings (delimiter name : String) : Json → Except Fault (List Finding)
  | .object members =>
    match (Json.member? members infoKey).bind Json.asObject? with
    | none => .error (.noInfo name)
    | some info =>
      match memberFindings delimiter name members with
      | .error fault => .error fault
      | .ok findings => .ok (.entity name (text? info "annotation") :: findings)
  | _ => .error (.notObject name)

/-- The findings of the nodes in an entity. -/
def memberFindings (delimiter parent : String) :
    List (String × Json) → Except Fault (List Finding)
  | [] => .ok []
  | (key, child) :: members =>
    if key = infoKey then memberFindings delimiter parent members
    else
      match collected key child with
      | .error fault => .error fault
      | .ok info =>
        match text? info "type" with
        | none => .error (.noType key)
        | some type =>
          if TypeTag.ofSpelling? type = some .object then
            match entityFindings delimiter key child with
            | .error fault => .error fault
            | .ok below =>
              match memberFindings delimiter parent members with
              | .error fault => .error fault
              | .ok rest =>
                .ok (.nesting parent key (flag info "value_column") :: below ++ rest)
          else
            match memberFindings delimiter parent members with
            | .error fault => .error fault
            | .ok rest => .ok (columnFinding delimiter parent key type info :: rest)

end

/-- The findings of the entities on top, one after another. -/
def rootFindings (delimiter : String) : List (String × Json) → Except Fault (List Finding)
  | [] => .ok []
  | (name, node) :: roots =>
    match entityFindings delimiter name node with
    | .error fault => .error fault
    | .ok here =>
      match rootFindings delimiter roots with
      | .error fault => .error fault
      | .ok rest => .ok (here ++ rest)

/-- The findings of a mapping, with the keys of every object in order. -/
def findings (delimiter : String) (mapping : Json) : Except Fault (List Finding) :=
  match mapping.sorted with
  | .object roots => rootFindings delimiter roots
  | _ => .error .wholeNotObject

end Mapping

end EntitySchema
