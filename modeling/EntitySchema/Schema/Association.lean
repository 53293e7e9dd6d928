import EntitySchema.Error

/-!
# Association tables

Every relation of two entities becomes one association table, whichever side it was met from first.
The owner is the side that alone says that it owns the relation; if both sides or neither say so, it
is the one with the smaller name.  An entity related to itself owns that relation, and its owning
column carries a mark.
-/

namespace EntitySchema

open Identifier (Namer Scope Collision)

/-- A declared relation: `target` is the entity under `key`, which `entity` is related to. -/
structure Relation where
  entity : Entity
  key : String
  target : Entity

/-- A column of an association table, which refers to the primary key of an entity's table. -/
structure AssociationColumn where
  name : String
  entity : String
  table : String
  key : String
deriving Repr, DecidableEq

/-- The table of a relation. -/
structure Association where
  name : String
  owner : AssociationColumn
  other : AssociationColumn
  isSelfRelation : Bool
deriving Repr, DecidableEq

namespace Relation

/-- Two names, the smaller one first. -/
def orderedPair (a b : String) : String × String := if b < a then (b, a) else (a, b)

theorem orderedPair_comm (a b : String) : orderedPair a b = orderedPair b a := by
  unfold orderedPair
  by_cases hab : a < b
  · simp [hab, String.lt_asymm hab]
  · by_cases hba : b < a
    · simp [hab, hba]
    · simp [String.le_antisymm (String.not_lt.1 hba) (String.not_lt.1 hab)]

/-- The names of both sides, the smaller one first. -/
def pair (relation : Relation) : String × String := orderedPair relation.entity.name relation.key

/-- The relations of an entity to the given keys, each of which has to be that of an entity related
back. -/
def toEach (model : Model) (entity : Entity) : List String → Except Inconsistency (List Relation)
  | [] => .ok []
  | key :: keys =>
    match model.get? key with
    | none => .error (.undeclaredRelated entity.name key)
    | some target =>
      if !target.isRelatedTo entity.name then .error (.unreturnedRelation entity.name key)
      else
        match toEach model entity keys with
        | .ok relations => .ok (⟨entity, key, target⟩ :: relations)
        | .error cause => .error cause

/-- The relations of an entity, all of which it has to declare. -/
def ofEntity (model : Model) (entity : Entity) : Except Inconsistency (List Relation) :=
  match toEach model entity entity.related.toList with
  | .error cause => .error cause
  | .ok relations =>
    match entity.owned.toList.find? (!entity.isRelatedTo ·) with
    | some owned => .error (.undeclaredOwned entity.name owned)
    | none => .ok relations

/-- The relations of entities of a model, one entity after another. -/
def ofEntities (model : Model) : List Entity → Except Inconsistency (List Relation)
  | [] => .ok []
  | entity :: entities =>
    match ofEntity model entity with
    | .error cause => .error cause
    | .ok here =>
      match ofEntities model entities with
      | .ok rest => .ok (here ++ rest)
      | .error cause => .error cause

/-- All declared relations of a model. -/
def ofModel (model : Model) : Except Inconsistency (List Relation) :=
  ofEntities model model.toList

/-- The first relation of every pair of names that is not in `seen`. -/
def firstPerPair (seen : List (String × String)) : List Relation → List Relation
  | [] => []
  | relation :: relations =>
    if relation.pair ∈ seen then firstPerPair seen relations
    else relation :: firstPerPair (relation.pair :: seen) relations

/-- The two sides, the owner first. -/
def sides (relation : Relation) : Entity × Entity :=
  let a := relation.entity
  let b := relation.target
  if a.name = b.name then (a, a)
  else if a.owns b.name && !b.owns a.name then (a, b)
  else if b.owns a.name && !a.owns b.name then (b, a)
  else if a.name < b.name then (a, b)
  else (b, a)

end Relation

namespace AssociationColumn

/-- The column that refers to the table of an entity; `parent` marks the owning side of a relation of
an entity to itself. -/
def toEntity (namer : Namer) (entity : Entity) (parent : Bool) : AssociationColumn where
  name := namer.name .primaryKey entity.name parent
  entity := entity.name
  table := namer.name .table entity.name false
  key := namer.name .primaryKey entity.name false

end AssociationColumn

namespace Association

/-- Whether the table joins two entities, in whichever order. -/
def joins (association : Association) (a b : String) : Bool :=
  (association.owner.entity = a && association.other.entity = b) ||
    (association.owner.entity = b && association.other.entity = a)

/-- The table of a relation with the given owner and other side. -/
def ofSides (namer : Namer) (owner other : Entity) : Association where
  name := namer.join [owner.name, other.name]
  owner := .toEntity namer owner (owner.name = other.name)
  other := .toEntity namer other false
  isSelfRelation := owner.name = other.name

/-- The claims of the columns of the table on their names. -/
def columnClaims (association : Association) : List (String × String) :=
  [("owning side " ++ association.owner.entity, association.owner.name),
   ("other side " ++ association.other.entity, association.other.name)]

/-- The table of a relation, whose columns have to differ in name. -/
def ofRelation (namer : Namer) (relation : Relation) : Except Collision Association :=
  let (owner, other) := relation.sides
  let association := ofSides namer owner other
  match (Scope.named ("association table " ++ association.name)).claimAll
      association.columnClaims with
  | .ok _ => .ok association
  | .error collision => .error collision

/-- The tables of relations, up to the first whose columns collide. -/
def ofRelations (namer : Namer) : List Relation → Except Collision (List Association)
  | [] => .ok []
  | relation :: relations =>
    match ofRelation namer relation with
    | .error collision => .error collision
    | .ok association =>
      match ofRelations namer relations with
      | .ok associations => .ok (association :: associations)
      | .error collision => .error collision

/-- The association tables of a model. -/
def ofModel (namer : Namer) (model : Model) : Except Error (List Association) :=
  match Relation.ofModel model with
  | .error cause => .error (.inconsistent cause)
  | .ok relations =>
    match ofRelations namer (Relation.firstPerPair [] relations) with
    | .ok associations => .ok associations
    | .error collision => .error (.collision collision)

end Association

end EntitySchema
