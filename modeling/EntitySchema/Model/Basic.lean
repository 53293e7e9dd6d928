import EntitySchema.Model.Entity
import EntitySchema.NameMap

/-!
# Models

A model is the set of entities that a schema is made for, each under a key, which is its name unless
it was put there under another one.  Relations are declared on both sides; only the owner records
that it owns one.
-/

namespace EntitySchema

/-- Why the entities of a model do not fit together. -/
inductive Inconsistency where
  /-- An entity of that name is in the model already. -/
  | repeatedEntity (entity : String)
  /-- An entity has two columns of one name. -/
  | repeatedColumn (column entity : String)
  /-- A relation was asked for with an entity that is not in the model. -/
  | unknownSide (entity : String)
  /-- An entity is related to one that is not in the model. -/
  | undeclaredRelated (entity related : String)
  /-- An entity is related to one that is not related to it. -/
  | unreturnedRelation (entity related : String)
  /-- An entity owns a relation that it does not declare. -/
  | undeclaredOwned (entity owned : String)
  /-- A relation has no association table, or several. -/
  | uncoveredRelation (entity related : String) (tables : Nat)
deriving Repr, DecidableEq

/-- The entities that a schema is made for. -/
structure Model where
  entities : NameMap Entity

namespace Model

def empty : Model := ⟨∅⟩

instance : EmptyCollection Model := ⟨empty⟩

instance : Inhabited Model := ⟨empty⟩

def get? (model : Model) (key : String) : Option Entity := model.entities.get? key

def size (model : Model) : Nat := model.entities.size

/-- The entities in the order of their keys. -/
def toList (model : Model) : List Entity := model.entities.values

/-- Puts an entity under a key, whatever its name and whatever was there. -/
def put (model : Model) (key : String) (entity : Entity) : Model :=
  ⟨model.entities.insert key entity⟩

/-- Takes the entity under a key away. -/
def remove (model : Model) (key : String) : Model := ⟨model.entities.erase key⟩

/-- Changes the entity under a key, if there is one. -/
def modify (model : Model) (key : String) (f : Entity → Entity) : Model :=
  ⟨model.entities.modify key f⟩

/-- Changes the entity of a name, which is a new one without columns if there is none. -/
def update (model : Model) (name : String) (f : Entity → Entity) : Model :=
  model.put name (f ((model.get? name).getD { name }))

/-- Adds an entity under its name.  Names are unique in a model, and names of columns in an
entity. -/
def add (model : Model) (entity : Entity) : Except Inconsistency Model :=
  if model.entities.contains entity.name then .error (.repeatedEntity entity.name)
  else
    match entity.repeatedColumn? with
    | some column => .error (.repeatedColumn column entity.name)
    | none => .ok (model.put entity.name entity)

def addAll (model : Model) : List Entity → Except Inconsistency Model
  | [] => .ok model
  | entity :: entities =>
    match model.add entity with
    | .ok model => model.addAll entities
    | .error fault => .error fault

def ofList (entities : List Entity) : Except Inconsistency Model := empty.addAll entities

/-- Relates two entities of the model, of which the first owns the relation. -/
def relate (model : Model) (owner other : String) : Except Inconsistency Model :=
  if !model.entities.contains owner then .error (.unknownSide owner)
  else if !model.entities.contains other then .error (.unknownSide other)
  else .ok ((model.modify owner (·.own other)).modify other (·.relateTo owner))

/-- The entity with a relation for everything it owns. -/
def withOwnedRelated (entity : Entity) : Entity :=
  { entity with related := entity.related.insertAll entity.owned.toList }

/-- The names of the entities that are related to a key. -/
def relatedTo (entities : List Entity) (key : String) : List String :=
  (entities.filter (·.isRelatedTo key)).map Entity.name

/-- Makes every relation visible from both sides, as far as both sides are in the model; what an
entity owns counts as a relation of it. -/
def reflect (model : Model) : Model :=
  let declared := model.entities.mapValues fun _ entity => withOwnedRelated entity
  ⟨declared.mapValues fun key entity =>
    { entity with related := entity.related.insertAll (relatedTo declared.values key) }⟩

@[simp] theorem get?_put_self (model : Model) (key : String) (entity : Entity) :
    (model.put key entity).get? key = some entity :=
  model.entities.get?_insert_self key entity

theorem get?_put (model : Model) (key other : String) (entity : Entity) :
    (model.put key entity).get? other = if key = other then some entity else model.get? other :=
  model.entities.get?_insert key other entity

theorem get?_modify (model : Model) (key other : String) (f : Entity → Entity) :
    (model.modify key f).get? other =
      if key = other then (model.get? other).map f else model.get? other :=
  model.entities.get?_modify key other f

theorem get?_remove (model : Model) (key other : String) :
    (model.remove key).get? other = if key = other then none else model.get? other :=
  model.entities.get?_erase key other

theorem get?_update (model : Model) (name other : String) (f : Entity → Entity) :
    (model.update name f).get? other =
      if name = other then some (f ((model.get? name).getD { name })) else model.get? other :=
  model.get?_put name other _

theorem get?_reflect (model : Model) (key : String) :
    model.reflect.get? key = (model.get? key).map fun entity =>
      { entity with
        related := (entity.related.insertAll entity.owned.toList).insertAll
          (relatedTo (model.entities.mapValues fun _ e => withOwnedRelated e).values key) } := by
  simp only [reflect, get?, NameMap.get?_mapValues, Option.map_map]
  rfl

@[simp] theorem addAll_nil (model : Model) : model.addAll [] = .ok model := rfl

@[ext] theorem ext {s t : Model} (h : ∀ key, s.get? key = t.get? key) : s = t := by
  obtain ⟨as⟩ := s
  obtain ⟨bs⟩ := t
  exact congrArg Model.mk (NameMap.ext h)

end Model

end EntitySchema
