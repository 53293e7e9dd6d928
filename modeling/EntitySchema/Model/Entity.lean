import EntitySchema.Model.TypeTag
import EntitySchema.NameSet

/-!
# Entities and their columns

An entity is a kind of record, to which one table corresponds.  Its columns keep the order in which
they were declared; a column that is met again is widened in its place.
-/

namespace EntitySchema

/-- A column with one value per record.  Its type is kept as it was written. -/
structure Column where
  name : String
  type : String
  annotation : String := ""
  /-- The column has a value in every record. -/
  required : Bool := false
deriving Repr, DecidableEq

namespace Column

/-- The tag that the type of the column spells, if it spells one. -/
def tag? (column : Column) : Option TypeTag := TypeTag.ofSpelling? column.type

/-- The rank of the type of the column; a type that spells no tag ranks lowest. -/
def priority (column : Column) : Nat := (column.tag?.map TypeTag.priority).getD 0

/-- The column after it was met once more: the type of higher rank counts, and the column is
required if it was required once. -/
def widen (column again : Column) : Column :=
  { column with
    type := if column.priority < again.priority then again.type else column.type
    required := column.required || again.required }

@[simp] theorem name_widen (column again : Column) : (column.widen again).name = column.name := rfl

@[simp] theorem annotation_widen (column again : Column) :
    Column.annotation (column.widen again) = column.annotation := rfl

theorem priority_widen (column again : Column) :
    (column.widen again).priority = max column.priority again.priority := by
  by_cases h : column.priority < again.priority
  · have : (column.widen again).type = again.type := if_pos h
    rw [priority, tag?, this, ← tag?, ← priority]
    omega
  · have : (column.widen again).type = column.type := if_neg h
    rw [priority, tag?, this, ← tag?, ← priority]
    omega

end Column

/-- The columns with one more; a column of the same name is widened in its place. -/
def mergeColumn (columns : List Column) (column : Column) : List Column :=
  match columns with
  | [] => [column]
  | first :: rest =>
    if first.name = column.name then first.widen column :: rest
    else first :: mergeColumn rest column

theorem mem_names_mergeColumn {columns : List Column} {column : Column} {name : String} :
    name ∈ (mergeColumn columns column).map Column.name ↔
      name = column.name ∨ name ∈ columns.map Column.name := by
  induction columns with
  | nil => simp [mergeColumn]
  | cons first rest ih =>
    rw [mergeColumn]
    split
    next h => simp [← h]
    next h => rw [List.map_cons, List.mem_cons, ih, List.map_cons, List.mem_cons, or_left_comm]

/-- A kind of record. -/
structure Entity where
  name : String
  columns : List Column := []
  /-- The columns that the external id is derived from, in the order in which they are joined. -/
  externalIdSources : List String := []
  /-- Whether the element has text content of its own. -/
  hasValueColumn : Bool := false
  annotation : String := ""
  /-- The entities that this one is related to. -/
  related : NameSet := ∅
  /-- The entities whose relation to this one this one owns. -/
  owned : NameSet := ∅
deriving DecidableEq

namespace Entity

instance : Inhabited Entity := ⟨{ name := "" }⟩

/-- The entity with one more column, even if it has one of that name. -/
def withColumn (entity : Entity) (column : Column) : Entity :=
  { entity with columns := entity.columns ++ [column] }

def withExternalId (entity : Entity) (sources : List String) : Entity :=
  { entity with externalIdSources := sources }

def withValueColumn (entity : Entity) : Entity := { entity with hasValueColumn := true }

def column? (entity : Entity) (name : String) : Option Column :=
  entity.columns.find? (·.name = name)

/-- Adds a column, or widens the column of that name. -/
def merge (entity : Entity) (column : Column) : Entity :=
  { entity with columns := mergeColumn entity.columns column }

/-- Adds a source of the external id, unless it is one already. -/
def addSource (entity : Entity) (source : String) : Entity :=
  if source ∈ entity.externalIdSources then entity
  else { entity with externalIdSources := entity.externalIdSources ++ [source] }

def isRelatedTo (entity : Entity) (other : String) : Bool := other ∈ entity.related

/-- Whether the entity declares that it owns its relation to `other`. -/
def owns (entity : Entity) (other : String) : Bool := other ∈ entity.owned

/-- Records a relation to `other`. -/
def relateTo (entity : Entity) (other : String) : Entity :=
  { entity with related := entity.related.insert other }

/-- Records a relation to `other` that this entity owns. -/
def own (entity : Entity) (other : String) : Entity :=
  { entity with related := entity.related.insert other, owned := entity.owned.insert other }

/-- The first column whose name an earlier column has. -/
def repeatedColumn? (entity : Entity) : Option String :=
  go [] (entity.columns.map Column.name)
where
  go (seen : List String) : List String → Option String
    | [] => none
    | name :: names => if name ∈ seen then some name else go (name :: seen) names

theorem repeatedColumn?_go_eq_none_iff {seen names : List String} :
    repeatedColumn?.go seen names = none ↔ names.Nodup ∧ ∀ name ∈ names, ¬ name ∈ seen := by
  induction names generalizing seen with
  | nil => simp [repeatedColumn?.go]
  | cons name names ih =>
    by_cases h : name ∈ seen
    · simp [repeatedColumn?.go, h]
    · simp only [repeatedColumn?.go, h, ↓reduceIte, ih, List.nodup_cons, List.mem_cons]
      grind

theorem repeatedColumn?_eq_none_iff {entity : Entity} :
    entity.repeatedColumn? = none ↔ (entity.columns.map Column.name).Nodup := by
  rw [repeatedColumn?, repeatedColumn?_go_eq_none_iff]
  simp

end Entity

end EntitySchema
