import EntitySchema.Proofs.Mapping.Nodes
import EntitySchema.Proofs.Mapping.WellFormed
import EntitySchema.Proofs.Model.Merging

/-!
# Columns of mappings

A column may come to an entity from anywhere in a mapping, before the entity is met itself, within it and
after it. What comes to one entity does not depend on what the others get. So the columns of an entity are
those of all nodes for it, as if these had been listed first and merged then.
-/

namespace EntitySchema

namespace Entity

theorem columns_addSource (entity : Entity) (source : String) :
    (entity.addSource source).columns = entity.columns := by
  unfold addSource
  split
  · rfl
  · rfl

theorem externalIdSources_addSource (entity : Entity) (source : String) :
    (entity.addSource source).externalIdSources =
      if source ∈ entity.externalIdSources then entity.externalIdSources
      else entity.externalIdSources ++ [source] := by
  unfold addSource
  split
  · rfl
  · rfl

end Entity

namespace Model

variable {model : Model}

/-- The entity under a key, which is a new one without columns if there is none. -/
def entityAt (model : Model) (key : String) : Entity := (model.get? key).getD { name := key }

theorem entityAt_update (model : Model) (name key : String) (f : Entity → Entity) :
    (model.update name f).entityAt key =
      if name = key then f (model.entityAt key) else model.entityAt key := by
  unfold entityAt
  rw [get?_update]
  split
  next heq => rw [heq, Option.getD_some]
  · rfl

theorem entityAt_eq_of_get? {key : String} {entity : Entity} (h : model.get? key = some entity) :
    model.entityAt key = entity := by
  rw [entityAt, h, Option.getD_some]

end Model

namespace Mapping

variable {delimiter key : String} {mapping : Json} {model : Model} {entity : Entity}
  {nodes : List Scalar}

/-- What a finding makes of the entity under a key. -/
def Finding.on (key : String) (entity : Entity) : Finding → Entity
  | .entity name annotation? => if name = key then annotate annotation? entity else entity
  | .nesting parent child hasValueColumn =>
    let owner := if parent = key then entity.own child else entity
    if child = key then (if hasValueColumn then owner.withValueColumn else owner) else owner
  | .column owner met isSource => if owner = key then addColumn met isSource entity else entity

theorem entityAt_record (model : Model) (finding : Finding) (key : String) :
    (record model finding).entityAt key = finding.on key (model.entityAt key) := by
  cases finding with
  | entity name annotation? => exact model.entityAt_update name key _
  | nesting parent child hasValueColumn =>
      rw [record, Model.entityAt_update, Model.entityAt_update, Finding.on]
  | column owner met isSource => exact model.entityAt_update owner key _

/-- What comes to an entity does not depend on the others. -/
theorem entityAt_foldl_record (findings : List Finding) (model : Model) (key : String) :
    (findings.foldl record model).entityAt key =
      findings.foldl (fun entity finding => finding.on key entity) (model.entityAt key) := by
  induction findings generalizing model with
  | nil => rfl
  | cons finding findings ih => rw [List.foldl_cons, ih, entityAt_record, List.foldl_cons]

/-- The entity has the columns of these nodes, merged, and of their names those that are sources. -/
structure Gathers (delimiter : String) (nodes : List Scalar) (entity : Entity) : Prop where
  columns : Merged (nodes.map (·.column delimiter)) entity.columns
  sources : entity.externalIdSources =
    ((nodes.filter Scalar.isSource).map fun node => (node.target delimiter).2).eraseDups

namespace Gathers

theorem new (delimiter name : String) : Gathers delimiter [] { name } := ⟨.nil, rfl⟩

theorem of_eq (h : Gathers delimiter nodes entity) {other : Entity}
    (hcolumns : other.columns = entity.columns)
    (hsources : other.externalIdSources = entity.externalIdSources) :
    Gathers delimiter nodes other :=
  ⟨hcolumns ▸ h.columns, hsources ▸ h.sources⟩

theorem addColumn (h : Gathers delimiter nodes entity) (node : Scalar) :
    Gathers delimiter (nodes ++ [node])
      (addColumn (node.column delimiter) node.isSource entity) := by
  have hcolumns := h.columns.mergeColumn (node.column delimiter)
  rw [← List.map_singleton, ← List.map_append] at hcolumns
  unfold Mapping.addColumn
  cases hsource : node.isSource with
  | false =>
      have hfilter : (nodes ++ [node]).filter Scalar.isSource = nodes.filter Scalar.isSource := by
        simp [hsource]
      exact ⟨hcolumns, by rw [hfilter, ← h.sources]; rfl⟩
  | true =>
      have hfilter : (nodes ++ [node]).filter Scalar.isSource =
          nodes.filter Scalar.isSource ++ [node] := by
        simp [hsource]
      have hmem : (node.target delimiter).2 ∈ entity.externalIdSources ↔
          (node.target delimiter).2 ∈
            (nodes.filter Scalar.isSource).map fun node => (node.target delimiter).2 := by
        rw [h.sources, List.mem_eraseDups]
      constructor
      · rw [if_pos rfl, Entity.columns_addSource]
        exact hcolumns
      · rw [if_pos rfl, Entity.externalIdSources_addSource, hfilter, List.map_append,
          List.map_singleton, eraseDups_concat, ← h.sources]
        simp only [← hmem]
        rfl

theorem on_entity (h : Gathers delimiter nodes entity) (key name : String)
    (annotation? : Option String) :
    Gathers delimiter nodes (Finding.on key entity (.entity name annotation?)) := by
  rw [Finding.on]
  split
  · exact h.of_eq rfl rfl
  · exact h

theorem on_nesting (h : Gathers delimiter nodes entity) (key parent child : String)
    (hasValueColumn : Bool) :
    Gathers delimiter nodes (Finding.on key entity (.nesting parent child hasValueColumn)) := by
  have howner : Gathers delimiter nodes (if parent = key then entity.own child else entity) := by
    split
    · exact h.of_eq rfl rfl
    · exact h
  rw [Finding.on]
  split
  · split
    · exact howner.of_eq rfl rfl
    · exact howner
  · exact howner

/-- The induction is on the nodes that are left, over any entity that has what came before. -/
theorem foldl_on (h : Gathers delimiter nodes entity) (key : String) (more : List Node) :
    Gathers delimiter
      (nodes ++ (more.filterMap Node.scalar?).filter fun node => (node.target delimiter).1 = key)
      ((more.flatMap (Node.findings delimiter)).foldl (fun entity finding => finding.on key entity)
        entity) := by
  induction more generalizing nodes entity with
  | nil => simpa using h
  | cons node more ih =>
      rw [List.flatMap_cons, List.foldl_append]
      cases node with
      | entity parent? name info =>
          cases parent? with
          | none => exact ih (h.on_entity key name _)
          | some parent => exact ih ((h.on_nesting key parent name _).on_entity key name _)
      | scalar node =>
          have hstep : (Node.findings delimiter (.scalar node)).foldl
              (fun entity finding => finding.on key entity) entity =
                if (node.target delimiter).1 = key then
                  Mapping.addColumn (node.column delimiter) node.isSource entity
                else entity := rfl
          have hscalars : (Node.scalar node :: more).filterMap Node.scalar? =
              node :: more.filterMap Node.scalar? := rfl
          rw [hstep, hscalars, List.filter_cons]
          by_cases htable : (node.target delimiter).1 = key
          · rw [if_pos (decide_eq_true htable), if_pos htable, List.append_cons]
            exact ih (h.addColumn node)
          · rw [if_neg (by simpa using htable), if_neg htable]
            exact ih h

end Gathers

/-- The nodes of a mapping that are columns of the entity of that name. -/
def scalarsFor (delimiter : String) (mapping : Json) (name : String) : List Scalar :=
  (scalars mapping).filter fun node => (node.target delimiter).1 = name

/-- An entity of the model is what the nodes make of it one after another, and then the names that are
related to it. -/
theorem exists_eq_foldl_on (h : toModel delimiter mapping = .ok model)
    (hget : model.get? key = some entity) :
    ∃ related, entity =
      { ((Mapping.nodes mapping).flatMap (Node.findings delimiter)).foldl
          (fun entity finding => finding.on key entity) { name := key } with related := related } := by
  obtain ⟨found, hfound, rfl⟩ := toModel_eq_ok_iff.1 h
  rw [modelOf, Model.get?_reflect, Option.map_eq_some_iff] at hget
  obtain ⟨recorded, hrecorded, rfl⟩ := hget
  have hfold : recorded = found.foldl (fun entity finding => finding.on key entity) { name := key } := by
    rw [← Model.entityAt_eq_of_get? hrecorded, entityAt_foldl_record]
    rfl
  rw [← eq_flatMap_of_findings hfound, ← hfold]
  exact ⟨_, rfl⟩

theorem gathers_of_toModel (h : toModel delimiter mapping = .ok model)
    (hget : model.get? key = some entity) :
    Gathers delimiter (scalarsFor delimiter mapping key) entity := by
  obtain ⟨related, rfl⟩ := exists_eq_foldl_on h hget
  exact ((Gathers.new delimiter key).foldl_on key (nodes mapping)).of_eq rfl rfl

theorem exists_entity_of_mem_scalars (h : toModel delimiter mapping = .ok model) {node : Scalar}
    (hnode : node ∈ scalars mapping) :
    ∃ entity, model.get? (node.target delimiter).1 = some entity := by
  obtain ⟨found, hfound, rfl⟩ := toModel_eq_ok_iff.1 h
  rw [exists_get?_modelOf_iff, eq_flatMap_of_findings hfound]
  obtain ⟨listed, hlisted, hscalar⟩ := List.mem_filterMap.1 hnode
  cases listed with
  | entity parent? name info => cases hscalar
  | scalar node =>
      cases hscalar
      exact ⟨_, List.mem_flatMap.2 ⟨_, hlisted, List.mem_singleton_self _⟩, List.mem_singleton_self _⟩

/-- Of the nodes that are columns none is lost and none is made up. Every one is for an entity of the
model, and every entity has the columns that the nodes for it give when merged. -/
structure Complete (delimiter : String) (mapping : Json) (model : Model) : Prop where
  present : ∀ node ∈ scalars mapping, ∃ entity ∈ model.toList,
    entity.name = (node.target delimiter).1
  gathers : ∀ entity ∈ model.toList,
    Gathers delimiter (scalarsFor delimiter mapping entity.name) entity

theorem complete_of_toModel (h : toModel delimiter mapping = .ok model) :
    Complete delimiter mapping model := by
  have hkeyed : model.Keyed := by
    obtain ⟨found, hfound, rfl⟩ := toModel_eq_ok_iff.1 h
    exact (wellFormed_modelOf (isScalar_of_findings hfound)).keyed
  constructor
  case present =>
    intro node hnode
    obtain ⟨entity, hget⟩ := exists_entity_of_mem_scalars h hnode
    exact ⟨entity, Model.mem_toList_iff.2 ⟨_, hget⟩, hkeyed _ entity hget⟩
  case gathers =>
    intro entity hmem
    exact gathers_of_toModel h (hkeyed.mem_toList_iff.1 hmem)

/-- In a household, the town is a column of a city and the street one of the person, whose age is met
twice. The age and the street are marked as sources. -/
theorem complete_household : ∃ model, toModel " -> " household = .ok model ∧
    Complete " -> " household model ∧
      (model.toList.map fun entity => (entity.name, entity.externalIdSources)) =
        [("address", []), ("city", []), ("person", ["age", "street"])] := by
  have hok : ((toModel " -> " household).toOption.map fun model =>
      model.toList.map fun entity => (entity.name, entity.externalIdSources)) =
        some [("address", []), ("city", []), ("person", ["age", "street"])] := by decide +kernel
  obtain ⟨model, hmodel, hsources⟩ := Option.map_eq_some_iff.1 hok
  have h := eq_ok_of_toOption hmodel
  exact ⟨model, h, complete_of_toModel h, hsources⟩

end Mapping

end EntitySchema
