import EntitySchema.Proofs.Mapping.Columns
import EntitySchema.Proofs.Mapping.Standing
import EntitySchema.Proofs.Model.Closure

/-!
# Entities of mappings

The same entity can stand in many places of a mapping, or only be the target of a path. What the model says
of it can be told from all nodes of the mapping together, without the model: which entities there are, what
each one owns and is related to, whether it has text content and what its annotation is.
-/

namespace EntitySchema

namespace Mapping

variable {delimiter key name : String} {mapping : Json} {model : Model} {entity : Entity}
  {findings : List Finding}

/-- The annotation that a finding has for the entity of that name. -/
def Finding.note? (key : String) : Finding → Option String
  | .entity name annotation? => if name = key then annotation? else none
  | .nesting _ _ _ | .column _ _ _ => none

/-- The annotation that a node has for the entity of that name. -/
def Node.note? (key : String) : Node → Option String
  | .entity _ name info => if name = key then text? info "annotation" else none
  | .scalar _ => none

theorem annotation_on (key : String) (entity : Entity) (finding : Finding) :
    Entity.annotation (finding.on key entity) = (finding.note? key).getD entity.annotation := by
  cases finding with
  | entity name annotation? =>
      rw [Finding.on, Finding.note?]
      split
      · rfl
      · rfl
  | nesting parent child hasValueColumn =>
      have howner : Entity.annotation (if parent = key then entity.own child else entity) =
          entity.annotation := by
        split
        · rfl
        · rfl
      rw [Finding.on]
      split
      · split
        · exact howner
        · exact howner
      · exact howner
  | column owner met isSource =>
      rw [Finding.on]
      split
      · obtain ⟨columns, sources, heq⟩ := exists_addColumn_eq met isSource entity
        rw [heq]
        rfl
      · rfl

theorem hasValueColumn_on_iff (key : String) (entity : Entity) (finding : Finding) :
    (finding.on key entity).hasValueColumn = true ↔
      entity.hasValueColumn = true ∨ ∃ parent, finding = .nesting parent key true := by
  cases finding with
  | entity name annotation? =>
      have hkeep : (Finding.on key entity (.entity name annotation?)).hasValueColumn =
          entity.hasValueColumn := by
        rw [Finding.on]
        split
        · rfl
        · rfl
      simp [hkeep]
  | nesting parent child hasValueColumn =>
      have howner : (if parent = key then entity.own child else entity).hasValueColumn =
          entity.hasValueColumn := by
        split
        · rfl
        · rfl
      rw [Finding.on]
      by_cases hchild : child = key
      · subst hchild
        cases hasValueColumn with
        | true => simp [Entity.withValueColumn]
        | false => simp [howner]
      · simp [hchild, howner]
  | column owner met isSource =>
      have hkeep : (Finding.on key entity (.column owner met isSource)).hasValueColumn =
          entity.hasValueColumn := by
        rw [Finding.on]
        split
        · obtain ⟨columns, sources, heq⟩ := exists_addColumn_eq met isSource entity
          rw [heq]
        · rfl
      simp [hkeep]

theorem annotation_foldl_on (key : String) (findings : List Finding) (entity : Entity) :
    Entity.annotation (findings.foldl (fun entity finding => finding.on key entity) entity) =
      (findings.filterMap (Finding.note? key)).getLast?.getD entity.annotation := by
  induction findings generalizing entity with
  | nil => rfl
  | cons finding findings ih =>
      rw [List.foldl_cons, ih, annotation_on, ← List.singleton_append, List.filterMap_append,
        List.getLast?_append]
      cases (findings.filterMap (Finding.note? key)).getLast? with
      | some last => rfl
      | none => cases h : finding.note? key <;> simp [h]

theorem hasValueColumn_foldl_on_iff (key : String) (findings : List Finding) (entity : Entity) :
    (findings.foldl (fun entity finding => finding.on key entity) entity).hasValueColumn = true ↔
      entity.hasValueColumn = true ∨ ∃ parent, .nesting parent key true ∈ findings := by
  induction findings generalizing entity with
  | nil => simp
  | cons finding findings ih =>
      rw [List.foldl_cons, ih, hasValueColumn_on_iff, or_assoc]
      simp only [List.mem_cons, exists_or, eq_comm]

theorem filterMap_note?_findings (delimiter key : String) (nodes : List Node) :
    (nodes.flatMap (Node.findings delimiter)).filterMap (Finding.note? key) =
      nodes.filterMap (Node.note? key) := by
  have hnode : ∀ node : Node, (node.findings delimiter).filterMap (Finding.note? key) =
      (node.note? key).toList := by
    intro node
    match node with
    | .entity none name info =>
        simp [Node.findings, List.filterMap_eq_flatMap_toList, Finding.note?, Node.note?]
    | .entity (some parent) name info =>
        simp [Node.findings, List.filterMap_eq_flatMap_toList, Finding.note?, Node.note?]
    | .scalar column => rfl
  rw [List.filterMap_flatMap, List.filterMap_eq_flatMap_toList]
  simp only [hnode]

theorem mem_findings_nesting_iff {parent child : String} {hasValueColumn : Bool} :
    .nesting parent child hasValueColumn ∈ (nodes mapping).flatMap (Node.findings delimiter) ↔
      ∃ node, Stands mapping.sorted (some parent) child node ∧
        flag (infoOf node) "value_column" = hasValueColumn := by
  rw [nodes_eq_listed, List.mem_flatMap]
  constructor
  · rintro ⟨node, hnode, hmem⟩
    match node with
    | .entity none name info => simp [Node.findings] at hmem
    | .entity (some owner) name info =>
        simp only [Node.findings, List.mem_cons, Finding.nesting.injEq, reduceCtorEq,
          List.not_mem_nil, or_false] at hmem
        obtain ⟨rfl, rfl, rfl⟩ := hmem
        obtain ⟨json, hstands, rfl⟩ := mem_listed_entity_iff.1 hnode
        exact ⟨json, hstands, rfl⟩
    | .scalar column => simp [Node.findings] at hmem
  · rintro ⟨json, hstands, rfl⟩
    exact ⟨_, mem_listed_entity_iff.2 ⟨json, hstands, rfl⟩, List.mem_cons_self⟩

theorem nests_iff {parent child : String} :
    Nests ((nodes mapping).flatMap (Node.findings delimiter)) parent child ↔
      ∃ node, Stands mapping.sorted (some parent) child node := by
  simp only [Nests, mem_findings_nesting_iff]
  constructor
  · rintro ⟨_, node, hstands, -⟩
    exact ⟨node, hstands⟩
  · rintro ⟨node, hstands⟩
    exact ⟨_, node, hstands, rfl⟩

/-- What the model has of its entities besides their columns, told from where the nodes stand. -/
structure Outlines (delimiter : String) (mapping : Json) (model : Model) : Prop where
  names : ∀ name, (∃ entity ∈ model.toList, entity.name = name) ↔
    (∃ parent? node, Stands mapping.sorted parent? name node) ∨
      ∃ parent? owner node, Stands mapping.sorted parent? owner node ∧
        ∃ column ∈ scalarsOf owner node, (column.target delimiter).1 = name
  owned : ∀ entity ∈ model.toList, ∀ child, child ∈ entity.owned ↔
    ∃ node, Stands mapping.sorted (some entity.name) child node
  related : ∀ entity ∈ model.toList, ∀ other, other ∈ entity.related ↔
    other ∈ entity.owned ∨ ∃ owner ∈ model.toList, owner.name = other ∧ entity.name ∈ owner.owned
  hasValueColumn : ∀ entity ∈ model.toList, entity.hasValueColumn = true ↔
    ∃ parent node, Stands mapping.sorted (some parent) entity.name node ∧
      flag (infoOf node) "value_column" = true
  /-- The last node of the entity that has an annotation counts. -/
  annotation : ∀ entity ∈ model.toList, entity.annotation =
    ((nodes mapping).filterMap (Node.note? entity.name)).getLast?.getD ""

/-- An entity is named by nodes of its own, by what stands in it, and by paths that end in it. -/
theorem exists_mem_names_iff :
    (∃ finding ∈ (nodes mapping).flatMap (Node.findings delimiter), name ∈ finding.names) ↔
      (∃ parent? node, Stands mapping.sorted parent? name node) ∨
        ∃ parent? owner node, Stands mapping.sorted parent? owner node ∧
          ∃ column ∈ scalarsOf owner node, (column.target delimiter).1 = name := by
  rw [nodes_eq_listed]
  constructor
  · rintro ⟨finding, hfinding, hname⟩
    obtain ⟨node, hnode, hfinding⟩ := List.mem_flatMap.1 hfinding
    match node with
    | .entity none found info =>
        obtain ⟨json, hstands, -⟩ := mem_listed_entity_iff.1 hnode
        obtain rfl := List.mem_singleton.1 hfinding
        obtain rfl := List.mem_singleton.1 hname
        exact .inl ⟨none, json, hstands⟩
    | .entity (some parent) found info =>
        obtain ⟨json, hstands, -⟩ := mem_listed_entity_iff.1 hnode
        -- The owner is named as well, and has a node of its own.
        have hcases : name = parent ∨ name = found := by
          rcases List.mem_pair.1 hfinding with rfl | rfl
          · exact List.mem_pair.1 hname
          · exact .inr (List.mem_singleton.1 hname)
        rcases hcases with rfl | rfl
        · exact .inl hstands.exists_parent
        · exact .inl ⟨some parent, json, hstands⟩
    | .scalar column =>
        obtain ⟨parent?, json, hstands, hcolumn⟩ := mem_listed_scalar_iff.1 hnode
        obtain rfl := List.mem_singleton.1 hfinding
        exact .inr ⟨parent?, column.parent, json, hstands, column, hcolumn,
          (List.mem_singleton.1 hname).symm⟩
  · rintro (⟨parent?, json, hstands⟩ | ⟨parent?, owner, json, hstands, column, hcolumn, rfl⟩)
    · refine ⟨.entity name (text? (infoOf json) "annotation"), List.mem_flatMap.2
        ⟨_, mem_listed_entity_iff.2 ⟨json, hstands, rfl⟩, ?_⟩, List.mem_singleton_self _⟩
      cases parent? with
      | none => exact List.mem_singleton_self _
      | some parent => exact List.mem_cons_of_mem _ (List.mem_singleton_self _)
    · have hparent := parent_of_mem_scalarsOf hcolumn
      subst hparent
      exact ⟨_, List.mem_flatMap.2 ⟨_, mem_listed_scalar_iff.2 ⟨parent?, json, hstands, hcolumn⟩,
        List.mem_singleton_self _⟩, List.mem_singleton_self _⟩

theorem annotation_of_toModel (h : toModel delimiter mapping = .ok model)
    (hget : model.get? key = some entity) :
    entity.annotation = ((nodes mapping).filterMap (Node.note? key)).getLast?.getD "" := by
  obtain ⟨related, hfold⟩ := exists_eq_foldl_on h hget
  have hlast := annotation_foldl_on key
    ((nodes mapping).flatMap (Node.findings delimiter)) { name := key }
  rw [filterMap_note?_findings] at hlast
  exact (congrArg Entity.annotation hfold).trans hlast

theorem hasValueColumn_of_toModel_iff (h : toModel delimiter mapping = .ok model)
    (hget : model.get? key = some entity) :
    entity.hasValueColumn = true ↔ ∃ parent node, Stands mapping.sorted (some parent) key node ∧
      flag (infoOf node) "value_column" = true := by
  obtain ⟨related, hfold⟩ := exists_eq_foldl_on h hget
  have hflag := hasValueColumn_foldl_on_iff key
    ((nodes mapping).flatMap (Node.findings delimiter)) { name := key }
  simp only [Bool.false_eq_true, false_or, mem_findings_nesting_iff] at hflag
  rw [congrArg Entity.hasValueColumn hfold]
  exact hflag

theorem outlines_of_toModel (h : toModel delimiter mapping = .ok model) :
    Outlines delimiter mapping model := by
  obtain ⟨found, hfound, rfl⟩ := toModel_eq_ok_iff.1 h
  have hscalar := isScalar_of_findings hfound
  have hkeyed := (wellFormed_modelOf hscalar).keyed
  have heq := eq_flatMap_of_findings hfound
  constructor
  case names =>
    intro name
    rw [← exists_mem_names_iff, ← heq, ← exists_get?_modelOf_iff]
    simpa using hkeyed.exists_mem_toList_iff name fun _ => True
  case owned =>
    intro entity hmem child
    rw [← Model.owns_iff_of_get? (hkeyed.mem_toList_iff.1 hmem), owns_modelOf_iff, heq, nests_iff]
  case related =>
    intro entity hmem other
    have hget := hkeyed.mem_toList_iff.1 hmem
    have howner := hkeyed.exists_mem_toList_iff other fun owner => entity.name ∈ owner.owned
    rw [← Model.relates_iff_of_get? hget, ← Model.owns_iff_of_get? hget, howner,
      relates_modelOf_iff hscalar, ← owns_modelOf_iff, ← owns_modelOf_iff]
    rfl
  case hasValueColumn =>
    intro entity hmem
    exact hasValueColumn_of_toModel_iff h (hkeyed.mem_toList_iff.1 hmem)
  case annotation =>
    intro entity hmem
    exact annotation_of_toModel h (hkeyed.mem_toList_iff.1 hmem)

/-- In a household, a person owns an address, which owns a person again, and there is a city only because
the town is one of its columns. The address is the entity that is marked to have text content. -/
theorem outlines_household : ∃ model, toModel " -> " household = .ok model ∧
    Outlines " -> " household model ∧
      (model.toList.map fun entity => (entity.name, entity.hasValueColumn)) =
        [("address", true), ("city", false), ("person", false)] ∧
      ∃ parent node, Stands household.sorted (some parent) "address" node ∧
        Json.member? (infoOf node) "value_column" = some (.bool true) := by
  have hok : ((toModel " -> " household).toOption.map fun model =>
      model.toList.map fun entity => (entity.name, entity.hasValueColumn)) =
        some [("address", true), ("city", false), ("person", false)] := by decide +kernel
  obtain ⟨model, hmodel, hflags⟩ := Option.map_eq_some_iff.1 hok
  have h := eq_ok_of_toOption hmodel
  have houtlines := outlines_of_toModel h
  have haddress : ("address", true) ∈
      model.toList.map fun entity => (entity.name, entity.hasValueColumn) := by
    rw [hflags]
    exact List.mem_cons_self
  obtain ⟨entity, hmem, heq⟩ := List.mem_map.1 haddress
  obtain ⟨hname, hvalue⟩ := Prod.mk.inj heq
  obtain ⟨parent, node, hstands, hflag⟩ := (houtlines.hasValueColumn entity hmem).1 hvalue
  exact ⟨model, h, houtlines, hflags, parent, node, hname ▸ hstands, flag_eq_true_iff.1 hflag⟩

end Mapping

end EntitySchema
