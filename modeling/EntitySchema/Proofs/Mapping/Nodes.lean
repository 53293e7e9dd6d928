import EntitySchema.Proofs.Mapping.Findings

/-!
# Nodes of mappings

The nodes of a mapping are listed whatever is wrong with them: entity by entity, with the keys in order,
each node before those below it. A mapping that is accepted is found to say what its nodes say one after
another, each by itself.
-/

namespace EntitySchema

namespace Mapping

/-- What was collected about a node, if anything was. -/
def infoOf (node : Json) : List (String × Json) :=
  ((node.asObject?.bind (Json.member? · infoKey)).bind Json.asObject?).getD []

/-- The type among what was collected, if there is one. -/
def typeOf (info : List (String × Json)) : String := (text? info "type").getD ""

/-- A node that is a column, with the entity that it stands in. -/
structure Scalar where
  parent : String
  key : String
  info : List (String × Json)

namespace Scalar

/-- The entity and the name of the column that the node is for. -/
def target (delimiter : String) (node : Scalar) : String × String :=
  Mapping.target delimiter node.parent node.key ((text? node.info "mapping").getD "")

/-- The column as the node alone has it. -/
def column (delimiter : String) (node : Scalar) : Column where
  name := (node.target delimiter).2
  type := typeOf node.info
  annotation := (text? node.info "annotation").getD ""
  required := flag node.info "occurence"

/-- Whether the external id is derived from the column. -/
def isSource (node : Scalar) : Bool := flag node.info "external_id"

end Scalar

inductive Node where
  /-- An entity, on top or in another one. -/
  | entity (parent? : Option String) (name : String) (info : List (String × Json))
  | scalar (node : Scalar)

namespace Node

def scalar? : Node → Option Scalar
  | entity _ _ _ => none
  | scalar node => some node

/-- What the node says. -/
def findings (delimiter : String) : Node → List Finding
  | entity none name info => [.entity name (text? info "annotation")]
  | entity (some parent) name info =>
    [.nesting parent name (flag info "value_column"), .entity name (text? info "annotation")]
  | scalar node => [.column (node.target delimiter).1 (node.column delimiter) node.isSource]

end Node

mutual

/-- The nodes in an entity, and below. -/
def nodesIn (entity : String) : Json → List Node
  | .object members => memberNodes entity members
  | _ => []

/-- The nodes that the members of an entity are, and those below. -/
def memberNodes (parent : String) : List (String × Json) → List Node
  | [] => []
  | (key, child) :: members =>
    if key = infoKey then memberNodes parent members
    else if TypeTag.ofSpelling? (typeOf (infoOf child)) = some .object then
      .entity (some parent) key (infoOf child) :: nodesIn key child ++ memberNodes parent members
    else .scalar { parent, key, info := infoOf child } :: memberNodes parent members

end

/-- All nodes of a mapping. -/
def nodes (mapping : Json) : List Node :=
  match mapping.sorted with
  | .object roots =>
    roots.flatMap fun root => .entity none root.1 (infoOf root.2) :: nodesIn root.1 root.2
  | _ => []

/-- All nodes of a mapping that are columns. -/
def scalars (mapping : Json) : List Scalar := (nodes mapping).filterMap Node.scalar?

variable {delimiter : String} {found : List Finding}

theorem infoOf_eq_of_collected {name : String} {node : Json} {info : List (String × Json)}
    (h : collected name node = .ok info) : infoOf node = info := by
  unfold collected at h
  split at h
  next members =>
    split at h
    next hinfo =>
      cases h
      simp [infoOf, Json.asObject?, hinfo]
    · cases h
  · cases h

mutual

theorem eq_flatMap_of_entityFindings (node : Json) {name : String} {found : List Finding}
    (h : entityFindings delimiter name node = .ok found) :
    found = .entity name (text? (infoOf node) "annotation") ::
      (nodesIn name node).flatMap (Node.findings delimiter) := by
  obtain ⟨members, info, below, rfl, hinfo, hmembers, rfl⟩ := entityFindings_eq_ok_iff.1 h
  rw [nodesIn, ← eq_flatMap_of_memberFindings members hmembers]
  simp [infoOf, Json.asObject?, hinfo]

theorem eq_flatMap_of_memberFindings (members : List (String × Json)) {parent : String}
    {found : List Finding} (h : memberFindings delimiter parent members = .ok found) :
    found = (memberNodes parent members).flatMap (Node.findings delimiter) := by
  match members with
  | [] =>
      cases h
      rfl
  | (key, child) :: members =>
      by_cases hkey : key = infoKey
      · rw [hkey, memberFindings_infoKey] at h
        rw [memberNodes, if_pos hkey]
        exact eq_flatMap_of_memberFindings members h
      obtain ⟨info, type, here, rest, hinfo, htype, hrest, rfl, hhere⟩ :=
        (memberFindings_cons_eq_ok_iff hkey).1 h
      obtain rfl := infoOf_eq_of_collected hinfo
      obtain rfl : typeOf (infoOf child) = type := by rw [typeOf, htype, Option.getD_some]
      rw [memberNodes, if_neg hkey, eq_flatMap_of_memberFindings members hrest]
      rcases hhere with ⟨hobject, below, hbelow, rfl⟩ | ⟨hscalar, rfl⟩
      · rw [if_pos hobject, eq_flatMap_of_entityFindings child hbelow, List.flatMap_append]
        rfl
      · rw [if_neg hscalar, List.flatMap_cons]
        rfl

end

theorem eq_flatMap_of_rootFindings {roots : List (String × Json)}
    (h : rootFindings delimiter roots = .ok found) :
    found = (roots.flatMap fun root =>
      .entity none root.1 (infoOf root.2) :: nodesIn root.1 root.2).flatMap
        (Node.findings delimiter) := by
  induction roots generalizing found with
  | nil =>
      cases h
      rfl
  | cons root roots ih =>
      obtain ⟨here, rest, hhere, hrest, rfl⟩ := rootFindings_cons_eq_ok_iff.1 h
      rw [ih hrest, eq_flatMap_of_entityFindings root.2 hhere, List.flatMap_cons, List.flatMap_append]
      rfl

theorem eq_flatMap_of_findings {mapping : Json} (h : findings delimiter mapping = .ok found) :
    found = (nodes mapping).flatMap (Node.findings delimiter) := by
  unfold findings at h
  unfold nodes
  cases hroots : mapping.sorted with
  | object roots =>
      rw [hroots] at h
      exact eq_flatMap_of_rootFindings h
  | _ =>
      rw [hroots] at h
      cases h

end Mapping

end EntitySchema
