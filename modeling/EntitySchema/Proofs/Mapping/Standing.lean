import EntitySchema.Proofs.Json.Sorting
import EntitySchema.Proofs.Mapping.Nodes

/-!
# Where nodes stand

An entity stands on top of a mapping or in another entity, however deep, and each entity has the columns
that stand directly in it. The list of the nodes holds all that stands in the mapping and nothing else, and
the columns of one entity keep their order in it.
-/

namespace EntitySchema

namespace Mapping

variable {whole node : Json} {parent? : Option String} {name key : String}
  {members : List (String × Json)}

/-- The node says of itself that it is an entity. -/
def IsObject (node : Json) : Prop := TypeTag.ofSpelling? (typeOf (infoOf node)) = some .object

instance (node : Json) : Decidable (IsObject node) :=
  inferInstanceAs (Decidable (TypeTag.ofSpelling? (typeOf (infoOf node)) = some .object))

/-- The node is an entity of that name, on top of the value or in the entity `parent?`. -/
inductive Stands (whole : Json) : (parent? : Option String) → (name : String) → (node : Json) → Prop where
  | top {roots : List (String × Json)} {name : String} {node : Json} (hwhole : whole = .object roots)
      (hmem : (name, node) ∈ roots) : Stands whole none name node
  | inside {parent? : Option String} {name key : String} {members : List (String × Json)}
      {child : Json} (h : Stands whole parent? name (.object members))
      (hmem : (key, child) ∈ members) (hkey : key ≠ infoKey) (hobject : IsObject child) :
      Stands whole (some name) key child

theorem Stands.exists_parent {parent : String} (h : Stands whole (some parent) name node) :
    ∃ parent? owner, Stands whole parent? parent owner := by
  cases h with
  | inside hparent => exact ⟨_, _, hparent⟩

/-- The column that a member of an entity is, if it is one. -/
def scalar? (parent : String) (member : String × Json) : Option Scalar :=
  if member.1 = infoKey ∨ IsObject member.2 then none
  else some { parent, key := member.1, info := infoOf member.2 }

/-- The columns that stand directly in an entity. -/
def scalarsOf (name : String) (node : Json) : List Scalar :=
  (node.asObject?.getD []).filterMap (scalar? name)

theorem parent_of_mem_scalarsOf {column : Scalar} (h : column ∈ scalarsOf name node) :
    column.parent = name := by
  obtain ⟨member, -, hscalar⟩ := List.mem_filterMap.1 h
  unfold scalar? at hscalar
  split at hscalar
  · cases hscalar
  · cases hscalar
    rfl

/-- The nodes that a member of an entity contributes. -/
def nodesOf (parent : String) (member : String × Json) : List Node :=
  if member.1 = infoKey then []
  else if IsObject member.2 then
    .entity (some parent) member.1 (infoOf member.2) :: nodesIn member.1 member.2
  else [.scalar { parent, key := member.1, info := infoOf member.2 }]

theorem memberNodes_eq_flatMap (parent : String) (members : List (String × Json)) :
    memberNodes parent members = members.flatMap (nodesOf parent) := by
  induction members with
  | nil => rfl
  | cons member members ih =>
      obtain ⟨key, child⟩ := member
      rw [memberNodes, List.flatMap_cons, ih, nodesOf]
      by_cases hkey : key = infoKey
      · rw [if_pos hkey, if_pos hkey, List.nil_append]
      · rw [if_neg hkey, if_neg hkey]
        by_cases hobject : IsObject child
        · rw [if_pos hobject]
          exact if_pos hobject
        · rw [if_neg hobject]
          exact if_neg hobject

/-- The nodes of a value, with the members in the order in which they are written. -/
def listed (whole : Json) : List Node :=
  (whole.asObject?.getD []).flatMap fun root =>
    .entity none root.1 (infoOf root.2) :: nodesIn root.1 root.2

theorem nodes_eq_listed (mapping : Json) : nodes mapping = listed mapping.sorted := by
  unfold nodes listed
  cases mapping.sorted <;> rfl

/-- The node stands in the value. -/
def Node.StandsIn (whole : Json) : Node → Prop
  | entity parent? name info => ∃ node, Stands whole parent? name node ∧ infoOf node = info
  | scalar column => ∃ parent? node, Stands whole parent? column.parent node ∧
      column ∈ scalarsOf column.parent node

theorem standsIn_of_mem_nodesIn : ∀ (node : Json) {parent? : Option String} {name : String},
    Stands whole parent? name node → ∀ found ∈ nodesIn name node, found.StandsIn whole := by
  -- The induction is on the value, wherever it stands in the whole.
  apply Json.induction_on_members
  intro node ih parent? name hstands found hfound
  cases node with
  | object members =>
      rw [nodesIn, memberNodes_eq_flatMap, List.mem_flatMap] at hfound
      obtain ⟨⟨key, child⟩, hmem, hfound⟩ := hfound
      unfold nodesOf at hfound
      split at hfound
      · cases hfound
      next hkey =>
        split at hfound
        next hobject =>
          have hchild := hstands.inside hmem hkey hobject
          rcases List.mem_cons.1 hfound with rfl | hbelow
          · exact ⟨child, hchild, rfl⟩
          · exact ih members rfl (key, child) hmem hchild found hbelow
        next hscalar =>
          obtain rfl := List.mem_singleton.1 hfound
          refine ⟨parent?, .object members, hstands, List.mem_filterMap.2 ⟨(key, child), hmem, ?_⟩⟩
          exact if_neg (not_or.2 ⟨hkey, hscalar⟩)
  | _ => cases hfound

theorem standsIn_of_mem_listed {found : Node} (h : found ∈ listed whole) : found.StandsIn whole := by
  obtain ⟨⟨name, node⟩, hmem, hfound⟩ := List.mem_flatMap.1 h
  cases whole with
  | object roots =>
      have hstands : Stands (.object roots) none name node := .top rfl hmem
      rcases List.mem_cons.1 hfound with rfl | hbelow
      · exact ⟨node, hstands, rfl⟩
      · exact standsIn_of_mem_nodesIn node hstands found hbelow
  | _ => cases hmem

theorem Stands.sublist_listed (h : Stands whole parent? name node) :
    (Node.entity parent? name (infoOf node) :: nodesIn name node).Sublist (listed whole) := by
  induction h with
  | @top roots name node hwhole hmem =>
      subst hwhole
      apply List.sublist_flatten_of_mem
      exact List.mem_map.2 ⟨(name, node), hmem, rfl⟩
  | @inside parent? name key members child _ hmem hkey hobject ih =>
      have hmember : nodesOf name (key, child) =
          .entity (some name) key (infoOf child) :: nodesIn key child := by
        rw [nodesOf, if_neg hkey, if_pos hobject]
      refine List.Sublist.trans ?_ ((List.sublist_cons_self _ _).trans ih)
      rw [nodesIn, memberNodes_eq_flatMap]
      apply List.sublist_flatten_of_mem
      exact List.mem_map.2 ⟨(key, child), hmem, hmember⟩

theorem scalarsOf_sublist (name : String) (node : Json) :
    (scalarsOf name node).Sublist ((nodesIn name node).filterMap Node.scalar?) := by
  cases node with
  | object members =>
      rw [nodesIn, memberNodes_eq_flatMap, scalarsOf, Json.asObject?, Option.getD_some]
      induction members with
      | nil => exact .slnil
      | cons member members ih =>
          rw [List.flatMap_cons, List.filterMap_append]
          have hmember : (scalar? name member).toList.Sublist
              ((nodesOf name member).filterMap Node.scalar?) := by
            unfold scalar? nodesOf
            by_cases hkey : member.1 = infoKey
            · simp [hkey]
            · by_cases hobject : IsObject member.2
              · simp [hobject]
              · simp [hkey, hobject, Node.scalar?]
          have hcons : (member :: members).filterMap (scalar? name) =
              (scalar? name member).toList ++ members.filterMap (scalar? name) := by
            rw [List.filterMap_cons]
            cases scalar? name member <;> rfl
          rw [hcons]
          exact hmember.append ih
  | _ => exact List.nil_sublist _

theorem Stands.scalarsOf_sublist (h : Stands whole parent? name node) :
    (scalarsOf name node).Sublist ((listed whole).filterMap Node.scalar?) :=
  (Mapping.scalarsOf_sublist name node).trans
    (((List.sublist_cons_self _ _).trans h.sublist_listed).filterMap _)

theorem mem_listed_entity_iff {info : List (String × Json)} :
    Node.entity parent? name info ∈ listed whole ↔
      ∃ node, Stands whole parent? name node ∧ infoOf node = info := by
  constructor
  · exact standsIn_of_mem_listed
  · rintro ⟨node, hstands, rfl⟩
    exact hstands.sublist_listed.subset List.mem_cons_self

theorem mem_listed_scalar_iff {column : Scalar} :
    Node.scalar column ∈ listed whole ↔ ∃ parent? node, Stands whole parent? column.parent node ∧
      column ∈ scalarsOf column.parent node := by
  constructor
  · exact standsIn_of_mem_listed
  · rintro ⟨parent?, node, hstands, hmem⟩
    obtain ⟨found, hfound, hscalar⟩ := List.mem_filterMap.1 (hstands.scalarsOf_sublist.subset hmem)
    cases found with
    | entity _ _ _ => cases hscalar
    | scalar _ =>
        cases hscalar
        exact hfound

end Mapping

end EntitySchema
