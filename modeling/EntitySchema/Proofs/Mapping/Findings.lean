import EntitySchema.Mapping.Finding

/-!
# Findings of mappings

The findings of a node are taken apart node by node. A node of type object is never reported as a
column, however deep it stands and to whichever entity its path assigns it.
-/

namespace EntitySchema

namespace Mapping

variable {delimiter : String} {found : List Finding}

theorem entityFindings_eq_ok_iff {name : String} {node : Json} :
    entityFindings delimiter name node = .ok found ↔
      ∃ members info findings, node = .object members ∧
        (Json.member? members infoKey).bind Json.asObject? = some info ∧
        memberFindings delimiter name members = .ok findings ∧
        found = .entity name (text? info "annotation") :: findings := by
  constructor
  · intro h
    cases node with
    | object members =>
        rw [entityFindings] at h
        split at h
        · cases h
        next info hinfo =>
          split at h
          · cases h
          next findings hmembers =>
            cases h
            exact ⟨members, info, findings, rfl, hinfo, hmembers, rfl⟩
    | _ => cases h
  · rintro ⟨members, info, findings, rfl, hinfo, hmembers, rfl⟩
    simp only [entityFindings, hinfo, hmembers]

theorem memberFindings_infoKey (parent : String) (child : Json) (members : List (String × Json)) :
    memberFindings delimiter parent ((infoKey, child) :: members) =
      memberFindings delimiter parent members := by
  rw [memberFindings, if_pos rfl]

theorem memberFindings_cons_eq_ok_iff {parent key : String} {child : Json}
    {members : List (String × Json)} (hkey : key ≠ infoKey) :
    memberFindings delimiter parent ((key, child) :: members) = .ok found ↔
      ∃ info type here rest, collected key child = .ok info ∧ text? info "type" = some type ∧
        memberFindings delimiter parent members = .ok rest ∧ found = here ++ rest ∧
        (TypeTag.ofSpelling? type = some .object ∧
            (∃ below, entityFindings delimiter key child = .ok below ∧
              here = .nesting parent key (flag info "value_column") :: below) ∨
          TypeTag.ofSpelling? type ≠ some .object ∧
            here = [columnFinding delimiter parent key type info]) := by
  rw [memberFindings, if_neg hkey]
  constructor
  · intro h
    split at h
    · cases h
    next info hinfo =>
      split at h
      · cases h
      next type htype =>
        split at h
        next hobject =>
          split at h
          · cases h
          next below hbelow =>
            split at h
            · cases h
            next rest hrest =>
              cases h
              exact ⟨info, type, _, rest, hinfo, htype, hrest, rfl,
                .inl ⟨hobject, below, hbelow, rfl⟩⟩
        next hscalar =>
          split at h
          · cases h
          next rest hrest =>
            cases h
            exact ⟨info, type, _, rest, hinfo, htype, hrest, List.singleton_append.symm,
              .inr ⟨hscalar, rfl⟩⟩
  · rintro ⟨info, type, here, rest, hinfo, htype, hrest, rfl, ⟨hobject, below, hbelow, rfl⟩ |
      ⟨hscalar, rfl⟩⟩
    · simp only [hinfo, htype, hobject, hbelow, hrest, ↓reduceIte, List.cons_append]
    · simp only [hinfo, htype, hscalar, hrest, ↓reduceIte, List.singleton_append]

theorem rootFindings_cons_eq_ok_iff {name : String} {node : Json} {roots : List (String × Json)} :
    rootFindings delimiter ((name, node) :: roots) = .ok found ↔
      ∃ here rest, entityFindings delimiter name node = .ok here ∧
        rootFindings delimiter roots = .ok rest ∧ found = here ++ rest := by
  rw [rootFindings]
  constructor
  · intro h
    split at h
    · cases h
    next here hhere =>
      split at h
      · cases h
      next rest hrest =>
        cases h
        exact ⟨here, rest, hhere, hrest, rfl⟩
  · rintro ⟨here, rest, hhere, hrest, rfl⟩
    simp only [hhere, hrest]

/-- What is found is no column of type object. -/
def Finding.IsScalar : Finding → Prop
  | .column _ met _ => met.tag? ≠ some .object
  | .entity _ _ | .nesting _ _ _ => True

theorem isScalar_columnFinding {type : String} (h : TypeTag.ofSpelling? type ≠ some .object)
    (parent key : String) (info : List (String × Json)) :
    (columnFinding delimiter parent key type info).IsScalar := h

mutual

theorem isScalar_of_entityFindings (node : Json) {name : String} {found : List Finding}
    (h : entityFindings delimiter name node = .ok found) : ∀ finding ∈ found, finding.IsScalar := by
  obtain ⟨members, info, findings, rfl, -, hmembers, rfl⟩ := entityFindings_eq_ok_iff.1 h
  refine List.forall_mem_cons.2 ⟨trivial, ?_⟩
  exact isScalar_of_memberFindings members hmembers

theorem isScalar_of_memberFindings (members : List (String × Json)) {parent : String}
    {found : List Finding} (h : memberFindings delimiter parent members = .ok found) :
    ∀ finding ∈ found, finding.IsScalar := by
  match members with
  | [] =>
      cases h
      exact List.forall_mem_nil _
  | (key, child) :: members =>
      by_cases hkey : key = infoKey
      · rw [hkey, memberFindings_infoKey] at h
        exact isScalar_of_memberFindings members h
      obtain ⟨info, type, here, rest, -, -, hrest, rfl, hhere⟩ :=
        (memberFindings_cons_eq_ok_iff hkey).1 h
      rw [List.forall_mem_append]
      refine ⟨?_, isScalar_of_memberFindings members hrest⟩
      rcases hhere with ⟨-, below, hbelow, rfl⟩ | ⟨hscalar, rfl⟩
      · exact List.forall_mem_cons.2 ⟨trivial, isScalar_of_entityFindings child hbelow⟩
      · exact List.forall_mem_singleton.2 (isScalar_columnFinding hscalar parent key info)

end

theorem isScalar_of_rootFindings {roots : List (String × Json)}
    (h : rootFindings delimiter roots = .ok found) : ∀ finding ∈ found, finding.IsScalar := by
  induction roots generalizing found with
  | nil =>
      cases h
      exact List.forall_mem_nil _
  | cons root roots ih =>
      obtain ⟨here, rest, hhere, hrest, rfl⟩ := rootFindings_cons_eq_ok_iff.1 h
      exact List.forall_mem_append.2 ⟨isScalar_of_entityFindings root.2 hhere, ih hrest⟩

theorem isScalar_of_findings {mapping : Json} (h : findings delimiter mapping = .ok found) :
    ∀ finding ∈ found, finding.IsScalar := by
  unfold findings at h
  split at h
  · exact isScalar_of_rootFindings h
  · cases h

end Mapping

end EntitySchema
