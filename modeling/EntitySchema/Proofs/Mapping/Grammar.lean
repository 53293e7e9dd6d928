import EntitySchema.Generation
import EntitySchema.Proofs.Json.Sorting
import EntitySchema.Proofs.Mapping.WellFormed

/-!
# The grammar of mappings

Which values are mappings is said of the value as it is written, without a walk through it: every member of
an entity tells its type, and those that are objects are entities again. What stands below any other member
is not looked at. Exactly these values have a model.
-/

namespace EntitySchema

namespace Mapping

open Json (lastMember? sortedMembers)

variable {delimiter name key : String} {members roots : List (String × Json)} {node : Json}

/-- What was collected about a node, if it is an object that has an object for it. -/
def info? (node : Json) : Option (List (String × Json)) :=
  (node.asObject?.bind (lastMember? infoKey)).bind Json.asObject?

/-- The type of a node, if it tells one. -/
def type? (node : Json) : Option String :=
  (info? node).bind fun info => (lastMember? "type" info).bind Json.asString?

/-- An entity is an object that tells what was collected about it. Each of its other members tells a type,
and is an entity if that type is object. -/
inductive IsEntity : Json → Prop where
  | intro {members : List (String × Json)} (info : (info? (.object members)).isSome)
      (typed : ∀ key child, key ≠ infoKey → lastMember? key members = some child →
        (type? child).isSome)
      (nested : ∀ key child type, key ≠ infoKey → lastMember? key members = some child →
        type? child = some type → TypeTag.ofSpelling? type = some .object → IsEntity child) :
      IsEntity (.object members)

/-- A mapping is an object of entities, under whichever keys. -/
def IsMapping (mapping : Json) : Prop :=
  ∃ roots, mapping = .object roots ∧ ∀ name node, lastMember? name roots = some node → IsEntity node

theorem text?_sortedMembers (info : List (String × Json)) (key : String) :
    text? (sortedMembers info) key = (lastMember? key info).bind Json.asString? := by
  rw [text?, Json.member?_sortedMembers]
  cases lastMember? key info with
  | none => rfl
  | some item => exact Json.asString?_sorted item

theorem member?_infoKey_sortedMembers (members : List (String × Json)) :
    (Json.member? (sortedMembers members) infoKey).bind Json.asObject? =
      (info? (.object members)).map sortedMembers := by
  rw [Json.member?_sortedMembers, info?, Json.asObject?, Option.bind_some]
  cases lastMember? infoKey members with
  | none => rfl
  | some item => exact Json.asObject?_sorted item

theorem collected_sorted_eq_ok_iff {info : List (String × Json)} :
    collected name node.sorted = .ok info ↔
      ∃ written, info? node = some written ∧ sortedMembers written = info := by
  cases node with
  | object members =>
      rw [← Option.map_eq_some_iff, ← member?_infoKey_sortedMembers, Json.sorted, collected]
      cases (Json.member? (sortedMembers members) infoKey).bind Json.asObject? <;> simp
  | _ => simp [Json.sorted, collected, info?, Json.asObject?]

theorem type?_of_info? {info : List (String × Json)} (h : info? node = some info) :
    type? node = text? (sortedMembers info) "type" := by
  rw [type?, h, Option.bind_some, text?_sortedMembers]

theorem exists_memberFindings_iff {parent : String} :
    (∃ found, memberFindings delimiter parent members = .ok found) ↔
      ∀ key child, (key, child) ∈ members → key ≠ infoKey →
        ∃ info type, collected key child = .ok info ∧ text? info "type" = some type ∧
          (TypeTag.ofSpelling? type = some .object →
            ∃ below, entityFindings delimiter key child = .ok below) := by
  induction members with
  | nil => simp [memberFindings]
  | cons member members ih =>
      obtain ⟨key, child⟩ := member
      simp only [List.mem_cons]
      by_cases hkey : key = infoKey
      · subst hkey
        rw [memberFindings_infoKey, ih]
        constructor
        · rintro h key' child' (heq | hmem) hne
          · cases heq
            exact absurd rfl hne
          · exact h key' child' hmem hne
        · exact fun h key' child' hmem => h key' child' (.inr hmem)
      · simp only [memberFindings_cons_eq_ok_iff hkey]
        constructor
        · rintro ⟨found, info, type, here, rest, hinfo, htype, hrest, -, hhere⟩
          rintro key' child' (heq | hmem) hne
          · cases heq
            refine ⟨info, type, hinfo, htype, fun hobject => ?_⟩
            rcases hhere with ⟨-, below, hbelow, -⟩ | ⟨hscalar, -⟩
            · exact ⟨below, hbelow⟩
            · exact absurd hobject hscalar
          · exact ih.1 ⟨rest, hrest⟩ key' child' hmem hne
        · intro h
          obtain ⟨info, type, hinfo, htype, hbelow⟩ := h key child (.inl rfl) hkey
          obtain ⟨rest, hrest⟩ := ih.2 fun key' child' hmem => h key' child' (.inr hmem)
          by_cases hobject : TypeTag.ofSpelling? type = some .object
          · obtain ⟨below, hbelow⟩ := hbelow hobject
            exact ⟨_, info, type, _, rest, hinfo, htype, hrest, rfl,
              .inl ⟨hobject, below, hbelow, rfl⟩⟩
          · exact ⟨_, info, type, _, rest, hinfo, htype, hrest, rfl, .inr ⟨hobject, rfl⟩⟩

/-- What an entity with these members is asked for, one level deep. -/
theorem exists_entityFindings_sorted_iff :
    (∃ found, entityFindings delimiter name (Json.object members).sorted = .ok found) ↔
      (info? (.object members)).isSome ∧
        ∀ key child, key ≠ infoKey → lastMember? key members = some child →
          ∃ type, type? child = some type ∧
            (TypeTag.ofSpelling? type = some .object →
              ∃ below, entityFindings delimiter key child.sorted = .ok below) := by
  have hmembers : (∃ found, memberFindings delimiter name (sortedMembers members) = .ok found) ↔
      ∀ key child, key ≠ infoKey → lastMember? key members = some child →
        ∃ type, type? child = some type ∧
          (TypeTag.ofSpelling? type = some .object →
            ∃ below, entityFindings delimiter key child.sorted = .ok below) := by
    rw [exists_memberFindings_iff]
    constructor
    · intro h key child hkey hlast
      obtain ⟨info, type, hinfo, htype, hbelow⟩ :=
        h key child.sorted (Json.mem_sortedMembers_iff.2 ⟨child, hlast, rfl⟩) hkey
      obtain ⟨written, hwritten, rfl⟩ := collected_sorted_eq_ok_iff.1 hinfo
      exact ⟨type, (type?_of_info? hwritten).trans htype, hbelow⟩
    · intro h key child hmem hkey
      obtain ⟨written, hlast, rfl⟩ := Json.mem_sortedMembers_iff.1 hmem
      obtain ⟨type, htype, hbelow⟩ := h key written hkey hlast
      obtain ⟨info, hinfo, -⟩ := Option.bind_eq_some_iff.1 htype
      exact ⟨_, type, collected_sorted_eq_ok_iff.2 ⟨info, hinfo, rfl⟩,
        (type?_of_info? hinfo).symm.trans htype, hbelow⟩
  rw [← hmembers, Json.sorted]
  simp only [entityFindings_eq_ok_iff, Json.object.injEq]
  constructor
  · rintro ⟨found, _, info, below, rfl, hinfo, hbelow, -⟩
    rw [member?_infoKey_sortedMembers, Option.map_eq_some_iff] at hinfo
    obtain ⟨written, hwritten, -⟩ := hinfo
    exact ⟨Option.isSome_iff_exists.2 ⟨written, hwritten⟩, below, hbelow⟩
  · rintro ⟨hinfo, below, hbelow⟩
    obtain ⟨written, hwritten⟩ := Option.isSome_iff_exists.1 hinfo
    exact ⟨_, _, sortedMembers written, below, rfl,
      by rw [member?_infoKey_sortedMembers, hwritten, Option.map_some], hbelow, rfl⟩

theorem isEntity_of_entityFindings : ∀ (node : Json) {name : String} {found : List Finding},
    entityFindings delimiter name node.sorted = .ok found → IsEntity node := by
  apply Json.induction_on_members
  intro node ih name found h
  cases node with
  | object members =>
      obtain ⟨hinfo, hmembers⟩ := exists_entityFindings_sorted_iff.1 ⟨found, h⟩
      constructor
      case info => exact hinfo
      case typed =>
        intro key child hkey hlast
        obtain ⟨type, htype, -⟩ := hmembers key child hkey hlast
        exact Option.isSome_iff_exists.2 ⟨type, htype⟩
      case nested =>
        intro key child type hkey hlast htype hobject
        obtain ⟨told, htold, hbelow⟩ := hmembers key child hkey hlast
        obtain rfl : told = type := Option.some.inj (htold.symm.trans htype)
        obtain ⟨below, hbelow⟩ := hbelow hobject
        exact ih members rfl (key, child) (Json.mem_of_lastMember? hlast) hbelow
  | _ => simp [Json.sorted, entityFindings] at h

theorem IsEntity.exists_entityFindings (h : IsEntity node) (delimiter name : String) :
    ∃ found, entityFindings delimiter name node.sorted = .ok found := by
  induction h generalizing name with
  | intro hinfo htyped _ ih =>
      refine exists_entityFindings_sorted_iff.2 ⟨hinfo, fun key child hkey hlast => ?_⟩
      obtain ⟨type, htype⟩ := Option.isSome_iff_exists.1 (htyped key child hkey hlast)
      exact ⟨type, htype, fun hobject => ih key child type hkey hlast htype hobject key⟩

theorem exists_rootFindings_iff :
    (∃ found, rootFindings delimiter roots = .ok found) ↔
      ∀ name node, (name, node) ∈ roots → ∃ found, entityFindings delimiter name node = .ok found := by
  induction roots with
  | nil => simp [rootFindings]
  | cons root roots ih =>
      obtain ⟨name, node⟩ := root
      simp only [rootFindings_cons_eq_ok_iff, List.mem_cons]
      constructor
      · rintro ⟨found, here, rest, hhere, hrest, -⟩ name' node' (heq | hmem)
        · cases heq
          exact ⟨here, hhere⟩
        · exact ih.1 ⟨rest, hrest⟩ name' node' hmem
      · intro h
        obtain ⟨here, hhere⟩ := h name node (.inl rfl)
        obtain ⟨rest, hrest⟩ := ih.2 fun name' node' hmem => h name' node' (.inr hmem)
        exact ⟨_, here, rest, hhere, hrest, rfl⟩

theorem exists_toModel_iff {mapping : Json} :
    (∃ model, toModel delimiter mapping = .ok model) ↔ IsMapping mapping := by
  have hfindings : (∃ model, toModel delimiter mapping = .ok model) ↔
      ∃ found, findings delimiter mapping = .ok found := by
    simp [toModel_eq_ok_iff]
  rw [hfindings, IsMapping, findings]
  cases mapping with
  | object roots =>
      simp only [Json.sorted, exists_rootFindings_iff, Json.object.injEq, exists_eq_left']
      constructor
      · intro h name node hlast
        obtain ⟨found, hfound⟩ := h name node.sorted (Json.mem_sortedMembers_iff.2 ⟨node, hlast, rfl⟩)
        exact isEntity_of_entityFindings node hfound
      · intro h name node hmem
        obtain ⟨written, hlast, rfl⟩ := Json.mem_sortedMembers_iff.1 hmem
        exact (h name written hlast).exists_entityFindings delimiter name
  | _ => simp [Json.sorted]

theorem ofText?_mapping {mapping : Json} {text : String} (h : Json.ofText? text = some mapping)
    (delimiter path : String) :
    Model.ofText? .mapping delimiter path (some text) =
      (toModel delimiter mapping).mapError .invalidMapping := by
  rw [Model.ofText?]
  simp only [h]
  cases toModel delimiter mapping with
  | error fault => rfl
  | ok model => rfl

/-- The value is judged by the grammar: it has a model if it is a mapping, and otherwise a fault, which is
the cause then why no file with that value can be loaded. -/
structure Judged (delimiter : String) (mapping : Json) : Prop where
  accepted_iff : (∃ model, toModel delimiter mapping = .ok model) ↔ IsMapping mapping
  refused_iff : (∃ fault, toModel delimiter mapping = .error fault) ↔ ¬ IsMapping mapping
  cause : ∀ path text error, Json.ofText? text = some mapping →
    Model.ofText? .mapping delimiter path (some text) = .error error →
      ∃ fault, error = .invalidMapping fault ∧ toModel delimiter mapping = .error fault

theorem judged (delimiter : String) (mapping : Json) : Judged delimiter mapping := by
  constructor
  case accepted_iff => exact exists_toModel_iff
  case refused_iff =>
    have haccepted : (∃ model, toModel delimiter mapping = .ok model) ↔ IsMapping mapping :=
      exists_toModel_iff
    rw [← haccepted]
    cases toModel delimiter mapping with
    | error fault => simp
    | ok model => simp
  case cause =>
    intro path text error htext herror
    rw [ofText?_mapping htext] at herror
    cases hmodel : toModel delimiter mapping with
    | error fault =>
        rw [hmodel] at herror
        cases herror
        exact ⟨fault, rfl, rfl⟩
    | ok model =>
        rw [hmodel] at herror
        cases herror

/-- On top the key of what was collected is a name like any other, and below a column anything may stand. -/
example : (toModel "" (.object [(infoKey, Mapping.node [] [
    ("size", Mapping.node [("type", .string "int")] [
      ("unit", .null), ("parts", .array [.bool true])])])])).isOk = true := by decide +kernel

end Mapping

end EntitySchema
