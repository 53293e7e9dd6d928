import EntitySchema.Generation
import EntitySchema.Proofs.NameMap
import EntitySchema.Proofs.Json.Reading

/-!
# Models written to files

The entities of a model, written as JSON in any layout, are read back as they were, with their columns,
their sources and the names in their sets. What a file with them is loaded as depends on the entities
alone.
-/

namespace EntitySchema

theorem NameSet.ofList_toList (names : NameSet) : NameSet.ofList names.toList = names :=
  NameSet.ext fun _ => NameSet.mem_ofList

namespace Json

variable {names : List String} {members : List (String × Json)}

/-- The fields of a record, as they are read from the members of an object. -/
def fieldTrees (members : List (String × Json)) : List (String × Tree) :=
  members.map fun member => (member.1, member.2.toTree)

theorem map_fst_fieldTrees (members : List (String × Json)) :
    (fieldTrees members).map Prod.fst = members.map Prod.fst := by
  rw [fieldTrees, List.map_map]
  rfl

theorem knownMembers?_memberTrees (hknown : members.map Prod.fst ⊆ names)
    (hnodup : (members.map Prod.fst).Nodup) :
    Tree.knownMembers? names (memberTrees members) = some (fieldTrees members) := by
  induction members with
  | nil => rfl
  | cons member members ih =>
      obtain ⟨key, item⟩ := member
      obtain ⟨hkey, hrest⟩ := List.cons_subset.1 hknown
      obtain ⟨hnew, hnodup⟩ := List.nodup_cons.1 hnodup
      have hlookup : NameMap.lookup? key (fieldTrees members) = none :=
        NameMap.lookup?_eq_none (map_fst_fieldTrees members ▸ hnew)
      simp only [memberTrees, Tree.knownMembers?, ih hrest hnodup, if_pos hkey, hlookup,
        Option.isSome_none, if_neg Bool.false_ne_true]
      rfl

/-- An object that has the named members in their order is read as the record of them. -/
theorem fields?_object (hnames : members.map Prod.fst = names) (hnodup : names.Nodup) :
    (object members).toTree.fields? names = some (fieldTrees members) :=
  knownMembers?_memberTrees (hnames ▸ List.Subset.refl _) (hnames ▸ hnodup)

theorem decodeEach_itemTrees {α : Type} {encode : α → Json} {decode : Tree → Option α}
    (h : ∀ a, decode (encode a).toTree = some a) (items : List α) :
    Tree.decodeEach decode (itemTrees (items.map encode)) = some items := by
  induction items with
  | nil => rfl
  | cons item items ih => simp [itemTrees, Tree.decodeEach, h, ih]

end Json

open Json (Writes fieldTrees fields?_object decodeEach_itemTrees plain_object plain_array_map)

open Json.Tree (field? fieldOr? asText? asBool? asList?)

theorem Column.ofTree?_toTree (c : Column) : Column.ofTree? c.toJson.toTree = some c := by
  rw [Column.ofTree?, toJson, fields?_object]
  case hnames => rfl
  case hnodup => decide
  rfl

theorem Entity.ofTree?_toTree (e : Entity) : Entity.ofTree? e.toJson.toTree = some e := by
  have htexts : ∀ texts : List String,
      Json.Tree.decodeEach asText? (Json.itemTrees (texts.map Json.string)) = some texts :=
    decodeEach_itemTrees fun _ => rfl
  rw [Entity.ofTree?, toJson, fields?_object]
  case hnames => rfl
  case hnodup => decide
  generalize hfields : fieldTrees _ = fields
  have hname : field? asText? fields "name" = some e.name := hfields ▸ rfl
  have hcolumns : fieldOr? [] (asList? Column.ofTree?) fields "columns" = some e.columns :=
    hfields ▸ decodeEach_itemTrees Column.ofTree?_toTree e.columns
  have hsources : fieldOr? [] (asList? asText?) fields "external_id_sources" =
      some e.externalIdSources := hfields ▸ htexts e.externalIdSources
  have hvalue : fieldOr? false asBool? fields "has_value_column" = some e.hasValueColumn :=
    hfields ▸ rfl
  have hannotation : fieldOr? "" asText? fields "annotation" = some e.annotation := hfields ▸ rfl
  have hrelated : fieldOr? [] (asList? asText?) fields "related_types" = some e.related.toList :=
    hfields ▸ htexts e.related.toList
  have howned : fieldOr? [] (asList? asText?) fields "foreign_keys" = some e.owned.toList :=
    hfields ▸ htexts e.owned.toList
  simp only [Option.bind_eq_bind, Option.bind_some, hname, hcolumns, hsources, hvalue, hannotation,
    hrelated, howned, NameSet.ofList_toList, Option.pure_def]

theorem Column.plain_toJson (limit : Nat) (c : Column) : c.toJson.Plain (limit + 1) :=
  plain_object (by simp)

theorem Entity.plain_toJson (limit : Nat) (e : Entity) : e.toJson.Plain (limit + 3) := by
  have hcolumns := plain_array_map (Column.plain_toJson limit) e.columns
  have htexts := plain_array_map (Json.plain_string (limit + 1))
  exact plain_object (by simp [hcolumns, htexts])

namespace Model

variable {entities : List Entity} {text : String}

/-- The value that a model file with the given entities holds. -/
def document (entities : List Entity) : Json :=
  .object [(entitiesField, .array (entities.map Entity.toJson))]

/-- The text is a model file with the entities, whatever blanks stand between its tokens. -/
def Documents (text : String) (entities : List Entity) : Prop :=
  Writes text.toList (document entities).tokens

theorem plain_document (entities : List Entity) : (document entities).Plain 5 := by
  have hentities := plain_array_map (Entity.plain_toJson 0) entities
  exact plain_object (by simp [hentities])

theorem documents_documentText (entities : List Entity) :
    Documents (documentText entities) entities :=
  Json.writes_print (plain_document entities)

theorem entitiesOfTree?_document (entities : List Entity) :
    entitiesOfTree? (document entities).toTree = some entities := by
  rw [entitiesOfTree?, document, fields?_object]
  case hnames => rfl
  case hnodup => decide
  exact decodeEach_itemTrees Entity.ofTree?_toTree entities

theorem entitiesOfText?_of_documents (h : Documents text entities) :
    entitiesOfText? text = some entities := by
  rw [entitiesOfText?, Json.treeOfText?_of_writes h, Option.bind_some, entitiesOfTree?_document]

theorem fromUTF8?_toUTF8 (text : String) : String.fromUTF8? text.toUTF8 = some text :=
  dif_pos text.isValidUTF8

theorem load_of_documents {files : FileTree} {path : String} (delimiter : String)
    (h : Documents text entities) (hread : files.read? path = some text.toUTF8) :
    load files .model delimiter path = (Model.ofList entities).mapError .inconsistent := by
  have htext : files.readText? path = some text := by
    rw [FileTree.readText?, hread, Option.bind_some, fromUTF8?_toUTF8]
  rw [load, htext, ofText?]
  simp only [entitiesOfText?_of_documents h]
  cases Model.ofList entities <;> rfl

/-- Entities in a file, in whichever layout, are loaded as the model that they make, or not for the
reason that they make none; the printed text is one of the layouts. -/
theorem load_documents (entities : List Entity) :
    Documents (documentText entities) entities ∧
      ∀ (files : FileTree) (path text delimiter : String), Documents text entities →
        files.read? path = some text.toUTF8 →
          load files .model delimiter path = (Model.ofList entities).mapError .inconsistent :=
  ⟨documents_documentText entities, fun _ _ _ delimiter h hread =>
    load_of_documents delimiter h hread⟩

/-- An entity whose texts have characters that are escaped, with names in all its sets. -/
def escapedEntity : Entity where
  name := "order \"line\" \\ \x07"
  columns := [{ name := "größe\n", type := " Float ", annotation := "\x7f/\x1f" },
    { name := "", type := "uuid", required := true }]
  externalIdSources := ["größe\n", "größe\n"]
  related := NameSet.ofList ["b", "a", "😀"]
  owned := NameSet.ofList ["😀"]

def fileOf (entities : List Entity) : FileTree :=
  ⟨[(["model.json"], .file (documentText entities).toUTF8)], []⟩

theorem load_documents_escaped :
    (fileOf [escapedEntity]).read? "model.json" = some (documentText [escapedEntity]).toUTF8 ∧
      load (fileOf [escapedEntity]) .model "" "model.json" =
        .ok (Model.put ∅ escapedEntity.name escapedEntity) ∧
      load (fileOf [escapedEntity, escapedEntity]) .model "" "model.json" =
        .error (.inconsistent (.repeatedEntity escapedEntity.name)) := by
  have hread : ∀ entities, (fileOf entities).read? "model.json" =
      some (documentText entities).toUTF8 := by
    intro entities
    have hlocation : (fileOf entities).fileLocation? "model.json" = some ["model.json"] := by rfl
    rw [FileTree.read?, hlocation]
    rfl
  refine ⟨hread _, ?_, ?_⟩
  · obtain ⟨hdocument, hload⟩ := load_documents [escapedEntity]
    rw [hload _ _ _ "" hdocument (hread _)]
    rfl
  · obtain ⟨hdocument, hload⟩ := load_documents [escapedEntity, escapedEntity]
    rw [hload _ _ _ "" hdocument (hread _)]
    rfl

end Model

end EntitySchema
