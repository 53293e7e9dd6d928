import EntitySchema.Proofs.Json.Reading
import EntitySchema.Schema.Json

/-!
# The text of a schema

A schema in its JSON form has no numbers and few levels, so its printed text is read back as the same
schema. Different schemas therefore have different texts.
-/

namespace EntitySchema

open Json (Plain ofOption plain_object plain_array_map)

theorem Json.plain_ofOption {α : Type} {encode : α → Json} {limit : Nat}
    (h : ∀ a, (encode a).Plain limit) (a? : Option α) : (ofOption encode a?).Plain limit := by
  cases a? with
  | none => trivial
  | some a => exact h a

theorem ColumnReference.plain_toJson (limit : Nat) (r : ColumnReference) :
    r.toJson.Plain (limit + 1) :=
  plain_object (by simp)

theorem TableColumn.plain_toJson (limit : Nat) (c : TableColumn) : c.toJson.Plain (limit + 2) := by
  have hdefault := Json.plain_ofOption (fun d : ColumnDefault => Json.plain_string (limit + 1) d.name)
    c.default?
  have hreferences := Json.plain_ofOption (ColumnReference.plain_toJson limit) c.references?
  exact plain_object (by simp [hdefault, hreferences])

theorem Table.plain_toJson (limit : Nat) (t : Table) : t.toJson.Plain (limit + 4) := by
  have hcolumns := plain_array_map (TableColumn.plain_toJson limit) t.columns
  exact plain_object (by simp [Json.ofList, hcolumns])

theorem Relationship.plain_toJson (limit : Nat) (r : Relationship) : r.toJson.Plain (limit + 1) :=
  plain_object (by simp)

theorem EntityTables.plain_toJson (limit : Nat) (e : EntityTables) : e.toJson.Plain (limit + 5) := by
  have hprimary := e.primary.plain_toJson limit
  have harchive := e.archive.plain_toJson limit
  have hrelationships := plain_array_map (Relationship.plain_toJson (limit + 2)) e.relationships
  exact plain_object (by simp [Json.ofList, hprimary, harchive, hrelationships])

theorem AssociationColumn.plain_toJson (limit : Nat) (c : AssociationColumn) :
    c.toJson.Plain (limit + 1) :=
  plain_object (by simp)

theorem Association.plain_toJson (limit : Nat) (a : Association) : a.toJson.Plain (limit + 2) := by
  have howner := a.owner.plain_toJson limit
  have hother := a.other.plain_toJson limit
  exact plain_object (by simp [howner, hother])

theorem ExternalId.Derivation.plain_toJson (limit : Nat) (d : ExternalId.Derivation) :
    d.toJson.Plain (limit + 2) := by
  cases d with
  | direct source => exact plain_object (by simp)
  | contentHash sources =>
      have hsources := plain_array_map (Json.plain_string limit) sources
      exact plain_object (by simp [Json.ofList, hsources])

theorem ExternalId.Trigger.plain_toJson (limit : Nat) (t : ExternalId.Trigger) :
    t.toJson.Plain (limit + 3) := by
  have hderivation := t.derivation.plain_toJson limit
  exact plain_object (by simp [hderivation])

theorem ArchiveTrigger.plain_toJson (limit : Nat) (t : ArchiveTrigger) :
    t.toJson.Plain (limit + 1) :=
  plain_object (by simp)

namespace Schema

theorem plain_toJson (s : Schema) : s.toJson.Plain 7 := by
  have hschemas := plain_array_map (Json.plain_string 5) s.schemas
  have hentities := plain_array_map (EntityTables.plain_toJson 0) s.entities
  have hassociations := plain_array_map (Association.plain_toJson 3) s.associations
  have hexternalIds := plain_array_map (ExternalId.Trigger.plain_toJson 2) s.externalIdTriggers
  have harchive := plain_array_map (ArchiveTrigger.plain_toJson 4) s.archiveTriggers
  exact plain_object (by
    simp [Json.ofList, hschemas, hentities, hassociations, hexternalIds, harchive])

theorem writes_jsonText (s : Schema) : Json.Writes s.jsonText.toList s.toJson.tokens := by
  have hnewline : Json.Writes ['\n'] [] := .blank (by decide) .nil
  rw [jsonText, String.toList_append]
  exact List.append_nil s.toJson.tokens ▸ (Json.writes_print s.plain_toJson).append hnewline

/-- The schema that a text describes. -/
def ofText? (text : String) : Option Schema := (Json.ofText? text).bind ofJson?

theorem ofText?_jsonText (s : Schema) : ofText? s.jsonText = some s := by
  rw [ofText?, Json.ofText?_of_writes s.plain_toJson (by decide) s.writes_jsonText, Option.bind_some,
    ofJson?_toJson]

/-- The text of a schema tells the whole schema. -/
theorem lossless_jsonText (s t : Schema) :
    ofText? s.jsonText = some s ∧ (s.jsonText = t.jsonText ↔ s = t) := by
  refine ⟨ofText?_jsonText s, fun htext => ?_, fun h => h ▸ rfl⟩
  have hread : some s = some t := by rw [← ofText?_jsonText s, htext, ofText?_jsonText]
  exact Option.some.inj hread

end Schema

end EntitySchema
