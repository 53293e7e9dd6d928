import EntitySchema.Schema.Basic
import EntitySchema.Json.Printer

/-!
# Schemas as JSON

The JSON form of a schema, with all members always present and in a fixed order, and the schema that
a JSON value in that form describes.
-/

namespace EntitySchema

namespace Json

/-- The null value for nothing. -/
def ofOption {α : Type} (encode : α → Json) : Option α → Json
  | none => .null
  | some a => encode a

/-- An array of encoded items. -/
def ofList {α : Type} (encode : α → Json) (items : List α) : Json := .array (items.map encode)

/-- Nothing for the null value. -/
def toOption? {α : Type} (decode : Json → Option α) : Json → Option (Option α)
  | .null => some none
  | json => (decode json).map some

/-- The decoded items, if all can be decoded. -/
def decodeEach {α : Type} (decode : Json → Option α) : List Json → Option (List α)
  | [] => some []
  | item :: items => do return (← decode item) :: (← decodeEach decode items)

/-- The decoded items of an array. -/
def toList? {α : Type} (decode : Json → Option α) (json : Json) : Option (List α) :=
  json.asArray?.bind (decodeEach decode)

/-- The decoded member with a key. -/
def decodeMember {α : Type} (decode : Json → Option α) (members : List (String × Json))
    (key : String) : Option α :=
  (member? members key).bind decode

def textMember (members : List (String × Json)) (key : String) : Option String :=
  decodeMember asString? members key

def boolMember (members : List (String × Json)) (key : String) : Option Bool :=
  decodeMember asBool? members key

theorem toOption?_ofOption {α : Type} {encode : α → Json} {decode : Json → Option α}
    (hnull : ∀ a, encode a ≠ .null) (h : ∀ a, decode (encode a) = some a) (a? : Option α) :
    toOption? decode (ofOption encode a?) = some a? := by
  match a? with
  | none => rfl
  | some a =>
    have : toOption? decode (encode a) = (decode (encode a)).map some := by
      unfold toOption?
      split
      next he => exact absurd he (hnull a)
      next => rfl
    rw [ofOption, this, h, Option.map_some]

theorem toList?_ofList {α : Type} {encode : α → Json} {decode : Json → Option α}
    (h : ∀ a, decode (encode a) = some a) (items : List α) :
    toList? decode (ofList encode items) = some items := by
  change decodeEach decode (items.map encode) = some items
  induction items with
  | nil => rfl
  | cons item items ih => rw [List.map_cons, decodeEach, h, ih]; rfl

@[simp] theorem asObject?_object (members : List (String × Json)) :
    (object members).asObject? = some members := rfl

@[simp] theorem asString?_string (text : String) : (string text).asString? = some text := rfl

@[simp] theorem asBool?_bool (value : Bool) : (bool value).asBool? = some value := rfl

@[simp] theorem decodeMember_nil {α : Type} (decode : Json → Option α) (key : String) :
    decodeMember decode [] key = none := rfl

@[simp] theorem decodeMember_cons {α : Type} (decode : Json → Option α) (first : String × Json)
    (members : List (String × Json)) (key : String) :
    decodeMember decode (first :: members) key =
      if first.1 = key then decode first.2 else decodeMember decode members key := by
  by_cases h : first.1 = key <;> simp [decodeMember, member?, NameMap.lookup?, h]

end Json

open Json (ofOption ofList toOption? toList? decodeMember textMember boolMember toOption?_ofOption
  toList?_ofList)

namespace ColumnReference

def toJson (r : ColumnReference) : Json :=
  .object [("schema", .string r.schema), ("table", .string r.table), ("column", .string r.column)]

def ofJson? (json : Json) : Option ColumnReference := do
  let members ← json.asObject?
  return ⟨← textMember members "schema", ← textMember members "table",
    ← textMember members "column"⟩

theorem ofJson?_toJson (r : ColumnReference) : ofJson? r.toJson = some r := by
  simp [toJson, ofJson?, textMember]

end ColumnReference

namespace TableColumn

def toJson (c : TableColumn) : Json :=
  .object
    [("name", .string c.name), ("kind", .string c.kind.name), ("sql_type", .string c.sqlType),
     ("nullable", .bool c.nullable), ("primary_key", .bool c.primaryKey),
     ("unique", .bool c.unique), ("default", ofOption (fun d => .string d.name) c.default?),
     ("references", ofOption ColumnReference.toJson c.references?),
     ("annotation", .string c.annotation)]

def ofJson? (json : Json) : Option TableColumn := do
  let members ← json.asObject?
  return {
    name := ← textMember members "name"
    kind := ← ColumnKind.ofName? (← textMember members "kind")
    sqlType := ← textMember members "sql_type"
    nullable := ← boolMember members "nullable"
    primaryKey := ← boolMember members "primary_key"
    unique := ← boolMember members "unique"
    default? := ← decodeMember (toOption? fun j => j.asString?.bind ColumnDefault.ofName?) members
      "default"
    references? := ← decodeMember (toOption? ColumnReference.ofJson?) members "references"
    annotation := ← textMember members "annotation" }

theorem ofJson?_toJson (c : TableColumn) : ofJson? c.toJson = some c := by
  have hdefault : toOption? (fun j => j.asString?.bind ColumnDefault.ofName?)
      (ofOption (fun d => .string d.name) c.default?) = some c.default? := by
    refine toOption?_ofOption (fun d => ?_) ColumnDefault.ofName?_name c.default?
    exact Json.noConfusion
  have hreferences : toOption? ColumnReference.ofJson?
      (ofOption ColumnReference.toJson c.references?) = some c.references? := by
    refine toOption?_ofOption (fun r => ?_) ColumnReference.ofJson?_toJson c.references?
    exact Json.noConfusion
  simp [toJson, ofJson?, textMember, boolMember, ColumnKind.ofName?_name, hdefault, hreferences]

end TableColumn

namespace Table

def toJson (t : Table) : Json :=
  .object
    [("schema", .string t.schema), ("name", .string t.name),
     ("columns", ofList TableColumn.toJson t.columns)]

def ofJson? (json : Json) : Option Table := do
  let members ← json.asObject?
  return ⟨← textMember members "schema", ← textMember members "name",
    ← decodeMember (toList? TableColumn.ofJson?) members "columns"⟩

theorem ofJson?_toJson (t : Table) : ofJson? t.toJson = some t := by
  simp [toJson, ofJson?, textMember, toList?_ofList TableColumn.ofJson?_toJson]

end Table

namespace Relationship

def toJson (r : Relationship) : Json :=
  .object
    [("attribute", .string r.attributeName), ("target", .string r.target),
     ("association_table", .string r.associationTable), ("local_column", .string r.localColumn),
     ("remote_column", .string r.remoteColumn)]

def ofJson? (json : Json) : Option Relationship := do
  let members ← json.asObject?
  return ⟨← textMember members "attribute", ← textMember members "target",
    ← textMember members "association_table", ← textMember members "local_column",
    ← textMember members "remote_column"⟩

theorem ofJson?_toJson (r : Relationship) : ofJson? r.toJson = some r := by
  simp [toJson, ofJson?, textMember]

end Relationship

namespace EntityTables

def toJson (e : EntityTables) : Json :=
  .object
    [("entity", .string e.entity), ("annotation", .string e.annotation),
     ("primary", e.primary.toJson), ("archive", e.archive.toJson),
     ("relationships", ofList Relationship.toJson e.relationships)]

def ofJson? (json : Json) : Option EntityTables := do
  let members ← json.asObject?
  return ⟨← textMember members "entity", ← textMember members "annotation",
    ← decodeMember Table.ofJson? members "primary", ← decodeMember Table.ofJson? members "archive",
    ← decodeMember (toList? Relationship.ofJson?) members "relationships"⟩

theorem ofJson?_toJson (e : EntityTables) : ofJson? e.toJson = some e := by
  simp [toJson, ofJson?, textMember, Table.ofJson?_toJson,
    toList?_ofList Relationship.ofJson?_toJson]

end EntityTables

namespace AssociationColumn

def toJson (c : AssociationColumn) : Json :=
  .object
    [("name", .string c.name), ("entity", .string c.entity), ("references_table", .string c.table),
     ("references_column", .string c.key)]

def ofJson? (json : Json) : Option AssociationColumn := do
  let members ← json.asObject?
  return ⟨← textMember members "name", ← textMember members "entity",
    ← textMember members "references_table", ← textMember members "references_column"⟩

theorem ofJson?_toJson (c : AssociationColumn) : ofJson? c.toJson = some c := by
  simp [toJson, ofJson?, textMember]

end AssociationColumn

namespace Association

def toJson (a : Association) : Json :=
  .object
    [("name", .string a.name), ("owner", a.owner.toJson), ("other", a.other.toJson),
     ("is_self_relation", .bool a.isSelfRelation)]

def ofJson? (json : Json) : Option Association := do
  let members ← json.asObject?
  return ⟨← textMember members "name", ← decodeMember AssociationColumn.ofJson? members "owner",
    ← decodeMember AssociationColumn.ofJson? members "other",
    ← boolMember members "is_self_relation"⟩

theorem ofJson?_toJson (a : Association) : ofJson? a.toJson = some a := by
  simp [toJson, ofJson?, textMember, boolMember, AssociationColumn.ofJson?_toJson]

end Association

namespace ExternalId.Event

def name : Event → String
  | insert => "insert"
  | update => "update"

def ofName? (name : String) : Option Event := [insert, update].find? (·.name = name)

theorem ofName?_name (event : Event) : ofName? event.name = some event := by
  cases event <;> decide

end ExternalId.Event

namespace ExternalId.Derivation

/-- The JSON form of a derivation, which tells its kind first. -/
def toJson : Derivation → Json
  | direct source => .object [("kind", .string "direct"), ("source", .string source)]
  | contentHash sources =>
    .object [("kind", .string "content_hash"), ("sources", ofList .string sources)]

def ofJson? (json : Json) : Option Derivation := do
  let members ← json.asObject?
  let kind ← textMember members "kind"
  if kind = "direct" then
    return direct (← textMember members "source")
  else if kind = "content_hash" then
    return contentHash (← decodeMember (toList? Json.asString?) members "sources")
  else
    none

theorem ofJson?_toJson (d : Derivation) : ofJson? d.toJson = some d := by
  cases d with
  | direct source => simp [toJson, ofJson?, textMember]
  | contentHash sources =>
    simp [toJson, ofJson?, textMember, toList?_ofList Json.asString?_string]

end ExternalId.Derivation

namespace ExternalId.Trigger

def toJson (t : Trigger) : Json :=
  .object
    [("name", .string t.name), ("function", .string t.function), ("schema", .string t.schema),
     ("table", .string t.table), ("event", .string t.event.name),
     ("target_column", .string t.target), ("strategy", t.derivation.toJson)]

def ofJson? (json : Json) : Option Trigger := do
  let members ← json.asObject?
  return ⟨← textMember members "name", ← textMember members "function",
    ← textMember members "schema", ← textMember members "table",
    ← Event.ofName? (← textMember members "event"), ← textMember members "target_column",
    ← decodeMember Derivation.ofJson? members "strategy"⟩

theorem ofJson?_toJson (t : Trigger) : ofJson? t.toJson = some t := by
  simp [toJson, ofJson?, textMember, Event.ofName?_name, Derivation.ofJson?_toJson]

end ExternalId.Trigger

namespace ArchiveTrigger

def toJson (t : ArchiveTrigger) : Json :=
  .object
    [("name", .string t.name), ("table", .string t.table),
     ("source_schema", .string t.sourceSchema), ("archive_schema", .string t.archiveSchema),
     ("primary_key", .string t.primaryKey), ("routine", .string t.routine)]

def ofJson? (json : Json) : Option ArchiveTrigger := do
  let members ← json.asObject?
  return ⟨← textMember members "name", ← textMember members "table",
    ← textMember members "source_schema", ← textMember members "archive_schema",
    ← textMember members "primary_key", ← textMember members "routine"⟩

theorem ofJson?_toJson (t : ArchiveTrigger) : ofJson? t.toJson = some t := by
  simp [toJson, ofJson?, textMember]

end ArchiveTrigger

namespace Schema

def toJson (s : Schema) : Json :=
  .object
    [("schema", .string s.name), ("schemas", ofList .string s.schemas),
     ("entities", ofList EntityTables.toJson s.entities),
     ("associations", ofList Association.toJson s.associations),
     ("external_id_triggers", ofList ExternalId.Trigger.toJson s.externalIdTriggers),
     ("archive_triggers", ofList ArchiveTrigger.toJson s.archiveTriggers)]

def ofJson? (json : Json) : Option Schema := do
  let members ← json.asObject?
  return ⟨← textMember members "schema", ← decodeMember (toList? Json.asString?) members "schemas",
    ← decodeMember (toList? EntityTables.ofJson?) members "entities",
    ← decodeMember (toList? Association.ofJson?) members "associations",
    ← decodeMember (toList? ExternalId.Trigger.ofJson?) members "external_id_triggers",
    ← decodeMember (toList? ArchiveTrigger.ofJson?) members "archive_triggers"⟩

theorem ofJson?_toJson (s : Schema) : ofJson? s.toJson = some s := by
  simp [toJson, ofJson?, textMember, toList?_ofList Json.asString?_string,
    toList?_ofList EntityTables.ofJson?_toJson, toList?_ofList Association.ofJson?_toJson,
    toList?_ofList ExternalId.Trigger.ofJson?_toJson, toList?_ofList ArchiveTrigger.ofJson?_toJson]

/-- The printed JSON form of a schema, as a text of whole lines. -/
def jsonText (s : Schema) : String := s.toJson.print ++ "\n"

end Schema

end EntitySchema
