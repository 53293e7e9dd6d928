import Mathlib.Data.List.Nodup
import EntitySchema.Proofs.Schema.Resolution
import EntitySchema.Proofs.RowType.Sharing
import EntitySchema.Proofs.Text.Separator

/-!
# Names of columns

Each column of a table claims its name for a meaning that no other column of the table has: the role
that it plays for the entity, or the place at which it is declared. Therefore no two columns of a
table share a name. In an archive table declared columns are known by their names alone, so that it
has to rely on its primary table for them.
-/

namespace EntitySchema

open Identifier (Namer Scope)

namespace Identifier.Scope

variable {claims : List (String × String)}

theorem nodup_identifiers (h : claims.Pairwise Agree) (hmeanings : (claims.map Prod.fst).Nodup) :
    (claims.map Prod.snd).Nodup := by
  rw [nodup_identifiers_iff h]
  rw [List.nodup_iff_pairwise_ne, List.pairwise_map] at hmeanings
  apply hmeanings.imp
  intro a b hne _
  exact hne

end Identifier.Scope

/-- The letter that the meanings of columns of this kind begin with. -/
def ColumnKind.initial : ColumnKind → Char
  | primaryKey => 'p'
  | createdAt => 't'
  | externalId => 'e'
  | value => 'v'
  | scalar => 'c'
  | archivedAt => 'a'

theorem ColumnKind.initial_injective : ∀ a b : ColumnKind, a.initial = b.initial → a = b := by
  intro a b
  cases a <;> cases b <;> decide

namespace TableColumn

variable {entity : Entity} {column other : TableColumn}

theorem head?_meaning (entity : Entity) (column : TableColumn) :
    (column.meaning entity).toList.head? = some column.kind.initial := by
  unfold meaning
  cases column.kind <;> simp [meaning.ofRoleLabel, Identifier.Role.label, ColumnKind.initial]

theorem meaning_ne (h : column.kind ≠ other.kind) :
    column.meaning entity ≠ other.meaning entity := by
  intro heq
  apply h
  apply ColumnKind.initial_injective
  have hheads := congrArg (fun meaning : String => meaning.toList.head?) heq
  rw [head?_meaning, head?_meaning] at hheads
  exact Option.some.inj hheads

end TableColumn

namespace EntityTables

variable {config : Config} {associations : List Association} {namer : Namer} {entity : Entity}
  {rowType : RowType} {hasExternalId : Bool} {tables : EntityTables}

theorem fieldMeaning_inj {field other : RowField} {place next : Nat}
    (h : fieldMeaning field place = fieldMeaning other next) : place = next := by
  have hdigits : ∀ n : Nat, '#' ∉ (Nat.repr n ++ ")").toList.reverse := by
    intro n
    have hplace := Text.notMem_repr (c := '#') (by decide) n
    rw [List.mem_reverse, String.toList_append, List.mem_append, not_or]
    exact ⟨hplace, by decide⟩
  -- Read from the end, the place stands in front of the first number sign.
  have hread : ∀ (field : RowField) (place : Nat), (fieldMeaning field place).toList.reverse =
      (Nat.repr place ++ ")").toList.reverse ++
        '#' :: ("column " ++ field.source ++ " (").toList.reverse := by
    intro field place
    simp [fieldMeaning]
  have hlist := congrArg (fun meaning : String => meaning.toList.reverse) h
  rw [hread, hread] at hlist
  obtain ⟨hplace, -⟩ := (Text.append_cons_inj (hdigits place) (hdigits next)).1 hlist
  have hrepr := String.toList_inj.1 (List.reverse_injective hplace)
  exact Text.repr_inj (congrArg String.toList ((String.append_left_inj ")").1 hrepr))

theorem map_kind_leadingColumns (namer : Namer) (entity : Entity) (hasExternalId : Bool) :
    (leadingColumns namer entity hasExternalId).map TableColumn.kind =
      [.primaryKey, .createdAt] ++ (if hasExternalId then [.externalId] else []) ++
        (if entity.hasValueColumn then [.value] else []) := by
  unfold leadingColumns
  cases hasExternalId <;> cases entity.hasValueColumn <;> rfl

theorem nodup_kinds_leadingColumns (namer : Namer) (entity : Entity) (hasExternalId : Bool) :
    ((leadingColumns namer entity hasExternalId).map TableColumn.kind).Nodup := by
  rw [map_kind_leadingColumns]
  cases hasExternalId <;> cases entity.hasValueColumn <;> decide

theorem kind_of_mem_leadingColumns {column : TableColumn}
    (h : column ∈ leadingColumns namer entity hasExternalId) :
    column.kind ≠ .scalar ∧ column.kind ≠ .archivedAt := by
  have hkind := List.mem_map_of_mem (f := TableColumn.kind) h
  rw [map_kind_leadingColumns] at hkind
  revert hkind
  generalize column.kind = kind
  cases hasExternalId <;> cases entity.hasValueColumn <;> revert kind <;> decide

theorem nodup_primaryMeanings :
    ((primaryClaims namer entity rowType hasExternalId).map Prod.fst).Nodup := by
  have hleading : ((leadingColumns namer entity hasExternalId).map
      fun column => column.meaning entity).Nodup := by
    have hkinds := nodup_kinds_leadingColumns namer entity hasExternalId
    rw [List.nodup_iff_pairwise_ne, List.pairwise_map] at hkinds ⊢
    exact hkinds.imp TableColumn.meaning_ne
  have hfields : ((rowType.fields.zipIdx 1).map fun p => fieldMeaning p.1 p.2).Nodup := by
    have hplaces : ((rowType.fields.zipIdx 1).map Prod.snd).Nodup := by
      rw [List.zipIdx_map_snd]
      exact List.nodup_range' 1
    rw [List.nodup_iff_pairwise_ne, List.pairwise_map] at hplaces ⊢
    exact hplaces.imp fun hne heq => hne (fieldMeaning_inj heq)
  rw [primaryClaims, List.map_append, List.map_map, List.map_map]
  refine List.nodup_append.2 ⟨hleading, hfields, ?_⟩
  intro meaning hmeaning other hother heq
  obtain ⟨column, hcolumn, rfl⟩ := List.mem_map.1 hmeaning
  obtain ⟨⟨field, place⟩, -, rfl⟩ := List.mem_map.1 hother
  have hheads := congrArg (fun meaning : String => meaning.toList.head?) heq
  have hfield : (fieldMeaning field place).toList.head? = some ColumnKind.scalar.initial := by
    simp [fieldMeaning, ColumnKind.initial]
  have hkind := ColumnKind.initial_injective _ _
    (Option.some.inj (((column.head?_meaning entity).symm.trans hheads).trans hfield))
  exact (kind_of_mem_leadingColumns hcolumn).1 hkind

theorem map_snd_primaryClaims (config : Config) (entity : Entity) (rowType : RowType)
    (hasExternalId : Bool) :
    (primaryClaims config.namer entity rowType hasExternalId).map Prod.snd =
      (primaryTable config entity rowType hasExternalId).columnNames := by
  rw [primaryClaims, primaryTable, Table.columnNames, List.map_append, List.map_append, List.map_map,
    List.map_map, List.map_map]
  congr 1
  have hfields : rowType.fields = (rowType.fields.zipIdx 1).map Prod.fst :=
    List.zipIdx_map_fst 1 rowType.fields |>.symm
  conv_rhs => rw [hfields, List.map_map]
  rfl

theorem nodup_primary_columnNames
    (h : (primaryClaims config.namer entity rowType hasExternalId).Pairwise Scope.Agree) :
    (primaryTable config entity rowType hasExternalId).columnNames.Nodup := by
  rw [← map_snd_primaryClaims]
  exact Scope.nodup_identifiers h nodup_primaryMeanings

theorem columnNames_archiveTable (config : Config) (entity : Entity) (primary : Table) :
    (archiveTable config entity primary).columnNames =
      primary.columnNames ++ [(archivedAtColumn config.namer entity).name] := by
  rw [Table.columnNames, archiveTable, List.map_append, List.map_map]
  rfl

theorem kind_ne_archivedAt {column : TableColumn}
    (h : column ∈ (primaryTable config entity rowType hasExternalId).columns) :
    column.kind ≠ .archivedAt := by
  rcases List.mem_append.1 h with hcolumn | hcolumn
  · exact (kind_of_mem_leadingColumns hcolumn).2
  · obtain ⟨field, -, rfl⟩ := List.mem_map.1 hcolumn
    intro heq
    cases heq

theorem nodup_archive_columnNames {primary : Table} (hprimary : primary.columnNames.Nodup)
    (hkinds : ∀ column ∈ primary.columns, column.kind ≠ .archivedAt)
    (h : (archiveClaims entity (archiveTable config entity primary)).Pairwise Scope.Agree) :
    (archiveTable config entity primary).columnNames.Nodup := by
  rw [columnNames_archiveTable]
  refine List.nodup_append.2 ⟨hprimary, List.nodup_singleton _, ?_⟩
  intro name hname other hother heq
  obtain ⟨column, hcolumn, rfl⟩ := List.mem_map.1 hname
  rw [List.mem_singleton.1 hother] at heq
  have hclaims : archiveClaims entity (archiveTable config entity primary) =
      primary.columns.map (fun column =>
        ((column.archived primary).meaning entity, (column.archived primary).name)) ++
        [((archivedAtColumn config.namer entity).meaning entity,
          (archivedAtColumn config.namer entity).name)] := by
    rw [archiveClaims, archiveTable, List.map_append, List.map_map]
    rfl
  rw [hclaims, List.pairwise_append] at h
  have hagree := h.2.2 _ (List.mem_map_of_mem hcolumn) _ List.mem_cons_self heq
  have hkind : (column.archived primary).kind ≠ (archivedAtColumn config.namer entity).kind :=
    hkinds column hcolumn
  exact TableColumn.meaning_ne hkind hagree

/-- Tables that are made for an entity have columns of different names. -/
theorem nodup_columnNames_of_ofEntity
    (h : ofEntity config associations entity rowType hasExternalId = .ok tables) :
    tables.primary.columnNames.Nodup ∧ tables.archive.columnNames.Nodup := by
  obtain ⟨hprimary, harchive, rfl⟩ := ofEntity_eq_ok_iff.1 h
  have hnames := nodup_primary_columnNames ((Scope.exists_claimAll_named_eq_ok_iff _).1 hprimary)
  refine ⟨hnames, ?_⟩
  apply nodup_archive_columnNames hnames
  · intro column hcolumn
    exact kind_ne_archivedAt hcolumn
  · exact (Scope.exists_claimAll_named_eq_ok_iff _).1 harchive

end EntityTables

namespace Association

theorem owner_name_ne_other_name {namer : Namer} {relation : Relation}
    (h : (relation.table namer).columnClaims.Pairwise Scope.Agree) :
    (relation.table namer).owner.name ≠ (relation.table namer).other.name := by
  intro heq
  have hagree := List.rel_of_pairwise_cons h List.mem_cons_self heq
  have hheads := congrArg (fun meaning : String => meaning.toList[1]?) hagree
  simp at hheads

theorem owner_name_ne_other_name_of_ofModel {namer : Namer} {model : Model}
    {associations : List Association} (h : ofModel namer model = .ok associations) :
    ∀ association ∈ associations, association.owner.name ≠ association.other.name := by
  obtain ⟨relations, -, hclaims, rfl⟩ := ofModel_eq_ok_iff.1 h
  intro association hmem
  obtain ⟨relation, hrelation, rfl⟩ := List.mem_map.1 hmem
  exact owner_name_ne_other_name (hclaims relation hrelation)

end Association

namespace Schema

variable {config : Config} {associations : List Association}

theorem nodup_columnNames_of_emits {cache last : RowTypeCache} {entities : List Entity}
    {made : List EntityPart} (h : Emits config associations cache entities made last) :
    ∀ part ∈ made,
      part.tables.primary.columnNames.Nodup ∧ part.tables.archive.columnNames.Nodup := by
  intro part hpart
  obtain ⟨entity, -, rowType, hmade⟩ := h.exists_of_mem part hpart
  obtain ⟨derivation, tables, -, htables, rfl⟩ := EntityPart.ofEntity_eq_ok_iff.1 hmade
  exact EntityTables.nodup_columnNames_of_ofEntity htables

/-- In every table of a schema the columns have different names, under whatever keys the entities of
the model are, and whatever the cache holds. -/
theorem nodup_columnNames_of_ofModel {model : Model} {cache : RowTypeCache} {schema : Schema}
    (h : (ofModel config model cache).1 = .ok schema) :
    (∀ tables ∈ schema.entities,
      tables.primary.columnNames.Nodup ∧ tables.archive.columnNames.Nodup) ∧
      ∀ association ∈ schema.associations, association.owner.name ≠ association.other.name := by
  obtain ⟨associations, made, hassociations, -, hemits, -, -, rfl⟩ :=
    ofModel_eq_ok_iff.1 (Prod.ext (y := (Except.ok schema, _)) h rfl)
  refine ⟨?_, Association.owner_name_ne_other_name_of_ofModel hassociations⟩
  intro tables htables
  obtain ⟨part, hpart, rfl⟩ := List.mem_map.1 htables
  exact nodup_columnNames_of_emits hemits part hpart

/-- An entity under a key that is not its name, and a node related to itself. The names are too long
for the limit below. -/
def mislaid : Model where
  entities := ⟨[
    ("node", { name := "node", related := .ofList ["node"] }),
    ("old key", {
      name := "Consignment"
      columns := [{ name := "number", type := "string" },
        { name := "Consignment/Value", type := "text" }]
      externalIdSources := ["number"]
      hasValueColumn := true })], by decide +kernel⟩

theorem nodup_columnNames_mislaid : ∃ schema,
    (ofModel { limit := 16 } mislaid (RowTypeCache.after [.request ⟨16⟩ { name := "node" }])).1 =
        .ok schema ∧
      (∀ tables ∈ schema.entities,
        tables.primary.columnNames.Nodup ∧ tables.archive.columnNames.Nodup) ∧
      ∀ association ∈ schema.associations, association.owner.name ≠ association.other.name := by
  have hok : ∃ schema, (ofModel { limit := 16 } mislaid
      (RowTypeCache.after [.request ⟨16⟩ { name := "node" }])).1 = .ok schema :=
    exists_eq_ok_of_isOk (by decide +kernel)
  obtain ⟨schema, h⟩ := hok
  exact ⟨schema, h, nodup_columnNames_of_ofModel h⟩

end Schema

end EntitySchema
