import EntitySchema.Proofs.RowType.Sharing

/-!
# The types of columns

Whatever a model asks for, the columns of its tables have few types. This rests on the cache: a row
type that it shares was once made from tags, like every other row type.
-/

namespace EntitySchema

/-- The types that a column can have. -/
def columnTypes : List String :=
  ["BIGINT", "BOOLEAN", "DOUBLE PRECISION", "DATE", "TIMESTAMP WITH TIME ZONE", "TEXT", "BYTEA"]

theorem sqlType_mem_columnTypes {tag : TypeTag} {sqlType : String}
    (h : tag.sqlType? = some sqlType) : sqlType ∈ columnTypes := by
  cases tag with
  | object => cases h
  | _ =>
      cases h
      decide

theorem sqlType_mem_of_mem_fields {namer : Identifier.Namer} {entity : Entity} {rowType : RowType}
    (h : RowType.ofEntity namer entity = .ok rowType) :
    ∀ field ∈ rowType.fields, field.sqlType ∈ columnTypes := by
  intro field hfield
  obtain ⟨i, hi, rfl⟩ := List.mem_iff_getElem.1 hfield
  have hfields := (RowType.ofEntity_eq_ok_iff.1 h).2
  have hcolumn := hfields.get (hfields.length_eq ▸ hi) hi
  obtain ⟨tag, sqlType, -, hsqlType, heq⟩ := RowType.field?_eq_some_iff.1 hcolumn
  rw [List.get_eq_getElem] at heq
  rw [heq]
  exact sqlType_mem_columnTypes hsqlType

namespace EntityTables

variable {config : Config} {entity : Entity} {rowType : RowType} {hasExternalId : Bool}

theorem sqlType_mem_of_mem_leadingColumns {namer : Identifier.Namer} :
    ∀ column ∈ leadingColumns namer entity hasExternalId, column.sqlType ∈ columnTypes := by
  have hbigint : "BIGINT" ∈ columnTypes := by decide
  have htext : "TEXT" ∈ columnTypes := by decide
  have htimestamp : timestampType ∈ columnTypes := by decide
  intro column hcolumn
  simp only [leadingColumns, List.mem_append, List.mem_cons, List.not_mem_nil, or_false] at hcolumn
  rcases hcolumn with ((rfl | rfl) | hexternal) | hvalue
  · exact hbigint
  · exact htimestamp
  · split at hexternal
    · rw [List.mem_singleton.1 hexternal]
      exact htext
    · cases hexternal
  · split at hvalue
    · rw [List.mem_singleton.1 hvalue]
      exact htext
    · cases hvalue

theorem sqlType_mem_of_mem_primaryTable (h : ∀ field ∈ rowType.fields, field.sqlType ∈ columnTypes) :
    ∀ column ∈ (primaryTable config entity rowType hasExternalId).columns,
      column.sqlType ∈ columnTypes := by
  intro column hcolumn
  rcases List.mem_append.1 hcolumn with hcolumn | hcolumn
  · exact sqlType_mem_of_mem_leadingColumns column hcolumn
  · obtain ⟨field, hfield, rfl⟩ := List.mem_map.1 hcolumn
    exact h field hfield

theorem sqlType_mem_of_mem_archiveTable {primary : Table}
    (h : ∀ column ∈ primary.columns, column.sqlType ∈ columnTypes) :
    ∀ column ∈ (archiveTable config entity primary).columns, column.sqlType ∈ columnTypes := by
  have htimestamp : timestampType ∈ columnTypes := by decide
  intro column hcolumn
  rcases List.mem_append.1 hcolumn with hcolumn | hcolumn
  · obtain ⟨original, horiginal, rfl⟩ := List.mem_map.1 hcolumn
    exact h original horiginal
  · rw [List.mem_singleton.1 hcolumn]
    exact htimestamp

end EntityTables

namespace EntityPart

structure Typed (part : EntityPart) : Prop where
  primary : ∀ column ∈ part.tables.primary.columns, column.sqlType ∈ columnTypes
  archive : ∀ column ∈ part.tables.archive.columns, column.sqlType ∈ columnTypes

theorem typed_of_ofEntity {config : Config} {associations : List Association} {entity : Entity}
    {rowType : RowType} {part : EntityPart}
    (hfields : ∀ field ∈ rowType.fields, field.sqlType ∈ columnTypes)
    (h : ofEntity config associations entity rowType = .ok part) : part.Typed := by
  obtain ⟨derivation, tables, -, htables, rfl⟩ := ofEntity_eq_ok_iff.1 h
  obtain ⟨-, -, rfl⟩ := EntityTables.ofEntity_eq_ok_iff.1 htables
  have hprimary : ∀ column ∈
      (EntityTables.primaryTable config entity rowType derivation.isSome).columns,
        column.sqlType ∈ columnTypes := EntityTables.sqlType_mem_of_mem_primaryTable hfields
  exact ⟨hprimary, EntityTables.sqlType_mem_of_mem_archiveTable hprimary⟩

end EntityPart

theorem Schema.typed_of_emits {config : Config} {associations : List Association}
    {cache last : RowTypeCache} {entities : List Entity} {made : List EntityPart}
    (hcache : cache.Faithful fun _ _ => True)
    (h : Emits config associations cache entities made last) : ∀ part ∈ made, part.Typed := by
  induction h with
  | nil => exact List.forall_mem_nil _
  | @cons _ _ _ entity _ _ _ _ hrequest hpart _ ih =>
      obtain ⟨namer, source, hsource⟩ := hcache.exists_ofEntity hrequest
      have hnext : (RowTypeCache.request _ config.namer entity).2.Faithful fun _ _ => True :=
        hcache.request trivial
      rw [hrequest] at hnext
      refine List.forall_mem_cons.2 ⟨?_, ih hnext⟩
      exact EntityPart.typed_of_ofEntity (sqlType_mem_of_mem_fields hsource) hpart

theorem RowTypeCache.faithful_after_history (history : List Use) :
    (after history).Faithful fun _ _ => True := by
  apply faithful_after
  intro step _
  cases step <;> simp [Use.Within]

end EntitySchema
