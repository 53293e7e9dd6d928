import Mathlib.Data.List.TakeWhile
import EntitySchema.RowType.Cache
import EntitySchema.Proofs.Text.Separator

/-!
# What keys tell apart

The key of an entity of flags is pasted together from its name, the limit on identifiers and its
columns, with bars and colons between them. It can be taken apart again if no name and no annotation
contains them.
-/

namespace EntitySchema.RowTypeCache

open Identifier (Namer)

variable {namer : Namer} {entity : Entity}

/-- Requests for entities of flags ask for one row type if they have one key. -/
def Apart (Asked : Namer → Entity → Prop) : Prop :=
  ∀ namer entity namer' entity', Asked namer entity → Asked namer' entity' →
    isBooleanOnly entity = true → isBooleanOnly entity' = true →
      key namer entity = key namer' entity' →
        RowType.ofEntity namer entity = RowType.ofEntity namer' entity'

/-- What a column contributes to a key, without the bar in front. -/
def columnChars (column : Column) : List Char :=
  column.name.toList ++ ':' :: (column.type.toList ++ ':' ::
    ((if column.required then "true" else "false").toList ++ ':' :: column.annotation.toList))

theorem toList_columnKey (column : Column) :
    (columnKey column).toList = '|' :: columnChars column := by
  simp [columnKey, columnChars]

/-- The pieces of a key between its bars. -/
def keyPieces (namer : Namer) (entity : Entity) : List (List Char) :=
  entity.name.toList :: (Nat.repr namer.limit).toList :: entity.columns.map columnChars

theorem flatMap_columnChars (columns : List Column) :
    '|' :: (columns.map columnChars).flatMap (· ++ ['|']) =
      (String.join (columns.map columnKey)).toList ++ ['|'] := by
  induction columns with
  | nil => simp
  | cons column columns ih =>
      simp only [List.map_cons, List.flatMap_cons, String.join_cons, String.toList_append,
        toList_columnKey, List.append_assoc, List.cons_append, ← ih]
      simp

theorem flatMap_keyPieces (namer : Namer) (entity : Entity) :
    (keyPieces namer entity).flatMap (· ++ ['|']) = (key namer entity).toList ++ ['|'] := by
  simp only [keyPieces, key, List.flatMap_cons, String.toList_append, List.append_assoc,
    ← flatMap_columnChars]
  simp

/-- No separator stands in the name of the entity, in a name of a column or in an annotation. -/
def Separable (entity : Entity) : Prop :=
  '|' ∉ entity.name.toList ∧ ∀ column ∈ entity.columns,
    ':' ∉ column.name.toList ∧ '|' ∉ column.name.toList ∧ '|' ∉ column.annotation.toList

theorem mem_trim_or {c : Char} {cs : List Char} (h : c ∈ cs) :
    Text.isWhiteSpace c = true ∨ c ∈ Text.trim cs := by
  have hstart : ∀ {ds : List Char}, c ∈ ds →
      Text.isWhiteSpace c = true ∨ c ∈ Text.trimStart ds := by
    intro ds hds
    rw [← List.takeWhile_append_dropWhile (p := Text.isWhiteSpace) (l := ds)] at hds
    rcases List.mem_append.1 hds with hwhite | hmem
    · exact .inl (List.mem_takeWhile_imp hwhite)
    · exact .inr hmem
  rcases hstart h with hwhite | hmem
  · exact .inl hwhite
  rcases hstart (List.mem_reverse.2 hmem) with hwhite | hmem'
  · exact .inl hwhite
  · exact .inr (List.mem_reverse.2 hmem')

theorem notMem_type {column : Column} (h : column.tag? = some .boolean) {c : Char}
    (hwhite : Text.isWhiteSpace c = false) (hlower : c.toLower ∉ "boolean".toList) :
    c ∉ column.type.toList := by
  intro hmem
  have htrim : c ∈ Text.trim column.type.toList := by
    rcases mem_trim_or hmem with hc | hc
    · cases hwhite.symm.trans hc
    · exact hc
  have hmap : c.toLower ∈ Text.asciiLowercase (Text.trim column.type.toList) :=
    List.mem_map_of_mem htrim
  simp only [Column.tag?, TypeTag.ofSpelling?] at h
  split at h
  · cases h
  · obtain ⟨before, rest, hsplit, -⟩ := List.lookup_eq_some_iff.1 h
    have hspelled : (String.ofList (Text.asciiLowercase (Text.trim column.type.toList)),
        TypeTag.boolean) ∈ TypeTag.spellings := by
      rw [hsplit]
      exact List.mem_append_right before List.mem_cons_self
    have hcases : String.ofList (Text.asciiLowercase (Text.trim column.type.toList)) = "boolean" ∨
        String.ofList (Text.asciiLowercase (Text.trim column.type.toList)) = "bool" := by
      simpa [TypeTag.spellings] using hspelled
    rcases hcases with heq | heq
    · rw [← String.toList_inj, String.toList_ofList] at heq
      exact hlower (heq ▸ hmap)
    · rw [← String.toList_inj, String.toList_ofList] at heq
      have hbool : "bool".toList ⊆ "boolean".toList := by decide
      exact hlower (hbool (heq ▸ hmap))

theorem columnChars_inj {column column' : Column} (hname : ':' ∉ column.name.toList)
    (hname' : ':' ∉ column'.name.toList) (htype : ':' ∉ column.type.toList)
    (htype' : ':' ∉ column'.type.toList) (h : columnChars column = columnChars column') :
    column = column' := by
  have hrequired : ∀ required : Bool, ':' ∉ (if required then "true" else "false").toList := by
    decide
  have hflags : ∀ required required' : Bool, (if required then "true" else "false").toList =
      (if required' then "true" else "false").toList → required = required' := by
    decide
  -- An annotation may hold colons, since no colon is looked for behind it.
  obtain ⟨hn, h⟩ := (Text.append_cons_inj hname hname').1 h
  obtain ⟨ht, h⟩ := (Text.append_cons_inj htype htype').1 h
  obtain ⟨hr, ha⟩ := (Text.append_cons_inj (hrequired _) (hrequired _)).1 h
  replace hr := hflags _ _ hr
  obtain ⟨name, type, annotation, required⟩ := column
  obtain ⟨name', type', annotation', required'⟩ := column'
  rw [String.toList_inj] at hn ht ha
  subst hn ht ha hr
  rfl

theorem columns_inj {columns columns' : List Column}
    (h : ∀ column ∈ columns, ':' ∉ column.name.toList ∧ ':' ∉ column.type.toList)
    (h' : ∀ column ∈ columns', ':' ∉ column.name.toList ∧ ':' ∉ column.type.toList)
    (heq : columns.map columnChars = columns'.map columnChars) : columns = columns' := by
  induction columns generalizing columns' with
  | nil => exact (List.map_eq_nil_iff.1 heq.symm).symm
  | cons column columns ih =>
      obtain ⟨column', rest, rfl, hcolumn, hrest⟩ := List.map_eq_cons_iff.1 heq.symm
      obtain ⟨hname, htype⟩ := h column List.mem_cons_self
      obtain ⟨hname', htype'⟩ := h' column' List.mem_cons_self
      rw [columnChars_inj hname hname' htype htype' hcolumn.symm,
        ih (fun other hother => h other (List.mem_cons_of_mem _ hother))
          (fun other hother => h' other (List.mem_cons_of_mem _ hother)) hrest.symm]

theorem notMem_keyPieces (h : Separable entity) (hflags : isBooleanOnly entity = true) :
    ∀ piece ∈ keyPieces namer entity, '|' ∉ piece := by
  have htags := isBooleanOnly_iff.1 hflags
  intro piece hpiece
  simp only [keyPieces, List.mem_cons, List.mem_map] at hpiece
  rcases hpiece with rfl | rfl | ⟨column, hcolumn, rfl⟩
  · exact h.1
  · exact Text.notMem_repr (by decide) namer.limit
  · obtain ⟨-, hname, hannotation⟩ := h.2 column hcolumn
    have htype := notMem_type (htags column hcolumn) (c := '|') (by decide) (by decide)
    have hrequired : ∀ required : Bool, '|' ∉ (if required then "true" else "false").toList := by
      decide
    simp [columnChars, hname, hannotation, htype, hrequired]

theorem colon_notMem_column (h : Separable entity) (hflags : isBooleanOnly entity = true) :
    ∀ column ∈ entity.columns, ':' ∉ column.name.toList ∧ ':' ∉ column.type.toList := by
  intro column hcolumn
  have htag := isBooleanOnly_iff.1 hflags column hcolumn
  exact ⟨(h.2 column hcolumn).1, notMem_type htag (c := ':') (by decide) (by decide)⟩

/-- Without separators in names and annotations, keys tell all entities of flags apart. -/
theorem apart_separable : Apart fun _ entity => Separable entity := by
  intro namer entity namer' entity' h h' hflags hflags' hkey
  have hpieces : keyPieces namer entity = keyPieces namer' entity' := by
    rw [← Text.flatMap_terminated_inj (notMem_keyPieces h hflags) (notMem_keyPieces h' hflags'),
      flatMap_keyPieces, flatMap_keyPieces, hkey]
  simp only [keyPieces, List.cons.injEq] at hpieces
  obtain ⟨hname, hlimit, hcolumns⟩ := hpieces
  have hnamer : namer = namer' := by
    cases namer
    cases namer'
    exact congrArg Namer.mk (Text.repr_inj hlimit)
  rw [RowType.ofEntity, RowType.ofEntity, hnamer, String.toList_inj.1 hname,
    columns_inj (colon_notMem_column h hflags) (colon_notMem_column h' hflags') hcolumns]

end EntitySchema.RowTypeCache
