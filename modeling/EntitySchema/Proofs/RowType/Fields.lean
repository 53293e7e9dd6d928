import Mathlib.Data.List.Forall2
import EntitySchema.RowType.Basic

/-!
# Fields of row types

A row type has one field for each column, in declared order. There is no other reason for an entity
to be without one than a column whose type spells no tag, or the tag of a nested element.
-/

namespace EntitySchema

/-- Lists of which each member has a counterpart have lists of counterparts. -/
theorem exists_forall₂_iff {α β : Type} {R : α → β → Prop} {xs : List α} :
    (∃ ys, List.Forall₂ R xs ys) ↔ ∀ x ∈ xs, ∃ y, R x y := by
  induction xs with
  | nil => simp
  | cons x xs ih =>
      rw [List.forall_mem_cons, ← ih]
      constructor
      · rintro ⟨ys, h⟩
        obtain ⟨y, rest, hy, hrest, -⟩ := List.forall₂_cons_left_iff.1 h
        exact ⟨⟨y, hy⟩, rest, hrest⟩
      · rintro ⟨⟨y, hy⟩, rest, hrest⟩
        exact ⟨y :: rest, .cons hy hrest⟩

theorem map_eq_map_of_forall₂ {α β γ : Type} {R : α → β → Prop} {f : α → γ} {g : β → γ}
    {xs : List α} {ys : List β} (hR : ∀ x y, R x y → f x = g y) (h : List.Forall₂ R xs ys) :
    xs.map f = ys.map g := by
  rw [← List.forall₂_eq_eq_eq, List.forall₂_map_left_iff, List.forall₂_map_right_iff]
  exact h.imp hR

namespace RowType

open Identifier (Namer)

variable {namer : Namer} {entity : Entity} {column : Column} {field : RowField} {rowType : RowType}

theorem field?_eq_some_iff :
    field? namer column = some field ↔
      ∃ tag sqlType, column.tag? = some tag ∧ tag.sqlType? = some sqlType ∧
        field = ⟨column.name, namer.name .column column.name false, tag, sqlType, column.required,
          column.annotation⟩ := by
  unfold field?
  cases column.tag? with
  | none => simp
  | some tag => simp [@eq_comm _ _ field]

theorem exists_field?_iff :
    (∃ field, field? namer column = some field) ↔ ∃ tag, column.tag? = some tag ∧ tag ≠ .object := by
  simp only [field?_eq_some_iff]
  constructor
  · rintro ⟨-, tag, sqlType, htag, hsqlType, -⟩
    refine ⟨tag, htag, fun hobject => ?_⟩
    rw [TypeTag.sqlType?_eq_none_iff.2 hobject] at hsqlType
    cases hsqlType
  · rintro ⟨tag, htag, hscalar⟩
    obtain ⟨sqlType, hsqlType⟩ := Option.ne_none_iff_exists'.1
      (fun hnone => hscalar (TypeTag.sqlType?_eq_none_iff.1 hnone))
    exact ⟨_, tag, sqlType, htag, hsqlType, rfl⟩

theorem fieldsOf_eq_ok_iff {name : String} {columns : List Column} {fields : List RowField} :
    fieldsOf namer name columns = .ok fields ↔
      List.Forall₂ (fun column field => field? namer column = some field) columns fields := by
  induction columns generalizing fields with
  | nil => simp [eq_comm]
  | cons column columns ih =>
      rw [fieldsOf, List.forall₂_cons_left_iff]
      constructor
      · intro h
        split at h
        · cases h
        next first hfirst =>
          split at h
          next rest hrest =>
            cases h
            exact ⟨first, rest, hfirst, ih.1 hrest, rfl⟩
          · cases h
      · rintro ⟨first, rest, hfirst, hrest, rfl⟩
        simp only [hfirst, ih.2 hrest]

theorem ofEntity_eq_ok_iff :
    ofEntity namer entity = .ok rowType ↔ rowType.entity = entity.name ∧
      List.Forall₂ (fun column field => field? namer column = some field) entity.columns
        rowType.fields := by
  rw [← @fieldsOf_eq_ok_iff namer entity.name, ofEntity]
  cases fieldsOf namer entity.name entity.columns with
  | error fault => simp
  | ok fields =>
      obtain ⟨name, own⟩ := rowType
      simp [eq_comm]

/-- An entity has a row type exactly if all its columns have a column type. -/
theorem exists_ofEntity_iff :
    (∃ rowType, ofEntity namer entity = .ok rowType) ↔
      ∀ column ∈ entity.columns, ∃ tag, column.tag? = some tag ∧ tag ≠ .object := by
  simp only [← @exists_field?_iff namer, ← exists_forall₂_iff, ofEntity_eq_ok_iff]
  constructor
  · rintro ⟨rowType, -, hfields⟩
    exact ⟨rowType.fields, hfields⟩
  · rintro ⟨fields, hfields⟩
    exact ⟨⟨entity.name, fields⟩, rfl, hfields⟩

theorem map_identifier_of_ofEntity (h : ofEntity namer entity = .ok rowType) :
    rowType.fields.map RowField.identifier =
      entity.columns.map (namer.name .column ·.name false) := by
  refine (map_eq_map_of_forall₂ (fun column field hfield => ?_) (ofEntity_eq_ok_iff.1 h).2).symm
  obtain ⟨-, -, -, -, rfl⟩ := field?_eq_some_iff.1 hfield
  rfl

end RowType

end EntitySchema
