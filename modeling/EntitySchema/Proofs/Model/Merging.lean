import Mathlib.Data.List.Nodup
import EntitySchema.Proofs.Model.WellFormed

/-!
# Merged columns

Columns that are met one after another end up by name, in the order in which each name was met first.
What a column is in the end can be told from all that were met under its name, without regard to the
others and to how they were mixed.
-/

namespace EntitySchema

theorem eraseDups_concat (names : List String) (name : String) :
    (names ++ [name]).eraseDups =
      if name ∈ names then names.eraseDups else names.eraseDups ++ [name] := by
  rw [List.eraseDups_append]
  split
  next h => simp [List.removeAll, h]
  next h => simp [List.removeAll, h, List.eraseDups_cons]

namespace Column

variable {column sum : Column} {group : List Column}

theorem priority_eq_of_type_eq (h : sum.type = column.type) : sum.priority = column.priority := by
  rw [priority, tag?, h, ← tag?, ← priority]

/-- The column is the first one of highest rank in the group. -/
def FirstWidest (group : List Column) (column : Column) : Prop :=
  ∃ before after, group = before ++ column :: after ∧
    (∀ narrower ∈ before, narrower.priority < column.priority) ∧
      ∀ other ∈ after, other.priority ≤ column.priority

theorem FirstWidest.priority_le (h : FirstWidest group column) {other : Column} (hother : other ∈ group) :
    other.priority ≤ column.priority := by
  obtain ⟨before, after, rfl, hbefore, hafter⟩ := h
  rcases List.mem_append.1 hother with hmem | hmem
  · exact Nat.le_of_lt (hbefore other hmem)
  · rcases List.mem_cons.1 hmem with rfl | hmem
    · exact Nat.le_refl _
    · exact hafter other hmem

/-- The column sums up a group of columns. Its annotation is that of the first, its type that of the first
among those of highest rank, and it is required if one of them is. -/
structure Sums (group : List Column) (sum : Column) : Prop where
  annotation : ∃ first rest, group = first :: rest ∧ sum.annotation = first.annotation
  type : ∃ widest, FirstWidest group widest ∧ sum.type = widest.type
  required : sum.required = group.any Column.required

theorem Sums.single (column : Column) : Sums [column] column where
  annotation := ⟨column, [], rfl, rfl⟩
  type := ⟨column, ⟨[], [], rfl, List.forall_mem_nil _, List.forall_mem_nil _⟩, rfl⟩
  required := (Bool.or_false _).symm

theorem Sums.widen (h : Sums group sum) (again : Column) :
    Sums (group ++ [again]) (sum.widen again) where
  annotation := by
    obtain ⟨first, rest, rfl, hannotation⟩ := h.annotation
    exact ⟨first, rest ++ [again], rfl, hannotation⟩
  type := by
    obtain ⟨widest, hwidest, htype⟩ := h.type
    have hpriority := priority_eq_of_type_eq htype
    by_cases hlt : sum.priority < again.priority
    · refine ⟨again, ⟨group, [], rfl, fun column hmem => ?_, List.forall_mem_nil _⟩, if_pos hlt⟩
      exact Nat.lt_of_le_of_lt (hpriority ▸ hwidest.priority_le hmem) hlt
    · refine ⟨widest, ?_, (if_neg hlt).trans htype⟩
      obtain ⟨before, after, rfl, hbefore, hafter⟩ := hwidest
      refine ⟨before, after ++ [again], List.append_assoc _ _ _, hbefore, ?_⟩
      rw [List.forall_mem_append, List.forall_mem_singleton]
      exact ⟨hafter, hpriority ▸ Nat.le_of_not_lt hlt⟩
  required := by
    rw [List.any_append, ← h.required, List.any_cons, List.any_nil, Bool.or_false]
    rfl

end Column

variable {columns met : List Column}

theorem names_mergeColumn (columns : List Column) (column : Column) :
    (mergeColumn columns column).map Column.name =
      if column.name ∈ columns.map Column.name then columns.map Column.name
      else columns.map Column.name ++ [column.name] := by
  induction columns with
  | nil => rfl
  | cons first rest ih =>
      rw [mergeColumn]
      by_cases hname : first.name = column.name
      · simp [hname]
      · rw [if_neg hname, List.map_cons, ih]
        simp only [List.map_cons, List.mem_cons, Ne.symm hname, false_or]
        split
        · rfl
        · rfl

theorem cases_of_mem_mergeColumn (hnodup : (columns.map Column.name).Nodup) {column sum : Column}
    (h : sum ∈ mergeColumn columns column) :
    (sum ∈ columns ∧ column.name ≠ sum.name) ∨
      (∃ found ∈ columns, found.name = column.name ∧ sum = found.widen column) ∨
        column.name ∉ columns.map Column.name ∧ sum = column := by
  induction columns with
  | nil => exact .inr (.inr ⟨List.not_mem_nil, List.mem_singleton.1 h⟩)
  | cons first rest ih =>
      obtain ⟨hnew, hrest⟩ := List.nodup_cons.1 hnodup
      rw [mergeColumn] at h
      split at h
      next hname =>
        rcases List.mem_cons.1 h with rfl | hmem
        · exact .inr (.inl ⟨first, List.mem_cons_self, hname, rfl⟩)
        · refine .inl ⟨List.mem_cons_of_mem _ hmem, fun heq => hnew ?_⟩
          exact List.mem_map.2 ⟨sum, hmem, heq.symm.trans hname.symm⟩
      next hname =>
        rcases List.mem_cons.1 h with rfl | hmem
        · exact .inl ⟨List.mem_cons_self, Ne.symm hname⟩
        · rcases ih hrest hmem with ⟨hold, hne⟩ | ⟨found, hfound, heq⟩ | ⟨hfresh, heq⟩
          · exact .inl ⟨List.mem_cons_of_mem _ hold, hne⟩
          · exact .inr (.inl ⟨found, List.mem_cons_of_mem _ hfound, heq⟩)
          · refine .inr (.inr ⟨?_, heq⟩)
            rw [List.map_cons, List.mem_cons, not_or]
            exact ⟨Ne.symm hname, hfresh⟩

/-- Of all columns that were met, one for each name, in the order in which the names were met first. -/
structure Merged (met columns : List Column) : Prop where
  names : columns.map Column.name = (met.map Column.name).eraseDups
  nodup : (columns.map Column.name).Nodup
  sums : ∀ column ∈ columns, Column.Sums (met.filter (·.name = column.name)) column

namespace Merged

theorem nil : Merged [] [] where
  names := rfl
  nodup := .nil
  sums := List.forall_mem_nil _

theorem mergeColumn (h : Merged met columns) (column : Column) :
    Merged (met ++ [column]) (mergeColumn columns column) where
  names := by
    rw [names_mergeColumn, List.map_append, List.map_singleton, eraseDups_concat, h.names]
    simp only [List.mem_eraseDups]
  nodup := nodup_names_mergeColumn h.nodup column
  sums := by
    intro sum hsum
    rw [List.filter_append]
    rcases cases_of_mem_mergeColumn h.nodup hsum with
      ⟨hold, hne⟩ | ⟨found, hfound, hname, rfl⟩ | ⟨hnew, rfl⟩
    · simpa [hne] using h.sums sum hold
    · simpa [hname] using (h.sums found hfound).widen column
    · rw [h.names, List.mem_eraseDups] at hnew
      have hnone : met.filter (·.name = sum.name) = [] := filter_eq_nil_of_notMem hnew
      simpa [hnone] using Column.Sums.single sum

/-- The induction is on the columns that are still to be met. -/
theorem foldl {before : List Column} (h : Merged before columns) (met : List Column) :
    Merged (before ++ met) (met.foldl EntitySchema.mergeColumn columns) := by
  induction met generalizing before columns with
  | nil => rwa [List.append_nil]
  | cons column met ih =>
      rw [List.append_cons]
      exact ih (h.mergeColumn column)

end Merged

end EntitySchema
