import EntitySchema.Proofs.Model.Merging

/-!
# Entities that meet further columns

An entity with columns of different names takes columns one after another. Those it had stay in front, and
what it learns about a column depends neither on the order in which columns are met nor on how they are
mixed. Left to the order are the places and the annotations of new columns, and which of several types of
one rank a column has.
-/

namespace EntitySchema

/-- The entity after it has met columns one after another. -/
def Entity.mergeAll (entity : Entity) (met : List Column) : Entity := met.foldl Entity.merge entity

/-- The highest rank in a group of columns, and whether one of them is required, unless the group is
empty. -/
def Column.strength? (group : List Column) : Option (Nat × Bool) :=
  (group.map Column.priority).max?.map fun priority => (priority, group.any Column.required)

/-- The rank of the column of a name, and whether it is required, if there is one. -/
def Entity.strength? (entity : Entity) (name : String) : Option (Nat × Bool) :=
  (entity.column? name).map fun column => (column.priority, column.required)

/-- The columns of a name that an entity has or meets. -/
def Entity.group (entity : Entity) (met : List Column) (name : String) : List Column :=
  (entity.columns ++ met).filter (·.name = name)

/-- What becomes of an entity that meets columns. -/
structure Entity.Widens (entity : Entity) (met : List Column) : Prop where
  others : ∃ columns, entity.mergeAll met = { entity with columns := columns }
  nodup : ((entity.mergeAll met).columns.map Column.name).Nodup
  kept : entity.columns.map (fun column => (column.name, column.annotation)) <+:
    (entity.mergeAll met).columns.map fun column => (column.name, column.annotation)
  appended : (entity.mergeAll met).columns.map Column.name =
    entity.columns.map Column.name ++
      ((met.map Column.name).filter (· ∉ entity.columns.map Column.name)).eraseDups
  priority : ∀ column ∈ (entity.mergeAll met).columns,
    ((entity.group met column.name).map Column.priority).max? = some column.priority
  required : ∀ column ∈ (entity.mergeAll met).columns,
    column.required = (entity.group met column.name).any Column.required
  type : ∀ column ∈ (entity.mergeAll met).columns,
    ∃ widest, Column.FirstWidest (entity.group met column.name) widest ∧ column.type = widest.type
  unordered : ∀ permuted, met.Perm permuted → ∀ name,
    (entity.mergeAll permuted).strength? name = (entity.mergeAll met).strength? name

variable {entity : Entity} {columns met permuted group : List Column} {column sum : Column}
  {name : String}

theorem eraseDups_eq_self {names : List String} (h : names.Nodup) : names.eraseDups = names := by
  induction names with
  | nil => rfl
  | cons name names ih =>
      obtain ⟨hnew, hrest⟩ := List.nodup_cons.1 h
      have hfilter : names.filter (fun other => !other == name) = names := by
        rw [List.filter_eq_self]
        intro other hother
        have hne : other ≠ name := fun heq => hnew (heq ▸ hother)
        simpa using hne
      rw [List.eraseDups_cons, hfilter, ih hrest]

/-- Columns of different names are what they would be if they had been met. -/
theorem Merged.self (h : (columns.map Column.name).Nodup) : Merged columns columns where
  names := (eraseDups_eq_self h).symm
  nodup := h
  sums column hmem := by
    rw [filter_eq_singleton h hmem]
    exact Column.Sums.single column

theorem labels_prefix_mergeColumn (columns : List Column) (column : Column) :
    columns.map (fun column => (column.name, column.annotation)) <+:
      (mergeColumn columns column).map fun column => (column.name, column.annotation) := by
  induction columns with
  | nil => exact List.nil_prefix
  | cons first rest ih =>
      rw [mergeColumn]
      split
      · exact List.prefix_refl _
      · exact (List.prefix_cons_inj _).2 ih

namespace Column

theorem Sums.max?_priority (h : Sums group sum) :
    (group.map Column.priority).max? = some sum.priority := by
  obtain ⟨widest, hwidest, htype⟩ := h.type
  rw [List.max?_eq_some_iff, priority_eq_of_type_eq htype]
  constructor
  · obtain ⟨before, after, rfl, -⟩ := hwidest
    exact List.mem_map_of_mem (List.mem_append_right before List.mem_cons_self)
  · intro rank hrank
    obtain ⟨other, hother, rfl⟩ := List.mem_map.1 hrank
    exact hwidest.priority_le hother

theorem Sums.strength?_eq (h : Sums group sum) :
    strength? group = some (sum.priority, sum.required) := by
  rw [strength?, h.max?_priority, Option.map_some, ← h.required]

theorem strength?_eq_of_perm {permuted : List Column} (hperm : group.Perm permuted) :
    strength? permuted = strength? group := by
  have hmax : (permuted.map Column.priority).max? = (group.map Column.priority).max? := by
    refine Option.ext fun rank => ?_
    simp only [List.max?_eq_some_iff, (hperm.map Column.priority).mem_iff]
  rw [strength?, strength?, hmax, hperm.any_eq]

end Column

theorem Merged.head?_filter (h : Merged met columns) (name : String) :
    (columns.filter (·.name = name)).head?.map (fun column => (column.priority, column.required)) =
      Column.strength? (met.filter (·.name = name)) := by
  by_cases hmem : name ∈ columns.map Column.name
  · obtain ⟨column, hcolumn, rfl⟩ := List.mem_map.1 hmem
    rw [filter_eq_singleton h.nodup hcolumn, (h.sums column hcolumn).strength?_eq, List.head?_cons,
      Option.map_some]
  · have hcolumns : columns.filter (·.name = name) = [] := filter_eq_nil_of_notMem hmem
    rw [h.names, List.mem_eraseDups] at hmem
    have hmet : met.filter (·.name = name) = [] := filter_eq_nil_of_notMem hmem
    rw [hcolumns, hmet]
    rfl

namespace Entity

theorem mergeAll_eq (entity : Entity) (met : List Column) :
    entity.mergeAll met = { entity with columns := met.foldl mergeColumn entity.columns } := by
  induction met generalizing entity with
  | nil => rfl
  | cons column met ih => exact ih (entity.merge column)

theorem merged_mergeAll (h : (entity.columns.map Column.name).Nodup) (met : List Column) :
    Merged (entity.columns ++ met) (entity.mergeAll met).columns := by
  rw [mergeAll_eq]
  exact (Merged.self h).foldl met

theorem labels_prefix_mergeAll (entity : Entity) (met : List Column) :
    entity.columns.map (fun column => (column.name, column.annotation)) <+:
      (entity.mergeAll met).columns.map fun column => (column.name, column.annotation) := by
  induction met generalizing entity with
  | nil => exact List.prefix_refl _
  | cons column met ih =>
      exact (labels_prefix_mergeColumn entity.columns column).trans (ih (entity.merge column))

theorem names_mergeAll (h : (entity.columns.map Column.name).Nodup) (met : List Column) :
    (entity.mergeAll met).columns.map Column.name =
      entity.columns.map Column.name ++
        ((met.map Column.name).filter (· ∉ entity.columns.map Column.name)).eraseDups := by
  rw [(merged_mergeAll h met).names, List.map_append, List.eraseDups_append, eraseDups_eq_self h]
  congr 2
  refine List.filter_congr fun name _ => ?_
  rw [decide_not, List.elem_eq_mem]

theorem strength?_mergeAll (h : (entity.columns.map Column.name).Nodup) (met : List Column)
    (name : String) :
    (entity.mergeAll met).strength? name = Column.strength? (entity.group met name) := by
  rw [strength?, column?, ← List.head?_filter]
  exact (merged_mergeAll h met).head?_filter name

theorem widens (h : (entity.columns.map Column.name).Nodup) (met : List Column) :
    entity.Widens met where
  others := ⟨_, mergeAll_eq entity met⟩
  nodup := (merged_mergeAll h met).nodup
  kept := labels_prefix_mergeAll entity met
  appended := names_mergeAll h met
  priority column hmem := ((merged_mergeAll h met).sums column hmem).max?_priority
  required column hmem := ((merged_mergeAll h met).sums column hmem).required
  type column hmem := ((merged_mergeAll h met).sums column hmem).type
  unordered permuted hperm name := by
    rw [strength?_mergeAll h, strength?_mergeAll h]
    exact Column.strength?_eq_of_perm ((hperm.append_left entity.columns).filter _)

/-- An item with a size and a code, whose type spells no tag. -/
def measured : Entity :=
  { name := "item", columns := [⟨"size", "integer", "", false⟩, ⟨"code", "uuid", "", false⟩] }

/-- The size is met as a text and as binary data, which are of one rank. -/
def measurements : List Column :=
  [⟨"size", "text", "", false⟩, ⟨"weight", "float", "", false⟩, ⟨"code", "date", "", true⟩,
    ⟨"size", "binary", "", true⟩]

/-- Which of the two types the size has is left to the order in which they are met, but not its rank. -/
theorem widens_measured : (measured.columns.map Column.name).Nodup ∧
    (measured.mergeAll measurements).strength? "size" = some (4, true) ∧
    (measured.mergeAll measurements.reverse).strength? "size" = some (4, true) ∧
    (measured.mergeAll measurements).columns ≠ (measured.mergeAll measurements.reverse).columns := by
  have hnodup : (measured.columns.map Column.name).Nodup := by decide
  have hstrength : (measured.mergeAll measurements).strength? "size" = some (4, true) := by
    decide +kernel
  have hsame := (widens hnodup measurements).unordered _ (List.reverse_perm _).symm "size"
  exact ⟨hnodup, hstrength, hsame.trans hstrength, by decide +kernel⟩

end Entity

end EntitySchema
