import Mathlib.Data.List.Nodup
import EntitySchema.Proofs.Schema.Relations

/-!
# Well-formed models

In a well-formed model the parts of every entity fit together, and the entities fit each other. Such a
model is determined by the list of its entities, in whichever order they are added.
-/

namespace EntitySchema

namespace Column

theorem tag?_widen (column again : Column) :
    (column.widen again).tag? = column.tag? ∨ (column.widen again).tag? = again.tag? := by
  unfold tag? widen
  dsimp only
  split
  · exact .inr rfl
  · exact .inl rfl

end Column

theorem nodup_names_mergeColumn {columns : List Column} (h : (columns.map Column.name).Nodup)
    (column : Column) : ((mergeColumn columns column).map Column.name).Nodup := by
  induction columns with
  | nil => exact List.nodup_singleton _
  | cons first rest ih =>
      rw [List.map_cons, List.nodup_cons] at h
      rw [mergeColumn]
      split
      next heq =>
        rw [List.map_cons, Column.name_widen]
        exact List.nodup_cons.2 h
      next hne =>
        rw [List.map_cons, List.nodup_cons, mem_names_mergeColumn, not_or]
        exact ⟨⟨hne, h.1⟩, ih h.2⟩

theorem forall_tag?_mergeColumn {columns : List Column} {column : Column} {P : Option TypeTag → Prop}
    (hcolumns : ∀ column ∈ columns, P column.tag?) (hcolumn : P column.tag?) :
    ∀ met ∈ mergeColumn columns column, P met.tag? := by
  induction columns with
  | nil => exact List.forall_mem_singleton.2 hcolumn
  | cons first rest ih =>
      obtain ⟨hfirst, hrest⟩ := List.forall_mem_cons.1 hcolumns
      rw [mergeColumn]
      split
      · refine List.forall_mem_cons.2 ⟨?_, hrest⟩
        rcases first.tag?_widen column with htag | htag
        · rw [htag]
          exact hfirst
        · rw [htag]
          exact hcolumn
      · exact List.forall_mem_cons.2 ⟨hfirst, ih hrest⟩

/-- The parts of an entity fit together. -/
structure Entity.WellFormed (entity : Entity) : Prop where
  columns : (entity.columns.map Column.name).Nodup
  scalar : ∀ column ∈ entity.columns, column.tag? ≠ some .object
  sources : entity.externalIdSources.Nodup
  declared : ∀ source ∈ entity.externalIdSources, source ∈ entity.columns.map Column.name
  owned : ∀ other ∈ entity.owned, other ∈ entity.related

namespace Entity.WellFormed

variable {entity : Entity}

theorem new (name : String) : ({ name } : Entity).WellFormed where
  columns := .nil
  scalar := List.forall_mem_nil _
  sources := .nil
  declared := List.forall_mem_nil _
  owned other h := absurd h (NameSet.not_mem_empty other)

theorem merge (h : entity.WellFormed) {column : Column} (hscalar : column.tag? ≠ some .object) :
    (entity.merge column).WellFormed where
  columns := nodup_names_mergeColumn h.columns column
  scalar := forall_tag?_mergeColumn (P := (· ≠ some .object)) h.scalar hscalar
  sources := h.sources
  declared source hsource := mem_names_mergeColumn.2 (.inr (h.declared source hsource))
  owned := h.owned

theorem addSource (h : entity.WellFormed) {source : String}
    (hdeclared : source ∈ entity.columns.map Column.name) :
    (entity.addSource source).WellFormed := by
  unfold Entity.addSource
  split
  · exact h
  next hnew =>
    exact { h with
      sources := List.nodup_append.2 ⟨h.sources, List.nodup_singleton _, by
        intro a ha b hb heq
        exact hnew (List.mem_singleton.1 hb ▸ heq ▸ ha)⟩
      declared := List.forall_mem_append.2 ⟨h.declared, List.forall_mem_singleton.2 hdeclared⟩ }

theorem own (h : entity.WellFormed) (other : String) : (entity.own other).WellFormed :=
  { h with
    owned := by
      intro name hname
      exact NameSet.mem_insert.2 ((NameSet.mem_insert.1 hname).imp_right (h.owned name)) }

end Entity.WellFormed

namespace Model

variable {model after : Model} {entities : List Entity}

/-- The entities of a model are well-formed and fit each other. -/
structure WellFormed (model : Model) : Prop where
  keyed : model.Keyed
  entities : ∀ entity ∈ model.toList, entity.WellFormed
  present : ∀ entity ∈ model.toList, ∀ other, other ∈ entity.related ∨ other ∈ entity.owned →
    ∃ target, model.get? other = some target
  symmetric : ∀ a b, model.Relates a b → model.Relates b a

theorem contains_eq_false_iff {key : String} :
    model.entities.contains key = false ↔ model.get? key = none := by
  rw [NameMap.contains, get?, Option.isSome_eq_false_iff, Option.isNone_iff_eq_none]

theorem get?_put_eq_some_iff {entity : Entity} (hnew : model.get? entity.name = none)
    {key : String} {found : Entity} :
    (model.put entity.name entity).get? key = some found ↔
      model.get? key = some found ∨ found = entity ∧ found.name = key := by
  rw [get?_put]
  split
  next heq =>
    constructor
    · intro h
      cases h
      exact .inr ⟨rfl, heq⟩
    · rintro (h | ⟨rfl, -⟩)
      · rw [← heq, hnew] at h
        cases h
      · rfl
  next hne =>
    constructor
    · exact .inl
    · rintro (h | ⟨rfl, heq⟩)
      · exact h
      · exact absurd heq hne

theorem addAll_cons_eq_ok_iff {entity : Entity} :
    model.addAll (entity :: entities) = .ok after ↔
      model.get? entity.name = none ∧ entity.repeatedColumn? = none ∧
        (model.put entity.name entity).addAll entities = .ok after := by
  rw [addAll]
  constructor
  · intro h
    split at h
    next next hadd =>
      obtain ⟨hcontains, hcolumns, rfl⟩ := add_eq_ok_iff.1 hadd
      exact ⟨contains_eq_false_iff.1 hcontains, hcolumns, h⟩
    · cases h
  · rintro ⟨hnew, hcolumns, h⟩
    have hadd : model.add entity = .ok (model.put entity.name entity) :=
      add_eq_ok_iff.2 ⟨contains_eq_false_iff.2 hnew, hcolumns, rfl⟩
    simpa only [hadd] using h

theorem addAll_eq_ok_iff :
    model.addAll entities = .ok after ↔
      (∀ entity ∈ entities, model.get? entity.name = none ∧ entity.repeatedColumn? = none) ∧
        (entities.map Entity.name).Nodup ∧
        ∀ key found, after.get? key = some found ↔
          model.get? key = some found ∨ found ∈ entities ∧ found.name = key := by
  induction entities generalizing model with
  | nil =>
      simp only [addAll_nil, Except.ok.injEq, List.not_mem_nil, false_and, or_false, List.map_nil,
        List.nodup_nil, true_and, false_implies, implies_true]
      constructor
      · rintro rfl key found
        rfl
      · intro h
        ext key found
        exact (h key found).symm
  | cons entity entities ih =>
      rw [addAll_cons_eq_ok_iff, List.forall_mem_cons, List.map_cons, List.nodup_cons]
      constructor
      · rintro ⟨hnew, hcolumns, hrest⟩
        obtain ⟨hfresh, hnodup, hget⟩ := ih.1 hrest
        have hother : ∀ other ∈ entities, entity.name ≠ other.name := by
          intro other hother heq
          have hnone := (hfresh other hother).1
          rw [get?_put, if_pos heq] at hnone
          cases hnone
        refine ⟨⟨⟨hnew, hcolumns⟩, ?_⟩, ⟨?_, hnodup⟩, ?_⟩
        · intro other hmem
          obtain ⟨hnone, hrepeated⟩ := hfresh other hmem
          rw [get?_put, if_neg (hother other hmem)] at hnone
          exact ⟨hnone, hrepeated⟩
        · intro hmem
          obtain ⟨other, hmem, heq⟩ := List.mem_map.1 hmem
          exact hother other hmem heq.symm
        · intro key found
          rw [hget, get?_put_eq_some_iff hnew, List.mem_cons, or_assoc, ← or_and_right]
      · rintro ⟨⟨⟨hnew, hcolumns⟩, hfresh⟩, ⟨hname, hnodup⟩, hget⟩
        refine ⟨hnew, hcolumns, ih.2 ⟨?_, hnodup, ?_⟩⟩
        · intro other hmem
          have hne : entity.name ≠ other.name :=
            fun heq => hname (List.mem_map.2 ⟨other, hmem, heq.symm⟩)
          rw [get?_put, if_neg hne]
          exact hfresh other hmem
        · intro key found
          rw [hget, get?_put_eq_some_iff hnew, List.mem_cons, or_assoc, ← or_and_right]

/-- A well-formed model comes back from its entities in any order. -/
theorem WellFormed.ofList (h : model.WellFormed) (hperm : entities.Perm model.toList) :
    Model.ofList entities = .ok model := by
  apply addAll_eq_ok_iff.2
  refine ⟨?_, ?_, ?_⟩
  · intro entity hmem
    have hcolumns := (h.entities entity (hperm.mem_iff.1 hmem)).columns
    exact ⟨rfl, Entity.repeatedColumn?_eq_none_iff.2 hcolumns⟩
  · exact (hperm.map Entity.name).nodup_iff.2 h.keyed.nodup_names
  · intro key found
    rw [hperm.mem_iff, h.keyed.mem_toList_iff]
    constructor
    · intro hget
      have hname := h.keyed key found hget
      exact .inr ⟨hname ▸ hget, hname⟩
    · rintro (hnone | ⟨hget, rfl⟩)
      · cases hnone
      · exact hget

end Model

end EntitySchema
