import EntitySchema.Mapping.Model
import EntitySchema.Proofs.Mapping.Findings
import EntitySchema.Proofs.Model.Reflection
import EntitySchema.Proofs.Model.WellFormed

/-!
# Recorded findings

Whatever is found is put into the model at once, without a look at what is there. Yet every entity
stays well-formed with each finding, and in the end the related entities are exactly those that were
found one within the other.
-/

namespace EntitySchema

namespace Model

variable {model : Model} {name : String} {f : Entity → Entity}

theorem exists_get?_update_iff {key : String} :
    (∃ entity, (model.update name f).get? key = some entity) ↔
      key = name ∨ ∃ entity, model.get? key = some entity := by
  rw [get?_update]
  split
  next heq => simp [heq]
  next hne => simp [Ne.symm hne]

theorem forall_get?_update {P : String → Entity → Prop} (hnew : P name { name })
    (hf : ∀ entity, P name entity → P name (f entity))
    (h : ∀ key entity, model.get? key = some entity → P key entity) :
    ∀ key entity, (model.update name f).get? key = some entity → P key entity := by
  intro key entity hget
  rw [get?_update] at hget
  split at hget
  next heq =>
    subst heq
    cases hget
    apply hf
    cases hfound : model.get? name with
    | none => exact hnew
    | some found => exact h name found hfound
  · exact h key entity hget

theorem exists_mem_update_iff {names : Entity → NameSet} {gained : String → Prop}
    (hnew : ∀ name, names { name } = ∅)
    (hf : ∀ entity other, other ∈ names (f entity) ↔ other ∈ names entity ∨ gained other)
    (a b : String) :
    (∃ entity, (model.update name f).get? a = some entity ∧ b ∈ names entity) ↔
      (∃ entity, model.get? a = some entity ∧ b ∈ names entity) ∨ a = name ∧ gained b := by
  rw [get?_update]
  split
  next heq =>
    subst heq
    simp only [Option.some.injEq, exists_eq_left', hf, true_and]
    cases model.get? name with
    | none => simp [hnew]
    | some found => simp
  next hne => simp [Ne.symm hne]

end Model

namespace Mapping

variable {model : Model} {findings : List Finding} {finding : Finding}

def Finding.names : Finding → List String
  | .entity name _ => [name]
  | .nesting parent child _ => [parent, child]
  | .column owner _ _ => [owner]

/-- The second entity was found within the first one. -/
def Nests (findings : List Finding) (parent child : String) : Prop :=
  ∃ hasValueColumn, .nesting parent child hasValueColumn ∈ findings

theorem exists_get?_record_iff {key : String} :
    (∃ entity, (record model finding).get? key = some entity) ↔
      key ∈ finding.names ∨ ∃ entity, model.get? key = some entity := by
  cases finding with
  | entity name annotation? => simp [record, Finding.names, Model.exists_get?_update_iff]
  | nesting parent child hasValueColumn =>
      simp only [record, Finding.names, Model.exists_get?_update_iff, List.mem_cons,
        List.not_mem_nil, or_false]
      rw [or_left_comm, or_assoc]
  | column entity met isSource => simp [record, Finding.names, Model.exists_get?_update_iff]

theorem wellFormed_addColumn {column : Column} (hscalar : column.tag? ≠ some .object)
    (isSource : Bool) {entity : Entity} (h : entity.WellFormed) :
    (addColumn column isSource entity).WellFormed := by
  have hmerged := h.merge hscalar
  unfold addColumn
  split
  · apply hmerged.addSource
    exact mem_names_mergeColumn.2 (.inl rfl)
  · exact hmerged

/-- Nothing but columns and sources is touched. -/
theorem exists_addColumn_eq (column : Column) (isSource : Bool) (entity : Entity) :
    ∃ columns sources, addColumn column isSource entity =
      { entity with columns := columns, externalIdSources := sources } := by
  unfold addColumn Entity.addSource
  split
  · split
    · exact ⟨_, _, rfl⟩
    · exact ⟨_, _, rfl⟩
  · exact ⟨_, _, rfl⟩

/-- Under its own name, with parts that fit together. -/
def Sound (key : String) (entity : Entity) : Prop := entity.name = key ∧ entity.WellFormed

theorem sound_record (hfinding : finding.IsScalar)
    (h : ∀ key entity, model.get? key = some entity → Sound key entity) :
    ∀ key entity, (record model finding).get? key = some entity → Sound key entity := by
  have hnew : ∀ name, Sound name { name } := fun name => ⟨rfl, .new name⟩
  cases finding with
  | entity name annotation? =>
      apply Model.forall_get?_update (hnew name) _ h
      rintro entity ⟨hname, hentity⟩
      exact ⟨hname, { hentity with }⟩
  | nesting parent child hasValueColumn =>
      refine Model.forall_get?_update
        (f := fun entity => if hasValueColumn then entity.withValueColumn else entity)
        (hnew child) ?_ ?_
      · rintro entity ⟨hname, hentity⟩
        cases hasValueColumn with
        | true => exact ⟨hname, { hentity with }⟩
        | false => exact ⟨hname, hentity⟩
      · apply Model.forall_get?_update (hnew parent) _ h
        rintro entity ⟨hname, hentity⟩
        exact ⟨hname, hentity.own child⟩
  | column owner met isSource =>
      apply Model.forall_get?_update (hnew owner) _ h
      rintro entity ⟨hname, hentity⟩
      refine ⟨?_, wellFormed_addColumn hfinding isSource hentity⟩
      obtain ⟨columns, sources, heq⟩ := exists_addColumn_eq met isSource entity
      rw [heq]
      exact hname

/-- The induction is on the findings that are left, over any model that is sound so far. -/
theorem sound_foldl_record (hfindings : ∀ finding ∈ findings, finding.IsScalar)
    (h : ∀ key entity, model.get? key = some entity → Sound key entity) :
    ∀ key entity, (findings.foldl record model).get? key = some entity → Sound key entity := by
  induction findings generalizing model with
  | nil => exact h
  | cons finding findings ih =>
      obtain ⟨hfinding, hrest⟩ := List.forall_mem_cons.1 hfindings
      exact ih hrest (sound_record hfinding h)

theorem exists_get?_foldl_record_iff {key : String} :
    (∃ entity, (findings.foldl record model).get? key = some entity) ↔
      (∃ finding ∈ findings, key ∈ finding.names) ∨ ∃ entity, model.get? key = some entity := by
  induction findings generalizing model with
  | nil => simp
  | cons finding findings ih =>
      rw [List.foldl_cons, ih, exists_get?_record_iff, List.exists_mem_cons_iff]
      rw [← or_assoc, or_comm (a := ∃ finding ∈ findings, _)]

/-- Both sets of an entity grow by what is nested in it, and by nothing else. -/
theorem exists_mem_record_iff {names : Entity → NameSet}
    (hnames : names = Entity.related ∨ names = Entity.owned) (a b : String) :
    (∃ entity, (record model finding).get? a = some entity ∧ b ∈ names entity) ↔
      (∃ entity, model.get? a = some entity ∧ b ∈ names entity) ∨
        ∃ hasValueColumn, finding = .nesting a b hasValueColumn := by
  have hnew : ∀ name, names { name } = ∅ := by
    rcases hnames with rfl | rfl <;> exact fun name => rfl
  cases finding with
  | entity name annotation? =>
      have hkeep : ∀ entity other, other ∈ names (annotate annotation? entity) ↔
          other ∈ names entity ∨ False := by
        rcases hnames with rfl | rfl <;> simp [annotate]
      simp [record, Model.exists_mem_update_iff hnew hkeep]
  | nesting parent child hasValueColumn =>
      have hown : ∀ entity other, other ∈ names (entity.own child) ↔
          other ∈ names entity ∨ other = child := by
        rcases hnames with rfl | rfl <;> simp [Entity.own, or_comm]
      have hkeep : ∀ entity other,
          other ∈ names (if hasValueColumn then entity.withValueColumn else entity) ↔
            other ∈ names entity ∨ False := by
        rcases hnames with rfl | rfl <;> cases hasValueColumn <;> simp [Entity.withValueColumn]
      have hfinding : (∃ hasValueColumn', Finding.nesting parent child hasValueColumn =
          .nesting a b hasValueColumn') ↔ a = parent ∧ b = child := by
        simp [eq_comm]
      rw [record, Model.exists_mem_update_iff hnew hkeep, Model.exists_mem_update_iff hnew hown,
        and_false, or_false, hfinding]
  | column owner met isSource =>
      have hkeep : ∀ entity other, other ∈ names (addColumn met isSource entity) ↔
          other ∈ names entity ∨ False := by
        intro entity other
        obtain ⟨columns, sources, heq⟩ := exists_addColumn_eq met isSource entity
        rw [heq, or_false]
        rcases hnames with rfl | rfl <;> rfl
      simp [record, Model.exists_mem_update_iff hnew hkeep]

theorem exists_mem_foldl_record_iff {names : Entity → NameSet}
    (hnames : names = Entity.related ∨ names = Entity.owned) (a b : String) :
    (∃ entity, (findings.foldl record model).get? a = some entity ∧ b ∈ names entity) ↔
      (∃ entity, model.get? a = some entity ∧ b ∈ names entity) ∨ Nests findings a b := by
  induction findings generalizing model with
  | nil => simp [Nests]
  | cons finding findings ih =>
      rw [List.foldl_cons, ih, exists_mem_record_iff hnames, or_assoc]
      simp only [Nests, List.mem_cons, exists_or, eq_comm]

theorem sound_recorded (hfindings : ∀ finding ∈ findings, finding.IsScalar) :
    ∀ key entity, (findings.foldl record ∅).get? key = some entity → Sound key entity := by
  apply sound_foldl_record hfindings
  intro key entity hget
  cases hget

theorem exists_mem_recorded_iff {names : Entity → NameSet}
    (hnames : names = Entity.related ∨ names = Entity.owned) {a b : String} :
    (∃ entity, (findings.foldl record ∅).get? a = some entity ∧ b ∈ names entity) ↔
      Nests findings a b := by
  rw [exists_mem_foldl_record_iff hnames]
  apply or_iff_right
  rintro ⟨entity, hget, -⟩
  cases hget

theorem keyed_foldl_record (hfindings : ∀ finding ∈ findings, finding.IsScalar) :
    (findings.foldl record ∅).Keyed :=
  fun key entity hget => (sound_recorded hfindings key entity hget).1

theorem exists_get?_modelOf_iff {key : String} :
    (∃ entity, (modelOf findings).get? key = some entity) ↔
      ∃ finding ∈ findings, key ∈ finding.names := by
  rw [modelOf, Model.exists_get?_reflect_iff, exists_get?_foldl_record_iff]
  apply or_iff_left
  rintro ⟨entity, hget⟩
  cases hget

theorem Nests.exists_get? {a b : String} (h : Nests findings a b) :
    (∃ entity, (modelOf findings).get? a = some entity) ∧
      ∃ entity, (modelOf findings).get? b = some entity := by
  obtain ⟨hasValueColumn, hmem⟩ := h
  rw [exists_get?_modelOf_iff, exists_get?_modelOf_iff]
  exact ⟨⟨_, hmem, List.mem_cons_self⟩, _, hmem, List.mem_cons_of_mem _ List.mem_cons_self⟩

theorem owns_modelOf_iff {a b : String} : (modelOf findings).Owns a b ↔ Nests findings a b := by
  rw [modelOf, Model.owns_reflect_iff, Model.Owns, exists_mem_recorded_iff (.inr rfl)]

/-- Two entities are related exactly if one of them was found within the other. -/
theorem relates_modelOf_iff (hfindings : ∀ finding ∈ findings, finding.IsScalar) {a b : String} :
    (modelOf findings).Relates a b ↔ Nests findings a b ∨ Nests findings b a := by
  have hrelates : ∀ a b, (findings.foldl record ∅).Relates a b ↔ Nests findings a b := by
    intro a b
    exact exists_mem_recorded_iff (.inl rfl)
  have howns : ∀ a b, (findings.foldl record ∅).Owns a b ↔ Nests findings a b := by
    intro a b
    exact exists_mem_recorded_iff (.inr rfl)
  rw [modelOf, Model.relates_reflect_iff (keyed_foldl_record hfindings), hrelates, howns, hrelates,
    howns, or_self, or_self]
  -- Reflection passes over names that are no entity, but whatever is nested is one.
  have hpresent : Nests findings b a → ∃ entity, (findings.foldl record ∅).get? a = some entity :=
    fun h => Model.exists_get?_reflect_iff.1 h.exists_get?.2
  constructor
  · exact Or.imp_right And.right
  · exact Or.imp_right fun h => ⟨hpresent h, h⟩

theorem wellFormed_modelOf (hfindings : ∀ finding ∈ findings, finding.IsScalar) :
    (modelOf findings).WellFormed := by
  have hkeyed : (modelOf findings).Keyed := (keyed_foldl_record hfindings).reflect
  constructor
  case keyed => exact hkeyed
  case entities =>
    intro entity hmem
    obtain ⟨key, hget⟩ := Model.mem_toList_iff.1 hmem
    rw [modelOf, Model.get?_reflect, Option.map_eq_some_iff] at hget
    obtain ⟨recorded, hrecorded, rfl⟩ := hget
    have hsound := (sound_recorded hfindings key recorded hrecorded).2
    exact { hsound with
      owned := by
        intro other howned
        rw [NameSet.mem_insertAll, NameSet.mem_insertAll]
        exact .inr (.inl howned) }
  case present =>
    intro entity hmem other hother
    have hget := hkeyed.mem_toList_iff.1 hmem
    have hnests : Nests findings entity.name other ∨ Nests findings other entity.name := by
      rcases hother with hrelated | howned
      · exact (relates_modelOf_iff hfindings).1 ⟨entity, hget, hrelated⟩
      · exact .inl (owns_modelOf_iff.1 ⟨entity, hget, howned⟩)
    rcases hnests with hnests | hnests
    · exact hnests.exists_get?.2
    · exact hnests.exists_get?.1
  case symmetric =>
    intro a b hrelates
    rw [relates_modelOf_iff hfindings] at hrelates ⊢
    exact hrelates.symm

end Mapping

end EntitySchema
