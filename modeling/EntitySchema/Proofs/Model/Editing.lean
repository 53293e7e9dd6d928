import EntitySchema.Proofs.Model.WellFormed

/-!
# Editing a model

A model is made by edits, of which each is performed or refused as a whole. Whatever the edits are,
entities stay under their names, columns of an entity keep different names, and what was declared once
stays declared.
-/

namespace EntitySchema

/-- A step in the making of a model. -/
inductive Edit where
  | add (entity : Entity)
  | relate (owner other : String)
  | reflect
  /-- Merges a column into the entity of a name, if there is one. -/
  | merge (name : String) (column : Column)

namespace Edit

variable {model after : Model} {edit : Edit} {cause : Inconsistency}

/-- The edited model. -/
def apply (model : Model) : Edit → Except Inconsistency Model
  | add entity => model.add entity
  | relate owner other => model.relate owner other
  | reflect => .ok model.reflect
  | merge name column => .ok (model.modify name (·.merge column))

/-- The edit of a model in place, where a failure does not take back what was changed before it. -/
def program : Edit → EStateM Inconsistency Model Unit
  | add entity => do
    if (← get).entities.contains entity.name then throw (.repeatedEntity entity.name)
    if let some column := entity.repeatedColumn? then throw (.repeatedColumn column entity.name)
    modify (·.put entity.name entity)
  | relate owner other => do
    for name in [owner, other] do
      if !(← get).entities.contains name then throw (.unknownSide name)
    modify (·.modify owner (·.own other))
    modify (·.modify other (·.relateTo owner))
  | reflect => modify Model.reflect
  | merge name column => modify (·.modify name (·.merge column))

/-- The model that an edit in place leaves, and the cause if it is refused. -/
def perform (model : Model) (edit : Edit) : Model × Option Inconsistency :=
  match edit.program.run model with
  | .ok _ after => (after, none)
  | .error cause after => (after, some cause)

/-- The edit adds an entity that is in the model or has columns of one name, or it relates an entity
that is not in the model. -/
def Unfit (model : Model) : Edit → Prop
  | add entity =>
    (∃ found, model.get? entity.name = some found) ∨ ¬(entity.columns.map Column.name).Nodup
  | relate owner other => model.get? owner = none ∨ model.get? other = none
  | reflect | merge _ _ => False

end Edit

/-- The later entity still declares what the earlier one declared. -/
structure Entity.KeptBy (entity later : Entity) : Prop where
  name : later.name = entity.name
  columns : ∀ name ∈ entity.columns.map Column.name, name ∈ later.columns.map Column.name
  externalIdSources : later.externalIdSources = entity.externalIdSources
  hasValueColumn : later.hasValueColumn = entity.hasValueColumn
  annotation : later.annotation = entity.annotation
  related : ∀ other ∈ entity.related, other ∈ later.related
  owned : ∀ other ∈ entity.owned, other ∈ later.owned

namespace Entity.KeptBy

variable {entity later last : Entity}

theorem refl (entity : Entity) : entity.KeptBy entity :=
  ⟨rfl, fun _ => id, rfl, rfl, rfl, fun _ => id, fun _ => id⟩

theorem trans (h : entity.KeptBy later) (h' : later.KeptBy last) : entity.KeptBy last where
  name := h'.name.trans h.name
  columns name hname := h'.columns name (h.columns name hname)
  externalIdSources := h'.externalIdSources.trans h.externalIdSources
  hasValueColumn := h'.hasValueColumn.trans h.hasValueColumn
  annotation := h'.annotation.trans h.annotation
  related other hother := h'.related other (h.related other hother)
  owned other hother := h'.owned other (h.owned other hother)

theorem relateTo (entity : Entity) (other : String) : entity.KeptBy (entity.relateTo other) :=
  { refl entity with related := fun _ hname => NameSet.mem_insert.2 (.inr hname) }

theorem own (entity : Entity) (other : String) : entity.KeptBy (entity.own other) :=
  { relateTo entity other with owned := fun _ hname => NameSet.mem_insert.2 (.inr hname) }

theorem merge (entity : Entity) (column : Column) : entity.KeptBy (entity.merge column) :=
  { refl entity with columns := fun _ hname => mem_names_mergeColumn.2 (.inr hname) }

end Entity.KeptBy

namespace Model

variable {model between after : Model} {edit : Edit} {edits : List Edit}

/-- Every entity is under its own name and has no two columns of one name. -/
structure Upright (model : Model) : Prop where
  keyed : model.Keyed
  columns : ∀ key entity, model.get? key = some entity → (entity.columns.map Column.name).Nodup

/-- The later model has every entity of the earlier one, with all that it declared. -/
def KeptBy (model later : Model) : Prop :=
  ∀ key entity, model.get? key = some entity →
    ∃ found, later.get? key = some found ∧ entity.KeptBy found

theorem KeptBy.refl (model : Model) : model.KeptBy model :=
  fun _ entity hget => ⟨entity, hget, .refl entity⟩

theorem KeptBy.trans (h : model.KeptBy between) (h' : between.KeptBy after) :
    model.KeptBy after := by
  intro key entity hget
  obtain ⟨middle, hmiddle, hkept⟩ := h key entity hget
  obtain ⟨last, hlast, hkept'⟩ := h' key middle hmiddle
  exact ⟨last, hlast, hkept.trans hkept'⟩

theorem keptBy_put {entity : Entity} (hnew : model.get? entity.name = none) :
    model.KeptBy (model.put entity.name entity) :=
  fun _ found hget => ⟨found, (get?_put_eq_some_iff hnew).2 (.inl hget), .refl found⟩

theorem keptBy_modify (model : Model) (key : String) {f : Entity → Entity}
    (hf : ∀ entity : Entity, entity.KeptBy (f entity)) : model.KeptBy (model.modify key f) := by
  intro other entity hget
  rw [get?_modify, hget]
  split
  · exact ⟨f entity, rfl, hf entity⟩
  · exact ⟨entity, rfl, .refl entity⟩

theorem keptBy_reflect (model : Model) : model.KeptBy model.reflect := by
  intro key entity hget
  rw [get?_reflect, hget]
  refine ⟨_, rfl, { Entity.KeptBy.refl entity with related := fun other hother => ?_ }⟩
  exact NameSet.mem_insertAll.2 (.inr (NameSet.mem_insertAll.2 (.inr hother)))

theorem Upright.empty : (∅ : Model).Upright :=
  ⟨Built.empty.keyed, fun _ _ hget => (nomatch hget)⟩

theorem Upright.put (h : model.Upright) {entity : Entity}
    (hcolumns : (entity.columns.map Column.name).Nodup) :
    (model.put entity.name entity).Upright := by
  refine ⟨h.keyed.put entity, fun key found hget => ?_⟩
  rw [get?_put] at hget
  split at hget
  · exact Option.some.inj hget ▸ hcolumns
  · exact h.columns key found hget

theorem Upright.modify (h : model.Upright) (key : String) {f : Entity → Entity}
    (hname : ∀ entity, (f entity).name = entity.name)
    (hcolumns : ∀ entity, (entity.columns.map Column.name).Nodup →
      ((f entity).columns.map Column.name).Nodup) :
    (model.modify key f).Upright := by
  refine ⟨h.keyed.modify key hname, fun other found hget => ?_⟩
  rw [get?_modify] at hget
  split at hget
  · obtain ⟨entity, hentity, rfl⟩ := Option.map_eq_some_iff.1 hget
    exact hcolumns entity (h.columns other entity hentity)
  · exact h.columns other found hget

theorem Upright.reflect (h : model.Upright) : model.reflect.Upright := by
  refine ⟨h.keyed.reflect, fun key found hget => ?_⟩
  rw [get?_reflect] at hget
  obtain ⟨entity, hentity, rfl⟩ := Option.map_eq_some_iff.1 hget
  exact h.columns key entity hentity

end Model

namespace Edit

variable {model after : Model} {edit : Edit}

theorem upright_of_apply (h : edit.apply model = .ok after) (hmodel : model.Upright) :
    after.Upright := by
  cases edit with
  | add entity =>
      obtain ⟨-, hcolumns, rfl⟩ := Model.add_eq_ok_iff.1 h
      exact hmodel.put (Entity.repeatedColumn?_eq_none_iff.1 hcolumns)
  | relate owner other =>
      obtain ⟨-, -, rfl⟩ := Model.relate_eq_ok_iff.1 h
      have howner : (model.modify owner (·.own other)).Upright :=
        hmodel.modify owner (fun _ => rfl) fun _ => id
      exact howner.modify other (fun _ => rfl) fun _ => id
  | reflect =>
      cases h
      exact hmodel.reflect
  | merge name column =>
      cases h
      exact hmodel.modify name (fun _ => rfl) fun _ hnodup => nodup_names_mergeColumn hnodup column

theorem keptBy_of_apply (h : edit.apply model = .ok after) : model.KeptBy after := by
  cases edit with
  | add entity =>
      obtain ⟨hnew, -, rfl⟩ := Model.add_eq_ok_iff.1 h
      exact Model.keptBy_put (Model.contains_eq_false_iff.1 hnew)
  | relate owner other =>
      obtain ⟨-, -, rfl⟩ := Model.relate_eq_ok_iff.1 h
      have howner := model.keptBy_modify owner fun entity => .own entity other
      exact howner.trans (Model.keptBy_modify _ other fun entity => .relateTo entity owner)
  | reflect =>
      cases h
      exact model.keptBy_reflect
  | merge name column =>
      cases h
      exact model.keptBy_modify name fun entity => .merge entity column

theorem run_program (edit : Edit) (model : Model) :
    edit.program.run model = match edit.apply model with
      | .ok after => .ok () after
      | .error cause => .error cause model := by
  cases edit with
  | add entity =>
      rw [apply, Model.add]
      cases hold : model.entities.contains entity.name with
      | true => simp [program, hold]
      | false =>
          cases hcolumn : entity.repeatedColumn? with
          | some column => simp [program, hold, hcolumn]
          | none => simp [program, hold, hcolumn]
  | relate owner other =>
      rw [apply, Model.relate]
      cases howner : model.entities.contains owner with
      | false => simp [program, howner]
      | true =>
          cases hother : model.entities.contains other with
          | false => simp [program, howner, hother]
          | true => simp [program, howner, hother]
  | reflect => rfl
  | merge name column => rfl

/-- An edit in place gives the edited model, or the model as it was. -/
theorem perform_eq (edit : Edit) (model : Model) :
    edit.perform model = match edit.apply model with
      | .ok after => (after, none)
      | .error cause => (model, some cause) := by
  rw [perform, run_program]
  cases edit.apply model with
  | ok after => rfl
  | error cause => rfl

theorem exists_apply_eq_ok_iff : (∃ after, edit.apply model = .ok after) ↔ ¬edit.Unfit model := by
  cases edit with
  | add entity =>
      simp only [apply, Model.add_eq_ok_iff, Model.contains_eq_false_iff,
        Entity.repeatedColumn?_eq_none_iff, exists_and_left, exists_eq, and_true, Unfit, not_or,
        not_not]
      rw [Option.eq_none_iff_forall_ne_some]
      simp
  | relate owner other =>
      simp only [apply, Model.relate_eq_ok_iff, exists_and_left, exists_eq, and_true, Unfit, not_or]
      rw [← Model.contains_eq_false_iff, ← Model.contains_eq_false_iff]
      simp
  | reflect => simp [apply, Unfit]
  | merge name column => simp [apply, Unfit]

theorem cases_of_perform (edit : Edit) (model : Model) :
    (∃ after, edit.apply model = .ok after ∧ edit.perform model = (after, none)) ∨
      ∃ cause, edit.apply model = .error cause ∧ edit.perform model = (model, some cause) := by
  rw [perform_eq]
  cases edit.apply model with
  | ok after => exact .inl ⟨after, rfl, rfl⟩
  | error cause => exact .inr ⟨cause, rfl, rfl⟩

theorem upright_perform (edit : Edit) (h : model.Upright) : (edit.perform model).1.Upright := by
  obtain ⟨after, happly, hperform⟩ | ⟨cause, -, hperform⟩ := edit.cases_of_perform model
  · rw [hperform]
    exact upright_of_apply happly h
  · rw [hperform]
    exact h

theorem keptBy_perform (edit : Edit) (model : Model) : model.KeptBy (edit.perform model).1 := by
  obtain ⟨after, happly, hperform⟩ | ⟨cause, -, hperform⟩ := edit.cases_of_perform model
  · rw [hperform]
    exact keptBy_of_apply happly
  · rw [hperform]
    exact .refl model

end Edit

namespace Model

variable {model after : Model} {edits : List Edit} {entities permuted : List Entity}

/-- The model that edits make of a model, where those that are refused change nothing. -/
def performAll (model : Model) (edits : List Edit) : Model :=
  edits.foldl (fun model edit => (edit.perform model).1) model

/-- The model that edits make from the beginning. -/
def edited (edits : List Edit) : Model := performAll ∅ edits

theorem performAll_append (model : Model) (edits more : List Edit) :
    performAll model (edits ++ more) = performAll (performAll model edits) more :=
  List.foldl_append

theorem upright_performAll (h : model.Upright) (edits : List Edit) :
    (performAll model edits).Upright := by
  induction edits generalizing model with
  | nil => exact h
  | cons edit edits ih =>
      exact ih (edit.upright_perform h)

theorem keptBy_performAll (model : Model) (edits : List Edit) :
    model.KeptBy (performAll model edits) := by
  induction edits generalizing model with
  | nil => exact .refl model
  | cons edit edits ih =>
      exact (edit.keptBy_perform model).trans (ih (edit.perform model).1)

/-- What holds of a model however it was edited: every entity is under its own name and has no two
columns of one name, none is lost later on, and an edit is refused exactly if it is unfit and then leaves
the model as it is, although it edits in place. -/
structure Sustained (edits : List Edit) : Prop where
  upright : (edited edits).Upright
  kept : ∀ more, (edited edits).KeptBy (edited (edits ++ more))
  performed : ∀ (edit : Edit) after, edit.perform (edited edits) = (after, none) ↔
    edit.apply (edited edits) = .ok after
  refused : ∀ edit : Edit, (edit.perform (edited edits)).2 ≠ none ↔ edit.Unfit (edited edits)
  unchanged : ∀ edit : Edit, edit.Unfit (edited edits) → edited (edits ++ [edit]) = edited edits

theorem sustained (edits : List Edit) : Sustained edits where
  upright := upright_performAll .empty edits
  kept more := by
    rw [edited, edited, performAll_append]
    exact keptBy_performAll _ more
  performed edit after := by
    obtain ⟨found, happly, hperform⟩ | ⟨cause, happly, hperform⟩ := edit.cases_of_perform (edited edits)
    · simp [happly, hperform]
    · simp [happly, hperform]
  refused edit := by
    rw [← not_iff_not, not_not, ← Edit.exists_apply_eq_ok_iff]
    obtain ⟨after, happly, hperform⟩ | ⟨cause, happly, hperform⟩ := edit.cases_of_perform (edited edits)
    · simp [happly, hperform]
    · simp [happly, hperform]
  unchanged edit hunfit := by
    rw [edited, performAll_append]
    obtain ⟨after, happly, -⟩ | ⟨cause, -, hperform⟩ := edit.cases_of_perform (edited edits)
    · exact absurd hunfit (Edit.exists_apply_eq_ok_iff.1 ⟨after, happly⟩)
    · exact congrArg Prod.fst hperform

theorem exists_addAll_iff :
    (∃ after, model.addAll entities = .ok after) ↔
      (∀ entity ∈ entities, model.get? entity.name = none ∧ entity.repeatedColumn? = none) ∧
        (entities.map Entity.name).Nodup := by
  constructor
  · rintro ⟨after, hafter⟩
    obtain ⟨hentities, hnames, -⟩ := addAll_eq_ok_iff.1 hafter
    exact ⟨hentities, hnames⟩
  · intro h
    induction entities generalizing model with
    | nil => exact ⟨model, addAll_nil model⟩
    | cons entity entities ih =>
        obtain ⟨hentities, hnames⟩ := h
        obtain ⟨⟨hnew, hcolumns⟩, hrest⟩ := List.forall_mem_cons.1 hentities
        obtain ⟨hname, hnodup⟩ := List.nodup_cons.1 hnames
        have hfresh : ∀ other ∈ entities, (model.put entity.name entity).get? other.name = none ∧
            other.repeatedColumn? = none := by
          intro other hother
          have hne : entity.name ≠ other.name :=
            fun heq => hname (List.mem_map.2 ⟨other, hother, heq.symm⟩)
          rw [get?_put, if_neg hne]
          exact hrest other hother
        obtain ⟨after, hafter⟩ := ih ⟨hfresh, hnodup⟩
        exact ⟨after, addAll_cons_eq_ok_iff.2 ⟨hnew, hcolumns, hafter⟩⟩

/-- Entities make a model exactly if their names differ, and the names of the columns of each; their
order does not matter then. -/
structure Collected (entities : List Entity) : Prop where
  accepted : (∃ model, Model.ofList entities = .ok model) ↔
    (entities.map Entity.name).Nodup ∧
      ∀ entity ∈ entities, (entity.columns.map Column.name).Nodup
  unordered : ∀ model permuted, Model.ofList entities = .ok model → entities.Perm permuted →
    Model.ofList permuted = .ok model

theorem collected (entities : List Entity) : Collected entities where
  accepted := by
    rw [Model.ofList, exists_addAll_iff, and_comm]
    simp only [Entity.repeatedColumn?_eq_none_iff]
    exact and_congr_right fun _ => forall₂_congr fun entity _ => and_iff_right rfl
  unordered model permuted hmodel hperm := by
    obtain ⟨hentities, hnames, hget⟩ := addAll_eq_ok_iff.1 hmodel
    refine addAll_eq_ok_iff.2 ⟨?_, (hperm.map Entity.name).nodup_iff.1 hnames, ?_⟩
    · exact fun entity hmem => hentities entity (hperm.mem_iff.2 hmem)
    · intro key found
      rw [hget, hperm.mem_iff]

/-- A model stays upright and loses nothing in whatever way it is edited, and to make one from a list of
entities asks for no more than different names. -/
theorem sustained_and_collected (edits : List Edit) (entities : List Entity) :
    Sustained edits ∧ Collected entities :=
  ⟨sustained edits, collected entities⟩

end Model

end EntitySchema
