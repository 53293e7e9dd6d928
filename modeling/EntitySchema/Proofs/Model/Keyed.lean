import EntitySchema.Model.Basic

/-!
# Models under their own names

A model built by adding, relating and reflecting entities has every entity under its name. Its
entities are then listed by strictly increasing name, and a name is found where it is listed.
-/

namespace EntitySchema

section Filter

variable {α β : Type} [DecidableEq β] {xs : List α} {f : α → β}

theorem filter_eq_nil_of_notMem {b : β} (h : b ∉ xs.map f) : xs.filter (fun y => f y = b) = [] := by
  rw [List.filter_eq_nil_iff]
  intro y hy heq
  exact h (List.mem_map.2 ⟨y, hy, of_decide_eq_true heq⟩)

theorem filter_eq_singleton (h : (xs.map f).Nodup) {x : α} (hx : x ∈ xs) :
    xs.filter (fun y => f y = f x) = [x] := by
  obtain ⟨before, after, rfl⟩ := List.append_of_mem hx
  rw [List.map_append, List.map_cons, List.nodup_append, List.nodup_cons] at h
  obtain ⟨-, ⟨hafter, -⟩, hbefore⟩ := h
  have hnew : f x ∉ before.map f := fun hmem => hbefore _ hmem _ List.mem_cons_self rfl
  rw [List.filter_append, List.filter_cons_of_pos (by simp), filter_eq_nil_of_notMem hnew,
    filter_eq_nil_of_notMem hafter, List.nil_append]

end Filter

namespace Model

/-- Every entity is under its own name. -/
def Keyed (model : Model) : Prop :=
  ∀ key entity, model.get? key = some entity → entity.name = key

/-- The models that the operations on whole entities can build. -/
inductive Built : Model → Prop
  | empty : Built ∅
  | add {model after : Model} (entity : Entity) :
      Built model → model.add entity = .ok after → Built after
  | relate {model after : Model} (owner other : String) :
      Built model → model.relate owner other = .ok after → Built after
  | reflect {model : Model} : Built model → Built model.reflect

variable {model after : Model}

theorem add_eq_ok_iff {entity : Entity} :
    model.add entity = .ok after ↔ model.entities.contains entity.name = false ∧
      entity.repeatedColumn? = none ∧ after = model.put entity.name entity := by
  unfold add
  split
  next hcontains => simp [hcontains]
  next hcontains =>
    cases entity.repeatedColumn? with
    | some column => simp
    | none => simp [hcontains, eq_comm]

theorem relate_eq_ok_iff {owner other : String} :
    model.relate owner other = .ok after ↔ model.entities.contains owner = true ∧
      model.entities.contains other = true ∧
      after = (model.modify owner (·.own other)).modify other (·.relateTo owner) := by
  unfold relate
  cases model.entities.contains owner with
  | false => simp
  | true =>
      cases model.entities.contains other with
      | false => simp
      | true => simp [eq_comm]

theorem keyed_iff_entries : model.Keyed ↔ ∀ e ∈ model.entities.entries, e.2.name = e.1 := by
  constructor
  · intro h e he
    exact h e.1 e.2 (NameMap.get?_eq_some.2 he)
  · intro h key entity hget
    exact h (key, entity) (NameMap.get?_eq_some.1 hget)

theorem Keyed.put (h : model.Keyed) (entity : Entity) : (model.put entity.name entity).Keyed := by
  intro key found hfound
  rw [get?_put] at hfound
  split at hfound
  next heq => exact Option.some.inj hfound ▸ heq
  · exact h key found hfound

theorem Keyed.modify (h : model.Keyed) (key : String) {f : Entity → Entity}
    (hf : ∀ entity, (f entity).name = entity.name) : (model.modify key f).Keyed := by
  intro other found hfound
  rw [get?_modify] at hfound
  split at hfound
  · obtain ⟨entity, hentity, rfl⟩ := Option.map_eq_some_iff.1 hfound
    exact (hf entity).trans (h other entity hentity)
  · exact h other found hfound

theorem Keyed.reflect (h : model.Keyed) : model.reflect.Keyed := by
  intro key found hfound
  rw [get?_reflect] at hfound
  obtain ⟨entity, hentity, rfl⟩ := Option.map_eq_some_iff.1 hfound
  exact h key entity hentity

theorem Built.keyed (h : model.Built) : model.Keyed := by
  induction h with
  | empty => exact fun key entity h => nomatch h
  | add entity _ hadd ih =>
      obtain ⟨-, -, rfl⟩ := add_eq_ok_iff.1 hadd
      exact ih.put _
  | @relate model after owner other _ hrelate ih =>
      obtain ⟨-, -, rfl⟩ := relate_eq_ok_iff.1 hrelate
      have howner : (model.modify owner (·.own other)).Keyed := ih.modify owner fun _ => rfl
      exact howner.modify other fun _ => rfl
  | reflect _ ih => exact ih.reflect

theorem mem_toList_iff {entity : Entity} :
    entity ∈ model.toList ↔ ∃ key, model.get? key = some entity := by
  rw [toList, NameMap.values, List.mem_map]
  constructor
  · rintro ⟨⟨key, found⟩, hmem, rfl⟩
    exact ⟨key, NameMap.get?_eq_some.2 hmem⟩
  · rintro ⟨key, hget⟩
    exact ⟨(key, entity), NameMap.get?_eq_some.1 hget, rfl⟩

theorem Keyed.mem_toList_iff (h : model.Keyed) {entity : Entity} :
    entity ∈ model.toList ↔ model.get? entity.name = some entity := by
  rw [Model.mem_toList_iff]
  constructor
  · rintro ⟨key, hget⟩
    exact h key entity hget ▸ hget
  · intro hget
    exact ⟨entity.name, hget⟩

theorem Keyed.exists_mem_toList_iff (h : model.Keyed) (name : String) (P : Entity → Prop) :
    (∃ entity ∈ model.toList, entity.name = name ∧ P entity) ↔
      ∃ entity, model.get? name = some entity ∧ P entity := by
  constructor
  · rintro ⟨entity, hmem, rfl, hentity⟩
    exact ⟨entity, h.mem_toList_iff.1 hmem, hentity⟩
  · rintro ⟨entity, hget, hentity⟩
    exact ⟨entity, Model.mem_toList_iff.2 ⟨name, hget⟩, h name entity hget, hentity⟩

theorem Keyed.pairwise_name_lt (h : model.Keyed) :
    model.toList.Pairwise fun a b => a.name < b.name := by
  rw [toList, NameMap.values, List.pairwise_map]
  refine model.entities.sorted.imp_of_mem fun {a b} ha hb hlt => ?_
  rw [keyed_iff_entries.1 h a ha, keyed_iff_entries.1 h b hb]
  exact hlt

theorem Keyed.nodup_names (h : model.Keyed) : (model.toList.map Entity.name).Nodup := by
  rw [List.nodup_iff_pairwise_ne, List.pairwise_map]
  apply h.pairwise_name_lt.imp
  intro a b hlt heq
  exact String.lt_irrefl _ (heq ▸ hlt)

end Model

end EntitySchema
