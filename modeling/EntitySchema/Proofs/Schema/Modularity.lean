import Mathlib.Data.List.Sort
import EntitySchema.Proofs.Schema.Triggers

/-!
# Parts of models

A model falls into two parts if no entity of one part names an entity of the other. Its schema then
consists of the schemas of both parts: what is made for one part depends on the other part only in
that both take names from the same scopes, and so a part can only gain from being alone.
-/

namespace EntitySchema

open Identifier (Namer Scope)

namespace Model

variable {model part left right : Model}

/-- Each entity of the model is in one of two parts, and none names an entity of the other part. -/
structure Splits (model left right : Model) : Prop where
  entries : model.entities.entries.Perm (left.entities.entries ++ right.entities.entries)
  leftApart : ∀ a b, left.Relates a b ∨ left.Owns a b → right.get? b = none
  rightApart : ∀ a b, right.Relates a b ∨ right.Owns a b → left.get? b = none

theorem Splits.symm (h : model.Splits left right) : model.Splits right left where
  entries := h.entries.trans List.perm_append_comm
  leftApart := h.rightApart
  rightApart := h.leftApart

/-- The part has some of the entities of the model, and with each one those related to it. -/
structure IsPart (model part : Model) : Prop where
  get?_iff : ∀ key entity, part.get? key = some entity ↔
    part.entities.contains key = true ∧ model.get? key = some entity
  closed : ∀ a b, model.Relates a b → part.entities.contains a = part.entities.contains b

theorem contains_eq_true_iff {key : String} :
    model.entities.contains key = true ↔ ∃ entity, model.get? key = some entity :=
  Option.isSome_iff_exists

theorem Splits.get?_iff_or (h : model.Splits left right) {key : String} {entity : Entity} :
    model.get? key = some entity ↔ left.get? key = some entity ∨ right.get? key = some entity := by
  rw [get?, get?, get?, NameMap.get?_eq_some, NameMap.get?_eq_some, NameMap.get?_eq_some,
    h.entries.mem_iff, List.mem_append]

theorem Splits.get?_iff (h : model.Splits left right) {key : String} {entity : Entity} :
    left.get? key = some entity ↔
      left.entities.contains key = true ∧ model.get? key = some entity := by
  rw [contains_eq_true_iff]
  constructor
  · intro hget
    exact ⟨⟨entity, hget⟩, h.get?_iff_or.2 (.inl hget)⟩
  · rintro ⟨⟨found, hfound⟩, hget⟩
    rw [← hget, h.get?_iff_or.2 (.inl hfound), hfound]

theorem Splits.contains_of_relates (h : model.Splits left right) {a b : String}
    (hrelates : model.Relates a b) (hback : model.Relates b a)
    (ha : left.entities.contains a = true) : left.entities.contains b = true := by
  obtain ⟨entity, hget, hrelated⟩ := hrelates
  obtain ⟨other, hother, -⟩ := hback
  have hnone : right.get? b = none :=
    h.leftApart a b (.inl ⟨entity, h.get?_iff.2 ⟨ha, hget⟩, hrelated⟩)
  rcases h.get?_iff_or.1 hother with hleft | hright
  · exact contains_eq_true_iff.2 ⟨other, hleft⟩
  · cases hnone.symm.trans hright

theorem Splits.isPart (h : model.Splits left right) (hkeyed : model.Keyed)
    {relations : List Relation} (hrelations : Relation.ofModel model = .ok relations) :
    model.IsPart left where
  get?_iff _ _ := h.get?_iff
  closed a b hrelates := by
    have hback := Association.relates_symm hkeyed hrelations hrelates
    rw [Bool.eq_iff_iff]
    exact ⟨h.contains_of_relates hrelates hback, h.contains_of_relates hback hrelates⟩

theorem IsPart.keyed (h : model.IsPart part) (hkeyed : model.Keyed) : part.Keyed := by
  intro key entity hget
  exact hkeyed key entity ((h.get?_iff key entity).1 hget).2

/-- A part is listed in the order of the model. -/
theorem IsPart.toList_eq (h : model.IsPart part) (hkeyed : model.Keyed) :
    part.toList = model.toList.filter (part.entities.contains ·.name) := by
  have : Std.Antisymm fun a b : Entity => a.name < b.name :=
    ⟨fun a b hab hba => absurd hba (String.lt_asymm hab)⟩
  have : Std.Irrefl fun a b : Entity => a.name < b.name := ⟨fun a => String.lt_irrefl a.name⟩
  have hpart := h.keyed hkeyed
  apply hpart.pairwise_name_lt.eq_of_mem_iff (hkeyed.pairwise_name_lt.filter _)
  intro entity
  rw [List.mem_filter, hpart.mem_toList_iff, hkeyed.mem_toList_iff, h.get?_iff, and_comm]

end Model

/-- Both sides of the table are among the names. -/
def Association.isWithin (keep : String → Bool) (association : Association) : Bool :=
  keep association.owner.entity && keep association.other.entity

/-- What the schema holds for the entities of those names. -/
def Schema.restrict (keep : String → Bool) (schema : Schema) : Schema where
  name := schema.name
  schemas := schema.schemas
  entities := schema.entities.filter (keep ·.entity)
  associations := schema.associations.filter (·.isWithin keep)
  externalIdTriggers := schema.externalIdTriggers.filter fun trigger =>
    (schema.entities.filter (keep ·.entity)).any (·.primary.name = trigger.table)
  archiveTriggers := schema.archiveTriggers.filter fun trigger =>
    (schema.entities.filter (keep ·.entity)).any (·.primary.name = trigger.table)

namespace Association

variable {namer : Namer} {model part : Model} {associations : List Association}

section Part

variable {relations : List Relation} (hpart : model.IsPart part) (hkeyed : model.Keyed)
  (h : Relation.ofModel model = .ok relations)

include hpart hkeyed h

theorem ofModel_relations_part : Relation.ofModel part =
    .ok (relations.filter (part.entities.contains ·.entity.name)) := by
  obtain ⟨hmap, hreturned, howned⟩ := Relation.ofModel_eq_ok_iff.1 h
  have hblocks : ∀ entity ∈ model.toList, ∀ p ∈ entity.related.toList.map (Prod.mk entity),
      part.entities.contains p.1.name = part.entities.contains entity.name := by
    intro entity _ p hp
    obtain ⟨key, -, rfl⟩ := List.mem_map.1 hp
    rfl
  apply Relation.ofModel_eq_ok_iff.2
  refine ⟨?_, ?_, ?_⟩
  · have hfilter : (relations.filter (part.entities.contains ·.entity.name)).map
        (fun r => (r.entity, r.key)) =
          (relations.map fun r => (r.entity, r.key)).filter
            fun p => part.entities.contains p.1.name := by
      rw [List.filter_map]
      rfl
    rw [hfilter, hmap, filter_flatMap_of_forall hblocks, hpart.toList_eq hkeyed]
  · intro r hr
    obtain ⟨hmem, hentity⟩ := List.mem_filter.1 hr
    obtain ⟨hget, hback⟩ := hreturned r hmem
    have hrelates : model.Relates r.entity.name r.key :=
      ⟨r.entity, Relation.get?_entity_name hkeyed h hmem, (Relation.mem_of_ofModel h hmem).2⟩
    rw [hpart.closed _ _ hrelates] at hentity
    exact ⟨(hpart.get?_iff _ _).2 ⟨hentity, hget⟩, hback⟩
  · intro entity hentity
    rw [hpart.toList_eq hkeyed] at hentity
    exact howned entity (List.mem_filter.1 hentity).1

theorem isWithin_table {r : Relation} (hr : r ∈ relations) :
    (r.table namer).isWithin part.entities.contains = part.entities.contains r.entity.name := by
  have hsides : part.entities.contains r.sides.1.name = part.entities.contains r.sides.2.name :=
    hpart.closed _ _ (relates_sides hkeyed h hr)
  have hentity : part.entities.contains r.entity.name = part.entities.contains r.key :=
    hpart.closed _ _
      ⟨r.entity, Relation.get?_entity_name hkeyed h hr, (Relation.mem_of_ofModel h hr).2⟩
  change (part.entities.contains r.sides.1.name && part.entities.contains r.sides.2.name) = _
  rw [← hsides, Bool.and_self]
  -- Which side owns the table need not be the one that this relation starts from.
  have hpair : s(r.sides.1.name, r.sides.2.name) = s(r.entity.name, r.key) :=
    @pair_table namer _ _ hkeyed h _ hr
  rcases Sym2.eq_iff.1 hpair with ⟨howner, -⟩ | ⟨howner, -⟩
  · rw [howner]
  · rw [howner, hentity]

end Part

/-- The tables of a part are those of the model on both of whose sides are entities of the part. -/
theorem ofModel_part (hpart : model.IsPart part) (hkeyed : model.Keyed)
    (h : ofModel namer model = .ok associations) :
    ofModel namer part = .ok (associations.filter (·.isWithin part.entities.contains)) := by
  obtain ⟨relations, hrelations, hclaims, rfl⟩ := ofModel_eq_ok_iff.1 h
  have hpartRelations := ofModel_relations_part hpart hkeyed hrelations
  have hfirst : Relation.firstPerPair [] (relations.filter (part.entities.contains ·.entity.name)) =
      (Relation.firstPerPair [] relations).filter (part.entities.contains ·.entity.name) := by
    rw [Relation.firstPerPair_eq_filter (hpart.keyed hkeyed) hpartRelations,
      Relation.firstPerPair_eq_filter hkeyed hrelations, List.filter_comm]
  refine ofModel_eq_ok_iff.2 ⟨_, hpartRelations, ?_, ?_⟩
  · intro r hr
    rw [hfirst] at hr
    exact hclaims r (List.mem_filter.1 hr).1
  · rw [hfirst, List.filter_map]
    congr 1
    apply List.filter_congr
    intro r hr
    rw [Relation.firstPerPair_eq_filter hkeyed hrelations] at hr
    exact isWithin_table hpart hkeyed hrelations (List.mem_filter.1 hr).1

theorem contains_owner_eq_other (hpart : model.IsPart part) (hkeyed : model.Keyed)
    (h : ofModel namer model = .ok associations) :
    ∀ association ∈ associations, part.entities.contains association.owner.entity =
      part.entities.contains association.other.entity := by
  intro association hmem
  have hjoined := (exists_sides_iff hkeyed h _ _).1 ⟨association, hmem, rfl, rfl⟩
  exact hpart.closed _ _ hjoined.1

end Association

namespace EntityPart

variable {config : Config} {associations : List Association} {entity : Entity} {part : EntityPart}
  {keep : String → Bool}

theorem filterMap_relationship?_filter (hentity : keep entity.name = true)
    (hsides : ∀ association ∈ associations,
      keep association.owner.entity = keep association.other.entity) :
    (associations.filter (·.isWithin keep)).filterMap (EntityTables.relationship? entity) =
      associations.filterMap (EntityTables.relationship? entity) := by
  rw [List.filterMap_filter]
  apply List.filterMap_congr
  intro association hmem
  split
  · rfl
  next hnot =>
    have howner : keep association.owner.entity = false := by
      simpa [Association.isWithin, ← hsides association hmem] using hnot
    have hother := (hsides association hmem).symm.trans howner
    unfold EntityTables.relationship?
    rw [if_neg, if_neg]
    · rintro heq
      cases (heq ▸ hother).symm.trans hentity
    · rintro heq
      cases (heq ▸ howner).symm.trans hentity

/-- The part of an entity depends on the tables of its own relations only. -/
theorem IsOf.restrict (h : part.IsOf config associations entity) (hentity : keep entity.name = true)
    (hsides : ∀ association ∈ associations,
      keep association.owner.entity = keep association.other.entity) :
    part.IsOf config (associations.filter (·.isWithin keep)) entity := by
  obtain ⟨rowType, hrowType, hmade⟩ := h
  obtain ⟨derivation, tables, hderivation, htables, rfl⟩ := ofEntity_eq_ok_iff.1 hmade
  obtain ⟨hprimary, harchive, rfl⟩ := EntityTables.ofEntity_eq_ok_iff.1 htables
  refine ⟨rowType, hrowType, ofEntity_eq_ok_iff.2 ⟨derivation, _, hderivation, ?_, rfl⟩⟩
  apply EntityTables.ofEntity_eq_ok_iff.2
  refine ⟨hprimary, harchive, ?_⟩
  rw [filterMap_relationship?_filter hentity hsides]

end EntityPart

namespace Schema

variable {config : Config} {associations : List Association} {model part : Model}
  {made : List EntityPart} {keep : String → Bool}

theorem forall₂_isOf_filter {entities : List Entity}
    (h : List.Forall₂ (fun entity part => part.IsOf config associations entity) entities made)
    (hsides : ∀ association ∈ associations,
      keep association.owner.entity = keep association.other.entity) :
    List.Forall₂
      (fun entity part => part.IsOf config (associations.filter (·.isWithin keep)) entity)
      (entities.filter (keep ·.name)) (made.filter (keep ·.tables.entity)) := by
  have hfilter : List.Forall₂ (fun entity part => part.IsOf config associations entity)
      (entities.filter (keep ·.name)) (made.filter (keep ·.tables.entity)) := by
    refine List.rel_filter (fun entity part hpart => ?_) h
    change keep entity.name = true ↔ keep part.tables.entity = true
    rw [(EntityPart.keptBy_of_isOf hpart).name]
  have hkept : ∀ entity ∈ entities.filter (keep ·.name), keep entity.name = true :=
    fun entity hentity => (List.mem_filter.1 hentity).2
  exact ((List.forall₂_and_left _ _).2 ⟨hkept, hfilter⟩).imp
    fun entity part hpart => hpart.2.restrict hpart.1 hsides

theorem functionClaims_filter_sublist {entities : List Entity}
    (h : List.Forall₂ (fun entity part => part.IsOf config associations entity) entities made) :
    (functionClaims (entities.filter (keep ·.name)) (made.filter (keep ·.tables.entity))).Sublist
      (functionClaims entities made) := by
  induction h with
  | nil => exact .refl _
  | cons hpart _ ih =>
      rw [List.filter_cons, List.filter_cons, (EntityPart.keptBy_of_isOf hpart).name,
        functionClaims_cons]
      split
      · rw [functionClaims_cons]
        exact ih.append_left _
      · exact ih.trans (List.sublist_append_right _ _)

theorem restrict_assemble (hstands : ∀ part ∈ made, part.Stands config)
    (hnames : (made.map fun part => part.tables.primary.name).Nodup) :
    (assemble config associations made).restrict keep =
      assemble config (associations.filter (·.isWithin keep))
        (made.filter (keep ·.tables.entity)) := by
  have hentities : (made.map EntityPart.tables).filter (keep ·.entity) =
      (made.filter (keep ·.tables.entity)).map EntityPart.tables := List.filter_map
  -- A table is that of a kept entity exactly if it has the name of such a table, as no two have one.
  have hany : ∀ part ∈ made, ((made.map EntityPart.tables).filter (keep ·.entity)).any
      (·.primary.name = part.tables.primary.name) = keep part.tables.entity := by
    intro part hpart
    rw [Bool.eq_iff_iff, List.any_eq_true]
    constructor
    · rintro ⟨tables, htables, hname⟩
      obtain ⟨hmem, hkeep⟩ := List.mem_filter.1 htables
      obtain ⟨other, hother, rfl⟩ := List.mem_map.1 hmem
      rw [← List.inj_on_of_nodup_map hnames hother hpart (of_decide_eq_true hname)]
      exact hkeep
    · intro hkeep
      exact ⟨part.tables, List.mem_filter.2 ⟨List.mem_map_of_mem hpart, hkeep⟩, decide_eq_true rfl⟩
  have hexternal : (made.flatMap EntityPart.externalIdTriggers).filter (fun trigger =>
      ((made.map EntityPart.tables).filter (keep ·.entity)).any (·.primary.name = trigger.table)) =
        (made.filter (keep ·.tables.entity)).flatMap EntityPart.externalIdTriggers := by
    apply filter_flatMap_of_forall
    intro part hpart trigger htrigger
    rw [((hstands part hpart).rowTrigger trigger htrigger).2, hany part hpart]
  have harchive : (made.map EntityPart.archiveTrigger).filter (fun trigger =>
      ((made.map EntityPart.tables).filter (keep ·.entity)).any (·.primary.name = trigger.table)) =
        (made.filter (keep ·.tables.entity)).map EntityPart.archiveTrigger := by
    rw [List.filter_map]
    congr 1
    apply List.filter_congr
    intro part hpart
    rw [Function.comp_apply, (hstands part hpart).archiveTrigger.2, hany part hpart]
  simp only [restrict, assemble, hexternal, harchive]
  rw [hentities]

/-- A model with a schema has one of each of its parts too, and that is what the schema of the model
holds for the part. -/
theorem ofModel_isPart {cache partCache : RowTypeCache} {schema : Schema} (hkeyed : model.Keyed)
    (hpart : model.IsPart part) (hserves : cache.Serves config.namer model.toList)
    (hpartServes : partCache.Serves config.namer part.toList)
    (h : (ofModel config model cache).1 = .ok schema) :
    (ofModel config part partCache).1 = .ok (schema.restrict part.entities.contains) := by
  obtain ⟨associations, made, hassociations, hmade, htables, hfunctions, rfl⟩ :=
    (ofModel_eq_ok_iff_of_serves hkeyed hserves).1 h
  have hsides := Association.contains_owner_eq_other hpart hkeyed hassociations
  have hnames := nodup_primaryNames hkeyed hmade (List.pairwise_append.1 htables).1
  rw [ofModel_eq_ok_iff_of_serves (hpart.keyed hkeyed) hpartServes, hpart.toList_eq hkeyed]
  refine ⟨_, _, Association.ofModel_part hpart hkeyed hassociations,
    forall₂_isOf_filter hmade hsides, ?_, ?_, restrict_assemble (stands_of_mem hmade) hnames⟩
  · -- Claims that agree go on to do so when some of them are left out.
    exact htables.sublist (.append (.map _ List.filter_sublist) (.map _ List.filter_sublist))
  · exact hfunctions.sublist (functionClaims_filter_sublist hmade)

theorem ofModel_of_splits {left right : Model} {cache leftCache rightCache : RowTypeCache}
    {schema : Schema} (hkeyed : model.Keyed) (hsplits : model.Splits left right)
    (hserves : cache.Serves config.namer model.toList)
    (hleft : leftCache.Serves config.namer left.toList)
    (hright : rightCache.Serves config.namer right.toList)
    (h : (ofModel config model cache).1 = .ok schema) :
    (ofModel config left leftCache).1 = .ok (schema.restrict left.entities.contains) ∧
      (ofModel config right rightCache).1 = .ok (schema.restrict right.entities.contains) := by
  obtain ⟨associations, -, hassociations, -⟩ := (ofModel_eq_ok_iff_of_serves hkeyed hserves).1 h
  obtain ⟨relations, hrelations, -⟩ := Association.ofModel_eq_ok_iff.1 hassociations
  exact ⟨ofModel_isPart hkeyed (hsplits.isPart hkeyed hrelations) hserves hleft h,
    ofModel_isPart hkeyed (hsplits.symm.isPart hkeyed hrelations) hserves hright h⟩

/-- What a shop sells and who works there know nothing of each other, but their entities alternate in
the order of names. -/
def article : Entity where
  name := "Article"
  columns := [{ name := "No.", type := "int" }]
  externalIdSources := ["No."]
  related := .ofList ["Order"]

def employee : Entity where
  name := "Employee"
  columns := [{ name := "title", type := "text" }, { name := "born", type := "date" }]
  externalIdSources := ["born", "title"]
  related := .ofList ["Employee", "Training"]

def order : Entity where
  name := "Order"
  columns := [{ name := "paid", type := "bool" }]
  related := .ofList ["Article"]
  owned := .ofList ["Article"]

def training : Entity where
  name := "Training"
  columns := [{ name := "over", type := "bool" }]
  related := .ofList ["Employee"]

def shop : Model where
  entities := ⟨[("Article", article), ("Employee", employee), ("Order", order),
    ("Training", training)], by decide +kernel⟩

def wares : Model where
  entities := ⟨[("Article", article), ("Order", order)], by decide +kernel⟩

def staff : Model where
  entities := ⟨[("Employee", employee), ("Training", training)], by decide +kernel⟩

theorem splits_shop : shop.Splits wares staff where
  entries := by decide +kernel
  leftApart := by
    have hrelates : ∀ a b, wares.Relates a b → staff.get? b = none :=
      Model.forall_relates_iff.2 (by decide +kernel)
    have howns : ∀ a b, wares.Owns a b → staff.get? b = none :=
      Model.forall_owns_iff.2 (by decide +kernel)
    exact fun a b hab => hab.elim (hrelates a b) (howns a b)
  rightApart := by
    have hrelates : ∀ a b, staff.Relates a b → wares.get? b = none :=
      Model.forall_relates_iff.2 (by decide +kernel)
    have howns : ∀ a b, staff.Owns a b → wares.get? b = none :=
      Model.forall_owns_iff.2 (by decide +kernel)
    exact fun a b hab => hab.elim (hrelates a b) (howns a b)

theorem ofModel_of_splits_shop : shop.Keyed ∧ shop.Splits wares staff ∧
    RowTypeCache.Serves ⟨24⟩ ∅ shop.toList ∧ RowTypeCache.Serves ⟨24⟩ ∅ wares.toList ∧
    (RowTypeCache.after [.request ⟨24⟩ training]).Serves ⟨24⟩ staff.toList ∧ ∃ schema,
      (ofModel { limit := 24 } shop ∅).1 = .ok schema ∧
      (ofModel { limit := 24 } wares ∅).1 = .ok (schema.restrict wares.entities.contains) ∧
      (ofModel { limit := 24 } staff (RowTypeCache.after [.request ⟨24⟩ training])).1 =
        .ok (schema.restrict staff.entities.contains) := by
  have hkeyed : shop.Keyed := Model.keyed_iff_entries.2 (by decide +kernel)
  have hshop : RowTypeCache.Serves ⟨24⟩ ∅ shop.toList := by decide +kernel
  have hwares : RowTypeCache.Serves ⟨24⟩ ∅ wares.toList := by decide +kernel
  have hstaff : (RowTypeCache.after [.request ⟨24⟩ training]).Serves ⟨24⟩ staff.toList := by
    decide +kernel
  have hok : ∃ schema, (ofModel { limit := 24 } shop ∅).1 = .ok schema :=
    exists_eq_ok_of_isOk (by decide +kernel)
  obtain ⟨schema, h⟩ := hok
  refine ⟨hkeyed, splits_shop, hshop, hwares, hstaff, schema, h,
    ofModel_of_splits hkeyed splits_shop ?_ ?_ ?_ h⟩
  · exact hshop
  · exact hwares
  · exact hstaff

end Schema

end EntitySchema
