import Mathlib.Data.List.Nodup
import Mathlib.Data.List.Perm.Basic
import Mathlib.Data.Prod.Basic
import EntitySchema.Proofs.Schema.Emission
import EntitySchema.Proofs.Schema.Resolution
import EntitySchema.Proofs.Text.Separator

/-!
# Names of tables

Primary tables and archive tables never share a name, with each other or with an association table.
Two association tables can: the scope of their names knows a relation only by the names of its sides
with a slash between them, and such a text can be read in two ways if a name contains a slash.
-/

namespace EntitySchema

namespace Schema

/-- The names of all tables of a schema, each within its own schema. -/
def tableNames (schema : Schema) : List (String × String) :=
  schema.entities.flatMap (fun tables =>
      [(tables.primary.schema, tables.primary.name), (tables.archive.schema, tables.archive.name)])
    ++ schema.associations.map fun association => (schema.name, association.name)

/-- Two association tables of one name whose sides read alike with a slash between them. -/
def Indistinct (a b : Association) : Prop :=
  a.name = b.name ∧
    a.owner.entity ++ "/" ++ a.other.entity = b.owner.entity ++ "/" ++ b.other.entity

variable {config : Config} {associations : List Association}

theorem flatMap_tableNames_of_emits {cache last : RowTypeCache} {entities : List Entity}
    {made : List EntityPart} (h : Emits config associations cache entities made last) :
    (made.map EntityPart.tables).flatMap (fun tables =>
        [(tables.primary.schema, tables.primary.name),
          (tables.archive.schema, tables.archive.name)]) =
      entities.flatMap fun entity =>
        [(config.schema, (tableClaim config entity).2),
          (config.archiveSchema, (tableClaim config entity).2)] := by
  induction h with
  | nil cache => rfl
  | cons _ hpart _ ih =>
      obtain ⟨derivation, tables, -, htables, rfl⟩ := EntityPart.ofEntity_eq_ok_iff.1 hpart
      obtain ⟨-, -, rfl⟩ := EntityTables.ofEntity_eq_ok_iff.1 htables
      rw [List.map_cons, List.flatMap_cons, List.flatMap_cons, ih]
      rfl

theorem archiveSchema_ne (h : config.archiveSuffix ≠ "") : config.schema ≠ config.archiveSchema := by
  intro heq
  apply h
  have hlist := congrArg String.toList heq
  rw [Config.archiveSchema, String.toList_append, List.self_eq_append_right] at hlist
  exact String.toList_inj.1 hlist

theorem entity_label_ne_association_label (entity owner other : String) :
    "entity " ++ entity ≠ "association " ++ owner ++ "/" ++ other := by
  intro heq
  have hhead := congrArg (fun label : String => label.toList.head?) heq
  simp at hhead

/-- Sorted by schema, the names are those of the two kinds of claim on the one hand, and those of the
archive tables on the other. -/
theorem tableNames_assemble_perm {cache last : RowTypeCache} {entities : List Entity}
    {made : List EntityPart} (h : Emits config associations cache entities made last) :
    (assemble config associations made).tableNames.Perm
      (((entities.map (tableClaim config) ++ associationClaims associations).map Prod.snd).map
          (Prod.mk config.schema) ++
        ((entities.map (tableClaim config)).map Prod.snd).map (Prod.mk config.archiveSchema)) := by
  have hentities : (entities.flatMap fun entity =>
      [(config.schema, (tableClaim config entity).2)] ++
        [(config.archiveSchema, (tableClaim config entity).2)]).Perm
      ((entities.map fun entity => (config.schema, (tableClaim config entity).2)) ++
        entities.map fun entity => (config.archiveSchema, (tableClaim config entity).2)) := by
    rw [List.map_eq_flatMap, List.map_eq_flatMap]
    exact (List.flatMap_append_perm entities _ _).symm
  have hnames : (assemble config associations made).tableNames =
      (entities.flatMap fun entity =>
        [(config.schema, (tableClaim config entity).2)] ++
          [(config.archiveSchema, (tableClaim config entity).2)]) ++
        (associationClaims associations).map fun claim => (config.schema, claim.2) := by
    rw [tableNames, assemble, flatMap_tableNames_of_emits h, associationClaims, List.map_map]
    rfl
  simp only [hnames, List.map_append, List.map_map, List.append_assoc]
  refine (hentities.append_right _).trans ?_
  rw [List.append_assoc]
  exact List.Perm.append_left _ List.perm_append_comm

/-- The claims of entities differ in meaning from each other and from those of relations. -/
theorem pairwise_claims_iff {model : Model} (hkeyed : model.Keyed) :
    (model.toList.map (tableClaim config) ++ associationClaims associations).Pairwise
        (fun a b => a.2 = b.2 → a.1 ≠ b.1) ↔
      associations.Pairwise fun a b => ¬ Indistinct a b := by
  have hentities : (model.toList.map (tableClaim config)).Pairwise
      fun a b => a.2 = b.2 → a.1 ≠ b.1 := by
    rw [List.pairwise_map]
    refine hkeyed.pairwise_name_lt.imp fun {a b} hlt _ heq => ?_
    have hname : a.name = b.name := (String.append_right_inj "entity ").1 heq
    exact String.lt_irrefl _ (hname ▸ hlt)
  have hacross : ∀ a ∈ model.toList.map (tableClaim config),
      ∀ b ∈ associationClaims associations, a.2 = b.2 → a.1 ≠ b.1 := by
    intro a ha b hb _
    obtain ⟨entity, -, rfl⟩ := List.mem_map.1 ha
    obtain ⟨association, -, rfl⟩ := List.mem_map.1 hb
    exact entity_label_ne_association_label _ _ _
  rw [List.pairwise_append, and_iff_right hentities, and_iff_left hacross, associationClaims,
    List.pairwise_map]
  refine List.Pairwise.iff fun {a b} => ?_
  simp only [Indistinct, not_and, String.append_assoc, ne_eq, String.append_right_inj]

theorem nodup_tableNames_iff_of_keyed {model : Model} (hkeyed : model.Keyed)
    (hsuffix : config.archiveSuffix ≠ "") {cache last : RowTypeCache} {schema : Schema}
    (h : ofModel config model cache = (.ok schema, last)) :
    schema.tableNames.Nodup ↔ schema.associations.Pairwise fun a b => ¬ Indistinct a b := by
  obtain ⟨associations, made, -, -, hemits, hagree, -, rfl⟩ := ofModel_eq_ok_iff.1 h
  have hclaimed : ((model.toList.map (tableClaim config) ++
      associationClaims associations).map Prod.snd).Nodup ↔
        associations.Pairwise fun a b => ¬ Indistinct a b :=
    (Identifier.Scope.nodup_identifiers_iff hagree).trans (pairwise_claims_iff hkeyed)
  rw [(tableNames_assemble_perm hemits).nodup_iff]
  change _ ↔ associations.Pairwise fun a b => ¬ Indistinct a b
  rw [← hclaimed, List.nodup_append, List.nodup_map_iff (Prod.mk_right_injective config.schema),
    List.nodup_map_iff (Prod.mk_right_injective config.archiveSchema)]
  constructor
  · exact And.left
  · intro hnames
    refine ⟨hnames, ?_, ?_⟩
    · rw [List.map_append] at hnames
      exact (List.nodup_append.1 hnames).1
    · intro a ha b hb heq
      obtain ⟨name, -, rfl⟩ := List.mem_map.1 ha
      obtain ⟨other, -, rfl⟩ := List.mem_map.1 hb
      exact archiveSchema_ne hsuffix (congrArg Prod.fst heq)

theorem name_of_mem {model : Model} {namer : Identifier.Namer} (hkeyed : model.Keyed)
    (h : Association.ofModel namer model = .ok associations) {association : Association}
    (hmem : association ∈ associations) :
    association.name = namer.join [association.owner.entity, association.other.entity] := by
  obtain ⟨relations, -, rfl⟩ := Association.eq_map_table hkeyed h
  obtain ⟨relation, -, rfl⟩ := List.mem_map.1 hmem
  rfl

/-- Association tables are told apart exactly when no two pairs that the model joins read alike and
have one identifier. -/
theorem pairwise_not_indistinct_iff {model : Model} {namer : Identifier.Namer}
    (hkeyed : model.Keyed) (h : Association.ofModel namer model = .ok associations) :
    associations.Pairwise (fun a b => ¬ Indistinct a b) ↔
      ∀ a b c d, model.Joined a b → model.Joined c d → a ++ "/" ++ b = c ++ "/" ++ d →
        namer.join [a, b] = namer.join [c, d] → a = c ∧ b = d := by
  constructor
  · intro hpairwise a b c d hab hcd hlabel hname
    obtain ⟨x, hx, rfl, rfl⟩ := (Association.exists_sides_iff hkeyed h a b).2 hab
    obtain ⟨y, hy, rfl, rfl⟩ := (Association.exists_sides_iff hkeyed h c d).2 hcd
    have hindistinct : Indistinct x y :=
      ⟨by rw [name_of_mem hkeyed h hx, name_of_mem hkeyed h hy, hname], hlabel⟩
    have : Std.Symm fun a b => ¬ Indistinct a b :=
      ⟨fun a b hnot hba => hnot ⟨hba.1.symm, hba.2.symm⟩⟩
    by_cases heq : x = y
    · exact heq ▸ ⟨rfl, rfl⟩
    · exact absurd hindistinct (hpairwise.forall hx hy heq)
  · intro hreads
    have hpairs := Association.nodup_pairs hkeyed h
    rw [List.nodup_iff_pairwise_ne, List.pairwise_map] at hpairs
    refine hpairs.imp_of_mem fun {x y} hx hy hne ⟨hname, hlabel⟩ => ?_
    rw [name_of_mem hkeyed h hx, name_of_mem hkeyed h hy] at hname
    obtain ⟨howner, hother⟩ := hreads _ _ _ _
      ((Association.exists_sides_iff hkeyed h _ _).1 ⟨x, hx, rfl, rfl⟩)
      ((Association.exists_sides_iff hkeyed h _ _).1 ⟨y, hy, rfl, rfl⟩) hlabel hname
    exact hne (by rw [Association.pair, howner, hother, Association.pair])

/-- Where no name contains a slash, no two tables have one name. -/
theorem nodup_tableNames_of_no_slash {model : Model} (hkeyed : model.Keyed)
    (hsuffix : config.archiveSuffix ≠ "") {cache last : RowTypeCache} {schema : Schema}
    (h : ofModel config model cache = (.ok schema, last))
    (hslash : ∀ entity ∈ model.toList, '/' ∉ entity.name.toList) : schema.tableNames.Nodup := by
  rw [nodup_tableNames_iff_of_keyed hkeyed hsuffix h]
  obtain ⟨associations, made, hassociations, -, -, -, -, rfl⟩ := ofModel_eq_ok_iff.1 h
  refine (pairwise_not_indistinct_iff hkeyed hassociations).2 ?_
  rintro a b c d ⟨⟨entity, hentity, -⟩, -⟩ ⟨⟨entity', hentity', -⟩, -⟩ hlabel -
  have ha : '/' ∉ a.toList := by
    rw [← hkeyed a entity hentity]
    exact hslash entity (Model.mem_toList_iff.2 ⟨a, hentity⟩)
  have hc : '/' ∉ c.toList := by
    rw [← hkeyed c entity' hentity']
    exact hslash entity' (Model.mem_toList_iff.2 ⟨c, hentity'⟩)
  have hlist : a.toList ++ '/' :: b.toList = c.toList ++ '/' :: d.toList := by
    simpa using congrArg String.toList hlabel
  obtain ⟨hac, hbd⟩ := (Text.append_cons_inj ha hc).1 hlist
  exact ⟨String.toList_inj.1 hac, String.toList_inj.1 hbd⟩

/-- In a schema made with the usual names of archive and system, no two tables have one name exactly
when no two pairs of related entities read alike with a slash between them and have one
identifier. -/
theorem nodup_tableNames_iff {model : Model} (hbuilt : model.Built) (name : String) (limit : Nat)
    (cache : RowTypeCache) {schema : Schema}
    (h : (ofModel { schema := name, limit := limit } model cache).1 = .ok schema) :
    schema.tableNames.Nodup ↔
      ∀ a b c d, model.Joined a b → model.Joined c d → a ++ "/" ++ b = c ++ "/" ++ d →
        Identifier.Namer.join ⟨limit⟩ [a, b] = Identifier.Namer.join ⟨limit⟩ [c, d] →
        a = c ∧ b = d := by
  have hpair := Prod.ext (y := (Except.ok schema, _)) h rfl
  have hsuffix : "_arch" ≠ "" := by decide
  rw [nodup_tableNames_iff_of_keyed hbuilt.keyed hsuffix hpair]
  obtain ⟨associations, made, hassociations, -, -, -, -, rfl⟩ := ofModel_eq_ok_iff.1 hpair
  exact pairwise_not_indistinct_iff hbuilt.keyed hassociations

/-- Two pairs that read alike: `a` and `b/c`, and `a/b` and `c`. -/
def slashed : Model :=
  (((((((∅ : Model).put "a" { name := "a" }).put "a/b" { name := "a/b" }).put "b/c"
    { name := "b/c" }).put "c" { name := "c" }).modify "a" (·.own "b/c")).modify "b/c"
      (·.relateTo "a")).modify "a/b" (·.own "c") |>.modify "c" (·.relateTo "a/b")

theorem built_slashed : slashed.Built := by
  have h₁ := Model.Built.add { name := "a" } .empty
    (Model.add_eq_ok_iff.2 ⟨by decide +kernel, by decide +kernel, rfl⟩)
  have h₂ := h₁.add { name := "a/b" }
    (Model.add_eq_ok_iff.2 ⟨by decide +kernel, by decide +kernel, rfl⟩)
  have h₃ := h₂.add { name := "b/c" }
    (Model.add_eq_ok_iff.2 ⟨by decide +kernel, by decide +kernel, rfl⟩)
  have h₄ := h₃.add { name := "c" }
    (Model.add_eq_ok_iff.2 ⟨by decide +kernel, by decide +kernel, rfl⟩)
  have h₅ := h₄.relate "a" "b/c"
    (Model.relate_eq_ok_iff.2 ⟨by decide +kernel, by decide +kernel, rfl⟩)
  exact h₅.relate "a/b" "c"
    (Model.relate_eq_ok_iff.2 ⟨by decide +kernel, by decide +kernel, rfl⟩)

theorem exists_ofModel_slashed : ∃ schema,
    (ofModel { schema := "public" } slashed ∅).1 = .ok schema ∧ ¬ schema.tableNames.Nodup := by
  have hok : ((ofModel { schema := "public" } slashed ∅).1.map
      fun schema => decide schema.tableNames.Nodup) = .ok false := by decide +kernel
  cases h : (ofModel { schema := "public" } slashed ∅).1 with
  | error error =>
      rw [h] at hok
      cases hok
  | ok schema =>
      rw [h] at hok
      exact ⟨schema, rfl, of_decide_eq_false (Except.ok.inj hok)⟩

theorem nodup_tableNames_iff_slashed : slashed.Built ∧ ∃ schema,
    (ofModel { schema := "public" } slashed ∅).1 = .ok schema ∧
      (schema.tableNames.Nodup ↔
        ∀ a b c d, slashed.Joined a b → slashed.Joined c d → a ++ "/" ++ b = c ++ "/" ++ d →
          Identifier.Namer.join ⟨63⟩ [a, b] = Identifier.Namer.join ⟨63⟩ [c, d] →
          a = c ∧ b = d) := by
  obtain ⟨schema, h, -⟩ := exists_ofModel_slashed
  exact ⟨built_slashed, schema, h, nodup_tableNames_iff built_slashed "public" 63 ∅ h⟩

/-- Both pairs get the one table `a_b_c`. -/
theorem not_nodup_tableNames_slashed : slashed.Built ∧ ∃ schema,
    (ofModel { schema := "public" } slashed ∅).1 = .ok schema ∧ ¬ schema.tableNames.Nodup :=
  ⟨built_slashed, exists_ofModel_slashed⟩

end Schema

end EntitySchema
