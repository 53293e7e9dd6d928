import EntitySchema.Proofs.Schema.Integrity
import EntitySchema.Proofs.Sql.Script

/-!
# The order of a script

A script consists of one statement about each part of its schema, and can be run from top to bottom: when
a statement is reached, the schema that it creates something in has been created, and so have the tables
that it refers to.
-/

namespace EntitySchema

namespace Sql

namespace Subject

/-- The tables that have to be there already. -/
def tables : Subject → List QualifiedName
  | table t => t.columns.filterMap fun column => column.references?.map fun r => ⟨r.schema, r.table⟩
  | association home a => [⟨home, a.owner.table⟩, ⟨home, a.other.table⟩]
  | tableComment tables => [⟨tables.primary.schema, tables.primary.name⟩]
  | columnComment t _ => [⟨t.schema, t.name⟩]
  | rowTrigger trigger => [⟨trigger.schema, trigger.table⟩]
  | archiveTrigger trigger => [⟨trigger.sourceSchema, trigger.table⟩]
  | schema _ | function _ => []

/-- The schemas that have to be there already. -/
def schemas : Subject → List String
  | table t => [t.schema]
  | association home _ => [home]
  | function trigger => [trigger.schema]
  | schema _ | tableComment _ | columnComment _ _ | rowTrigger _ | archiveTrigger _ => []

end Subject

variable {schema : Schema} {done more : List Subject} {subject : Subject}

/-- What the statement about a subject needs is among what was done before it. The tables that it needs
are primary tables. -/
structure Ready (schema : Schema) (done : List Subject) (subject : Subject) : Prop where
  schemas : ∀ name ∈ subject.schemas, .schema name ∈ done
  tables : ∀ name ∈ subject.tables, ∃ tables ∈ schema.entities,
    tableName tables.primary = name ∧ .table tables.primary ∈ done

/-- Each of the subjects is ready when it is reached. -/
def Runs (schema : Schema) (done : List Subject) : List Subject → Prop
  | [] => True
  | subject :: subjects => Ready schema done subject ∧ Runs schema (done ++ [subject]) subjects

theorem Ready.mono (h : Ready schema done subject) (hsubset : done ⊆ more) :
    Ready schema more subject where
  schemas name hname := hsubset (h.schemas name hname)
  tables name hname := by
    obtain ⟨tables, hmem, heq, hdone⟩ := h.tables name hname
    exact ⟨tables, hmem, heq, hsubset hdone⟩

theorem runs_append_iff {xs ys : List Subject} :
    Runs schema done (xs ++ ys) ↔ Runs schema done xs ∧ Runs schema (done ++ xs) ys := by
  induction xs generalizing done with
  | nil => simp [Runs]
  | cons subject xs ih =>
      rw [List.cons_append, Runs, Runs, ih, List.append_assoc, and_assoc, List.singleton_append]

theorem runs_of_forall_ready {xs : List Subject}
    (h : ∀ subject ∈ xs, Ready schema done subject) : Runs schema done xs := by
  induction xs generalizing done with
  | nil => trivial
  | cons subject xs ih =>
      obtain ⟨hfirst, hrest⟩ := List.forall_mem_cons.1 h
      refine ⟨hfirst, ih ?_⟩
      intro other hother
      exact (hrest other hother).mono (List.subset_append_left done [subject])

theorem runs_flatMap {α : Type} {xs : List α} {f : α → List Subject}
    (h : ∀ x ∈ xs, ∀ more, done ⊆ more → Runs schema more (f x)) :
    Runs schema done (xs.flatMap f) := by
  induction xs generalizing done with
  | nil => trivial
  | cons x xs ih =>
      obtain ⟨hfirst, hrest⟩ := List.forall_mem_cons.1 h
      rw [List.flatMap_cons, runs_append_iff]
      refine ⟨hfirst done (List.Subset.refl done), ih ?_⟩
      intro y hy more hsubset
      exact hrest y hy more (List.Subset.trans (List.subset_append_left done (f x)) hsubset)

theorem mem_tables_table {t : Table} {name : QualifiedName} :
    name ∈ (Subject.table t).tables ↔ ∃ column ∈ t.columns, ∃ r,
      column.references? = some r ∧ (⟨r.schema, r.table⟩ : QualifiedName) = name := by
  simp only [Subject.tables, List.mem_filterMap, Option.map_eq_some_iff]

section Linked

variable (hlinked : schema.Linked) (hplaced : schema.Placed)
  (hschemas : ∀ name ∈ schema.schemas, .schema name ∈ done)

include hlinked hplaced hschemas

omit hlinked hplaced in
theorem ready_of_created (hin : ∀ name ∈ subject.schemas, name ∈ schema.schemas)
    (hof : ∀ name ∈ subject.tables, ∃ tables ∈ schema.entities,
      tableName tables.primary = name ∧ .table tables.primary ∈ done) :
    Ready schema done subject :=
  ⟨fun name hname => hschemas name (hin name hname), hof⟩

theorem ready_primary {tables : EntityTables} (hmem : tables ∈ schema.entities) :
    Ready schema done (.table tables.primary) := by
  apply ready_of_created hschemas
  · exact List.forall_mem_singleton.2 (hplaced.primary tables hmem)
  · intro name hname
    obtain ⟨column, hcolumn, r, hr, -⟩ := mem_tables_table.1 hname
    rw [hlinked.primary tables hmem column hcolumn] at hr
    cases hr

theorem ready_archive {tables : EntityTables} (hmem : tables ∈ schema.entities)
    (hcreated : .table tables.primary ∈ done) :
    Ready schema done (.table tables.archive) := by
  apply ready_of_created hschemas
  · exact List.forall_mem_singleton.2 (hplaced.archive tables hmem)
  · intro name hname
    obtain ⟨column, hcolumn, r, hr, rfl⟩ := mem_tables_table.1 hname
    have hfinds := (hlinked.archive tables hmem column hcolumn r hr).2.1
    exact ⟨tables, hmem, hfinds.hasPrimary.2, hcreated⟩

theorem runs_entitySubjects {tables : EntityTables} (hmem : tables ∈ schema.entities) :
    Runs schema done (entitySubjects tables) := by
  rw [entitySubjects, List.append_assoc, List.append_assoc, List.singleton_append, Runs]
  refine ⟨ready_primary hlinked hplaced hschemas hmem, runs_of_forall_ready ?_⟩
  have hafter : ∀ name ∈ schema.schemas,
      Subject.schema name ∈ done ++ [.table tables.primary] :=
    fun name hname => List.mem_append_left _ (hschemas name hname)
  have hcreated : .table tables.primary ∈ done ++ [.table tables.primary] :=
    List.mem_append_right _ List.mem_cons_self
  have hcomment : ∃ other ∈ schema.entities, tableName other.primary = tableName tables.primary ∧
      .table other.primary ∈ done ++ [.table tables.primary] :=
    ⟨tables, hmem, rfl, hcreated⟩
  intro subject hsubject
  rcases List.mem_append.1 hsubject with hannotation | hsubject
  · split at hannotation
    · cases hannotation
    · rw [List.mem_singleton.1 hannotation]
      apply ready_of_created hafter (List.forall_mem_nil _)
      exact List.forall_mem_singleton.2 hcomment
  rcases List.mem_append.1 hsubject with hcolumns | harchive
  · obtain ⟨column, -, rfl⟩ := List.mem_map.1 hcolumns
    apply ready_of_created hafter (List.forall_mem_nil _)
    exact List.forall_mem_singleton.2 hcomment
  · rw [List.mem_singleton.1 harchive]
    exact ready_archive hlinked hplaced hafter hmem hcreated

variable (hprimaries : ∀ tables ∈ schema.entities, .table tables.primary ∈ done)

include hprimaries

omit hlinked hplaced in
theorem ready_of_hasPrimary (hin : ∀ name ∈ subject.schemas, name ∈ schema.schemas)
    (hof : ∀ name ∈ subject.tables, schema.HasPrimary name) : Ready schema done subject := by
  apply ready_of_created hschemas hin
  intro name hname
  obtain ⟨tables, hmem, heq⟩ := hof name hname
  exact ⟨tables, hmem, heq, hprimaries tables hmem⟩

omit hlinked in
theorem ready_function {trigger : ExternalId.Trigger} (hmem : trigger ∈ schema.externalIdTriggers) :
    Ready schema done (.function trigger) := by
  apply ready_of_hasPrimary hschemas hprimaries
  · exact List.forall_mem_singleton.2 (hplaced.function trigger hmem)
  · exact List.forall_mem_nil _

omit hlinked in
theorem ready_rowTrigger {trigger : ExternalId.Trigger}
    (hmem : trigger ∈ schema.externalIdTriggers) : Ready schema done (.rowTrigger trigger) := by
  apply ready_of_hasPrimary hschemas hprimaries
  · exact List.forall_mem_nil _
  · exact List.forall_mem_singleton.2 (hplaced.rowTrigger trigger hmem)

omit hlinked in
theorem ready_archiveTrigger {trigger : ArchiveTrigger} (hmem : trigger ∈ schema.archiveTriggers) :
    Ready schema done (.archiveTrigger trigger) := by
  apply ready_of_hasPrimary hschemas hprimaries
  · exact List.forall_mem_nil _
  · exact List.forall_mem_singleton.2 (hplaced.archiveTrigger trigger hmem)

theorem ready_association {association : Association} (hmem : association ∈ schema.associations) :
    Ready schema done (.association schema.name association) := by
  apply ready_of_hasPrimary hschemas hprimaries
  · exact List.forall_mem_singleton.2 hplaced.name
  · have hrefers : ∀ column, schema.RefersToKey column →
        schema.HasPrimary ⟨schema.name, column.table⟩ := by
      rintro column ⟨tables, -, hfinds, -⟩
      exact ⟨tables, hfinds.hasPrimary⟩
    rw [Subject.tables, List.forall_mem_cons, List.forall_mem_singleton]
    exact ⟨hrefers _ (hlinked.owner association hmem), hrefers _ (hlinked.other association hmem)⟩

/-- What comes behind the tables of the entities needs nothing else. -/
theorem ready_behind (h : subject ∈ schema.associations.map (.association schema.name) ++
      ((schema.externalIdTriggers.flatMap fun trigger => [.function trigger, .rowTrigger trigger]) ++
        schema.archiveTriggers.map .archiveTrigger)) : Ready schema done subject := by
  rcases List.mem_append.1 h with hassociation | hsubject
  · obtain ⟨association, hmem, rfl⟩ := List.mem_map.1 hassociation
    exact ready_association hlinked hplaced hschemas hprimaries hmem
  rcases List.mem_append.1 hsubject with htrigger | htrigger
  · obtain ⟨trigger, hmem, hsubject⟩ := List.mem_flatMap.1 htrigger
    rcases List.mem_pair.1 hsubject with rfl | rfl
    · exact ready_function hplaced hschemas hprimaries hmem
    · exact ready_rowTrigger hplaced hschemas hprimaries hmem
  · obtain ⟨trigger, hmem, rfl⟩ := List.mem_map.1 htrigger
    exact ready_archiveTrigger hplaced hschemas hprimaries hmem

end Linked

theorem runs_subjects (hlinked : schema.Linked) (hplaced : schema.Placed) :
    Runs schema [] (subjects schema) := by
  have hsubjects : subjects schema = schema.schemas.map .schema ++
      (schema.entities.flatMap entitySubjects ++
        (schema.associations.map (.association schema.name) ++
          ((schema.externalIdTriggers.flatMap fun trigger => [.function trigger, .rowTrigger trigger])
            ++ schema.archiveTriggers.map .archiveTrigger))) := by
    simp only [subjects, List.append_assoc]
  rw [hsubjects, runs_append_iff, runs_append_iff, List.nil_append]
  refine ⟨?_, ?_, ?_⟩
  · apply runs_of_forall_ready
    intro subject hsubject
    obtain ⟨name, -, rfl⟩ := List.mem_map.1 hsubject
    exact ⟨List.forall_mem_nil _, List.forall_mem_nil _⟩
  · apply runs_flatMap
    intro tables hmem more hsubset
    apply runs_entitySubjects hlinked hplaced _ hmem
    intro name hname
    exact hsubset (List.mem_map_of_mem hname)
  · apply runs_of_forall_ready
    intro subject hsubject
    apply ready_behind hlinked hplaced _ _ hsubject
    · intro name hname
      exact List.mem_append_left _ (List.mem_map_of_mem hname)
    · intro tables hmem
      exact List.mem_append_right _ (List.mem_flatMap.2 ⟨tables, hmem, List.mem_cons_self⟩)

/-- The chunk is a statement about the subject with its semicolon, perhaps after a blank line. -/
def Subject.Fills (subject : Subject) (chunk : String) : Prop :=
  ∃ text, subject.Spells text ∧ (chunk = text ++ ";\n" ∨ chunk = "\n" ++ text ++ ";\n")

/-- Behind its heading, the script consists of the statements about the parts of the schema, in
order. -/
def LaidOut (schema : Schema) : Prop :=
  ∃ chunks, List.Forall₂ Subject.Fills (subjects schema) chunks ∧
    script schema = heading ++ "\n" ++ String.join chunks

theorem Subject.fills_of_eq {subject : Subject} {chunk : String}
    (h : chunk = subject.statement.text ∨ chunk = "\n" ++ subject.statement.text) :
    subject.Fills chunk := by
  rw [Statement.text_eq_bare, ← String.append_assoc] at h
  exact ⟨_, subject.spells_bare, h⟩

theorem exists_chunks {ps : List (List Statement)} (h : ∀ p ∈ ps, p ≠ []) :
    ∃ chunks, List.Forall₂ (fun statement chunk =>
        chunk = Statement.text statement ∨ chunk = "\n" ++ statement.text) ps.flatten chunks ∧
      String.join (ps.map fun p => "\n" ++ String.join (p.map Statement.text)) =
        String.join chunks := by
  induction ps with
  | nil => exact ⟨[], .nil, rfl⟩
  | cons p ps ih =>
      obtain ⟨hp, hps⟩ := List.forall_mem_cons.1 h
      obtain ⟨chunks, hchunks, hjoin⟩ := ih hps
      cases p with
      | nil => exact absurd rfl hp
      | cons statement statements =>
          have hplain : List.Forall₂ (fun statement chunk =>
              chunk = Statement.text statement ∨ chunk = "\n" ++ statement.text)
                statements (statements.map Statement.text) := by
            rw [List.forall₂_map_right_iff]
            exact List.forall₂_same.2 fun _ _ => .inl rfl
          refine ⟨("\n" ++ statement.text) :: (statements.map Statement.text ++ chunks), ?_, ?_⟩
          · exact .cons (.inr rfl) (List.rel_append hplain hchunks)
          · rw [List.map_cons, String.join_cons, hjoin, List.map_cons, String.join_cons,
              String.join_cons, String.join_append]
            simp only [String.append_assoc]

theorem ne_nil_of_mem_paragraphs (h : schema.schemas ≠ []) : ∀ p ∈ paragraphs schema, p ≠ [] := by
  intro p hp
  simp only [paragraphs, List.mem_append, List.cons_append, List.mem_cons, List.mem_flatMap,
    List.mem_map] at hp
  rcases hp with rfl | ((⟨tables, -, hp⟩ | ⟨association, -, rfl⟩) | ⟨trigger, -, hp⟩) |
    ⟨trigger, -, rfl⟩
  · rwa [ne_eq, List.map_eq_nil_iff]
  · simp only [entityParagraphs, List.mem_cons, List.not_mem_nil, or_false] at hp
    rcases hp with rfl | rfl <;> exact List.cons_ne_nil _ _
  · exact List.cons_ne_nil _ _
  · simp only [triggerParagraphs, List.mem_cons, List.not_mem_nil, or_false] at hp
    rcases hp with rfl | rfl <;> exact List.cons_ne_nil _ _
  · exact List.cons_ne_nil _ _

theorem laidOut (h : schema.schemas ≠ []) : LaidOut schema := by
  obtain ⟨chunks, hchunks, hjoin⟩ := exists_chunks (ne_nil_of_mem_paragraphs h)
  rw [flatten_paragraphs, ← map_statement_subjects, List.forall₂_map_left_iff] at hchunks
  exact ⟨chunks, hchunks.imp fun subject chunk => Subject.fills_of_eq, by rw [script, hjoin]⟩

end Sql

namespace Schema

structure Intact (schema : Schema) : Prop where
  linked : schema.Linked
  laidOut : Sql.LaidOut schema
  runs : Sql.Runs schema [] (Sql.subjects schema)

/-- The schema of a model under its own names is intact, whatever the settings and the cache. -/
theorem intact_of_ofModel {config : Config} {model : Model} {cache : RowTypeCache} {schema : Schema}
    (hkeyed : model.Keyed) (h : (ofModel config model cache).1 = .ok schema) : schema.Intact := by
  obtain ⟨associations, made, hassociations, -, hemits, hagree, -, rfl⟩ :=
    ofModel_eq_ok_iff.1 (Prod.ext (y := (Except.ok schema, _)) h rfl)
  have hentities := (List.pairwise_append.1 hagree).1
  have hlinked := linked_of_emits hkeyed hassociations hemits hentities
  constructor
  case linked => exact hlinked
  case laidOut => exact Sql.laidOut (List.cons_ne_nil _ _)
  case runs => exact Sql.runs_subjects hlinked (placed_of_emits hemits)

/-- Ports related to each other and to the addresses that they own. The name of the addresses is too
long for the limit below. -/
def shipping : Model where
  entities := ⟨[
    ("Port", {
      name := "Port"
      columns := [{ name := "code", type := "string" }, { name := "land", type := "string" }]
      related := .ofList ["Port", "shipping addresses"]
      owned := .ofList ["shipping addresses"]
      externalIdSources := ["code", "land"] }),
    ("shipping addresses", {
      name := "shipping addresses"
      annotation := "of ports"
      columns := [{ name := "no", type := "string", annotation := "on the label" }]
      related := .ofList ["Port"]
      externalIdSources := ["no"] })], by decide +kernel⟩

/-- Also where an archive table and its primary table share their name. -/
theorem intact_shipping : shipping.Keyed ∧ ∃ schema,
    (ofModel { limit := 16, archiveSuffix := "" } shipping
      (RowTypeCache.after [.request ⟨16⟩ { name := "Port" }])).1 = .ok schema ∧
      schema.Intact := by
  have hkeyed : shipping.Keyed := Model.keyed_iff_entries.2 (by decide +kernel)
  have hok : ∃ schema, (ofModel { limit := 16, archiveSuffix := "" } shipping
      (RowTypeCache.after [.request ⟨16⟩ { name := "Port" }])).1 = .ok schema :=
    exists_eq_ok_of_isOk (by decide +kernel)
  obtain ⟨schema, h⟩ := hok
  exact ⟨hkeyed, schema, h, intact_of_ofModel hkeyed h⟩

end Schema

end EntitySchema
