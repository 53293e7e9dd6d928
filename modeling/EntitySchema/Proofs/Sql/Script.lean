import Mathlib.Data.List.Forall2
import EntitySchema.Proofs.Sql.Subject

/-!
# The statements of a script

Splitting the script of a schema gives one statement about each part of the schema, in order, whatever its
names and annotations contain. Only what is written without quotes has to be plain, and what function
bodies name has to be free of dollar signs.
-/

namespace EntitySchema.Sql

variable {schema : Schema}

/-- The statements of an entity. -/
def entityStatements (tables : EntityTables) : List Statement :=
  [createTable tables.primary]
    ++ (if tables.annotation = "" then []
      else [.commentOnTable (tableName tables.primary) tables.annotation])
    ++ (tables.primary.columns.filter fun column => column.annotation != "").map
      (fun column => .commentOnColumn (tableName tables.primary) column.name column.annotation)
    ++ [createTable tables.archive]

/-- The statements of an external id trigger. -/
def triggerStatements (trigger : ExternalId.Trigger) : List Statement :=
  [.createFunction ⟨trigger.schema, trigger.function⟩ trigger.target
     (.ofDerivation trigger.derivation),
   .createRowTrigger trigger.name trigger.event ⟨trigger.schema, trigger.table⟩
     ⟨trigger.schema, trigger.function⟩]

/-- The statements of a schema, table by table and trigger by trigger. -/
def ordered (schema : Schema) : List Statement :=
  schema.schemas.map .createSchema
    ++ schema.entities.flatMap entityStatements
    ++ schema.associations.map (createAssociation schema.name)
    ++ schema.externalIdTriggers.flatMap triggerStatements
    ++ schema.archiveTriggers.map createArchiveTrigger

theorem flatten_paragraphs (schema : Schema) : (paragraphs schema).flatten = ordered schema := by
  have hentity : ∀ tables, (entityParagraphs tables).flatten = entityStatements tables := by
    intro tables
    simp [entityParagraphs, entityStatements, columnComments]
  have htrigger : ∀ trigger, (triggerParagraphs trigger).flatten = triggerStatements trigger :=
    fun trigger => rfl
  have hflatMap : ∀ {α : Type} (xs : List α) (f : α → List (List Statement)),
      (xs.flatMap f).flatten = xs.flatMap fun x => (f x).flatten := by
    intro α xs f
    simp only [List.flatten_eq_flatMap, List.flatMap_assoc]
  have hmap : ∀ {α : Type} (xs : List α) (f : α → Statement),
      (xs.map fun x => [f x]).flatten = xs.map f := by
    intro α xs f
    rw [← List.flatMap_def]
    exact List.map_eq_flatMap.symm
  simp only [paragraphs, ordered, List.flatten_append, List.flatten_cons, hflatMap, hmap, hentity,
    htrigger, List.append_assoc, List.cons_append]

theorem map_statement_subjects (schema : Schema) :
    (subjects schema).map Subject.statement = ordered schema := by
  have hentity : ∀ tables, (entitySubjects tables).map Subject.statement =
      entityStatements tables := by
    intro tables
    rw [entitySubjects, entityStatements]
    split <;> simp [Subject.statement, Function.comp_def]
  have htrigger : ∀ trigger, [Subject.function trigger, .rowTrigger trigger].map Subject.statement =
      triggerStatements trigger := fun trigger => rfl
  simp only [subjects, ordered, List.map_append, List.map_map, List.map_flatMap, hentity, htrigger]
  rfl

/-- The piece is a statement about the subject, and what the statement quotes can be read back from
it. -/
structure Subject.ReadsFrom (subject : Subject) (piece : List Char) : Prop where
  spells : subject.Spells (String.ofList piece)
  quotedTexts?_eq : quotedTexts? piece = some subject.quoted

/-- The script of the schema splits into one statement about each part of the schema, in order, and
nothing follows them. -/
def Splits (schema : Schema) : Prop :=
  ∃ pieces, split (script schema) = pieces ++ [[]] ∧
    List.Forall₂ Subject.ReadsFrom (subjects schema) pieces

/-- Text that is dropped in front of a statement. -/
structure IsLead (lead : List Char) : Prop where
  passes : Passes .code lead .code
  dropLead_append : ∀ rest, dropLead false (lead ++ rest) = dropLead false rest

namespace IsLead

variable {lead more cs : List Char}

theorem append (h : IsLead lead) (hmore : IsLead more) : IsLead (lead ++ more) := by
  refine ⟨h.passes.append hmore.passes, fun rest => ?_⟩
  rw [List.append_assoc, h.dropLead_append, hmore.dropLead_append]

theorem newline : IsLead ['\n'] := ⟨.plain (by decide), fun _ => rfl⟩

theorem comment (h : '\n' ∉ cs) : IsLead (['-', '-'] ++ cs ++ ['\n']) := by
  refine ⟨.comment h, fun rest => ?_⟩
  have hcomment : ∀ cs : List Char, '\n' ∉ cs →
      dropLead true (cs ++ '\n' :: rest) = dropLead false rest := by
    intro cs h
    induction cs with
    | nil => rfl
    | cons c cs ih =>
        have hc : c ≠ '\n' := fun heq => h (heq ▸ List.mem_cons_self)
        have hrest := ih fun hmem => h (List.mem_cons_of_mem c hmem)
        rw [List.cons_append, dropLead, (bne_iff_ne).2 hc]
        exact hrest
  simpa [dropLead] using hcomment ('-' :: cs) (by simpa using h)

theorem pieces_eq (h : IsLead lead) : (piecesFrom .code lead).map (dropLead false) = [[]] := by
  have hpieces := h.passes []
  have hdrop := h.dropLead_append []
  rw [List.append_nil] at hpieces hdrop
  rw [hpieces, piecesFrom, Passes.foldr_consToFirst, List.append_nil, List.map_singleton, hdrop]
  rfl

end IsLead

theorem heading_isLead : IsLead (heading ++ "\n").toList := by
  have hcomment : IsLead
      (['-', '-'] ++ " Generated by rust-exstruct. Do not edit.".toList ++ ['\n']) :=
    .comment (by decide)
  simpa [heading] using hcomment

theorem exists_bares {statements : List Statement}
    (h : ∀ statement ∈ statements, statement.Sound) :
    ∃ bares, List.Forall₂ Statement.IsBare statements bares := by
  induction statements with
  | nil => exact ⟨[], .nil⟩
  | cons statement statements ih =>
      obtain ⟨bare, hbare⟩ := Statement.exists_isBare (h statement List.mem_cons_self)
      obtain ⟨bares, hbares⟩ := ih fun other hother => h other (List.mem_cons_of_mem _ hother)
      exact ⟨bare :: bares, .cons hbare hbares⟩

theorem pieces_statements {statements : List Statement} {bares : List String} {lead : List Char}
    (hlead : IsLead lead) (h : List.Forall₂ Statement.IsBare statements bares) :
    ∃ last, IsLead last ∧ ∀ rest,
      (piecesFrom .code (lead ++ (String.join (statements.map Statement.text)).toList ++ rest)).map
          (dropLead false) =
        bares.map String.toList ++ (piecesFrom .code (last ++ rest)).map (dropLead false) := by
  induction h generalizing lead with
  | nil => exact ⟨lead, hlead, fun rest => by simp⟩
  | @cons statement bare statements bares hbare _ ih =>
      -- The end of line behind the semicolon is already the lead of the next statement.
      obtain ⟨last, hlast, hpieces⟩ := ih .newline
      refine ⟨last, hlast, fun rest => ?_⟩
      have hdrop : dropLead false (lead ++ bare.toList) = bare.toList := by
        rw [hlead.dropLead_append]
        have hstarts := hbare.starts
        cases hlist : bare.toList with
        | nil => rfl
        | cons c cs =>
            rw [hlist] at hstarts
            cases hstarts
            rfl
      have hsplit := (hlead.passes.append hbare.passes).pieces_eq rfl
        ('\n' :: (String.join (statements.map Statement.text)).toList ++ rest)
      have htext : lead ++ (String.join ((statement :: statements).map Statement.text)).toList
          ++ rest = lead ++ bare.toList ++
            ';' :: ('\n' :: (String.join (statements.map Statement.text)).toList ++ rest) := by
        simp [hbare.text_eq]
      rw [htext, hsplit, List.map_cons, hdrop, List.map_cons, List.cons_append]
      exact congrArg _ (hpieces rest)

theorem pieces_paragraphs {paragraphs : List (List Statement)} {lead : List Char}
    (hlead : IsLead lead) (h : ∀ statement ∈ paragraphs.flatten, statement.Sound) :
    ∃ bares, List.Forall₂ Statement.IsBare paragraphs.flatten bares ∧
      (piecesFrom .code (lead ++ (String.join (paragraphs.map fun paragraph =>
          "\n" ++ String.join (paragraph.map Statement.text))).toList)).map (dropLead false) =
        bares.map String.toList ++ [[]] := by
  induction paragraphs generalizing lead with
  | nil =>
      refine ⟨[], .nil, ?_⟩
      simpa using hlead.pieces_eq
  | cons paragraph paragraphs ih =>
      rw [List.flatten_cons] at h
      obtain ⟨bares, hbares⟩ := exists_bares fun statement hstatement =>
        h statement (List.mem_append_left paragraphs.flatten hstatement)
      obtain ⟨last, hlast, hpieces⟩ := pieces_statements (hlead.append .newline) hbares
      obtain ⟨more, hmore, hrest⟩ := ih hlast fun statement hstatement =>
        h statement (List.mem_append_right paragraph hstatement)
      refine ⟨bares ++ more, ?_, ?_⟩
      · rw [List.flatten_cons]
        exact List.rel_append hbares hmore
      · have htext := hpieces (String.join (paragraphs.map fun paragraph =>
          "\n" ++ String.join (paragraph.map Statement.text))).toList
        rw [hrest] at htext
        simpa [List.append_assoc] using htext

theorem Subject.readsFrom_of_isBare {subject : Subject} {bare : String}
    (h : subject.statement.IsBare bare) : subject.ReadsFrom bare.toList := by
  have hbare : bare = subject.statement.bare := by
    have htext := h.text_eq.symm.trans subject.statement.text_eq_bare
    exact (String.append_left_inj ";\n").1 htext
  constructor
  · rw [String.ofList_toList, hbare]
    exact subject.spells_bare
  · rw [h.quoted_eq, subject.quoted_statement]

theorem split_script (h : ∀ statement ∈ ordered schema, statement.Sound) : Splits schema := by
  rw [← flatten_paragraphs] at h
  obtain ⟨bares, hbares, hpieces⟩ := pieces_paragraphs heading_isLead h
  refine ⟨bares.map String.toList, ?_, ?_⟩
  · rw [split, script, String.toList_append, hpieces]
  · rw [flatten_paragraphs, ← map_statement_subjects, List.forall₂_map_left_iff] at hbares
    rw [List.forall₂_map_right_iff]
    exact hbares.imp fun subject bare => Subject.readsFrom_of_isBare

end EntitySchema.Sql
