import EntitySchema.Proofs.Sql.Naming
import EntitySchema.Proofs.Sql.Order
import EntitySchema.Proofs.Sql.Rendering
import EntitySchema.Proofs.Sql.Spelling

/-!
# The archive routine in a script

Every schema that a script names is created at its top, with one exception: the routine of the archive
triggers stands in the script as it stands in the settings. It is the routine that is meant only if
its schema and its name are plain words.
-/

namespace EntitySchema.Sql

variable {config : Config} {associations : List Association} {part : EntityPart}
  {cache last : RowTypeCache} {entities : List Entity} {made : List EntityPart}
  {schemas : List String}

/-- The schemas that a script names are among those that it creates first, and for each entity there is
a trigger that executes the archive routine of the settings. -/
structure Resolved (config : Config) (model : Model) (text : String) : Prop where
  named : ∀ schema ∈ namedSchemas text, schema ∈ createdSchemas text
  routines : archiveRoutines text =
    model.toList.map fun _ => some ⟨config.systemSchema, config.archiveRoutine⟩

/-- The statement is read as it was written, and names nothing outside of the schemas. -/
structure Statement.Clear (schemas : List String) (statement : Statement) : Prop where
  legible : statement.Legible
  within : statement.Within schemas

theorem Statement.Clear.within_lexemes {statement : Statement} (h : statement.Clear schemas) :
    ∀ lexeme ∈ statement.lexemes, lexeme.Within schemas :=
  Statement.within h.legible h.within

theorem isWord_of_mem_columnTypes : ∀ type ∈ columnTypes,
    (Reading.code.after type.toList).isWhole = true ∧ ∀ l ∈ lex type, l.isWord = true := by
  decide

theorem clear_createTable {table : Table} (hschema : table.schema ∈ schemas)
    (htypes : ∀ column ∈ table.columns, column.sqlType ∈ columnTypes)
    (hreferences : ∀ column ∈ table.columns, ∀ r, column.references? = some r → r.schema ∈ schemas) :
    (createTable table).Clear schemas := by
  constructor
  · intro item hitem
    obtain ⟨column, hcolumn, rfl⟩ := List.mem_map.1 hitem
    exact isWord_of_mem_columnTypes _ (htypes column hcolumn)
  · refine ⟨hschema, fun item hitem => ?_⟩
    obtain ⟨column, hcolumn, rfl⟩ := List.mem_map.1 hitem
    intro name key hclause
    obtain ⟨r, hr, rfl⟩ := exists_reference_of_mem_clausesOf hclause
    exact hreferences column hcolumn r hr

theorem clear_createAssociation {name : String} (h : name ∈ schemas) (association : Association) :
    (createAssociation name association).Clear schemas := by
  have hbigint := isWord_of_mem_columnTypes "BIGINT" (by decide)
  constructor
  · intro item hitem
    simp only [List.mem_cons, List.not_mem_nil, or_false] at hitem
    rcases hitem with rfl | rfl | rfl
    · exact hbigint
    · exact hbigint
    · trivial
  · have hitem : ∀ column, (associationItem name column).Within schemas := by
      intro column table key hclause
      rcases List.mem_cons.1 hclause with heq | hclause
      · cases heq
      · cases List.mem_singleton.1 hclause
        exact h
    exact ⟨h, List.forall_mem_cons.2 ⟨hitem association.owner, List.forall_mem_cons.2
      ⟨hitem association.other, List.forall_mem_singleton.2 trivial⟩⟩⟩

theorem clear_of_mem_entityStatements (htyped : part.Typed) (hstands : part.Stands config)
    (hschema : config.schema ∈ schemas) (harchive : config.archiveSchema ∈ schemas)
    (hprimary : ∀ column ∈ part.tables.primary.columns, column.references? = none)
    (hreferences : ∀ column ∈ part.tables.archive.columns, ∀ r, column.references? = some r →
      r.schema = config.schema) :
    ∀ statement ∈ entityStatements part.tables,
      statement.Clear schemas := by
  have htable : part.tables.primary.schema ∈ schemas := hstands.primary ▸ hschema
  intro statement hstatement
  simp only [entityStatements, List.mem_append, List.mem_singleton] at hstatement
  rcases hstatement with ((rfl | hcomment) | hcomment) | rfl
  · refine clear_createTable htable htyped.primary ?_
    intro column hcolumn r hr
    cases (hprimary column hcolumn).symm.trans hr
  · split at hcomment
    · cases hcomment
    · rw [List.mem_singleton.1 hcomment]
      exact ⟨trivial, htable⟩
  · obtain ⟨column, -, rfl⟩ := List.mem_map.1 hcomment
    exact ⟨trivial, htable⟩
  · refine clear_createTable (hstands.archive ▸ harchive) htyped.archive ?_
    intro column hcolumn r hr
    exact hreferences column hcolumn r hr ▸ hschema

theorem clear_of_mem_triggerStatements {trigger : ExternalId.Trigger}
    (hschema : trigger.schema ∈ schemas)
    (hsound : ∀ statement ∈ triggerStatements trigger, statement.Sound) :
    ∀ statement ∈ triggerStatements trigger, statement.Clear schemas := by
  intro statement hstatement
  simp only [triggerStatements, List.mem_cons, List.not_mem_nil, or_false] at hstatement
  rcases hstatement with rfl | rfl
  · exact ⟨Statement.dollar_notMem_functionBody (hsound _ List.mem_cons_self), hschema⟩
  · exact ⟨trivial, hschema, hschema⟩

/-- What a schema comes to without its archive triggers. -/
def untriggered (schema : Schema) : Schema := { schema with archiveTriggers := [] }

theorem paragraphs_eq_untriggered (schema : Schema) :
    paragraphs schema = paragraphs (untriggered schema) ++
      schema.archiveTriggers.map fun trigger => [createArchiveTrigger trigger] := by
  simp [paragraphs, untriggered]

theorem clear_of_mem_untriggered (hcache : cache.Faithful fun _ _ => True)
    (hemits : Schema.Emits config associations cache entities made last)
    (hschema : config.schema ∈ schemas) (harchive : config.archiveSchema ∈ schemas) :
    ∀ statement ∈ ordered (untriggered (Schema.assemble config associations made)),
      statement.Clear schemas := by
  have htyped := Schema.typed_of_emits hcache hemits
  intro statement hstatement
  simp only [ordered, untriggered, Schema.assemble, List.mem_append, List.flatMap_map,
    List.flatMap_assoc, List.mem_map, List.mem_flatMap, List.map_nil, List.not_mem_nil,
    or_false] at hstatement
  rcases hstatement with ((⟨name, -, rfl⟩ | ⟨part, hpart, hstatement⟩) | ⟨association, -, rfl⟩) |
    ⟨part, hpart, trigger, htrigger, hstatement⟩
  · exact ⟨trivial, trivial⟩
  · obtain ⟨entity, -, rowType, hmade⟩ := hemits.exists_of_mem part hpart
    apply clear_of_mem_entityStatements (htyped part hpart) (EntityPart.stands_of_ofEntity hmade)
      hschema harchive (Schema.references?_eq_none_of_emits hemits hpart) ?_ statement hstatement
    intro column hcolumn r hr
    obtain ⟨derivation, tables, -, htables, rfl⟩ := EntityPart.ofEntity_eq_ok_iff.1 hmade
    obtain ⟨-, -, rfl⟩ := EntityTables.ofEntity_eq_ok_iff.1 htables
    obtain ⟨source, -, -, rfl⟩ := EntityTables.exists_source_of_mem_archiveTable hcolumn hr
    rfl
  · exact clear_createAssociation hschema association
  · obtain ⟨entity, -, rowType, hmade⟩ := hemits.exists_of_mem part hpart
    have htable := ((EntityPart.stands_of_ofEntity hmade).rowTrigger trigger htrigger).1
    exact clear_of_mem_triggerStatements (htable ▸ hschema)
      (sound_of_mem_externalIdTriggers hmade trigger htrigger) statement hstatement

theorem reads_of_clear {schema : Schema} {front back : List (List Statement)}
    (hparagraphs : paragraphs schema = front ++ back)
    (h : ∀ statement ∈ front.flatten, statement.Clear schemas) :
    statementsIn (lex (script schema)) =
      front.flatten.map Statement.lexemes ++ statementsIn (lex (paragraphsText back)) := by
  apply statementsIn_script hparagraphs fun statement hstatement => (h statement hstatement).legible
  intro statement hstatement hmark
  exact ((h statement hstatement).within_lexemes _ hmark).1 rfl

/-- The statements behind those that create schemas. -/
def created (schema : Schema) : List Statement :=
  schema.entities.flatMap entityStatements
    ++ schema.associations.map (createAssociation schema.name)
    ++ schema.externalIdTriggers.flatMap triggerStatements
    ++ schema.archiveTriggers.map createArchiveTrigger

theorem createdSchema?_of_mem_created {schema : Schema} :
    ∀ statement ∈ created schema, createdSchema? statement.lexemes = none := by
  have hother : ∀ statement : Statement, (∀ name, statement ≠ .createSchema name) →
      createdSchema? statement.lexemes = none := by
    intro statement hne
    cases statement with
    | createSchema name => exact absurd rfl (hne name)
    | _ => simp [createdSchema?, Statement.lexemes, truncateLexemes, words, List.dropPrefix?]
  intro statement hstatement
  apply hother
  rintro name rfl
  simp [created, entityStatements, triggerStatements, createTable, createAssociation,
    createArchiveTrigger] at hstatement

theorem schemasCreatedBy_eq_nil {statements : List (List Lexeme)}
    (h : ∀ statement ∈ statements, createdSchema? statement = none) :
    schemasCreatedBy statements = [] := by
  cases statements with
  | nil => rfl
  | cons statement statements => rw [schemasCreatedBy, h statement List.mem_cons_self]

section Clear

variable {schema : Schema} (h : ∀ statement ∈ ordered schema, statement.Clear schemas)

include h

theorem statementsIn_of_clear :
    statementsIn (lex (script schema)) = (ordered schema).map Statement.lexemes ++ [[]] := by
  rw [← flatten_paragraphs] at h ⊢
  exact reads_of_clear (List.append_nil _).symm h

theorem createdSchemas_of_clear : createdSchemas (script schema) = schema.schemas := by
  have hordered : ordered schema = schema.schemas.map .createSchema ++ created schema := by
    simp only [ordered, created, List.append_assoc]
  have hnone : ∀ lexemes ∈ (created schema).map Statement.lexemes ++ [[]],
      createdSchema? lexemes = none := by
    refine List.forall_mem_append.2 ⟨fun lexemes hlexemes => ?_, List.forall_mem_singleton.2 (by decide)⟩
    obtain ⟨statement, hstatement, rfl⟩ := List.mem_map.1 hlexemes
    exact createdSchema?_of_mem_created statement hstatement
  rw [createdSchemas, statementsIn_of_clear h, hordered, List.map_append, List.append_assoc,
    schemasCreatedBy_append, schemasCreatedBy_eq_nil hnone, List.append_nil]

theorem lex_of_clear : lex (script schema) = .comment :: lexemesOf (ordered schema) := by
  rw [← flatten_paragraphs] at h ⊢
  have hlex := lex_script (List.append_nil (paragraphs schema)).symm
    fun statement hstatement => (h statement hstatement).legible
  have hend : lex (paragraphsText []) = [] := by decide
  rw [hend, List.append_nil] at hlex
  exact hlex

theorem mem_of_mem_namedSchemas : ∀ name ∈ namedSchemas (script schema), name ∈ schemas := by
  intro name hname
  rw [namedSchemas, lex_of_clear h, List.mem_flatMap] at hname
  obtain ⟨lexeme, hlexeme, hname⟩ := hname
  rcases List.mem_cons.1 hlexeme with rfl | hlexeme
  · cases hname
  obtain ⟨statement, hstatement, hlexeme⟩ := List.mem_flatMap.1 hlexeme
  rcases List.mem_append.1 hlexeme with hlexeme | hlexeme
  · exact ((h statement hstatement).within_lexemes lexeme hlexeme).2 name hname
  · cases List.mem_singleton.1 hlexeme
    cases hname

theorem mem_namedSchemas {statement : Statement} (hstatement : statement ∈ ordered schema)
    {lexeme : Lexeme} (hlexeme : lexeme ∈ statement.lexemes) {name : String}
    (hname : name ∈ lexeme.schemas) : name ∈ namedSchemas (script schema) := by
  rw [namedSchemas, lex_of_clear h]
  exact List.mem_flatMap.2 ⟨lexeme, List.mem_cons_of_mem _ (List.mem_flatMap.2
    ⟨statement, hstatement, List.mem_append_left _ hlexeme⟩), hname⟩

end Clear

/-- Only archive triggers execute a routine when a table is truncated. -/
theorem filterMap_executed?_untriggered (schema : Schema) :
    ((ordered (untriggered schema)).map Statement.lexemes).filterMap
      (fun lexemes => (executed? lexemes).map called?) = [] := by
  have hordinary : ∀ statement ∈ ordered (untriggered schema), statement.isOrdinary = true := by
    intro statement hstatement
    cases statement with
    | createTruncateTrigger name table routine arguments =>
        simp [ordered, untriggered, entityStatements, triggerStatements, createTable,
          createAssociation] at hstatement
    | _ => rfl
  rw [List.filterMap_map, List.filterMap_eq_nil_iff]
  intro statement hstatement
  rw [Function.comp_apply, executed?_of_isOrdinary (hordinary statement hstatement)]
  rfl

theorem routine_of_emits (hemits : Schema.Emits config associations cache entities made last) :
    ∀ part ∈ made, part.archiveTrigger.routine = config.routinePath ∧
      part.archiveTrigger.sourceSchema = config.schema := by
  intro part hpart
  obtain ⟨entity, -, rowType, hmade⟩ := hemits.exists_of_mem part hpart
  obtain ⟨derivation, tables, -, -, rfl⟩ := EntityPart.ofEntity_eq_ok_iff.1 hmade
  exact ⟨rfl, rfl⟩

theorem lexemes_createArchiveTrigger {trigger : ArchiveTrigger} {ls : List Lexeme}
    (h : Lexes trigger.routine ls) :
    (createArchiveTrigger trigger).lexemes =
      truncateLexemes trigger.name ⟨trigger.sourceSchema, trigger.table⟩ ++ (ls ++ .mark '(' ::
        (commas (trigger.arguments.map fun _ => [.literal]) ++ [.mark ')'])) := by
  rw [createArchiveTrigger, Statement.lexemes, h.lex_eq]
  simp

theorem ordered_eq_untriggered (schema : Schema) :
    ordered schema = ordered (untriggered schema) ++ schema.archiveTriggers.map createArchiveTrigger := by
  simp [ordered, untriggered]

theorem clear_of_mem_ordered (hcache : cache.Faithful fun _ _ => True)
    (hemits : Schema.Emits config associations cache entities made last)
    (hschema : config.schema ∈ schemas) (harchive : config.archiveSchema ∈ schemas)
    (hroutine : made ≠ [] → ∃ ls, Lexes config.routinePath ls ∧ ∀ l ∈ ls, l.Within schemas) :
    ∀ statement ∈ ordered (Schema.assemble config associations made), statement.Clear schemas := by
  rw [ordered_eq_untriggered]
  refine List.forall_mem_append.2 ⟨fun statement hstatement =>
    clear_of_mem_untriggered hcache hemits hschema harchive statement hstatement, ?_⟩
  intro statement hstatement
  obtain ⟨trigger, htrigger, rfl⟩ := List.mem_map.1 hstatement
  obtain ⟨part, hpart, rfl⟩ := List.mem_map.1 htrigger
  obtain ⟨ls, hlexes, hwithin⟩ := hroutine (List.ne_nil_of_mem hpart)
  obtain ⟨hpath, hsource⟩ := routine_of_emits hemits part hpart
  rw [← hpath] at hlexes
  refine ⟨hlexes.isWhole, hsource ▸ hschema, ?_⟩
  rwa [hlexes.lex_eq]

theorem resolved_of_isPlain {model : Model} (hcache : cache.Faithful fun _ _ => True)
    (hemits : Schema.Emits config associations cache model.toList made last)
    (hplain : made ≠ [] → IsPlain config.systemSchema ∧ IsPlain config.archiveRoutine) :
    Resolved config model (script (Schema.assemble config associations made)) := by
  have hlexes : made ≠ [] → Lexes config.routinePath
      [.names [.word config.systemSchema, .word config.archiveRoutine]] :=
    fun hne => lexes_of_isPlain (hplain hne).1 (hplain hne).2
  have hclear : ∀ statement ∈ ordered (Schema.assemble config associations made),
      statement.Clear [config.schema, config.systemSchema, config.archiveSchema] := by
    apply clear_of_mem_ordered hcache hemits List.mem_cons_self (by simp)
    refine fun hne => ⟨_, hlexes hne, List.forall_mem_singleton.2 ⟨Lexeme.noConfusion, ?_⟩⟩
    simp [Lexeme.schemas, Part.name]
  constructor
  · intro name hname
    rw [createdSchemas_of_clear hclear]
    exact mem_of_mem_namedSchemas hclear name hname
  · have hexecuted : ∀ part ∈ made,
        (executed? (createArchiveTrigger part.archiveTrigger).lexemes).map called? =
          some (some ⟨config.systemSchema, config.archiveRoutine⟩) := by
      intro part hpart
      have hpart' := hlexes (List.ne_nil_of_mem hpart)
      rw [← (routine_of_emits hemits part hpart).1] at hpart'
      rw [lexemes_createArchiveTrigger hpart', executed?_truncateLexemes]
      rfl
    have hlast : [[]].filterMap (fun lexemes => (executed? lexemes).map called?) = [] := by decide
    rw [archiveRoutines, statementsIn_of_clear hclear, ordered_eq_untriggered, List.map_append,
      List.append_assoc, List.filterMap_append, filterMap_executed?_untriggered, List.nil_append,
      List.filterMap_append, hlast, List.append_nil, List.map_const',
      ← hemits.length_eq, ← List.map_const']
    simp only [Schema.assemble, List.map_map, List.filterMap_map]
    exact (List.filterMap_congr hexecuted).trans (congrFun List.filterMap_eq_map' made)

theorem exists_splitOn_append {α : Type} [DecidableEq α] {stop : α} {xs : List α} (h : stop ∉ xs)
    (ys : List α) : ∃ first rest more, (xs ++ ys).splitOn stop = (xs ++ first) :: more ∧
      ys = first ++ rest := by
  obtain ⟨first, more, heq⟩ := List.exists_cons_of_ne_nil (List.splitOn_ne_nil stop ys)
  have hjoin : [stop].intercalate (ys.splitOn stop) = ys := List.intercalate_splitOn stop
  have hprefix : ∃ rest, ys = first ++ rest := by
    rw [heq] at hjoin
    cases more with
    | nil => exact ⟨[], by simpa using hjoin.symm⟩
    | cons second others =>
        rw [List.intercalate_cons_cons, List.append_assoc] at hjoin
        exact ⟨_, hjoin.symm⟩
  obtain ⟨rest, hrest⟩ := hprefix
  refine ⟨first, rest, more, ?_, hrest⟩
  induction xs with
  | nil => exact heq
  | cons x xs ih =>
      rw [List.mem_cons, not_or] at h
      rw [List.cons_append, List.splitOn_cons_eq_if_modifyHead, ih h.2,
        if_neg (by simpa using Ne.symm h.1)]
      rfl

theorem isPlain_of_called? {schema routine : String} {cs : List Char} {first rest : List Lexeme}
    (hlex : lexFrom .code ((schema ++ "." ++ routine).toList ++ '(' :: cs) = first ++ rest)
    (hcalled : called? first = some ⟨schema, routine⟩) : IsPlain schema ∧ IsPlain routine := by
  unfold called? at hcalled
  split at hcalled
  next first second more =>
    cases hcalled
    rw [String.toList_append, String.toList_append, List.append_assoc, List.append_assoc] at hlex
    exact isPlain_of_lexFrom hlex rfl rfl
  next => cases hcalled

theorem exists_lex_archiveTrigger (trigger : ArchiveTrigger) (more : List (List Statement)) :
    ∃ cs, lex (paragraphsText ([createArchiveTrigger trigger] :: more)) =
      truncateLexemes trigger.name ⟨trigger.sourceSchema, trigger.table⟩ ++
        lexFrom .code (trigger.routine.toList ++ '(' :: cs) := by
  obtain ⟨hhead, hafter⟩ :=
    Statement.lexes_truncateHead trigger.name ⟨trigger.sourceSchema, trigger.table⟩
  have htext : (paragraphsText ([createArchiveTrigger trigger] :: more)).toList =
      '\n' :: ((Statement.truncateHead trigger.name ⟨trigger.sourceSchema, trigger.table⟩).toList ++
        (trigger.routine.toList ++ '(' :: ((", ".intercalate (trigger.arguments.map literal)).toList
          ++ ')' :: ';' :: '\n' :: (paragraphsText more).toList))) := by
    simp [paragraphsText, createArchiveTrigger, Statement.text_eq_bare,
      Statement.bare_createTruncateTrigger]
  rw [lex, htext, lexFrom_newline, lexFrom_append fun _ _ => by rw [hafter]; rfl, ← lex,
    hhead.lex_eq]
  exact ⟨_, rfl⟩

theorem exists_statementsIn_archiveTrigger (trigger : ArchiveTrigger) (more : List (List Statement)) :
    ∃ cs first rest statements,
      lexFrom .code (trigger.routine.toList ++ '(' :: cs) = first ++ rest ∧
      statementsIn (lex (paragraphsText ([createArchiveTrigger trigger] :: more))) =
        (truncateLexemes trigger.name ⟨trigger.sourceSchema, trigger.table⟩ ++ first) ::
          statements := by
  obtain ⟨cs, hlex⟩ := exists_lex_archiveTrigger trigger more
  have hwithin : ∀ lexeme ∈ truncateLexemes trigger.name ⟨trigger.sourceSchema, trigger.table⟩,
      lexeme.Within [trigger.sourceSchema] :=
    Statement.within_truncateLexemes trigger.name List.mem_cons_self
  have hmark : .mark ';' ∉ truncateLexemes trigger.name ⟨trigger.sourceSchema, trigger.table⟩ :=
    fun hmem => (hwithin _ hmem).1 rfl
  obtain ⟨first, rest, statements, hsplit, hfirst⟩ := exists_splitOn_append hmark
    (lexFrom .code (trigger.routine.toList ++ '(' :: cs))
  refine ⟨cs, first, rest, statements.map (·.dropWhile (· = .comment)), hfirst, ?_⟩
  rw [hlex, statementsIn, hsplit]
  rfl

/-- The archive trigger of the first entity shows what the routine is read as. -/
theorem isPlain_of_resolved {model : Model} (hcache : cache.Faithful fun _ _ => True)
    (hemits : Schema.Emits config associations cache model.toList made last) (hmade : made ≠ [])
    (h : Resolved config model (script (Schema.assemble config associations made))) :
    IsPlain config.systemSchema ∧ IsPlain config.archiveRoutine := by
  obtain ⟨part, parts, rfl⟩ := List.exists_cons_of_ne_nil hmade
  have hfront : ∀ statement ∈ ordered (untriggered (Schema.assemble config associations
      (part :: parts))), statement.Clear [config.schema, config.archiveSchema] :=
    clear_of_mem_untriggered hcache hemits (by simp) (by simp)
  rw [← flatten_paragraphs] at hfront
  have hreads := reads_of_clear (paragraphs_eq_untriggered _) hfront
  -- The routine may end in anything, even in the middle of a name, so nothing is known of the archive
  -- triggers but that the first of them begins like one.
  obtain ⟨cs, first, rest, statements, hfirst, hback⟩ :=
    exists_statementsIn_archiveTrigger part.archiveTrigger
      ((parts.map EntityPart.archiveTrigger).map fun trigger => [createArchiveTrigger trigger])
  have hroutines := h.routines
  rw [archiveRoutines, hreads, List.filterMap_append, flatten_paragraphs,
    filterMap_executed?_untriggered, List.nil_append] at hroutines
  have hexecuted : (executed? (truncateLexemes part.archiveTrigger.name
      ⟨part.archiveTrigger.sourceSchema, part.archiveTrigger.table⟩ ++ first)).map called? =
        some (called? first) := by
    rw [executed?_truncateLexemes]
    rfl
  have hcalled : called? first = some ⟨config.systemSchema, config.archiveRoutine⟩ := by
    have hmem : called? first ∈ model.toList.map fun _ =>
        some ⟨config.systemSchema, config.archiveRoutine⟩ := by
      rw [← hroutines]
      refine List.mem_filterMap.2 ⟨_, ?_, hexecuted⟩
      exact hback ▸ List.mem_cons_self
    obtain ⟨entity, -, heq⟩ := List.mem_map.1 hmem
    exact heq.symm
  rw [(routine_of_emits hemits part List.mem_cons_self).1] at hfirst
  exact isPlain_of_called? hfirst hcalled

/-- The schema that is read from the path of the routine is named, whatever schemas are created. -/
theorem named_of_lexes {model : Model} {history : List RowTypeCache.Use} {schema : Schema}
    (h : (Schema.ofModel config model (RowTypeCache.after history)).1 = .ok schema)
    (hne : model.toList ≠ []) {first second : Part}
    (hlexes : Lexes config.routinePath [.names [first, second]]) :
    first.name ∈ namedSchemas (script schema) ∧
      createdSchemas (script schema) = [config.schema, config.systemSchema, config.archiveSchema] := by
  obtain ⟨associations, made, -, -, hemits, -, -, rfl⟩ :=
    Schema.ofModel_eq_ok_iff.1 (Prod.ext (y := (Except.ok schema, _)) h rfl)
  have hclear : ∀ statement ∈ ordered (Schema.assemble config associations made),
      statement.Clear [config.schema, config.archiveSchema, first.name] := by
    apply clear_of_mem_ordered (RowTypeCache.faithful_after_history history) hemits
      List.mem_cons_self (by simp)
    refine fun _ => ⟨_, hlexes, List.forall_mem_singleton.2 ⟨Lexeme.noConfusion, ?_⟩⟩
    simp [Lexeme.schemas]
  refine ⟨?_, createdSchemas_of_clear hclear⟩
  cases made with
  | nil => exact absurd (List.length_eq_zero_iff.1 hemits.length_eq.symm) hne
  | cons part parts =>
      rw [← (routine_of_emits hemits part List.mem_cons_self).1] at hlexes
      have hstatement : createArchiveTrigger part.archiveTrigger ∈
          ordered (Schema.assemble config associations (part :: parts)) := by
        rw [ordered_eq_untriggered]
        exact List.mem_append_right _ (List.mem_map_of_mem List.mem_cons_self)
      have hlexeme : .names [first, second] ∈ (createArchiveTrigger part.archiveTrigger).lexemes := by
        rw [lexemes_createArchiveTrigger hlexes]
        simp
      exact mem_namedSchemas hclear hstatement hlexeme List.mem_cons_self

/-- The script of a model names only schemas that it creates, and executes the archive routine of the
settings, exactly if there is nothing to archive or the routine consists of plain words. -/
theorem resolved_iff {model : Model} {history : List RowTypeCache.Use} {schema : Schema}
    (h : (Schema.ofModel config model (RowTypeCache.after history)).1 = .ok schema) :
    Resolved config model (script schema) ↔
      model.toList = [] ∨ IsPlain config.systemSchema ∧ IsPlain config.archiveRoutine := by
  have hcache := RowTypeCache.faithful_after_history history
  obtain ⟨associations, made, -, -, hemits, -, -, rfl⟩ :=
    Schema.ofModel_eq_ok_iff.1 (Prod.ext (y := (Except.ok schema, _)) h rfl)
  have hmade : made = [] ↔ model.toList = [] := by
    rw [← List.length_eq_zero_iff, hemits.length_eq, List.length_eq_zero_iff]
  rw [← hmade]
  constructor
  · intro hresolved
    by_cases hnil : made = []
    · exact .inl hnil
    · exact .inr (isPlain_of_resolved hcache hemits hnil hresolved)
  · rintro (hnil | hplain)
    · exact resolved_of_isPlain hcache hemits fun hne => absurd hnil hne
    · exact resolved_of_isPlain hcache hemits fun _ => hplain

/-- A drawer of labelled folders. -/
def cabinet : Model where
  entities := ⟨[
    ("Drawer", { name := "Drawer", related := .ofList ["Folder"], owned := .ofList ["Folder"] }),
    ("Folder", {
      name := "Folder"
      columns := [{ name := "label", type := "string", annotation := "on the \"tab\"" }]
      related := .ofList ["Drawer"]
      externalIdSources := ["label"] })], by decide +kernel⟩

theorem resolved_iff_cabinet : ∃ schema,
    (Schema.ofModel { schema := "Main; \"office\"", systemSchema := "tools_2" } cabinet
      (RowTypeCache.after [])).1 = .ok schema ∧
      Resolved { schema := "Main; \"office\"", systemSchema := "tools_2" } cabinet
        (script schema) := by
  have hok : ∃ schema, (Schema.ofModel { schema := "Main; \"office\"", systemSchema := "tools_2" }
      cabinet (RowTypeCache.after [])).1 = .ok schema := exists_eq_ok_of_isOk (by decide +kernel)
  obtain ⟨schema, h⟩ := hok
  exact ⟨schema, h, (resolved_iff h).2 (.inr (by decide))⟩

/-- With a capital letter in the schema of the routine, the script names a schema that it does not
create. -/
theorem not_created_capital : ∃ schema,
    (Schema.ofModel { systemSchema := "Sys" } cabinet (RowTypeCache.after [])).1 = .ok schema ∧
      "sys" ∈ namedSchemas (script schema) ∧ "sys" ∉ createdSchemas (script schema) := by
  have hok : ∃ schema, (Schema.ofModel { systemSchema := "Sys" } cabinet
      (RowTypeCache.after [])).1 = .ok schema := exists_eq_ok_of_isOk (by decide +kernel)
  have hlexes : Lexes (Config.routinePath { systemSchema := "Sys" })
      [.names [.word "sys", .word "archive_table"]] := by
    change Lexes ("Sys" ++ "." ++ "archive_table") _
    exact ⟨by decide, by decide⟩
  obtain ⟨schema, h⟩ := hok
  obtain ⟨hnamed, hcreated⟩ := named_of_lexes h (by decide +kernel) hlexes
  refine ⟨schema, h, hnamed, ?_⟩
  rw [hcreated]
  decide

end EntitySchema.Sql
