import Mathlib.Data.List.Lemmas
import EntitySchema.Proofs.Sql.Legible
import EntitySchema.Proofs.Sql.Script

/-!
# What a script names

The lexemes of a script are read as statements. From these can be told which schemas are created at its
top, which schemas it names, and which routines its archive triggers execute.
-/

namespace EntitySchema.Sql

/-- The schema that names are in, if they are in one. -/
def Lexeme.schemas : Lexeme → List String
  | names (schema :: _ :: _) => [schema.name]
  | _ => []

def namedSchemas (text : String) : List String := (lex text).flatMap Lexeme.schemas

/-- The statements among lexemes without the comments in front of them, and at last what follows the
last statement. -/
def statementsIn (lexemes : List Lexeme) : List (List Lexeme) :=
  (lexemes.splitOn (.mark ';')).map (·.dropWhile (· = .comment))

def createdSchema? (statement : List Lexeme) : Option String :=
  match statement.dropPrefix? (words ["create", "schema", "if", "not", "exists"]) with
  | some [.names [schema]] => some schema.name
  | _ => none

/-- The schemas that the first statements create. -/
def schemasCreatedBy : List (List Lexeme) → List String
  | [] => []
  | statement :: statements =>
    match createdSchema? statement with
    | some schema => schema :: schemasCreatedBy statements
    | none => []

def createdSchemas (text : String) : List String := schemasCreatedBy (statementsIn (lex text))

def behindNames? : List Lexeme → Option (List Lexeme)
  | .names _ :: rest => some rest
  | _ => none

/-- What a trigger executes when a table is truncated. -/
def executed? (statement : List Lexeme) : Option (List Lexeme) :=
  (((statement.dropPrefix? (words ["create", "trigger"])).bind behindNames?).bind
    (·.dropPrefix? (words ["before", "truncate", "on"]))).bind behindNames? |>.bind
      (·.dropPrefix? (words ["for", "each", "statement", "execute", "function"]))

/-- A call of a routine in a schema. -/
def called? : List Lexeme → Option QualifiedName
  | .names [schema, routine] :: .mark '(' :: _ => some ⟨schema.name, routine.name⟩
  | _ => none

/-- The routines that are executed when tables are truncated, with nothing in place of what is no call
of a routine. -/
def archiveRoutines (text : String) : List (Option QualifiedName) :=
  (statementsIn (lex text)).filterMap fun statement => (executed? statement).map called?

/-- The lexeme ends no statement, and what it names is in one of the schemas. -/
def Lexeme.Within (schemas : List String) (lexeme : Lexeme) : Prop :=
  lexeme ≠ .mark ';' ∧ ∀ schema ∈ lexeme.schemas, schema ∈ schemas

section Within

variable {schemas : List String}

theorem within_of_isWord {lexeme : Lexeme} (h : lexeme.isWord = true) : lexeme.Within schemas := by
  unfold Lexeme.isWord at h
  split at h
  · exact ⟨Lexeme.noConfusion, List.forall_mem_nil _⟩
  · cases h

theorem within_of_mem_words (names : List String) :
    ∀ lexeme ∈ words names, lexeme.Within schemas := by
  intro lexeme hlexeme
  obtain ⟨name, -, rfl⟩ := List.mem_map.1 hlexeme
  exact within_of_isWord rfl

theorem within_mark {c : Char} (h : c ≠ ';') : (Lexeme.mark c).Within schemas :=
  ⟨fun heq => h (Lexeme.mark.inj heq), List.forall_mem_nil _⟩

theorem within_of_mem_commas {groups : List (List Lexeme)}
    (h : ∀ group ∈ groups, ∀ lexeme ∈ group, lexeme.Within schemas) :
    ∀ lexeme ∈ commas groups, lexeme.Within schemas := by
  induction groups with
  | nil => exact List.forall_mem_nil _
  | cons group groups ih =>
      obtain ⟨hgroup, hrest⟩ := List.forall_mem_cons.1 h
      cases groups with
      | nil => simpa [commas] using hgroup
      | cons other others =>
          rw [commas, List.intercalate_cons_cons]
          exact List.forall_mem_append.2 ⟨List.forall_mem_append.2
            ⟨hgroup, List.forall_mem_singleton.2 (within_mark (by decide))⟩, ih hrest⟩

theorem within_nameLexeme (name : String) : (nameLexeme name).Within schemas :=
  ⟨Lexeme.noConfusion, List.forall_mem_nil _⟩

theorem within_lexeme {q : QualifiedName} (h : q.schema ∈ schemas) : q.lexeme.Within schemas :=
  ⟨Lexeme.noConfusion, List.forall_mem_singleton.2 h⟩

theorem ColumnClause.within {clause : ColumnClause}
    (h : ∀ table column, clause = .references table column → table.schema ∈ schemas) :
    ∀ lexeme ∈ clause.lexemes, lexeme.Within schemas := by
  cases clause with
  | references table column =>
      refine List.forall_mem_append.2 ⟨within_of_mem_words _, ?_⟩
      simp only [List.forall_mem_cons]
      exact ⟨within_lexeme (h table column rfl), within_mark (by decide),
        within_nameLexeme column, within_mark (by decide), List.forall_mem_nil _⟩
  | _ => exact within_of_mem_words _

/-- What an item refers to is in one of the schemas. -/
def TableItem.Within (schemas : List String) : TableItem → Prop
  | column _ _ clauses =>
      ∀ table name, ColumnClause.references table name ∈ clauses → table.schema ∈ schemas
  | primaryKey _ => True

theorem TableItem.within {item : TableItem} (hlegible : item.Legible)
    (h : item.Within schemas) : ∀ lexeme ∈ item.lexemes, lexeme.Within schemas := by
  cases item with
  | column name type clauses =>
      refine List.forall_mem_append.2 ⟨List.forall_mem_cons.2 ⟨within_nameLexeme name, ?_⟩, ?_⟩
      · exact fun lexeme hlexeme => within_of_isWord (hlegible.2 lexeme hlexeme)
      · intro lexeme hlexeme
        obtain ⟨clause, hclause, hlexeme⟩ := List.mem_flatMap.1 hlexeme
        exact clause.within (fun table name heq => h table name (heq ▸ hclause)) lexeme hlexeme
  | primaryKey columns =>
      simp only [lexemes, List.forall_mem_append, List.forall_mem_singleton]
      refine ⟨⟨⟨within_of_mem_words _, within_mark (by decide)⟩, within_of_mem_commas ?_⟩,
        within_mark (by decide)⟩
      intro group hgroup
      obtain ⟨name, -, rfl⟩ := List.mem_map.1 hgroup
      exact List.forall_mem_singleton.2 (within_nameLexeme name)

namespace Statement

/-- What a statement names is in one of the schemas. -/
def Within (schemas : List String) : Statement → Prop
  | createSchema _ => True
  | createTable table items => table.schema ∈ schemas ∧ ∀ item ∈ items, item.Within schemas
  | commentOnTable table _ | commentOnColumn table _ _ => table.schema ∈ schemas
  | createFunction function _ _ => function.schema ∈ schemas
  | createRowTrigger _ _ table function => table.schema ∈ schemas ∧ function.schema ∈ schemas
  | createTruncateTrigger _ table routine _ =>
      table.schema ∈ schemas ∧ ∀ lexeme ∈ lex routine, lexeme.Within schemas

theorem within_truncateLexemes (name : String) {table : QualifiedName}
    (h : table.schema ∈ schemas) :
    ∀ lexeme ∈ truncateLexemes name table, lexeme.Within schemas := by
  simp only [truncateLexemes, List.forall_mem_append, List.forall_mem_singleton]
  exact ⟨⟨⟨⟨within_of_mem_words _, within_nameLexeme name⟩, within_of_mem_words _⟩,
    within_lexeme h⟩, within_of_mem_words _⟩

theorem within {statement : Statement} (hlegible : statement.Legible)
    (h : statement.Within schemas) : ∀ lexeme ∈ statement.lexemes, lexeme.Within schemas := by
  have hliteral : Lexeme.literal.Within schemas := ⟨Lexeme.noConfusion, List.forall_mem_nil _⟩
  have hbody : Lexeme.body.Within schemas := ⟨Lexeme.noConfusion, List.forall_mem_nil _⟩
  have hopen : (Lexeme.mark '(').Within schemas := within_mark (by decide)
  have hclose : (Lexeme.mark ')').Within schemas := within_mark (by decide)
  cases statement with
  | createSchema schema =>
      exact List.forall_mem_append.2
        ⟨within_of_mem_words _, List.forall_mem_singleton.2 (within_nameLexeme schema)⟩
  | createTable table items =>
      simp only [lexemes, List.forall_mem_append, List.forall_mem_singleton, List.forall_mem_cons]
      refine ⟨⟨⟨within_of_mem_words _, within_lexeme h.1, hopen⟩,
        within_of_mem_commas ?_⟩, hclose⟩
      intro group hgroup
      obtain ⟨item, hitem, rfl⟩ := List.mem_map.1 hgroup
      exact TableItem.within (hlegible item hitem) (h.2 item hitem)
  | commentOnTable table comment =>
      simp only [lexemes, List.forall_mem_append, List.forall_mem_singleton]
      exact ⟨⟨⟨within_of_mem_words _, within_lexeme h⟩, within_of_mem_words _⟩, hliteral⟩
  | commentOnColumn table column comment =>
      simp only [lexemes, List.forall_mem_append, List.forall_mem_singleton]
      exact ⟨⟨⟨within_of_mem_words _, Lexeme.noConfusion, List.forall_mem_singleton.2 h⟩,
        within_of_mem_words _⟩, hliteral⟩
  | createFunction function target value =>
      simp only [lexemes, List.forall_mem_append, List.forall_mem_singleton, List.forall_mem_cons]
      exact ⟨⟨⟨⟨within_of_mem_words _, within_lexeme h, hopen, hclose⟩,
        within_of_mem_words _⟩, hbody⟩, within_of_mem_words _⟩
  | createRowTrigger name event table function =>
      simp only [lexemes, List.forall_mem_append, List.forall_mem_singleton, List.forall_mem_cons]
      exact ⟨⟨⟨⟨⟨within_of_mem_words _, within_nameLexeme name⟩, within_of_mem_words _⟩,
        within_lexeme h.1⟩, within_of_mem_words _⟩, within_lexeme h.2, hopen, hclose⟩
  | createTruncateTrigger name table routine arguments =>
      simp only [lexemes, List.forall_mem_append, List.forall_mem_singleton]
      refine ⟨⟨⟨⟨within_truncateLexemes name h.1, h.2⟩, hopen⟩, within_of_mem_commas ?_⟩, hclose⟩
      intro group hgroup
      obtain ⟨argument, -, rfl⟩ := List.mem_map.1 hgroup
      exact List.forall_mem_singleton.2 hliteral

end Statement

end Within

section Lexemes

/-- The lexemes of statements, with the semicolon behind each. -/
def lexemesOf (statements : List Statement) : List Lexeme :=
  statements.flatMap fun statement => statement.lexemes ++ [.mark ';']

theorem lexFrom_statements {statements : List Statement}
    (h : ∀ statement ∈ statements, statement.Legible) (rest : List Char) :
    lexFrom .code ((String.join (statements.map Statement.text)).toList ++ rest) =
      lexemesOf statements ++ lexFrom .code rest := by
  induction statements with
  | nil => rfl
  | cons statement statements ih =>
      obtain ⟨hfirst, hrest⟩ := List.forall_mem_cons.1 h
      rw [List.map_cons, String.join_cons, String.toList_append, List.append_assoc,
        Statement.lexFrom_text hfirst, ih hrest]
      simp [lexemesOf]

def paragraphsText (paragraphs : List (List Statement)) : String :=
  String.join (paragraphs.map fun paragraph => "\n" ++ String.join (paragraph.map Statement.text))

theorem lexFrom_newline (cs : List Char) : lexFrom .code ('\n' :: cs) = lexFrom .code cs := rfl

theorem lexFrom_paragraphs {paragraphs : List (List Statement)}
    (h : ∀ statement ∈ paragraphs.flatten, statement.Legible) (rest : List Char) :
    lexFrom .code ((paragraphsText paragraphs).toList ++ rest) =
      lexemesOf paragraphs.flatten ++ lexFrom .code rest := by
  induction paragraphs with
  | nil => rfl
  | cons paragraph paragraphs ih =>
      obtain ⟨hfirst, hrest⟩ := List.forall_mem_append.1 (List.flatten_cons ▸ h)
      have htext : (paragraphsText (paragraph :: paragraphs)).toList ++ rest =
          '\n' :: ((String.join (paragraph.map Statement.text)).toList ++
            ((paragraphsText paragraphs).toList ++ rest)) := by
        simp [paragraphsText]
      rw [htext, lexFrom_newline, lexFrom_statements hfirst, ih hrest, List.flatten_cons, lexemesOf,
        lexemesOf, lexemesOf, List.flatMap_append, List.append_assoc]

theorem lex_script {schema : Schema} {front back : List (List Statement)}
    (hparagraphs : paragraphs schema = front ++ back)
    (h : ∀ statement ∈ front.flatten, statement.Legible) :
    lex (script schema) = .comment ::
      (lexemesOf front.flatten ++ lex (paragraphsText back)) := by
  have htext : (script schema).toList = (heading ++ "\n").toList ++
      ((paragraphsText front).toList ++ (paragraphsText back).toList) := by
    rw [script, hparagraphs]
    simp [paragraphsText, List.map_append, String.join_append]
  have hheading : lex (heading ++ "\n") = [.comment] := by decide
  have hend : Reading.code.after (heading ++ "\n").toList = .code := by decide
  rw [lex, htext, lexFrom_append fun _ _ => by rw [hend]; rfl, lexFrom_paragraphs h]
  exact congrArg (· ++ _) hheading

theorem statementsIn_comment (lexemes : List Lexeme) :
    statementsIn (.comment :: lexemes) = statementsIn lexemes := by
  obtain ⟨first, rest, heq⟩ :=
    List.exists_cons_of_ne_nil (List.splitOn_ne_nil (Lexeme.mark ';') lexemes)
  rw [statementsIn, statementsIn, List.splitOn_cons_eq_if_modifyHead, heq]
  rfl

theorem statementsIn_lexemesOf {statements : List Statement}
    (h : ∀ statement ∈ statements, .mark ';' ∉ statement.lexemes) (rest : List Lexeme) :
    statementsIn (lexemesOf statements ++ rest) =
      statements.map Statement.lexemes ++ statementsIn rest := by
  induction statements with
  | nil => rfl
  | cons statement statements ih =>
      obtain ⟨hfirst, hrest⟩ := List.forall_mem_cons.1 h
      have hstarts : statement.lexemes.dropWhile (· = .comment) = statement.lexemes := by
        cases statement <;> rfl
      have hlexemes : lexemesOf (statement :: statements) ++ rest =
          statement.lexemes ++ .mark ';' :: (lexemesOf statements ++ rest) := by
        simp [lexemesOf]
      have hih := ih hrest
      rw [statementsIn, statementsIn] at hih
      rw [hlexemes, statementsIn, List.splitOn_append_cons_self_of_not_mem hfirst, List.map_cons,
        hstarts, hih]
      rfl

theorem statementsIn_script {schema : Schema} {front back : List (List Statement)}
    (hparagraphs : paragraphs schema = front ++ back)
    (h : ∀ statement ∈ front.flatten, statement.Legible)
    (hmarks : ∀ statement ∈ front.flatten, .mark ';' ∉ statement.lexemes) :
    statementsIn (lex (script schema)) =
      front.flatten.map Statement.lexemes ++ statementsIn (lex (paragraphsText back)) := by
  rw [lex_script hparagraphs h, statementsIn_comment, statementsIn_lexemesOf hmarks]

theorem createdSchema?_createSchema (schema : String) :
    createdSchema? (Statement.createSchema schema).lexemes = some schema := by
  rw [createdSchema?, Statement.lexemes, List.dropPrefix?_append_of_beq _ (by decide)]
  rfl

theorem schemasCreatedBy_append (schemas : List String) (rest : List (List Lexeme)) :
    schemasCreatedBy ((schemas.map Statement.createSchema).map Statement.lexemes ++ rest) =
      schemas ++ schemasCreatedBy rest := by
  induction schemas with
  | nil => rfl
  | cons schema schemas ih =>
      rw [List.map_cons, List.map_cons, List.cons_append, schemasCreatedBy,
        createdSchema?_createSchema]
      exact congrArg _ ih

theorem executed?_truncateLexemes (name : String) (table : QualifiedName) (rest : List Lexeme) :
    executed? (truncateLexemes name table ++ rest) = some rest := by
  have hprefix : ∀ (names : List String) (rest : List Lexeme),
      (words names ++ rest).dropPrefix? (words names) = some rest :=
    fun names rest => List.dropPrefix?_append_of_beq rest (beq_self_eq_true _)
  simp only [executed?, truncateLexemes, List.append_assoc, hprefix, Option.bind_some,
    List.cons_append, List.nil_append, behindNames?, nameLexeme, QualifiedName.lexeme]

/-- Statements that are no triggers on truncation. -/
def Statement.isOrdinary : Statement → Bool
  | createTruncateTrigger _ _ _ _ => false
  | _ => true

theorem executed?_of_isOrdinary {statement : Statement} (h : statement.isOrdinary = true) :
    executed? statement.lexemes = none := by
  cases statement with
  | createTruncateTrigger name table routine arguments => cases h
  | createRowTrigger name event table function =>
      cases event <;>
        simp [executed?, Statement.lexemes, words, List.dropPrefix?, behindNames?, nameLexeme,
          eventWord]
  | _ => simp [executed?, Statement.lexemes, words, List.dropPrefix?]

end Lexemes

end EntitySchema.Sql
