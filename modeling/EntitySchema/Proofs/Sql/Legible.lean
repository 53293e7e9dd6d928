import EntitySchema.Proofs.Sql.Lexeme
import EntitySchema.Proofs.Sql.Statements

/-!
# The lexemes of statements

A statement is read as the lexemes that it was written with if the types of its columns are words, the
routine that it executes ends with a complete lexeme, and no function body contains a dollar sign.
-/

namespace EntitySchema.Sql

/-- Words that stand for themselves. -/
def words (names : List String) : List Lexeme := names.map fun name => .names [.word name]

/-- Lexemes with commas between them. -/
def commas (groups : List (List Lexeme)) : List Lexeme := [.mark ','].intercalate groups

def Lexeme.isWord : Lexeme → Bool
  | names [.word _] => true
  | _ => false

def nameLexeme (name : String) : Lexeme := .names [.quoted name]

def QualifiedName.lexeme (q : QualifiedName) : Lexeme := .names [.quoted q.schema, .quoted q.name]

def ColumnClause.lexemes : ColumnClause → List Lexeme
  | identity => words ["generated", "by", "default", "as", "identity"]
  | primaryKey => words ["primary", "key"]
  | notNull => words ["not", "null"]
  | defaultNow => words ["default", "current_timestamp"]
  | unique => words ["unique"]
  | references table column =>
      words ["references"] ++ [table.lexeme, .mark '(', nameLexeme column, .mark ')']

namespace TableItem

def lexemes : TableItem → List Lexeme
  | column name type clauses =>
      nameLexeme name :: lex type ++ clauses.flatMap ColumnClause.lexemes
  | primaryKey columns =>
      words ["primary", "key"] ++ [.mark '('] ++ commas (columns.map fun name => [nameLexeme name])
        ++ [.mark ')']

/-- The type of a column consists of words. -/
def Legible : TableItem → Prop
  | column _ type _ =>
      (Reading.code.after type.toList).isWhole = true ∧ ∀ l ∈ lex type, l.isWord = true
  | primaryKey _ => True

end TableItem

/-- What a statement that executes a routine begins with, up to the routine. -/
def truncateLexemes (name : String) (table : QualifiedName) : List Lexeme :=
  words ["create", "trigger"] ++ [nameLexeme name] ++ words ["before", "truncate", "on"]
    ++ [table.lexeme] ++ words ["for", "each", "statement", "execute", "function"]

def eventWord : ExternalId.Event → String
  | .insert => "insert"
  | .update => "update"

namespace Statement

def lexemes : Statement → List Lexeme
  | createSchema schema => words ["create", "schema", "if", "not", "exists"] ++ [nameLexeme schema]
  | createTable table items =>
      words ["create", "table", "if", "not", "exists"] ++ [table.lexeme, .mark '(']
        ++ commas (items.map TableItem.lexemes) ++ [.mark ')']
  | commentOnTable table _ =>
      words ["comment", "on", "table"] ++ [table.lexeme] ++ words ["is"] ++ [.literal]
  | commentOnColumn table column _ =>
      words ["comment", "on", "column"]
        ++ [.names [.quoted table.schema, .quoted table.name, .quoted column]] ++ words ["is"]
        ++ [.literal]
  | createFunction function _ _ =>
      words ["create", "or", "replace", "function"] ++ [function.lexeme, .mark '(', .mark ')']
        ++ words ["returns", "trigger", "as"] ++ [.body] ++ words ["language", "plpgsql"]
  | createRowTrigger name event table function =>
      words ["create", "trigger"] ++ [nameLexeme name] ++ words ["before", eventWord event, "on"]
        ++ [table.lexeme] ++ words ["for", "each", "row", "execute", "function"]
        ++ [function.lexeme, .mark '(', .mark ')']
  | createTruncateTrigger name table routine arguments =>
      truncateLexemes name table ++ lex routine ++ [.mark '(']
        ++ commas (arguments.map fun _ => [.literal]) ++ [.mark ')']

/-- Each lexeme of the statement ends where it is meant to. -/
def Legible : Statement → Prop
  | createTable _ items => ∀ item ∈ items, item.Legible
  | createFunction _ target value => '$' ∉ (functionBody target value).toList
  | createTruncateTrigger _ _ routine _ => (Reading.code.after routine.toList).isWhole = true
  | createSchema _ | commentOnTable _ _ | commentOnColumn _ _ _ | createRowTrigger _ _ _ _ => True

end Statement

namespace Lexes

variable {text : String} {ls gs : List Lexeme}

theorem after (h : Lexes text ls) (lead : String) (gs : List Lexeme)
    (hlead : (Reading.code.after lead.toList).isDone = true ∧ lex lead = gs) :
    Lexes (lead ++ text) (gs ++ ls) :=
  hlead.2 ▸ h.prepend lead hlead.1

theorem before (h : Lexes text ls) (trail : String) (gs : List Lexeme)
    (htrail : trail.toList.head?.all breaks = true ∧
      (Reading.code.after trail.toList).isWhole = true ∧ lex trail = gs) :
    Lexes (text ++ trail) (ls ++ gs) :=
  h.append ⟨htrail.2.2, htrail.2.1⟩ htrail.1

theorem joinClauses {clauses : List ColumnClause}
    (hclauses : ∀ clause ∈ clauses, Lexes clause.text clause.lexemes) (h : Lexes text ls) :
    Lexes (text ++ String.join (clauses.map fun clause => " " ++ clause.text))
      (ls ++ clauses.flatMap ColumnClause.lexemes) := by
  induction clauses generalizing text ls with
  | nil => simpa using h
  | cons clause clauses ih =>
      obtain ⟨hclause, hrest⟩ := List.forall_mem_cons.1 hclauses
      have hnext := ih hrest (h.between " " (by decide) hclause)
      have hgap : lex " " = [] := by decide
      rw [hgap, List.nil_append] at hnext
      rwa [List.map_cons, String.join_cons, List.flatMap_cons, ← List.append_assoc,
        ← String.append_assoc, ← String.append_assoc]

theorem separated {α : Type} {write : α → String} {read : α → List Lexeme} {xs : List α}
    (gap : String) (hgap : gap.toList.head?.any breaks = true ∧
      (Reading.code.after gap.toList).isDone = true ∧ lex gap = [.mark ','])
    (hxs : ∀ x ∈ xs, Lexes (write x) (read x)) :
    Lexes (gap.intercalate (xs.map write)) (commas (xs.map read)) := by
  have hlexes := intercalate gap ⟨hgap.1, hgap.2.1⟩ hxs
  rwa [hgap.2.2] at hlexes

end Lexes

theorem ColumnClause.lexes (clause : ColumnClause) : Lexes clause.text clause.lexemes := by
  cases clause with
  | references table column =>
      have htable := (Lexes.qualified table).after "REFERENCES " (words ["references"]) (by decide)
      have hcolumn := htable.between " (" (by decide) (.identifier column)
      have hclose := hcolumn.before ")" [.mark ')'] (by decide)
      have hgap : lex " (" = [.mark '('] := by decide
      rw [hgap] at hclose
      exact hclose
  | _ => exact ⟨by decide, by decide⟩

theorem TableItem.lexes {item : TableItem} (h : item.Legible) : Lexes item.text item.lexemes := by
  cases item with
  | column name type clauses =>
      have htype := (Lexes.identifier name).between " " (by decide) (.ofWhole type h.1)
      have hgap : lex " " = [] := by decide
      rw [hgap, List.nil_append] at htype
      exact htype.joinClauses fun clause _ => clause.lexes
  | primaryKey columns =>
      have hcolumns : Lexes (", ".intercalate (columns.map identifier))
          (commas (columns.map fun name => [nameLexeme name])) :=
        .separated ", " (by decide) fun name _ => .identifier name
      have hopen := hcolumns.after "PRIMARY KEY (" (words ["primary", "key"] ++ [.mark '('])
        (by decide)
      exact hopen.before ")" [.mark ')'] (by decide)

namespace Statement

theorem lexes_createSchema (schema : String) :
    Lexes (createSchema schema).bare (createSchema schema).lexemes :=
  (Lexes.identifier schema).after "CREATE SCHEMA IF NOT EXISTS "
    (words ["create", "schema", "if", "not", "exists"]) (by decide)

theorem lexes_createTable (table : QualifiedName) {items : List TableItem}
    (h : ∀ item ∈ items, item.Legible) :
    Lexes (createTable table items).bare (createTable table items).lexemes := by
  have hitems : Lexes (",\n    ".intercalate (items.map TableItem.text))
      (commas (items.map TableItem.lexemes)) :=
    .separated ",\n    " (by decide) fun item hitem => TableItem.lexes (h item hitem)
  have htable := (Lexes.qualified table).after "CREATE TABLE IF NOT EXISTS "
    (words ["create", "table", "if", "not", "exists"]) (by decide)
  have hgap : lex " (\n    " = [.mark '('] := by decide
  have hopen := htable.between " (\n    " (by decide) hitems
  rw [hgap, ← List.append_assoc, List.append_assoc (words _)] at hopen
  exact hopen.before "\n)" [.mark ')'] (by decide)

theorem lexes_commentOnTable (table : QualifiedName) (comment : String) :
    Lexes (commentOnTable table comment).bare (commentOnTable table comment).lexemes := by
  have htable := (Lexes.qualified table).after "COMMENT ON TABLE "
    (words ["comment", "on", "table"]) (by decide)
  have hgap : lex " IS " = words ["is"] := by decide
  have hcomment := htable.between " IS " (by decide) (.literal comment)
  rwa [hgap, ← List.append_assoc] at hcomment

theorem lexes_commentOnColumn (table : QualifiedName) (column comment : String) :
    Lexes (commentOnColumn table column comment).bare
      (commentOnColumn table column comment).lexemes := by
  have hcolumn := (Lexes.qualified_dot table column).after "COMMENT ON COLUMN "
    (words ["comment", "on", "column"]) (by decide)
  have hgap : lex " IS " = words ["is"] := by decide
  have hcomment := hcolumn.between " IS " (by decide) (.literal comment)
  rwa [hgap, ← List.append_assoc, ← String.append_assoc, ← String.append_assoc] at hcomment

theorem lexes_createFunction (function : QualifiedName) {target : String} {value : Expression}
    (h : '$' ∉ (functionBody target value).toList) :
    Lexes (createFunction function target value).bare
      (createFunction function target value).lexemes := by
  have hfunction := (Lexes.qualified function).after "CREATE OR REPLACE FUNCTION "
    (words ["create", "or", "replace", "function"]) (by decide)
  have hgap : lex "() RETURNS TRIGGER AS " =
      [.mark '(', .mark ')'] ++ words ["returns", "trigger", "as"] := by decide
  have hbody := hfunction.between "() RETURNS TRIGGER AS " (by decide) (.body h)
  have hend := hbody.before " LANGUAGE plpgsql" (words ["language", "plpgsql"]) (by decide)
  have htext : (createFunction function target value).bare =
      "CREATE OR REPLACE FUNCTION " ++ function.text ++ "() RETURNS TRIGGER AS "
        ++ ("$$" ++ functionBody target value ++ "$$") ++ " LANGUAGE plpgsql" := by
    unfold bare
    simp only [String.append_assoc]
  rw [hgap] at hend
  rw [htext]
  simpa [lexemes, QualifiedName.lexeme] using hend

theorem lexes_createRowTrigger (name : String) (event : ExternalId.Event)
    (table function : QualifiedName) :
    Lexes (createRowTrigger name event table function).bare
      (createRowTrigger name event table function).lexemes := by
  have hname := (Lexes.identifier name).after "CREATE TRIGGER " (words ["create", "trigger"])
    (by decide)
  have hbefore : lex ("\n    BEFORE " ++ event.keyword ++ " ON ") =
      words ["before", eventWord event, "on"] := by
    cases event <;> decide
  have htable := hname.between ("\n    BEFORE " ++ event.keyword ++ " ON ")
    (by cases event <;> decide) (.qualified table)
  have hexecute : lex "\n    FOR EACH ROW EXECUTE FUNCTION " =
      words ["for", "each", "row", "execute", "function"] := by decide
  have hfunction := htable.between "\n    FOR EACH ROW EXECUTE FUNCTION " (by decide)
    (.qualified function)
  have hend := hfunction.before "()" [.mark '(', .mark ')'] (by decide)
  rw [hbefore, hexecute] at hend
  unfold bare
  simpa [lexemes, QualifiedName.lexeme, nameLexeme] using hend

/-- A truncate trigger up to the routine that it executes. -/
def truncateHead (name : String) (table : QualifiedName) : String :=
  "CREATE TRIGGER " ++ identifier name ++ "\n    BEFORE TRUNCATE ON " ++ table.text
    ++ "\n    FOR EACH STATEMENT EXECUTE FUNCTION "

theorem lexes_truncateHead (name : String) (table : QualifiedName) :
    Lexes (truncateHead name table) (truncateLexemes name table) ∧
      (Reading.code.after (truncateHead name table).toList) = .code := by
  have hname := (Lexes.identifier name).after "CREATE TRIGGER " (words ["create", "trigger"])
    (by decide)
  have hbefore : lex "\n    BEFORE TRUNCATE ON " = words ["before", "truncate", "on"] := by decide
  have htable := hname.between "\n    BEFORE TRUNCATE ON " (by decide) (.qualified table)
  have hend := htable.before "\n    FOR EACH STATEMENT EXECUTE FUNCTION "
    (words ["for", "each", "statement", "execute", "function"]) (by decide)
  rw [hbefore, ← List.append_assoc] at hend
  exact ⟨hend, (htable.after_append (by decide)).trans (by decide)⟩

theorem bare_createTruncateTrigger (name : String) (table : QualifiedName) (routine : String)
    (arguments : List String) :
    (createTruncateTrigger name table routine arguments).bare =
      truncateHead name table
        ++ (routine ++ "(" ++ ", ".intercalate (arguments.map literal) ++ ")") := by
  unfold bare truncateHead
  simp only [String.append_assoc]

theorem lexes_createTruncateTrigger (name : String) (table : QualifiedName) {routine : String}
    (arguments : List String) (h : (Reading.code.after routine.toList).isWhole = true) :
    Lexes (createTruncateTrigger name table routine arguments).bare
      (createTruncateTrigger name table routine arguments).lexemes := by
  have harguments : Lexes (", ".intercalate (arguments.map literal))
      (commas (arguments.map fun _ => [.literal])) :=
    .separated ", " (by decide) fun text _ => .literal text
  have hgap : lex "(" = [.mark '('] := by decide
  have hcall := (Lexes.ofWhole routine h).between "(" (by decide) harguments
  have hend := hcall.before ")" [.mark ')'] (by decide)
  obtain ⟨hhead, hafter⟩ := lexes_truncateHead name table
  have hstatement := hhead.join hend fun _ _ => by
    rw [hafter]
    rfl
  rw [hgap] at hstatement
  rw [bare_createTruncateTrigger]
  simpa [lexemes] using hstatement

theorem lexes_bare {statement : Statement} (h : statement.Legible) :
    Lexes statement.bare statement.lexemes := by
  cases statement with
  | createSchema schema => exact lexes_createSchema schema
  | createTable table items => exact lexes_createTable table h
  | commentOnTable table comment => exact lexes_commentOnTable table comment
  | commentOnColumn table column comment => exact lexes_commentOnColumn table column comment
  | createFunction function target value => exact lexes_createFunction function h
  | createRowTrigger name event table function =>
      exact lexes_createRowTrigger name event table function
  | createTruncateTrigger name table routine arguments =>
      exact lexes_createTruncateTrigger name table arguments h

theorem lexFrom_text {statement : Statement} (h : statement.Legible) (rest : List Char) :
    lexFrom .code (statement.text.toList ++ rest) =
      statement.lexemes ++ .mark ';' :: lexFrom .code rest := by
  have hbare := lexes_bare h
  have hend := hbare.before ";\n" [.mark ';'] (by decide)
  have hafter : Reading.code.after (statement.bare ++ ";\n").toList = .code :=
    (hbare.after_append (by decide)).trans (by decide)
  rw [text_eq_bare, lexFrom_append fun _ _ => by rw [hafter]; rfl]
  exact (congrArg (· ++ _) hend.lex_eq).trans (by simp)

end Statement

end EntitySchema.Sql
