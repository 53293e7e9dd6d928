import Mathlib.Data.List.Basic
import EntitySchema.Sql.Script
import EntitySchema.Proofs.Sql.Statements

/-!
# What a script is about

Each statement of a script is about a part of the schema. From the schema alone it can be told which
parts these are and in which order they come, how the statement about each is spelled, and which names
and texts it quotes. The statements that are made of a schema agree with it.
-/

namespace EntitySchema.Sql

/-- What a statement of a script is about. -/
inductive Subject where
  | schema (name : String)
  /-- A primary table or an archive table. -/
  | table (table : Table)
  /-- The comment on the primary table of an entity. -/
  | tableComment (tables : EntityTables)
  | columnComment (table : Table) (column : TableColumn)
  /-- The table of an association, in a schema. -/
  | association (schema : String) (association : Association)
  | function (trigger : ExternalId.Trigger)
  | rowTrigger (trigger : ExternalId.Trigger)
  | archiveTrigger (trigger : ArchiveTrigger)

/-- A primary table with its comments, and an archive table. -/
def entitySubjects (tables : EntityTables) : List Subject :=
  [.table tables.primary]
    ++ (if tables.annotation = "" then [] else [.tableComment tables])
    ++ (tables.primary.columns.filter fun column => column.annotation != "").map
      (.columnComment tables.primary)
    ++ [.table tables.archive]

/-- What the statements of a script are about, one after another. -/
def subjects (schema : Schema) : List Subject :=
  schema.schemas.map .schema
    ++ schema.entities.flatMap entitySubjects
    ++ schema.associations.map (.association schema.name)
    ++ (schema.externalIdTriggers.flatMap fun trigger => [.function trigger, .rowTrigger trigger])
    ++ schema.archiveTriggers.map .archiveTrigger

def dotted (schema name : String) : String := identifier schema ++ "." ++ identifier name

/-- How a column says what it refers to, if it refers to anything. -/
def referenceText : Option ColumnReference → String
  | none => ""
  | some r => " REFERENCES " ++ dotted r.schema r.table ++ " (" ++ identifier r.column ++ ")"

/-- What stands between the type of a column and what it refers to. -/
def clauseTexts (column : TableColumn) : List String :=
  ([(decide (column.default? = some .identity), " GENERATED BY DEFAULT AS IDENTITY"),
    (column.primaryKey, " PRIMARY KEY"),
    (!column.primaryKey && !column.nullable, " NOT NULL"),
    (decide (column.default? = some .currentTimestamp), " DEFAULT CURRENT_TIMESTAMP"),
    (column.unique, " UNIQUE")].filter Prod.fst).map Prod.snd

/-- How a column is declared. -/
def columnText (column : TableColumn) : String :=
  identifier column.name ++ " " ++ column.sqlType ++ String.join (clauseTexts column)
    ++ referenceText column.references?

def sideText (schema : String) (side : AssociationColumn) : String :=
  identifier side.name ++ " BIGINT NOT NULL" ++ referenceText (some ⟨schema, side.table, side.key⟩)

def creationText (schema name : String) (items : List String) : String :=
  "CREATE TABLE IF NOT EXISTS " ++ dotted schema name ++ " (\n    " ++ ",\n    ".intercalate items
    ++ "\n)"

def eventText : ExternalId.Event → String
  | .insert => "INSERT"
  | .update => "UPDATE"

def identifiers (names : List String) : List Quoted := names.map .identifier

def columnNames (column : TableColumn) : List Quoted :=
  identifiers [column.name] ++ match column.references? with
    | none => []
    | some r => identifiers [r.schema, r.table, r.column]

def derivationNames : ExternalId.Derivation → List Quoted
  | .direct source => identifiers [source]
  | .contentHash sources => identifiers sources ++ [.literal "UTF8", .literal "hex"]

namespace Subject

/-- The text, without a semicolon, is a statement about the subject. -/
def Spells : Subject → String → Prop
  | schema name, text => text = "CREATE SCHEMA IF NOT EXISTS " ++ identifier name
  | table t, text => text = creationText t.schema t.name (t.columns.map columnText)
  | tableComment tables, text =>
      text = "COMMENT ON TABLE " ++ dotted tables.primary.schema tables.primary.name ++ " IS "
        ++ literal tables.annotation
  | columnComment t column, text =>
      text = "COMMENT ON COLUMN " ++ dotted t.schema t.name ++ "." ++ identifier column.name
        ++ " IS " ++ literal column.annotation
  | association home a, text =>
      text = creationText home a.name
        [sideText home a.owner, sideText home a.other,
         "PRIMARY KEY (" ++ identifier a.owner.name ++ ", "
          ++ identifier a.other.name ++ ")"]
  | function trigger, text => ∃ value,
      text = "CREATE OR REPLACE FUNCTION " ++ dotted trigger.schema trigger.function
        ++ "() RETURNS TRIGGER AS $$\nBEGIN\n    NEW." ++ identifier trigger.target ++ " := " ++ value
        ++ ";\n    RETURN NEW;\nEND;\n$$ LANGUAGE plpgsql"
  | rowTrigger trigger, text =>
      text = "CREATE TRIGGER " ++ identifier trigger.name ++ "\n    BEFORE "
        ++ eventText trigger.event ++ " ON " ++ dotted trigger.schema trigger.table
        ++ "\n    FOR EACH ROW EXECUTE FUNCTION " ++ dotted trigger.schema trigger.function ++ "()"
  | archiveTrigger trigger, text =>
      text = "CREATE TRIGGER " ++ identifier trigger.name ++ "\n    BEFORE TRUNCATE ON "
        ++ dotted trigger.sourceSchema trigger.table ++ "\n    FOR EACH STATEMENT EXECUTE FUNCTION "
        ++ trigger.routine ++ "(" ++ literal trigger.table ++ ", " ++ literal trigger.sourceSchema
        ++ ", " ++ literal trigger.archiveSchema ++ ", " ++ literal trigger.primaryKey ++ ")"

/-- The names and texts that the statement quotes, one after another. -/
def quoted : Subject → List Quoted
  | schema name => [.identifier name]
  | table t => identifiers [t.schema, t.name] ++ t.columns.flatMap columnNames
  | tableComment tables =>
      identifiers [tables.primary.schema, tables.primary.name] ++ [.literal tables.annotation]
  | columnComment t column =>
      identifiers [t.schema, t.name, column.name] ++ [.literal column.annotation]
  | association home a =>
      identifiers [home, a.name,
        a.owner.name, home, a.owner.table, a.owner.key,
        a.other.name, home, a.other.table, a.other.key,
        a.owner.name, a.other.name]
  | function trigger =>
      identifiers [trigger.schema, trigger.function, trigger.target]
        ++ derivationNames trigger.derivation
  | rowTrigger trigger => identifiers
      [trigger.name, trigger.schema, trigger.table, trigger.schema, trigger.function]
  | archiveTrigger trigger => identifiers [trigger.name, trigger.sourceSchema, trigger.table]
      ++ [.literal trigger.table, .literal trigger.sourceSchema, .literal trigger.archiveSchema,
        .literal trigger.primaryKey]

def statement : Subject → Statement
  | schema name => .createSchema name
  | table t => createTable t
  | tableComment tables => .commentOnTable (tableName tables.primary) tables.annotation
  | columnComment t column => .commentOnColumn (tableName t) column.name column.annotation
  | association home a => createAssociation home a
  | function trigger => .createFunction ⟨trigger.schema, trigger.function⟩ trigger.target
      (.ofDerivation trigger.derivation)
  | rowTrigger trigger => .createRowTrigger trigger.name trigger.event
      ⟨trigger.schema, trigger.table⟩ ⟨trigger.schema, trigger.function⟩
  | archiveTrigger trigger => createArchiveTrigger trigger

end Subject

/-- The clauses of a column besides its reference. -/
def plainClauses : List ColumnClause := [.identity, .primaryKey, .notNull, .defaultNow, .unique]

/-- What a column refers to stands at the end. -/
theorem exists_clausesOf_eq (column : TableColumn) : ∃ clauses, clauses ⊆ plainClauses ∧
    (clauses.map fun clause => " " ++ clause.text) = clauseTexts column ∧
    clausesOf column = clauses ++
      (column.references?.map fun r => .references ⟨r.schema, r.table⟩ r.column).toList := by
  refine ⟨_, ?_, ?_, rfl⟩
  · rcases column.default? with _ | _ | _ <;> cases column.primaryKey <;> cases column.nullable <;>
      cases column.unique <;> decide
  · unfold clauseTexts
    rcases column.default? with _ | _ | _ <;> cases column.primaryKey <;> cases column.nullable <;>
      cases column.unique <;> rfl

theorem exists_reference_of_mem_clausesOf {column : TableColumn} {name : QualifiedName}
    {key : String} (h : .references name key ∈ clausesOf column) :
    ∃ r, column.references? = some r ∧ (⟨r.schema, r.table⟩ : QualifiedName) = name := by
  obtain ⟨clauses, hsubset, -, heq⟩ := exists_clausesOf_eq column
  rw [heq, List.mem_append, Option.mem_toList, Option.map_eq_some_iff] at h
  rcases h with hplain | ⟨r, hr, hclause⟩
  · have hnone : ColumnClause.references name key ∉ plainClauses := by
      simp [plainClauses]
    exact absurd (hsubset hplain) hnone
  · exact ⟨r, hr, (ColumnClause.references.inj hclause).1⟩

theorem column_text (column : TableColumn) :
    (TableItem.column column.name column.sqlType (clausesOf column)).text = columnText column := by
  obtain ⟨clauses, -, htexts, heq⟩ := exists_clausesOf_eq column
  rw [TableItem.text, heq, List.map_append, htexts, String.join_append, columnText]
  cases column.references? with
  | none => simp [referenceText]
  | some r =>
      apply String.toList_inj.1
      simp [referenceText, dotted, ColumnClause.text, QualifiedName.text]

theorem associationItem_text (schema : String) (side : AssociationColumn) :
    (associationItem schema side).text = sideText schema side := by
  apply String.toList_inj.1
  simp [associationItem, TableItem.text, ColumnClause.text, QualifiedName.text, sideText,
    referenceText, dotted]

theorem quoted_column (column : TableColumn) :
    (TableItem.column column.name column.sqlType (clausesOf column)).quoted =
      columnNames column := by
  obtain ⟨clauses, hsubset, -, heq⟩ := exists_clausesOf_eq column
  have hplain : clauses.flatMap ColumnClause.quoted = [] := by
    have hnone : ∀ clause ∈ plainClauses, clause.quoted = [] := by decide
    rw [List.flatMap_eq_nil_iff]
    exact fun clause hclause => hnone clause (hsubset hclause)
  rw [TableItem.quoted, heq, List.flatMap_append, hplain, columnNames]
  cases column.references? <;> rfl

theorem quoted_ofDerivation (derivation : ExternalId.Derivation) :
    (Expression.ofDerivation derivation).quoted = derivationNames derivation := by
  cases derivation with
  | direct source => rfl
  | contentHash sources =>
      have hsources : (sources.map Expression.newText).flatMap Expression.quoted =
          identifiers sources := by
        rw [List.flatMap_map, identifiers, List.map_eq_flatMap]
        rfl
      simp [Expression.ofDerivation, Expression.quoted_call, derivationNames, hsources]

namespace Subject

theorem spells_table (t : Table) : (table t).Spells (table t).statement.bare := by
  have hbare : (createTable t).bare = creationText t.schema t.name
      ((t.columns.map fun column =>
        .column column.name column.sqlType (clausesOf column)).map TableItem.text) := rfl
  have hitems : (TableItem.text ∘ fun column : TableColumn =>
      .column column.name column.sqlType (clausesOf column)) = columnText :=
    funext column_text
  rw [List.map_map, hitems] at hbare
  exact hbare

theorem spells_association (home : String) (a : Association) :
    (association home a).Spells (association home a).statement.bare := by
  have hbare : (createAssociation home a).bare = creationText home a.name
      [(associationItem home a.owner).text, (associationItem home a.other).text,
       (TableItem.primaryKey [a.owner.name, a.other.name]).text] := rfl
  rw [associationItem_text, associationItem_text] at hbare
  exact hbare

theorem spells_function (trigger : ExternalId.Trigger) :
    (function trigger).Spells (function trigger).statement.bare := by
  have hbare : (function trigger).statement.bare =
      "CREATE OR REPLACE FUNCTION " ++ dotted trigger.schema trigger.function
        ++ "() RETURNS TRIGGER AS " ++ "$$" ++ ("\nBEGIN\n    NEW." ++ identifier trigger.target
        ++ " := " ++ (Expression.ofDerivation trigger.derivation).text
        ++ ";\n    RETURN NEW;\nEND;\n") ++ "$$" ++ " LANGUAGE plpgsql" := rfl
  refine ⟨(Expression.ofDerivation trigger.derivation).text, ?_⟩
  rw [hbare]
  apply String.toList_inj.1
  simp

theorem spells_rowTrigger (trigger : ExternalId.Trigger) :
    (rowTrigger trigger).Spells (rowTrigger trigger).statement.bare := by
  have hbare : (rowTrigger trigger).statement.bare = "CREATE TRIGGER "
      ++ identifier trigger.name ++ ("\n    BEFORE " ++ trigger.event.keyword ++ " ON ")
      ++ dotted trigger.schema trigger.table ++ "\n    FOR EACH ROW EXECUTE FUNCTION "
      ++ dotted trigger.schema trigger.function ++ "()" := rfl
  have hevent : trigger.event.keyword = eventText trigger.event := by
    cases trigger.event <;> rfl
  rw [Spells, hbare, hevent]
  simp only [String.append_assoc]

theorem spells_archiveTrigger (trigger : ArchiveTrigger) :
    (archiveTrigger trigger).Spells (archiveTrigger trigger).statement.bare := by
  have hbare : (archiveTrigger trigger).statement.bare = "CREATE TRIGGER "
      ++ identifier trigger.name ++ "\n    BEFORE TRUNCATE ON "
      ++ dotted trigger.sourceSchema trigger.table
      ++ ("\n    FOR EACH STATEMENT EXECUTE FUNCTION " ++ trigger.routine ++ "(")
      ++ ", ".intercalate (trigger.arguments.map literal) ++ ")" := rfl
  rw [Spells, hbare]
  simp [ArchiveTrigger.arguments, String.append_assoc, String.intercalate_cons_cons]

theorem spells_bare (subject : Subject) : subject.Spells subject.statement.bare := by
  cases subject with
  | schema name => rfl
  | table t => exact spells_table t
  | tableComment tables => rfl
  | columnComment t column => rfl
  | association home a => exact spells_association home a
  | function trigger => exact spells_function trigger
  | rowTrigger trigger => exact spells_rowTrigger trigger
  | archiveTrigger trigger => exact spells_archiveTrigger trigger

theorem quoted_statement (subject : Subject) : subject.statement.quoted = subject.quoted := by
  cases subject with
  | table t =>
      have hitems : (t.columns.map fun column => TableItem.column column.name column.sqlType
          (clausesOf column)).flatMap TableItem.quoted = t.columns.flatMap columnNames := by
        rw [List.flatMap_map]
        exact List.flatMap_congr fun column _ => quoted_column column
      exact congrArg (identifiers [t.schema, t.name] ++ ·) hitems
  | function trigger =>
      exact congrArg (identifiers [trigger.schema, trigger.function, trigger.target] ++ ·)
        (quoted_ofDerivation trigger.derivation)
  | _ => rfl

end Subject

end EntitySchema.Sql
