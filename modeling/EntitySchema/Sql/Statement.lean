import EntitySchema.Sql.Expression
import EntitySchema.ExternalId.Trigger
import EntitySchema.Schema.Table

/-!
# Statements of a schema script

The statements that create schemas, tables, comments, functions and triggers, and their written
form.  Every name is quoted, except that of the routine of an archive trigger.
-/

namespace EntitySchema

namespace Sql

/-- A name within a schema. -/
structure QualifiedName where
  schema : String
  name : String
deriving Repr, DecidableEq

def QualifiedName.text (q : QualifiedName) : String := identifier q.schema ++ "." ++ identifier q.name

/-- What follows the type of a column. -/
inductive ColumnClause where
  | identity
  | primaryKey
  | notNull
  | defaultNow
  | unique
  | references (table : QualifiedName) (column : String)
deriving Repr, DecidableEq

def ColumnClause.text : ColumnClause → String
  | identity => "GENERATED BY DEFAULT AS IDENTITY"
  | primaryKey => "PRIMARY KEY"
  | notNull => "NOT NULL"
  | defaultNow => "DEFAULT CURRENT_TIMESTAMP"
  | unique => "UNIQUE"
  | references table column => "REFERENCES " ++ table.text ++ " (" ++ identifier column ++ ")"

/-- An item between the parentheses of a table. -/
inductive TableItem where
  | column (name type : String) (clauses : List ColumnClause)
  | primaryKey (columns : List String)
deriving Repr, DecidableEq

def TableItem.text : TableItem → String
  | column name type clauses =>
    identifier name ++ " " ++ type ++ String.join (clauses.map fun clause => " " ++ clause.text)
  | primaryKey columns => "PRIMARY KEY (" ++ ", ".intercalate (columns.map identifier) ++ ")"

/-- A statement of a schema script. -/
inductive Statement where
  | createSchema (schema : String)
  | createTable (table : QualifiedName) (items : List TableItem)
  | commentOnTable (table : QualifiedName) (comment : String)
  | commentOnColumn (table : QualifiedName) (column comment : String)
  /-- A trigger function that assigns a value to a column of the new row. -/
  | createFunction (function : QualifiedName) (target : String) (value : Expression)
  /-- A trigger that calls a function before an event of a row. -/
  | createRowTrigger (name : String) (event : ExternalId.Event) (table function : QualifiedName)
  /-- A trigger that calls a routine before a table is truncated. -/
  | createTruncateTrigger (name : String) (table : QualifiedName) (routine : String)
      (arguments : List String)

namespace Statement

/-- The lines of a statement. -/
def lines : Statement → List String
  | createSchema schema => ["CREATE SCHEMA IF NOT EXISTS " ++ identifier schema ++ ";"]
  | createTable table items =>
    ["CREATE TABLE IF NOT EXISTS " ++ table.text ++ " (",
     "    " ++ ",\n    ".intercalate (items.map TableItem.text),
     ");"]
  | commentOnTable table comment =>
    ["COMMENT ON TABLE " ++ table.text ++ " IS " ++ literal comment ++ ";"]
  | commentOnColumn table column comment =>
    ["COMMENT ON COLUMN " ++ table.text ++ "." ++ identifier column ++ " IS " ++ literal comment
      ++ ";"]
  | createFunction function target value =>
    ["CREATE OR REPLACE FUNCTION " ++ function.text ++ "() RETURNS TRIGGER AS $$",
     "BEGIN",
     "    NEW." ++ identifier target ++ " := " ++ value.text ++ ";",
     "    RETURN NEW;",
     "END;",
     "$$ LANGUAGE plpgsql;"]
  | createRowTrigger name event table function =>
    ["CREATE TRIGGER " ++ identifier name,
     "    BEFORE " ++ event.keyword ++ " ON " ++ table.text,
     "    FOR EACH ROW EXECUTE FUNCTION " ++ function.text ++ "();"]
  | createTruncateTrigger name table routine arguments =>
    ["CREATE TRIGGER " ++ identifier name,
     "    BEFORE TRUNCATE ON " ++ table.text,
     "    FOR EACH STATEMENT EXECUTE FUNCTION " ++ routine ++ "("
      ++ ", ".intercalate (arguments.map literal) ++ ");"]

/-- The written form of a statement, with an end of line after every line. -/
def text (statement : Statement) : String := String.join (statement.lines.map (· ++ "\n"))

end Statement

end Sql

end EntitySchema
