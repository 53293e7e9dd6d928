/-!
# Tables

A table with its columns, all of whose names are final.
-/

namespace EntitySchema

/-- What a column holds. -/
inductive ColumnKind where
  | primaryKey
  | createdAt
  | externalId
  | value
  | scalar
  | archivedAt
deriving Repr, DecidableEq

/-- The default that the database fills in. -/
inductive ColumnDefault where
  | identity
  | currentTimestamp
deriving Repr, DecidableEq

/-- The column that another column refers to. -/
structure ColumnReference where
  schema : String
  table : String
  column : String
deriving Repr, DecidableEq

/-- A column of a table. -/
structure TableColumn where
  name : String
  kind : ColumnKind
  sqlType : String
  nullable : Bool := true
  primaryKey : Bool := false
  unique : Bool := false
  default? : Option ColumnDefault := none
  references? : Option ColumnReference := none
  annotation : String := ""
deriving Repr, DecidableEq

/-- A table of a schema. -/
structure Table where
  schema : String
  name : String
  columns : List TableColumn
deriving Repr, DecidableEq

namespace ColumnKind

def name : ColumnKind → String
  | primaryKey => "primary_key"
  | createdAt => "created_at"
  | externalId => "external_id"
  | value => "value"
  | scalar => "scalar"
  | archivedAt => "archived_at"

def ofName? (name : String) : Option ColumnKind :=
  [primaryKey, createdAt, externalId, value, scalar, archivedAt].find? (·.name = name)

theorem ofName?_name (kind : ColumnKind) : ofName? kind.name = some kind := by
  cases kind <;> decide

end ColumnKind

namespace ColumnDefault

def name : ColumnDefault → String
  | identity => "identity"
  | currentTimestamp => "current_timestamp"

def ofName? (name : String) : Option ColumnDefault :=
  [identity, currentTimestamp].find? (·.name = name)

theorem ofName?_name (d : ColumnDefault) : ofName? d.name = some d := by
  cases d <;> decide

end ColumnDefault

namespace Table

/-- The first column of that name. -/
def column? (table : Table) (name : String) : Option TableColumn :=
  table.columns.find? (·.name = name)

/-- The first column of that kind. -/
def columnOfKind? (table : Table) (kind : ColumnKind) : Option TableColumn :=
  table.columns.find? (·.kind = kind)

def columnNames (table : Table) : List String := table.columns.map TableColumn.name

end Table

end EntitySchema
