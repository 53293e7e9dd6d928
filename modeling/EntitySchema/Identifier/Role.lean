/-!
# What an identifier names

The role of an identifier decides the suffix that ends it.
-/

namespace EntitySchema

namespace Identifier

/-- The things that identifiers name. -/
inductive Role where
  /-- A primary table, or the archive table of the same name in the archive schema. -/
  | table
  /-- A declared column. -/
  | column
  /-- A primary key, and a column of an association table that refers to one. -/
  | primaryKey
  /-- The time at which a row was created. -/
  | timestamp
  /-- The external id of a row. -/
  | externalId
  /-- The text content of the element itself. -/
  | value
  /-- The time at which a row was archived. -/
  | archiveTimestamp
deriving Repr, DecidableEq

/-- The ending of identifiers in this role. -/
def Role.suffix : Role → String
  | table | column => ""
  | primaryKey => "_id"
  | timestamp => "_tmstp"
  | externalId => "_ext_id"
  | value => "_value"
  | archiveTimestamp => "_arch_tmstp"

/-- The role in words, as it stands in collision reports. -/
def Role.label : Role → String
  | table => "table"
  | column => "column"
  | primaryKey => "primary key"
  | timestamp => "timestamp"
  | externalId => "external id"
  | value => "value"
  | archiveTimestamp => "archive timestamp"

end Identifier

end EntitySchema
