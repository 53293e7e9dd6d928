import EntitySchema.Text.WhiteSpace
import EntitySchema.Text.Lowercase

/-!
# Type tags

The kinds of value that extraction tells apart, the spellings it uses for them, and the column type
of each.  Tags are ordered by priority: where a column was seen with several types, the one with the
highest priority is kept.
-/

namespace EntitySchema

/-- The kind of value of an element. -/
inductive TypeTag where
  | integer
  | boolean
  | float
  | date
  | dateTime
  | string
  | binary
  /-- A nested element, which is an entity and never a column. -/
  | object
deriving Repr, DecidableEq

namespace TypeTag

/-- The spellings of the tags, in lowercase. -/
def spellings : List (String × TypeTag) :=
  [("integer", integer), ("int", integer), ("boolean", boolean), ("bool", boolean),
   ("float", float), ("double", float), ("date", date), ("datetime", dateTime),
   ("timestamp", dateTime), ("string", string), ("text", string), ("binary", binary),
   ("largebinary", binary), ("object", object)]

/-- Spellings that begin like this are timestamps, whatever arguments follow. -/
def timestampStart : String := "types.timestamp"

/-- The tag of a spelling, without regard to the case of the letters `A` to `Z` and to white space
around it. -/
def ofSpelling? (spelling : String) : Option TypeTag :=
  let lower := Text.asciiLowercase (Text.trim spelling.toList)
  if timestampStart.toList.isPrefixOf lower then some dateTime
  else spellings.lookup (String.ofList lower)

def name : TypeTag → String
  | integer => "integer"
  | boolean => "boolean"
  | float => "float"
  | date => "date"
  | dateTime => "datetime"
  | string => "string"
  | binary => "binary"
  | object => "object"

/-- The rank of the tag among types seen for one column. -/
def priority : TypeTag → Nat
  | integer | boolean => 1
  | float | date => 2
  | dateTime => 3
  | string | binary => 4
  | object => 5

/-- The column type of the tag; a nested element has none. -/
def sqlType? : TypeTag → Option String
  | integer => some "BIGINT"
  | boolean => some "BOOLEAN"
  | float => some "DOUBLE PRECISION"
  | date => some "DATE"
  | dateTime => some "TIMESTAMP WITH TIME ZONE"
  | string => some "TEXT"
  | binary => some "BYTEA"
  | object => none

theorem sqlType?_eq_none_iff {tag : TypeTag} : tag.sqlType? = none ↔ tag = object := by
  cases tag <;> simp [sqlType?]

end TypeTag

end EntitySchema
