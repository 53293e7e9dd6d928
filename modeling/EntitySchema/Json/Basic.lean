import EntitySchema.Json.Tree
import EntitySchema.NameMap

/-!
# JSON values

Values keep the members of an object in the order given.  A value is read from a text if its strings
are texts, its numbers are within range and it is not nested too deeply; `sorted` puts the members of
all objects into the order of their keys, where of members with one key the last counts.
-/

namespace EntitySchema

/-- A JSON value. -/
inductive Json where
  | null
  | bool (value : Bool)
  | number (numeral : Json.Numeral)
  | string (text : String)
  | array (items : List Json)
  | object (members : List (String × Json))

namespace Json

instance : Inhabited Json := ⟨.null⟩

/-- The first member with the given key. -/
def member? (members : List (String × Json)) (key : String) : Option Json :=
  NameMap.lookup? key members

def asString? : Json → Option String
  | string text => some text
  | _ => none

def asBool? : Json → Option Bool
  | bool value => some value
  | _ => none

def asArray? : Json → Option (List Json)
  | array items => some items
  | _ => none

def asObject? : Json → Option (List (String × Json))
  | object members => some members
  | _ => none

mutual

/-- The value of a tree, if all strings have a text and all numbers are within range. -/
def ofTree? : Tree → Option Json
  | .null => some .null
  | .bool value => some (.bool value)
  | .number n => if n.overflows then none else some (.number n)
  | .string text? => text?.map .string
  | .array items => (ofItems? items).map .array
  | .object members => (ofMembers? members).map .object

/-- The values of the items of an array. -/
def ofItems? : List Tree → Option (List Json)
  | [] => some []
  | item :: items => do return (← ofTree? item) :: (← ofItems? items)

/-- The values of the members of an object. -/
def ofMembers? : List (Option String × Tree) → Option (List (String × Json))
  | [] => some []
  | (key, item) :: members => do return (← key, ← ofTree? item) :: (← ofMembers? members)

end

mutual

/-- The value with the members of all objects in the order of their keys; of members with one key
the last counts. -/
def sorted : Json → Json
  | null => null
  | bool value => bool value
  | number n => number n
  | string text => string text
  | array items => array (sortedItems items)
  | object members => object (sortedMembers members)

/-- The items, each with sorted members. -/
def sortedItems : List Json → List Json
  | [] => []
  | item :: items => sorted item :: sortedItems items

/-- The members, each with sorted members, by increasing key. -/
def sortedMembers : List (String × Json) → List (String × Json)
  | [] => []
  | (key, item) :: members =>
    let rest := sortedMembers members
    match NameMap.lookup? key rest with
    | some _ => rest
    | none => NameMap.insertSorted key (sorted item) rest

end

/-- The deepest nesting of arrays and objects that is read. -/
def nestingLimit : Nat := 127

/-- The value of a text. -/
def ofText? (text : String) : Option Json := do
  let tokens ← Token.list? text.toList
  if nestingLimit < Token.nesting tokens then none
  else ofTree? (← Tree.ofTokens? tokens)

end Json

end EntitySchema
