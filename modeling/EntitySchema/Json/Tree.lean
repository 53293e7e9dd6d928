import EntitySchema.Json.Token

/-!
# Trees of JSON texts

The structure of a JSON text, with its numerals as they are written, its strings with or without a
text, and the members of its objects in the order in which they stand, repeated ones included.  The
reader keeps the open arrays and objects on a stack, so that nesting costs no recursion.
-/

namespace EntitySchema

namespace Json

/-- The structure of a JSON text. -/
inductive Tree where
  | null
  | bool (value : Bool)
  | number (numeral : Numeral)
  | string (text? : Option String)
  | array (items : List Tree)
  | object (members : List (Option String × Tree))

namespace Tree

instance : Inhabited Tree := ⟨.null⟩

/-- An array or an object that is still open; what it holds so far is in reverse. -/
inductive Frame where
  | array (items : List Tree)
  /-- An object that waits for the value of `key`. -/
  | object (members : List (Option String × Tree)) (key : Option String)

/-- What the reader has before it: nothing, so that a value has to follow, or a complete value. -/
inductive Focus where
  | awaiting
  | complete (tree : Tree)

/-- Reads the tokens of one value within the open frames. -/
def read : Focus → List Frame → List Token → Option Tree
  | .awaiting, frames, .null :: ts => read (.complete .null) frames ts
  | .awaiting, frames, .bool b :: ts => read (.complete (.bool b)) frames ts
  | .awaiting, frames, .number n :: ts => read (.complete (.number n)) frames ts
  | .awaiting, frames, .string s :: ts => read (.complete (.string s)) frames ts
  | .awaiting, frames, .beginArray :: .endArray :: ts => read (.complete (.array [])) frames ts
  | .awaiting, frames, .beginArray :: ts => read .awaiting (.array [] :: frames) ts
  | .awaiting, frames, .beginObject :: .endObject :: ts => read (.complete (.object [])) frames ts
  | .awaiting, frames, .beginObject :: .string key :: .colon :: ts =>
    read .awaiting (.object [] key :: frames) ts
  | .complete tree, [], [] => some tree
  | .complete tree, .array items :: frames, .comma :: ts =>
    read .awaiting (.array (tree :: items) :: frames) ts
  | .complete tree, .array items :: frames, .endArray :: ts =>
    read (.complete (.array (tree :: items).reverse)) frames ts
  | .complete tree, .object members key :: frames, .comma :: .string next :: .colon :: ts =>
    read .awaiting (.object ((key, tree) :: members) next :: frames) ts
  | .complete tree, .object members key :: frames, .endObject :: ts =>
    read (.complete (.object ((key, tree) :: members).reverse)) frames ts
  | _, _, _ => none

def ofTokens? (tokens : List Token) : Option Tree := read .awaiting [] tokens

def ofText? (text : String) : Option Tree := (Token.list? text.toList).bind ofTokens?

end Tree

end Json

end EntitySchema
