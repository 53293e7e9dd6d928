import EntitySchema.Json.Basic

/-!
# Printed JSON

Every item and every member stands on a line of its own, two spaces deeper than what it belongs to.
In strings only the quote, the backslash and the control characters below U+0020 are escaped.
-/

namespace EntitySchema

namespace Json

/-- The digit of a number below sixteen, with lowercase letters. -/
def hexDigit (n : Nat) : Char := Nat.digitChar n

/-- A character as it stands in a string. -/
def escapeChar (c : Char) : List Char :=
  if c = '"' then ['\\', '"']
  else if c = '\\' then ['\\', '\\']
  else if c = '\x08' then ['\\', 'b']
  else if c = '\t' then ['\\', 't']
  else if c = '\n' then ['\\', 'n']
  else if c = '\x0c' then ['\\', 'f']
  else if c = '\r' then ['\\', 'r']
  else if c.toNat < 0x20 then
    ['\\', 'u', '0', '0', hexDigit (c.toNat / 16), hexDigit (c.toNat % 16)]
  else [c]

/-- A string between quotes. -/
def stringChars (text : String) : List Char :=
  '"' :: text.toList.flatMap escapeChar ++ ['"']

/-- The end of a line and the indentation of the next one. -/
def newline (depth : Nat) : List Char := '\n' :: List.replicate (2 * depth) ' '

mutual

/-- A value inside `depth` arrays and objects. -/
def printAt (depth : Nat) : Json → List Char
  | null => ['n', 'u', 'l', 'l']
  | bool true => ['t', 'r', 'u', 'e']
  | bool false => ['f', 'a', 'l', 's', 'e']
  | number n => n.chars
  | string text => stringChars text
  | array [] => ['[', ']']
  | array (item :: items) =>
    '[' :: newline (depth + 1) ++ printAt (depth + 1) item ++ printItems (depth + 1) items
      ++ newline depth ++ [']']
  | object [] => ['\x7b', '\x7d']
  | object ((key, item) :: members) =>
    '\x7b' :: newline (depth + 1) ++ stringChars key ++ ':' :: ' ' :: printAt (depth + 1) item
      ++ printMembers (depth + 1) members ++ newline depth ++ ['\x7d']

/-- The items of an array after the first. -/
def printItems (depth : Nat) : List Json → List Char
  | [] => []
  | item :: items => ',' :: newline depth ++ printAt depth item ++ printItems depth items

/-- The members of an object after the first. -/
def printMembers (depth : Nat) : List (String × Json) → List Char
  | [] => []
  | (key, item) :: members =>
    ',' :: newline depth ++ stringChars key ++ ':' :: ' ' :: printAt depth item
      ++ printMembers depth members

end

def print (json : Json) : String := String.ofList (printAt 0 json)

end Json

end EntitySchema
