import EntitySchema.Json.Numeral

/-!
# Tokens of JSON texts

A JSON text is first cut into tokens.  A string token keeps its escapes as 16-bit units until its
text is asked for, because a text need not exist: a surrogate that stands alone is a legal escape
that denotes no character.
-/

namespace EntitySchema

namespace Json

/-- A piece of a written string: a character, or an escaped 16-bit unit. -/
inductive StringPart where
  | char (c : Char)
  | unit (n : Nat)
deriving Repr, DecidableEq

namespace StringPart

/-- Whether a unit is the first half of a pair. -/
def isLeading (n : Nat) : Bool := 0xD800 ≤ n && n ≤ 0xDBFF

/-- Whether a unit is the second half of a pair. -/
def isTrailing (n : Nat) : Bool := 0xDC00 ≤ n && n ≤ 0xDFFF

/-- The text of the parts, put behind `before`, which is in reverse; there is none if half a pair
stands alone. -/
def textAfter (before : List Char) : List StringPart → Option String
  | [] => some (String.ofList before.reverse)
  | char c :: parts => textAfter (c :: before) parts
  | unit n :: parts =>
    if isLeading n then
      match parts with
      | unit m :: parts =>
        if isTrailing m then
          textAfter (Char.ofNat (0x10000 + 0x400 * (n - 0xD800) + (m - 0xDC00)) :: before) parts
        else none
      | _ => none
    else if isTrailing n then none
    else textAfter (Char.ofNat n :: before) parts

/-- The text of the parts, if every surrogate is paired. -/
def text? (parts : List StringPart) : Option String := textAfter [] parts

end StringPart

/-- A token of a JSON text. -/
inductive Token where
  | beginArray
  | endArray
  | beginObject
  | endObject
  | comma
  | colon
  | null
  | bool (value : Bool)
  | number (numeral : Numeral)
  /-- A string with its text, if it has one. -/
  | string (text? : Option String)
deriving Repr, DecidableEq

namespace Token

/-- The white space between tokens. -/
def isBlank (c : Char) : Bool := c = ' ' || c = '\n' || c = '\t' || c = '\r'

def digit? (c : Char) : Option Nat := if c.isDigit then some (c.toNat - 48) else none

def hexDigit? (c : Char) : Option Nat :=
  if c.isDigit then some (c.toNat - 48)
  else if 'a' ≤ c ∧ c ≤ 'f' then some (c.toNat - 87)
  else if 'A' ≤ c ∧ c ≤ 'F' then some (c.toNat - 55)
  else none

/-- The character that follows a backslash and the one that both denote. -/
def shortEscapes : List (Char × Char) :=
  [('"', '"'), ('\\', '\\'), ('/', '/'), ('b', '\x08'), ('f', '\x0c'), ('n', '\n'), ('r', '\r'),
   ('t', '\t')]

/-- The digits at the beginning, put behind `before`, which is in reverse, and what follows. -/
def digitsAfter (before : List Nat) : List Char → List Nat × List Char
  | [] => (before.reverse, [])
  | c :: cs =>
    match digit? c with
    | some d => digitsAfter (d :: before) cs
    | none => (before.reverse, c :: cs)

/-- One digit or more, and what follows. -/
def digits? (cs : List Char) : Option (List Nat × List Char) :=
  match digitsAfter [] cs with
  | ([], _) => none
  | found => some found

/-- The digits before the point, which begin with a zero only if it is the only one. -/
def whole? (cs : List Char) : Option (List Nat × List Char) :=
  match digits? cs with
  | some (0 :: _ :: _, _) => none
  | found => found

/-- The digits behind a point, if there is one. -/
def fraction? : List Char → Option (Option (List Nat) × List Char)
  | '.' :: cs => (digits? cs).map fun (ds, rest) => (some ds, rest)
  | cs => some (none, cs)

/-- The sign and the digits of an exponent, if there is one. -/
def exponent? : List Char → Option (Option (Bool × List Nat) × List Char)
  | [] => some (none, [])
  | c :: cs =>
    if c = 'e' ∨ c = 'E' then
      match cs with
      | '-' :: cs => (digits? cs).map fun (ds, rest) => (some (true, ds), rest)
      | '+' :: cs => (digits? cs).map fun (ds, rest) => (some (false, ds), rest)
      | cs => (digits? cs).map fun (ds, rest) => (some (false, ds), rest)
    else
      some (none, c :: cs)

/-- A numeral without its sign, and what follows. -/
def unsigned? (negative : Bool) (cs : List Char) : Option (Numeral × List Char) := do
  let (whole, cs) ← whole? cs
  let (fraction, cs) ← fraction? cs
  let (exponent, cs) ← exponent? cs
  return (⟨negative, whole, fraction, exponent⟩, cs)

/-- A numeral, and what follows. -/
def numeral? : List Char → Option (Numeral × List Char)
  | '-' :: cs => unsigned? true cs
  | cs => unsigned? false cs

/-- The unit of four hexadecimal digits. -/
def unit? (a b c d : Char) : Option Nat := do
  return 0x1000 * (← hexDigit? a) + 0x100 * (← hexDigit? b) + 0x10 * (← hexDigit? c) + (← hexDigit? d)

/-- The rest of a string up to its closing quote, put behind `before`, which is in reverse, and what
follows the quote. -/
def partsAfter (before : List StringPart) :
    List Char → Option (List StringPart × List Char)
  | [] => none
  | '"' :: cs => some (before.reverse, cs)
  | '\\' :: 'u' :: a :: b :: c :: d :: cs =>
    match unit? a b c d with
    | some n => partsAfter (.unit n :: before) cs
    | none => none
  | '\\' :: c :: cs =>
    match shortEscapes.lookup c with
    | some e => partsAfter (.char e :: before) cs
    | none => none
  | c :: cs => if c.toNat < 0x20 ∨ c = '\\' then none else partsAfter (.char c :: before) cs

/-- The first token of a text that begins with one, and what follows. -/
def next? : List Char → Option (Token × List Char)
  | '[' :: cs => some (beginArray, cs)
  | ']' :: cs => some (endArray, cs)
  | '\x7b' :: cs => some (beginObject, cs)
  | '\x7d' :: cs => some (endObject, cs)
  | ',' :: cs => some (comma, cs)
  | ':' :: cs => some (colon, cs)
  | 'n' :: 'u' :: 'l' :: 'l' :: cs => some (null, cs)
  | 't' :: 'r' :: 'u' :: 'e' :: cs => some (bool true, cs)
  | 'f' :: 'a' :: 'l' :: 's' :: 'e' :: cs => some (bool false, cs)
  | '"' :: cs => (partsAfter [] cs).map fun (parts, rest) => (string (StringPart.text? parts), rest)
  | cs => (numeral? cs).map fun (n, rest) => (number n, rest)

/-- The tokens of a text, put behind `before`, which is in reverse.  A token takes at least one
character, so `fuel` characters are enough for a text of that length. -/
def listAfter (before : List Token) : (fuel : Nat) → List Char → Option (List Token)
  | _, [] => some before.reverse
  | 0, _ => none
  | fuel + 1, c :: cs =>
    if isBlank c then listAfter before fuel cs
    else
      match next? (c :: cs) with
      | some (token, rest) => listAfter (token :: before) fuel rest
      | none => none

def list? (cs : List Char) : Option (List Token) := listAfter [] cs.length cs

/-- The deepest nesting of arrays and objects, for tokens inside `depth` of them. -/
def nestingFrom (depth deepest : Nat) : List Token → Nat
  | [] => deepest
  | beginArray :: tokens | beginObject :: tokens =>
    nestingFrom (depth + 1) (max deepest (depth + 1)) tokens
  | endArray :: tokens | endObject :: tokens => nestingFrom (depth - 1) deepest tokens
  | _ :: tokens => nestingFrom depth deepest tokens

def nesting (tokens : List Token) : Nat := nestingFrom 0 0 tokens

end Token

end Json

end EntitySchema
