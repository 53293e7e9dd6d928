import EntitySchema.Text.WhiteSpace
import EntitySchema.Text.Lowercase

/-!
# Normal form of names

A name is trimmed, its separators become underscores, its letters become lowercase, and a leading
digit gets an underscore in front.
-/

namespace EntitySchema

namespace Identifier

/-- The characters that become underscores. -/
def isSeparator (c : Char) : Bool :=
  c ∈ ['@', '$', ' ', '.', ',', '-', '/', '\\']

/-- An underscore in place of a separator. -/
def replaceSeparator (c : Char) : Char := if isSeparator c then '_' else c

/-- Puts an underscore in front of a leading digit `0` to `9`. -/
def guardDigit : List Char → List Char
  | [] => []
  | c :: cs => if c.isDigit then '_' :: c :: cs else c :: cs

/-- The normal form of a name, as a list of characters. -/
def normalChars (raw : List Char) : List Char :=
  guardDigit (Text.lowercase ((Text.trim raw).map replaceSeparator))

/-- The normal form of a name. -/
def normalize (raw : String) : String := String.ofList (normalChars raw.toList)

@[simp] theorem toList_normalize (raw : String) :
    (normalize raw).toList = normalChars raw.toList :=
  String.toList_ofList

@[simp] theorem normalChars_nil : normalChars [] = [] := rfl

end Identifier

end EntitySchema
