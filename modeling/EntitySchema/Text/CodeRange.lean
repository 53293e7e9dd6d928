/-!
# Ranges of code points

A character property is a list of ranges; a character has it when one range contains its code point.
-/

namespace EntitySchema.Text

/-- The code points from `first` to `last`, both included. -/
structure CodeRange where
  first : Nat
  last : Nat
deriving Repr, DecidableEq

namespace CodeRange

/-- Whether the range contains the code point of `c`. -/
def contains (range : CodeRange) (c : Char) : Bool :=
  range.first ≤ c.toNat && c.toNat ≤ range.last

/-- Whether one of the ranges contains the code point of `c`. -/
def anyContains (ranges : List CodeRange) (c : Char) : Bool :=
  ranges.any (·.contains c)

@[simp] theorem anyContains_nil (c : Char) : anyContains [] c = false := rfl

@[simp] theorem anyContains_cons (range : CodeRange) (ranges : List CodeRange) (c : Char) :
    anyContains (range :: ranges) c = (range.contains c || anyContains ranges c) := rfl

end CodeRange

end EntitySchema.Text
