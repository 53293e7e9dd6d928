/-!
# Numerals

A number of a JSON text as it is written, and the question whether it lies within the range of double
precision.  The question is decided on the leading digits that fit in 64 bits and a power of ten,
both rounded to 53 bits, whose product has to stay below the rounding limit of the largest double.
-/

namespace EntitySchema

namespace Json

/-- The written form of a number: its sign, its digits before and after the point, and its exponent,
which is a sign and digits. -/
structure Numeral where
  negative : Bool
  whole : List Nat
  fraction? : Option (List Nat)
  exponent? : Option (Bool × List Nat)
deriving Repr, DecidableEq

namespace Numeral

/-- The number that digits denote, with the highest place first. -/
def ofDigits (digits : List Nat) : Nat := digits.foldl (fun n d => 10 * n + d) 0

/-- A significand of at most 64 bits and the power of ten that belongs to it. -/
structure Scaled where
  significand : Nat
  power : Int
deriving Repr, DecidableEq

namespace Scaled

/-- Whether a further digit still fits in 64 bits. -/
def hasRoom (s : Scaled) (digit : Nat) : Bool := 10 * s.significand + digit < 1 <<< 64

/-- The value after the digits before the point: from the first digit that does not fit on, every
digit counts as a further place. -/
def addWhole (s : Scaled) : List Nat → Scaled
  | [] => s
  | d :: ds =>
    if s.hasRoom d then addWhole { s with significand := 10 * s.significand + d } ds
    else { s with power := s.power + (d :: ds).length }

/-- The value after the digits behind the point: the first digit that does not fit ends them. -/
def addFraction (s : Scaled) : List Nat → Scaled
  | [] => s
  | d :: ds =>
    if s.hasRoom d then addFraction ⟨10 * s.significand + d, s.power - 1⟩ ds else s

end Scaled

/-- The significand and the power of ten of a numeral. -/
def scaled (n : Numeral) : Scaled :=
  let s := (Scaled.addWhole ⟨0, 0⟩ n.whole).addFraction (n.fraction?.getD [])
  match n.exponent? with
  | none => s
  | some (negative, digits) =>
    { s with power := s.power + (if negative then -1 else 1) * (ofDigits digits : Int) }

/-- A natural number rounded to 53 significant bits, ties to the even neighbour. -/
def round53 (n : Nat) : Nat :=
  let shift := n.log2 - 52
  let unit := 1 <<< shift
  let kept := n / unit
  let rest := n % unit
  let up := unit < 2 * rest ∨ unit = 2 * rest ∧ kept % 2 = 1
  (if up then kept + 1 else kept) * unit

/-- The least number that rounds beyond the largest double, `2 ^ 1024 - 2 ^ 970`. -/
def doubleLimit : Nat := 1 <<< 1024 - 1 <<< 970

/-- Whether the numeral lies beyond the range of double precision. -/
def overflows (n : Numeral) : Bool :=
  let s := n.scaled
  if s.significand = 0 ∨ s.power < 0 then false
  else if 308 < s.power then true
  else doubleLimit ≤ round53 s.significand * round53 (Nat.pow 10 s.power.toNat)

/-- The characters of digits. -/
def digitChars (digits : List Nat) : List Char := digits.map Nat.digitChar

/-- The numeral as it is written. -/
def chars (n : Numeral) : List Char :=
  (if n.negative then ['-'] else []) ++ digitChars n.whole
    ++ (match n.fraction? with
        | none => []
        | some digits => '.' :: digitChars digits)
    ++ (match n.exponent? with
        | none => []
        | some (negative, digits) => 'e' :: (if negative then ['-'] else []) ++ digitChars digits)

end Numeral

end Json

end EntitySchema
