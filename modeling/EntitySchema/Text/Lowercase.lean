import EntitySchema.Text.CaseRun
import EntitySchema.Text.CaseContext

/-!
# Lowercase text

Every capital letter is replaced by its lowercase form.  Two letters are special: `İ` becomes an `i`
followed by a combining dot, and `Σ` becomes `ς` at the end of a word and `σ` elsewhere.  Whether a
word ends is read off the characters on both sides, passing over those that do not interrupt words.
-/

namespace EntitySchema.Text

/-- The first run of the list that knows `n` gives its lowercase form. -/
def lowerCode (n : Nat) : List CaseRun → Nat
  | [] => n
  | run :: runs => (run.lower? n).getD (lowerCode n runs)

/-- The lowercase form of one letter, without regard to its neighbours. -/
def lowerLetter (c : Char) : List Char :=
  if c = 'İ' then ['i', '\u0307'] else [Char.ofNat (lowerCode c.toNat CaseRun.all)]

/-- Whether the first character that is not passed over is a cased letter. -/
def startsCased (cs : List Char) : Bool :=
  match cs.dropWhile isCaseIgnorable with
  | [] => false
  | c :: _ => isCased c

/-- The lowercase form of `c` between the text `before` it, nearest character first, and the text
`after` it. -/
def lowerBetween (before : List Char) (c : Char) (after : List Char) : List Char :=
  if c = 'Σ' then
    if startsCased before && !startsCased after then ['ς'] else ['σ']
  else
    lowerLetter c

/-- The lowercase form of a text that follows `before`, whose nearest character comes first. -/
def lowercaseAfter (before : List Char) : List Char → List Char
  | [] => []
  | c :: after => lowerBetween before c after ++ lowercaseAfter (c :: before) after

/-- The lowercase form of a text. -/
def lowercase (cs : List Char) : List Char := lowercaseAfter [] cs

@[simp] theorem lowercase_nil : lowercase [] = [] := rfl

theorem lowercaseAfter_cons (before : List Char) (c : Char) (after : List Char) :
    lowercaseAfter before (c :: after) =
      lowerBetween before c after ++ lowercaseAfter (c :: before) after := rfl

/-- Lowercase forms of the letters `A` to `Z` only. -/
def asciiLowercase (cs : List Char) : List Char := cs.map Char.toLower

end EntitySchema.Text
