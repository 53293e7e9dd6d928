/-!
# Quoted text

A text between two quotes, in which every quote of the text itself is written twice.
-/

namespace EntitySchema.Text

/-- Writes every quote twice. -/
def doubleQuotes (quote : Char) : List Char → List Char
  | [] => []
  | c :: cs => if c = quote then quote :: quote :: doubleQuotes quote cs
      else c :: doubleQuotes quote cs

/-- Reads two quotes as one, up to the first quote that stands alone; what follows that quote is
the rest. -/
def undoubleQuotes? (quote : Char) : List Char → Option (List Char × List Char)
  | [] => none
  | [c] => if c = quote then some ([], []) else none
  | c :: d :: cs =>
    if c = quote then
      if d = quote then (undoubleQuotes? quote cs).map fun r => (quote :: r.1, r.2)
      else some ([], d :: cs)
    else
      (undoubleQuotes? quote (d :: cs)).map fun r => (c :: r.1, r.2)

/-- The text between two quotes. -/
def quoted (quote : Char) (s : String) : String :=
  String.ofList (quote :: doubleQuotes quote s.toList ++ [quote])

@[simp] theorem doubleQuotes_nil (quote : Char) : doubleQuotes quote [] = [] := rfl

theorem doubleQuotes_append (quote : Char) (as bs : List Char) :
    doubleQuotes quote (as ++ bs) = doubleQuotes quote as ++ doubleQuotes quote bs := by
  induction as with
  | nil => rfl
  | cons c as ih => by_cases h : c = quote <;> simp [doubleQuotes, h, ih]

/-- What is read back is the text itself, if no further quote follows the closing one. -/
theorem undoubleQuotes?_doubleQuotes {quote : Char} (cs : List Char) {rest : List Char}
    (h : rest.head? ≠ some quote) :
    undoubleQuotes? quote (doubleQuotes quote cs ++ quote :: rest) = some (cs, rest) := by
  induction cs with
  | nil =>
    cases rest with
    | nil => simp [undoubleQuotes?]
    | cons d rest =>
      have hd : d ≠ quote := by simpa using h
      simp [undoubleQuotes?, hd]
  | cons c cs ih =>
    by_cases hc : c = quote
    · subst hc
      simp [doubleQuotes, undoubleQuotes?, ih]
    · obtain ⟨d, tail, hd⟩ : ∃ d tail, doubleQuotes quote cs ++ quote :: rest = d :: tail := by
        cases doubleQuotes quote cs with
        | nil => exact ⟨quote, rest, rfl⟩
        | cons d tail => exact ⟨d, tail ++ quote :: rest, rfl⟩
      rw [doubleQuotes, if_neg hc, List.cons_append, hd, undoubleQuotes?, if_neg hc, ← hd, ih]
      rfl

@[simp] theorem toList_quoted (quote : Char) (s : String) :
    (quoted quote s).toList = quote :: doubleQuotes quote s.toList ++ [quote] :=
  String.toList_ofList

end EntitySchema.Text
