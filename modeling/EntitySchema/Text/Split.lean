/-!
# Splitting text at a delimiter

The pieces of a text between the occurrences of a delimiter, found from the left without overlap.
The empty delimiter occurs before every character and at the end.
-/

namespace EntitySchema.Text

/-- Puts a character in front of the first piece. -/
def consToFirst (c : Char) : List (List Char) → List (List Char)
  | [] => [[c]]
  | piece :: pieces => (c :: piece) :: pieces

/-- The pieces of a text between occurrences of a delimiter that is not empty.  `skip` counts the
characters that still belong to an occurrence found before. -/
def pieces (delimiter : List Char) : (skip : Nat) → List Char → List (List Char)
  | _, [] => [[]]
  | skip + 1, _ :: cs => pieces delimiter skip cs
  | 0, c :: cs =>
    if delimiter.isPrefixOf (c :: cs) then
      [] :: pieces delimiter (delimiter.length - 1) cs
    else
      consToFirst c (pieces delimiter 0 cs)

/-- The pieces of a text between the occurrences of `delimiter`. -/
def splitAt (delimiter cs : List Char) : List (List Char) :=
  if delimiter.isEmpty then [] :: cs.map ([·]) ++ [[]] else pieces delimiter 0 cs

@[simp] theorem consToFirst_ne_nil (c : Char) (ps : List (List Char)) :
    consToFirst c ps ≠ [] := by
  cases ps <;> simp [consToFirst]

theorem pieces_ne_nil (delimiter : List Char) (skip : Nat) (cs : List Char) :
    pieces delimiter skip cs ≠ [] := by
  induction cs generalizing skip with
  | nil => simp [pieces]
  | cons c cs ih =>
    cases skip with
    | zero => rw [pieces]; split <;> simp
    | succ skip => simpa [pieces] using ih skip

theorem splitAt_ne_nil (delimiter cs : List Char) : splitAt delimiter cs ≠ [] := by
  unfold splitAt
  split
  · simp
  · exact pieces_ne_nil delimiter 0 cs

theorem intercalate_consToFirst (delimiter : List Char) (c : Char) {ps : List (List Char)}
    (h : ps ≠ []) :
    delimiter.intercalate (consToFirst c ps) = c :: delimiter.intercalate ps := by
  match ps with
  | [] => exact absurd rfl h
  | [p] => simp [consToFirst]
  | p :: q :: ps => simp [consToFirst]

/-- The pieces with the delimiter between them are the text without the characters skipped. -/
theorem intercalate_pieces {delimiter : List Char} (h : delimiter ≠ []) (skip : Nat)
    (cs : List Char) : delimiter.intercalate (pieces delimiter skip cs) = cs.drop skip := by
  induction cs generalizing skip with
  | nil => simp [pieces]
  | cons c cs ih =>
    cases skip with
    | succ skip => simpa [pieces] using ih skip
    | zero =>
      rw [pieces]
      split
      next hp =>
        obtain ⟨rest, hrest⟩ := List.isPrefixOf_iff_prefix.1 hp
        have hi := ih (delimiter.length - 1)
        have hdrop : cs.drop (delimiter.length - 1) = rest := by
          match delimiter, h, hrest with
          | d :: ds, _, hrest =>
            obtain ⟨-, rfl⟩ := List.cons.inj hrest
            simp
        rw [hdrop] at hi
        match pieces delimiter (delimiter.length - 1) cs, hi,
          pieces_ne_nil delimiter (delimiter.length - 1) cs with
        | p :: ps, hi, _ =>
          rw [List.intercalate_cons_cons, hi, List.nil_append, hrest, List.drop_zero]
      · rw [intercalate_consToFirst delimiter c (pieces_ne_nil delimiter 0 cs), ih 0,
          List.drop_zero, List.drop_zero]

end EntitySchema.Text
