import EntitySchema.Json.Printer

/-!
# Strings between quotes

A printed string is read back up to its closing quote, and its parts denote the text that was printed.
-/

namespace EntitySchema.Json

open Token (partsAfter unit? hexDigit?)

/-- The part of a string that a printed character is read as. -/
def printedPart (c : Char) : StringPart :=
  if c ∈ ['\x08', '\t', '\n', '\x0c', '\r'] then .char c
  else if c.toNat < 0x20 then .unit c.toNat
  else .char c

theorem hexDigit?_hexDigit : ∀ n < 16, hexDigit? (hexDigit n) = some n := by decide

theorem unit?_of_lt {n : Nat} (h : n < 0x20) :
    unit? '0' '0' (hexDigit (n / 16)) (hexDigit (n % 16)) = some n := by
  have hzero : hexDigit? '0' = some 0 := by decide
  rw [unit?, hzero, hexDigit?_hexDigit _ (by omega), hexDigit?_hexDigit _ (by omega)]
  simp only [Option.bind_eq_bind, Option.bind_some, Option.pure_def, Option.some.injEq]
  omega

theorem partsAfter_cons {c : Char} (hquote : c ≠ '"') (hbackslash : c ≠ '\\')
    (hcontrol : ¬c.toNat < 0x20) (before : List StringPart) (cs : List Char) :
    partsAfter before (c :: cs) = partsAfter (.char c :: before) cs := by
  have hplain : ¬(c.toNat < 0x20 ∨ c = '\\') := not_or.2 ⟨hcontrol, hbackslash⟩
  rw [partsAfter, if_neg hplain]
  all_goals simp_all

theorem partsAfter_escapeChar (before : List StringPart) (c : Char) (cs : List Char) :
    partsAfter before (escapeChar c ++ cs) = partsAfter (printedPart c :: before) cs := by
  unfold escapeChar
  split
  next h => subst h; rfl
  split
  next h => subst h; rfl
  split
  next h => subst h; rfl
  split
  next h => subst h; rfl
  split
  next h => subst h; rfl
  split
  next h => subst h; rfl
  split
  next h => subst h; rfl
  split
  next hquote hbackslash hback htab hline hform hreturn hcontrol =>
    have hpart : printedPart c = .unit c.toNat := by
      simp [printedPart, hback, htab, hline, hform, hreturn, hcontrol]
    rw [List.cons_append, List.cons_append, List.cons_append, List.cons_append, List.cons_append,
      List.cons_append, List.nil_append, partsAfter, unit?_of_lt hcontrol, hpart]
  next hquote hbackslash hback htab hline hform hreturn hcontrol =>
    have hpart : printedPart c = .char c := by simp [printedPart, hcontrol]
    rw [List.cons_append, List.nil_append, hpart, partsAfter_cons hquote hbackslash hcontrol]

theorem partsAfter_printed (before : List StringPart) (text rest : List Char) :
    partsAfter before (text.flatMap escapeChar ++ '"' :: rest) =
      some (before.reverse ++ text.map printedPart, rest) := by
  induction text generalizing before with
  | nil => simp [partsAfter]
  | cons c text ih =>
      rw [List.flatMap_cons, List.append_assoc, partsAfter_escapeChar, ih]
      simp

theorem textAfter_printedPart (before : List Char) (c : Char) (parts : List StringPart) :
    StringPart.textAfter before (printedPart c :: parts) =
      StringPart.textAfter (c :: before) parts := by
  unfold printedPart
  split
  · rfl
  split
  next hcontrol =>
    have hleading : StringPart.isLeading c.toNat = false := by
      simp only [StringPart.isLeading, Bool.and_eq_false_imp, decide_eq_true_eq]
      omega
    have htrailing : StringPart.isTrailing c.toNat = false := by
      simp only [StringPart.isTrailing, Bool.and_eq_false_imp, decide_eq_true_eq]
      omega
    rw [StringPart.textAfter.eq_def]
    simp [hleading, htrailing]
  · rfl

theorem textAfter_printed (before text : List Char) :
    StringPart.textAfter before (text.map printedPart) =
      some (String.ofList (before.reverse ++ text)) := by
  induction text generalizing before with
  | nil => simp [StringPart.textAfter]
  | cons c text ih =>
      rw [List.map_cons, textAfter_printedPart, ih]
      simp

theorem text?_printed (text : List Char) :
    StringPart.text? (text.map printedPart) = some (String.ofList text) :=
  textAfter_printed [] text

theorem next?_stringChars (text : String) (rest : List Char) :
    Token.next? (stringChars text ++ rest) = some (.string (some text), rest) := by
  have hparts := partsAfter_printed [] text.toList rest
  rw [List.reverse_nil, List.nil_append] at hparts
  rw [stringChars, List.append_assoc, List.cons_append, List.cons_append, List.nil_append,
    Token.next?, hparts]
  simp only [Option.map_some, text?_printed, String.ofList_toList]

end EntitySchema.Json
