import Mathlib.Data.List.TakeWhile
import EntitySchema.Proofs.Sql.Written

/-!
# Tokens of expressions

An expression as the database reads it: words, quoted names and literals, and marks, with blanks
between them. What a word or a quoted text is followed by must not go on with it, since it would be
read as a part of it.
-/

namespace EntitySchema.Sql

inductive Token where
  | word (text : String)
  | quoted (q : Quoted)
  | dot
  /-- Two colons, in front of the type to convert to. -/
  | cast
  | comma
  | opening
  | closing
deriving DecidableEq

namespace Token

def isWord (c : Char) : Bool := c.isAlphanum || c = '_'

/-- The token that a character is by itself. -/
def ofMark? (c : Char) : Option Token :=
  if c = '.' then some dot
  else if c = ',' then some comma
  else if c = '(' then some opening
  else if c = ')' then some closing
  else none

/-- The token that begins with a character, and what follows the token. -/
def next? (c : Char) (cs : List Char) : Option (Token × List Char) :=
  if isWord c then
    some (word (String.ofList (c :: cs.takeWhile isWord)), cs.dropWhile isWord)
  else
    match Quoted.ofQuote? c with
    | some make =>
      (Text.undoubleQuotes? c cs).map fun r => (quoted (make (String.ofList r.1)), r.2)
    | none =>
      if c = ':' ∧ cs.head? = some ':' then some (cast, cs.tail)
      else (ofMark? c).map fun token => (token, cs)

theorem length_of_next? {c : Char} {cs rest : List Char} {token : Token}
    (h : next? c cs = some (token, rest)) : rest.length ≤ cs.length := by
  unfold next? at h
  split at h
  · obtain ⟨-, rfl⟩ := Prod.mk.inj (Option.some.inj h)
    exact (List.dropWhile_sublist isWord).length_le
  · split at h
    · obtain ⟨⟨text, rest⟩, hread, heq⟩ := Option.map_eq_some_iff.1 h
      obtain ⟨-, rfl⟩ := Prod.mk.inj heq
      exact (length_of_undoubleQuotes? hread).le
    · split at h
      · obtain ⟨-, rfl⟩ := Prod.mk.inj (Option.some.inj h)
        rw [List.length_tail]
        exact Nat.sub_le _ _
      · obtain ⟨token, -, heq⟩ := Option.map_eq_some_iff.1 h
        obtain ⟨-, rfl⟩ := Prod.mk.inj heq
        exact le_rfl

/-- The tokens of a text, if it consists of tokens. -/
def list? : List Char → Option (List Token)
  | [] => some []
  | c :: cs =>
    if c = ' ' then list? cs
    else
      match _hnext : next? c cs with
      | none => none
      | some (token, rest) => (list? rest).map (token :: ·)
termination_by cs => cs.length
decreasing_by
  · simp
  · have hle := length_of_next? _hnext
    simp only [List.length_cons]
    omega

theorem list?_of_next? {c : Char} {cs rest : List Char} {token : Token} (hblank : c ≠ ' ')
    (h : next? c cs = some (token, rest)) : list? (c :: cs) = (list? rest).map (token :: ·) := by
  rw [list?, if_neg hblank]
  split
  next heq => cases heq.symm.trans h
  next found rest' heq =>
    cases heq.symm.trans h
    rfl

theorem list?_blank (cs : List Char) : list? (' ' :: cs) = list? cs := by
  rw [list?, if_pos rfl]

theorem list?_mark {c : Char} (token : Token) (h : ofMark? c = some token) (cs : List Char) :
    list? (c :: cs) = (list? cs).map (token :: ·) := by
  have hmark : c = '.' ∨ c = ',' ∨ c = '(' ∨ c = ')' := by
    by_contra hnot
    simp only [not_or] at hnot
    simp [ofMark?, hnot] at h
  have hnext : next? c cs = some (token, cs) := by
    rcases hmark with rfl | rfl | rfl | rfl <;> cases h <;> rfl
  apply list?_of_next? _ hnext
  rcases hmark with rfl | rfl | rfl | rfl <;> decide

theorem list?_cast (cs : List Char) : list? (':' :: ':' :: cs) = (list? cs).map (cast :: ·) := by
  apply list?_of_next? (by decide)
  rfl

/-- Text that goes on with neither a word nor a quoted text. -/
def Stops (cs : List Char) : Prop := ∀ c, cs.head? = some c → isWord c = false ∧ isUnquoted c = true

theorem stops_nil : Stops [] := by
  intro c h
  cases h

theorem stops_cons {c : Char} (h : isWord c = false ∧ isUnquoted c = true) (cs : List Char) :
    Stops (c :: cs) := by
  rintro d ⟨⟩
  exact h

def IsWord (text : String) : Prop := text ≠ "" ∧ text.toList.all isWord = true

instance (text : String) : Decidable (IsWord text) := inferInstanceAs (Decidable (_ ∧ _))

theorem list?_word {text : String} (h : IsWord text) {cs : List Char} (hcs : Stops cs) :
    list? (text.toList ++ cs) = (list? cs).map (word text :: ·) := by
  obtain ⟨hne, hall⟩ := h
  cases htext : text.toList with
  | nil => exact absurd (String.toList_inj.1 htext) hne
  | cons c rest =>
      rw [htext, List.all_cons, Bool.and_eq_true, List.all_eq_true] at hall
      obtain ⟨hc, hrest⟩ := hall
      have hcs' : cs.takeWhile isWord = [] ∧ cs.dropWhile isWord = cs := by
        cases cs with
        | nil => exact ⟨rfl, rfl⟩
        | cons d ds => simp [(hcs d rfl).1]
      rw [List.cons_append]
      apply list?_of_next?
      · rintro rfl
        cases hc
      · rw [next?, if_pos hc, List.takeWhile_append_of_pos hrest, List.dropWhile_append_of_pos hrest,
          hcs'.1, hcs'.2, List.append_nil, ← htext, String.ofList_toList]

theorem list?_quoted (q : Quoted) {cs : List Char} (hcs : Stops cs) :
    list? (q.text.toList ++ cs) = (list? cs).map (quoted q :: ·) := by
  obtain ⟨make, hmake, hq⟩ := q.ofQuote?_quote
  have hhead : cs.head? ≠ some q.quote := by
    intro heq
    cases (not_isUnquoted_quote q).symm.trans (hcs q.quote heq).2
  have hread := Text.undoubleQuotes?_doubleQuotes q.content.toList hhead
  rw [Quoted.text, Text.toList_quoted, List.cons_append, List.cons_append, List.append_assoc,
    List.singleton_append]
  apply list?_of_next?
  · rcases q.quote_cases with heq | heq <;> rw [heq] <;> decide
  · have hword : isWord q.quote = false := by
      rcases q.quote_cases with heq | heq <;> rw [heq] <;> decide
    simp only [next?, hword, hmake, hread, Option.map_some, String.ofList_toList, hq,
      Bool.false_eq_true, if_false]

end Token

end EntitySchema.Sql
