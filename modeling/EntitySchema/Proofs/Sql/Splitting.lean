import EntitySchema.Text.Split
import EntitySchema.Text.Quoted

/-!
# Splitting a script

A script is split at the semicolons that stand in code, that is, outside of quoted names and literals,
of bodies between double dollar signs, and of comments. A reader knows at every character what it is
in the middle of.
-/

namespace EntitySchema.Sql

/-- What a reader of a script is in the middle of. -/
inductive Region where
  | code
  /-- In code, behind a dash. -/
  | dash
  /-- In code, behind a dollar sign. -/
  | dollar
  | quoted (quote : Char)
  | body
  /-- In a body, behind a dollar sign. -/
  | bodyDollar
  | comment
deriving DecidableEq

namespace Region

def isCode : Region → Bool
  | code | dash | dollar => true
  | quoted _ | body | bodyDollar | comment => false

/-- The region behind a character of code. -/
def ofCode (c : Char) : Region :=
  if c = '"' ∨ c = '\'' then quoted c
  else if c = '-' then dash
  else if c = '$' then dollar
  else code

/-- The region behind a character. A quote that is written twice ends a quoted region and at once
begins it anew. -/
def next : Region → Char → Region
  | code, c => ofCode c
  | dash, c => if c = '-' then comment else ofCode c
  | dollar, c => if c = '$' then body else ofCode c
  | quoted quote, c => if c = quote then code else quoted quote
  | body, c => if c = '$' then bodyDollar else body
  | bodyDollar, c => if c = '$' then code else body
  | comment, c => if c = '\n' then code else comment

end Region

/-- The pieces of a script between the semicolons that stand in code. -/
def piecesFrom : Region → List Char → List (List Char)
  | _, [] => [[]]
  | region, c :: cs =>
    if region.isCode && c = ';' then [] :: piecesFrom .code cs
    else Text.consToFirst c (piecesFrom (region.next c) cs)

/-- A piece without the white space and the comments that it begins with; `inComment` tells whether a
comment is open. -/
def dropLead : (inComment : Bool) → List Char → List Char
  | _, [] => []
  | true, c :: cs => dropLead (c != '\n') cs
  | false, c :: cs =>
    if c.isWhitespace then dropLead false cs
    else if c = '-' ∧ cs.head? = some '-' then dropLead true cs
    else c :: cs

/-- The statements of a script, and at last what follows the last of them. -/
def split (script : String) : List (List Char) :=
  (piecesFrom .code script.toList).map (dropLead false)

example : split "-- x;\nA ';''' \";\";B $$ ; $$;" =
    ["A ';''' \";\"", "B $$ ; $$", ""].map String.toList := by decide

/-- Text that leads from one region to another without being split. -/
def Passes (region : Region) (cs : List Char) (after : Region) : Prop :=
  ∀ rest, piecesFrom region (cs ++ rest) = cs.foldr Text.consToFirst (piecesFrom after rest)

namespace Passes

variable {region middle after : Region} {c quote : Char} {as bs cs : List Char}

theorem nil (region : Region) : Passes region [] region := fun _ => rfl

theorem cons (hc : (region.isCode && c = ';') = false) (h : Passes (region.next c) cs after) :
    Passes region (c :: cs) after := by
  intro rest
  rw [List.cons_append, piecesFrom, if_neg (by simp [hc]), h rest]
  rfl

theorem append (ha : Passes region as middle) (hb : Passes middle bs after) :
    Passes region (as ++ bs) after := by
  intro rest
  rw [List.append_assoc, ha, hb, List.foldr_append]

theorem foldr_consToFirst (cs piece : List Char) (pieces : List (List Char)) :
    cs.foldr Text.consToFirst (piece :: pieces) = (cs ++ piece) :: pieces := by
  induction cs with
  | nil => rfl
  | cons c cs ih =>
      rw [List.foldr_cons, ih]
      rfl

/-- What is passed as a whole belongs to the first piece. -/
theorem pieces_eq (h : Passes region cs after) (hafter : after.isCode = true) (rest : List Char) :
    piecesFrom region (cs ++ ';' :: rest) = cs :: piecesFrom .code rest := by
  rw [h, piecesFrom, if_pos (by simp [hafter]), foldr_consToFirst, List.append_nil]

/-- A character that is neither a semicolon nor begins anything. -/
theorem plain (h : c ∉ ['"', '\'', '-', '$', ';']) : Passes .code [c] .code := by
  have hcode : Region.next .code c = .code := by
    simp only [List.mem_cons, List.not_mem_nil, or_false, not_or] at h
    simp [Region.next, Region.ofCode, h]
  apply cons
  · have hne : c ≠ ';' := fun heq => h (by simp [heq])
    simp [hne]
  · rw [hcode]
    exact nil _

theorem doubleQuotes (quote : Char) (hquote : quote = '"' ∨ quote = '\'') (cs : List Char) :
    Passes (.quoted quote) (Text.doubleQuotes quote cs) (.quoted quote) := by
  induction cs with
  | nil => exact nil _
  | cons c cs ih =>
      by_cases hc : c = quote
      · -- The first of the two quotes closes the region, and the second one opens it again.
        have hclose : Region.next (.quoted quote) quote = .code := if_pos rfl
        have hreopen : Region.next .code quote = .quoted quote := by
          simp [Region.next, Region.ofCode, hquote]
        rw [Text.doubleQuotes, if_pos hc]
        refine cons rfl (cons ?_ ?_)
        · rw [hclose]
          rcases hquote with rfl | rfl <;> decide
        · rw [hclose, hreopen]
          exact ih
      · rw [Text.doubleQuotes, if_neg hc]
        refine cons rfl ?_
        simpa [Region.next, hc] using ih

/-- Whatever a text between quotes contains, it ends at the closing quote. -/
theorem quoted (quote : Char) (hquote : quote = '"' ∨ quote = '\'') (text : String) :
    Passes .code (Text.quoted quote text).toList .code := by
  have hopen : Region.next .code quote = .quoted quote := by
    simp [Region.next, Region.ofCode, hquote]
  have hclose : Passes (.quoted quote) [quote] .code := by
    refine cons rfl ?_
    rw [Region.next, if_pos rfl]
    exact nil _
  rw [Text.toList_quoted]
  apply cons
  · rcases hquote with rfl | rfl <;> decide
  · rw [hopen]
    exact (doubleQuotes quote hquote text.toList).append hclose

theorem of_next_eq (hregion : region.isCode = false) (h : ∀ c ∈ cs, region.next c = region) :
    Passes region cs region := by
  induction cs with
  | nil => exact nil _
  | cons c cs ih =>
      obtain ⟨hc, hrest⟩ := List.forall_mem_cons.1 h
      apply cons
      · rw [hregion, Bool.false_and]
      · rw [hc]
        exact ih hrest

/-- A body without dollar signs ends where it should. -/
theorem body (h : '$' ∉ cs) :
    Passes .code (['$', '$'] ++ cs ++ ['$', '$']) .code := by
  have hopen : Passes .code ['$', '$'] .body := cons rfl (cons rfl (nil _))
  have hinside : Passes .body cs .body := by
    refine of_next_eq rfl fun c hc => ?_
    have hne : c ≠ '$' := fun heq => h (heq ▸ hc)
    rw [Region.next, if_neg hne]
  have hclose : Passes .body ['$', '$'] .code := cons rfl (cons rfl (nil _))
  exact (hopen.append hinside).append hclose

theorem comment (h : '\n' ∉ cs) : Passes .code (['-', '-'] ++ cs ++ ['\n']) .code := by
  have hopen : Passes .code ['-', '-'] .comment := cons rfl (cons rfl (nil _))
  have hinside : Passes .comment cs .comment := by
    refine of_next_eq rfl fun c hc => ?_
    have hne : c ≠ '\n' := fun heq => h (heq ▸ hc)
    rw [Region.next, if_neg hne]
  have hclose : Passes .comment ['\n'] .code := cons rfl (nil _)
  exact (hopen.append hinside).append hclose

end Passes

end EntitySchema.Sql
