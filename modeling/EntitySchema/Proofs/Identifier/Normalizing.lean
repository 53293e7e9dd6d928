import EntitySchema.Proofs.Identifier.NormalForm

/-!
# What normalizing settles

Normalizing takes four steps, and each of them could undo what an earlier one did: lowercase forms come in
when the text is trimmed already, and the underscore in front of a digit comes in last. None of them does,
and a text that needs none of the steps is not changed at all. Apart from the white space around a text,
nothing is lost on the way that could have stayed.
-/

namespace EntitySchema

namespace Identifier

/-- There is nothing to replace in the text, nothing to trim, nothing to put in lowercase and no digit to
guard. -/
structure IsStable (text : String) : Prop where
  noSeparator : ∀ c ∈ ['@', '$', ' ', '.', ',', '-', '/', '\\'], c ∉ text.toList
  startsNoDigit : ∀ c ∈ text.toList.head?, c.isDigit = false
  solidStart : Text.SolidStart text.toList
  solidEnd : Text.SolidEnd text.toList
  lowercase : Text.lowercase text.toList = text.toList

/-- What comes of a text when it is normalized. -/
structure Settles (raw : String) : Prop where
  stable : IsStable (normalize raw)
  again : normalize (normalize raw) = normalize raw
  unchanged : normalize raw = raw ↔ IsStable raw
  kept : ((Text.trim raw.toList).filter fun c => Settled c).Sublist (normalize raw).toList

theorem isStable_iff {text : String} : IsStable text ↔ IsNormalForm text.toList := by
  constructor
  · intro h
    refine ⟨⟨fun c hc => ⟨?_, ?_⟩, h.solidStart, h.startsNoDigit⟩, h.solidEnd⟩
    · rw [← h.lowercase] at hc
      exact Text.isLower_of_mem_lowercaseAfter hc
    · rw [isSeparator, decide_eq_false_iff_not]
      exact fun hseparator => h.noSeparator c hseparator hc
  · intro h
    constructor
    case noSeparator =>
      intro c hseparator hc
      have hsettled := (h.isNormal.settled c hc).2
      rw [isSeparator, decide_eq_false_iff_not] at hsettled
      exact hsettled hseparator
    case startsNoDigit => exact h.isNormal.startsNoDigit
    case solidStart => exact h.isNormal.solidStart
    case solidEnd => exact h.solidEnd
    case lowercase =>
      exact Text.lowercaseAfter_eq_self (fun c hc => (h.isNormal.settled c hc).1) []

theorem isStable_normalize (raw : String) : IsStable (normalize raw) := by
  rw [isStable_iff, toList_normalize]
  exact isNormalForm_normalChars raw.toList

theorem normalize_eq_self_iff_isStable {text : String} : normalize text = text ↔ IsStable text := by
  rw [isStable_iff, ← normalChars_eq_self_iff, ← toList_normalize, String.toList_inj]

section Kept

theorem Settled.lowerBetween_eq {c : Char} (h : Settled c) (before after : List Char) :
    Text.lowerBetween before (replaceSeparator c) after = [c] := by
  obtain ⟨⟨hsigma, hletter⟩, hseparator⟩ := h
  rw [replaceSeparator, if_neg (Bool.eq_false_iff.1 hseparator), Text.lowerBetween, if_neg hsigma,
    hletter]

/-- The induction is on the text that is left, after any that came before it. -/
theorem filter_settled_sublist (before cs : List Char) :
    (cs.filter fun c => Settled c).Sublist
      (Text.lowercaseAfter before (cs.map replaceSeparator)) := by
  induction cs generalizing before with
  | nil => exact List.Sublist.slnil
  | cons c cs ih =>
      rw [List.map_cons, Text.lowercaseAfter_cons, List.filter_cons]
      by_cases hc : Settled c
      · rw [if_pos (decide_eq_true hc), hc.lowerBetween_eq]
        exact (ih _).cons_cons c
      · rw [if_neg (by simpa using hc)]
        exact (ih _).trans (List.sublist_append_right _ _)

theorem sublist_guardDigit (cs : List Char) : cs.Sublist (guardDigit cs) := by
  cases cs with
  | nil => exact List.Sublist.slnil
  | cons c cs =>
      rw [guardDigit]
      split
      · exact List.sublist_cons_self '_' (c :: cs)
      · exact List.Sublist.refl _

end Kept

theorem settles (raw : String) : Settles raw where
  stable := isStable_normalize raw
  again := normalize_eq_self_iff_isStable.2 (isStable_normalize raw)
  unchanged := normalize_eq_self_iff_isStable
  kept := by
    rw [toList_normalize]
    exact (filter_settled_sublist [] _).trans (sublist_guardDigit _)

/-- A point would not end a word, but the underscore that it becomes does. -/
example : normalize " 1.ΟΔΟΣ.Α\t" = "_1_οδος_α" := by decide +kernel

end Identifier

end EntitySchema
