import Mathlib.Data.List.Infix
import EntitySchema.Proofs.Identifier.Bounds

/-!
# Endings of bounded names

A bounded name ends in its suffix as long as there is room for more than the suffix, and is a
beginning of the suffix otherwise. Two suffixes can therefore tell names apart by themselves, whatever
the names are derived from.
-/

namespace EntitySchema.Identifier

variable {limit least : Nat} {suffix s t : List Char}

theorem suffix_boundedChars (base : List Char) (h : Text.byteLength suffix < limit) :
    suffix <:+ boundedChars limit base suffix := by
  rw [boundedChars_of_lt base h]
  exact List.suffix_append _ suffix

/-- Under no limit from `least` on can a name with the one suffix be a name with the other: neither
while both are whole, nor when both are cut, nor when only the longer one is. -/
structure Diverge (least : Nat) (s t : List Char) : Prop where
  shorter : Text.byteLength t ≤ Text.byteLength s
  whole : ¬ t <:+ s ∧ ¬ s <:+ t
  cut : ∀ n ≤ Text.byteLength t, least ≤ n → Text.takeBytes n s ≠ Text.takeBytes n t
  between : ∀ n ≤ Text.byteLength s, Text.byteLength t < n → ¬ t <:+ Text.takeBytes n s

theorem Diverge.boundedChars_ne (h : Diverge least s t) (hlimit : least ≤ limit)
    (base other : List Char) : boundedChars limit base s ≠ boundedChars limit other t := by
  intro heq
  rcases Nat.lt_or_ge (Text.byteLength t) limit with ht | ht
  · have hend : t <:+ boundedChars limit base s := heq ▸ suffix_boundedChars other ht
    rcases Nat.lt_or_ge (Text.byteLength s) limit with hs | hs
    · rcases List.suffix_or_suffix_of_suffix hend (suffix_boundedChars base hs) with hts | hst
      · exact h.whole.1 hts
      · exact h.whole.2 hst
    · rw [boundedChars_of_le base hs] at hend
      exact h.between limit hs ht hend
  · rw [boundedChars_of_le base (ht.trans h.shorter), boundedChars_of_le other ht] at heq
    exact h.cut limit ht hlimit heq

theorem Diverge.derived_ne {s t : String} (h : Diverge least s.toList t.toList) {namer : Namer}
    (hlimit : least ≤ namer.limit) (base other : String) :
    namer.derived base s ≠ namer.derived other t := by
  intro heq
  have hlists := congrArg String.toList heq
  rw [Namer.derived, Namer.derived, Namer.toList_bounded, Namer.toList_bounded] at hlists
  exact h.boundedChars_ne hlimit _ _ hlists

end EntitySchema.Identifier
