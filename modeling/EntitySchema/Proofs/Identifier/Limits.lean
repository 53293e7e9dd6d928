import EntitySchema.Proofs.Identifier.Bounds

/-!
# Names under a lower limit

A lower limit changes those names only that do not fit in it. Where a name is cut because of a character
of several bytes, it can be shorter than its limit, and then it is the name under the limits in between
too. What is cut does not matter: base or suffix, or under one limit the base and under the other one the
suffix.
-/

namespace EntitySchema

namespace Identifier

variable {low high : Nat} {base suffix : List Char}

theorem boundedChars_eq_of_le (hle : low ≤ high)
    (hfits : Text.byteLength (boundedChars high base suffix) ≤ low) :
    boundedChars low base suffix = boundedChars high base suffix := by
  rcases Nat.lt_or_ge (Text.byteLength suffix) high with hhigh | hhigh
  · rw [boundedChars_of_lt base hhigh, Text.byteLength_append] at hfits
    rw [boundedChars_of_lt base hhigh]
    rcases Nat.lt_or_ge (Text.byteLength suffix) low with hlow | hlow
    · have hpart : Text.takeBytes (low - Text.byteLength suffix) base =
          Text.takeBytes (high - Text.byteLength suffix) base :=
        Text.takeBytes_eq_of_le (by omega) (by omega)
      rw [boundedChars_of_lt base hlow, hpart]
    · -- The name is the suffix alone, although there was room for more.
      have hempty : Text.takeBytes (high - Text.byteLength suffix) base = [] :=
        Text.eq_nil_of_byteLength_eq_zero (by omega)
      rw [boundedChars_of_le base hlow, hempty, Text.takeBytes_eq_self (by omega), List.nil_append]
  · rw [boundedChars_of_le base hhigh] at hfits ⊢
    rw [boundedChars_of_le base (Nat.le_trans hle hhigh), Text.takeBytes_eq_of_le hle hfits]

theorem boundedChars_eq_iff (hle : low ≤ high) :
    boundedChars low base suffix = boundedChars high base suffix ↔
      Text.byteLength (boundedChars high base suffix) ≤ low := by
  constructor
  · intro heq
    rw [← heq]
    exact byteLength_boundedChars_le low base suffix
  · exact boundedChars_eq_of_le hle

namespace Namer

/-- Of the names that one namer gives, the other one keeps those that fit in its limit, and no others. -/
structure NarrowsTo (namer narrow : Namer) : Prop where
  name : ∀ role base parent, narrow.name role base parent = namer.name role base parent ↔
    (namer.name role base parent).utf8ByteSize ≤ narrow.limit
  join : ∀ parts, narrow.join parts = namer.join parts ↔
    (namer.join parts).utf8ByteSize ≤ narrow.limit
  derived : ∀ identifier suffix, narrow.derived identifier suffix = namer.derived identifier suffix ↔
    (namer.derived identifier suffix).utf8ByteSize ≤ narrow.limit

variable {namer narrow : Namer}

theorem bounded_eq_iff (hle : narrow.limit ≤ namer.limit) (base suffix : String) :
    narrow.bounded base suffix = namer.bounded base suffix ↔
      (namer.bounded base suffix).utf8ByteSize ≤ narrow.limit := by
  rw [← String.toList_inj, ← Text.byteLength_toList, toList_bounded, toList_bounded]
  exact boundedChars_eq_iff hle

theorem narrowsTo (hle : narrow.limit ≤ namer.limit) : namer.NarrowsTo narrow where
  name _ _ _ := bounded_eq_iff hle _ _
  join _ := bounded_eq_iff hle _ _
  derived _ _ := bounded_eq_iff hle _ _

/-- Under a limit of four bytes there would be room for a letter in front of the suffix, but not for this
one; under a limit of three the suffix itself is cut, and comes out whole. -/
theorem narrowsTo_accented : 3 ≤ 4 ∧ (⟨4⟩ : Namer).name .primaryKey "École" false = "_id" ∧
    (⟨3⟩ : Namer).name .primaryKey "École" false = "_id" := by
  have hle : (⟨3⟩ : Namer).limit ≤ (⟨4⟩ : Namer).limit := by decide
  have hname : (⟨4⟩ : Namer).name .primaryKey "École" false = "_id" := by decide +kernel
  have hfits : ((⟨4⟩ : Namer).name .primaryKey "École" false).utf8ByteSize ≤ 3 := by
    rw [hname]
    decide
  have hsame := ((narrowsTo hle).name .primaryKey "École" false).2 hfits
  exact ⟨hle, hname, hsame.trans hname⟩

end Namer

end Identifier

end EntitySchema
