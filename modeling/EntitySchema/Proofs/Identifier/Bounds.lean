import EntitySchema.Identifier.Namer
import EntitySchema.Proofs.Text.Cutting

/-!
# Names within their limit

A name takes at most the bytes that its namer allows. It is given up from the base first, so that the
suffix stays whole as long as there is room for more than the suffix. Put together on bytes, where
cutting can fail, a name comes out the same.
-/

namespace EntitySchema

namespace Identifier

/-- A name put together from the bytes of base and suffix. -/
def nameBytes? (limit : Nat) (base suffix : String) : Option ByteArray :=
  if limit ≤ suffix.utf8ByteSize then Text.cutBytes? limit suffix
  else (Text.cutBytes? (limit - suffix.utf8ByteSize) base).map (· ++ suffix.toByteArray)

/-- The name is what the limit leaves of the base in front of the suffix. -/
structure IsBounded (limit : Nat) (base suffix name : String) : Prop where
  size_le : name.utf8ByteSize ≤ limit
  bytes : nameBytes? limit base suffix = some name.toByteArray
  whole : suffix.utf8ByteSize < limit → ∃ part, name = part ++ suffix ∧
    Text.IsLongest (limit - suffix.utf8ByteSize) base part
  cut : limit ≤ suffix.utf8ByteSize → Text.IsLongest limit suffix name

section Chars

variable {limit : Nat} {suffix : List Char}

theorem boundedChars_of_le (base : List Char) (h : limit ≤ Text.byteLength suffix) :
    boundedChars limit base suffix = Text.takeBytes limit suffix := if_pos h

theorem boundedChars_of_lt (base : List Char) (h : Text.byteLength suffix < limit) :
    boundedChars limit base suffix =
      Text.takeBytes (limit - Text.byteLength suffix) base ++ suffix := if_neg (Nat.not_le.2 h)

end Chars

namespace Namer

/-- Whatever the namer names, it derives a name within its limit from the normal forms. -/
structure Bounds (namer : Namer) : Prop where
  name : ∀ role base parent,
    IsBounded namer.limit ((if parent then parentMark else "") ++ normalize base) role.suffix
      (namer.name role base parent)
  join : ∀ parts,
    IsBounded namer.limit ("_".intercalate (parts.map normalize)) "" (namer.join parts)
  derived : ∀ identifier suffix,
    IsBounded namer.limit (normalize identifier) suffix (namer.derived identifier suffix)

variable (namer : Namer) (base suffix : String)

theorem bounded_of_le (h : namer.limit ≤ suffix.utf8ByteSize) :
    namer.bounded base suffix = String.ofList (Text.takeBytes namer.limit suffix.toList) := by
  rw [← Text.byteLength_toList] at h
  rw [bounded, boundedChars_of_le _ h]

theorem bounded_of_lt (h : suffix.utf8ByteSize < namer.limit) :
    namer.bounded base suffix =
      String.ofList (Text.takeBytes (namer.limit - suffix.utf8ByteSize) base.toList) ++ suffix := by
  rw [← Text.byteLength_toList] at h
  rw [bounded, boundedChars_of_lt _ h, Text.byteLength_toList, String.ofList_append,
    String.ofList_toList]

theorem isBounded : IsBounded namer.limit base suffix (namer.bounded base suffix) where
  size_le := by
    rw [← Text.byteLength_toList]
    exact namer.byteLength_bounded_le base suffix
  bytes := by
    unfold nameBytes?
    split
    next h => rw [Text.cutBytes?_eq, bounded_of_le namer base suffix h]
    next h =>
      rw [Text.cutBytes?_eq, Option.map_some, bounded_of_lt namer base suffix (Nat.not_le.1 h),
        String.toByteArray_append]
  whole h := ⟨_, bounded_of_lt namer base suffix h, Text.isLongest_takeBytes _ base⟩
  cut h := bounded_of_le namer base suffix h ▸ Text.isLongest_takeBytes _ suffix

theorem bounds : namer.Bounds where
  name _ _ _ := namer.isBounded _ _
  join _ := namer.isBounded _ _
  derived _ _ := namer.isBounded _ _

end Namer

end Identifier

end EntitySchema
