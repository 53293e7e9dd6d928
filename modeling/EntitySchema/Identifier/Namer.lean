import EntitySchema.Identifier.Role
import EntitySchema.Identifier.Normal
import EntitySchema.Text.Bytes

/-!
# Names of bounded length

Every table, column, trigger and function is named by a namer.  A name is the normal form of what it
is derived from, cut so that it fits, with its suffix whole, in the limit of the namer.
-/

namespace EntitySchema

namespace Identifier

/-- The limit that the database sets to identifiers, in bytes. -/
def defaultLimit : Nat := 63

/-- Derives identifiers of at most `limit` bytes. -/
structure Namer where
  limit : Nat := defaultLimit
deriving Repr, DecidableEq

/-- What precedes the name of the owning side of a relation of an entity to itself. -/
def parentMark : String := "parent_"

/-- The base cut so that the suffix fits after it; a suffix that leaves no room for a base is cut
itself and stands alone. -/
def boundedChars (limit : Nat) (base suffix : List Char) : List Char :=
  if limit ≤ Text.byteLength suffix then
    Text.takeBytes limit suffix
  else
    Text.takeBytes (limit - Text.byteLength suffix) base ++ suffix

namespace Namer

/-- A name of at most `limit` bytes from a base and a suffix. -/
def bounded (namer : Namer) (base suffix : String) : String :=
  String.ofList (boundedChars namer.limit base.toList suffix.toList)

/-- The identifier of `base` in a role; `parent` marks the owning side of a relation of an entity to
itself. -/
def name (namer : Namer) (role : Role) (base : String) (parent : Bool) : String :=
  namer.bounded ((if parent then parentMark else "") ++ normalize base) role.suffix

/-- One identifier from several names, with underscores between them. -/
def join (namer : Namer) (parts : List String) : String :=
  namer.bounded ("_".intercalate (parts.map normalize)) ""

/-- An identifier from another one and a fixed suffix. -/
def derived (namer : Namer) (identifier suffix : String) : String :=
  namer.bounded (normalize identifier) suffix

@[simp] theorem toList_bounded (namer : Namer) (base suffix : String) :
    (namer.bounded base suffix).toList = boundedChars namer.limit base.toList suffix.toList :=
  String.toList_ofList

end Namer

theorem byteLength_boundedChars_le (limit : Nat) (base suffix : List Char) :
    Text.byteLength (boundedChars limit base suffix) ≤ limit := by
  unfold boundedChars
  split
  · exact Text.byteLength_takeBytes_le _ _
  next h =>
    have := Text.byteLength_takeBytes_le (limit - Text.byteLength suffix) base
    rw [Text.byteLength_append]
    omega

theorem Namer.byteLength_bounded_le (namer : Namer) (base suffix : String) :
    Text.byteLength (namer.bounded base suffix).toList ≤ namer.limit := by
  rw [toList_bounded]
  exact byteLength_boundedChars_le namer.limit base.toList suffix.toList

end Identifier

end EntitySchema
