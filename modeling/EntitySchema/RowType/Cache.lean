import EntitySchema.RowType.Basic
import EntitySchema.NameMap

/-!
# Shared row types

Entities whose columns are all boolean are small tables of flags.  Their row types are made once for
each key, which is written from what the row type is made of, and then shared; any other entity gets
a new row type at every request.  Every row type made has a serial number of its own, by which shared
ones are recognised.
-/

namespace EntitySchema

open Identifier (Namer)

/-- A row type together with the number under which it was made. -/
structure SharedRowType where
  serial : Nat
  rowType : RowType
deriving Repr, DecidableEq

/-- The row types that are shared, by key, and the serial number that comes next. -/
structure RowTypeCache where
  shared : NameMap SharedRowType
  nextSerial : Nat

namespace RowTypeCache

def empty : RowTypeCache := ⟨∅, 0⟩

instance : EmptyCollection RowTypeCache := ⟨empty⟩

/-- Whether every column of the entity is tagged boolean, as is the case without columns. -/
def isBooleanOnly (entity : Entity) : Bool :=
  entity.columns.all (·.tag? = some .boolean)

/-- What a column contributes to the key. -/
def columnKey (column : Column) : String :=
  "|" ++ column.name ++ ":" ++ column.type ++ ":" ++ (if column.required then "true" else "false")
    ++ ":" ++ column.annotation

/-- The key under which the row type of the entity is shared. -/
def key (namer : Namer) (entity : Entity) : String :=
  entity.name ++ "|" ++ Nat.repr namer.limit ++ String.join (entity.columns.map columnKey)

/-- Makes the row type of the entity under the next serial number. -/
def make (cache : RowTypeCache) (namer : Namer) (entity : Entity) :
    Except UnsupportedTag SharedRowType × RowTypeCache :=
  match RowType.ofEntity namer entity with
  | .ok rowType => (.ok ⟨cache.nextSerial, rowType⟩, { cache with nextSerial := cache.nextSerial + 1 })
  | .error fault => (.error fault, cache)

/-- The row type of the entity, shared if all columns are boolean. -/
def request (cache : RowTypeCache) (namer : Namer) (entity : Entity) :
    Except UnsupportedTag SharedRowType × RowTypeCache :=
  if isBooleanOnly entity then
    match cache.shared.get? (key namer entity) with
    | some found => (.ok found, cache)
    | none =>
      match cache.make namer entity with
      | (.ok made, after) =>
        (.ok made, { after with shared := after.shared.insert (key namer entity) made })
      | (.error fault, after) => (.error fault, after)
  else
    cache.make namer entity

def clear (cache : RowTypeCache) : RowTypeCache := { cache with shared := ∅ }

def size (cache : RowTypeCache) : Nat := cache.shared.size

theorem isBooleanOnly_iff {entity : Entity} :
    isBooleanOnly entity = true ↔ ∀ column ∈ entity.columns, column.tag? = some .boolean := by
  simp [isBooleanOnly]

theorem request_of_not_isBooleanOnly {entity : Entity} (h : isBooleanOnly entity = false)
    (cache : RowTypeCache) (namer : Namer) :
    cache.request namer entity = cache.make namer entity := by
  simp [request, h]

@[simp] theorem shared_make (cache : RowTypeCache) (namer : Namer) (entity : Entity) :
    (cache.make namer entity).2.shared = cache.shared := by
  unfold make
  split <;> rfl

end RowTypeCache

end EntitySchema
