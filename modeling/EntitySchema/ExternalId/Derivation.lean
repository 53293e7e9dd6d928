import EntitySchema.Digest.Sha256
import EntitySchema.Identifier.Namer
import EntitySchema.Model.Entity

/-!
# External ids

The external id of a row is a function of the current values of its source columns: the value of a
single source is copied, the values of several are joined in declared order and hashed.
-/

namespace EntitySchema

namespace ExternalId

open Identifier (Namer)

/-- A source of an external id that is no column of its entity. -/
structure MissingSource where
  entity : String
  column : String
deriving Repr, DecidableEq

/-- How the external id is derived from columns, which are given by their identifiers. -/
inductive Derivation where
  /-- A copy of one column. -/
  | direct (source : String)
  /-- The digest of the values of the columns, joined in order. -/
  | contentHash (sources : List String)
deriving Repr, DecidableEq

/-- The values of the columns of a row, where a column without a value is null. -/
abbrev Row := String → Option String

namespace Derivation

/-- The columns that the external id depends on, in the order in which they are joined. -/
def sources : Derivation → List String
  | direct source => [source]
  | contentHash sources => sources

/-- The values of the columns one after the other, where null counts as no text. -/
def content (row : Row) (sources : List String) : String :=
  String.join (sources.map fun source => (row source).getD "")

/-- The external id of a row, where `digest` hashes text. -/
def valueBy (digest : String → String) (row : Row) : Derivation → Option String
  | direct source => row source
  | contentHash sources => some (digest (content row sources))

def value (derivation : Derivation) (row : Row) : Option String :=
  derivation.valueBy Sha256.hexDigest row

/-- The identifiers of source columns, up to the first that the entity does not declare. -/
def sourceIdentifiers (namer : Namer) (entity : Entity) :
    List String → Except MissingSource (List String)
  | [] => .ok []
  | source :: sources =>
    match entity.column? source with
    | none => .error ⟨entity.name, source⟩
    | some _ =>
      match sourceIdentifiers namer entity sources with
      | .ok identifiers => .ok (namer.name .column source false :: identifiers)
      | .error fault => .error fault

/-- The derivation for a list of source columns; without sources there is no external id. -/
def ofSources? : List String → Option Derivation
  | [] => none
  | [source] => some (direct source)
  | sources => some (contentHash sources)

/-- The derivation of the external ids of an entity, if it has any. -/
def ofEntity (namer : Namer) (entity : Entity) : Except MissingSource (Option Derivation) :=
  match sourceIdentifiers namer entity entity.externalIdSources with
  | .ok identifiers => .ok (ofSources? identifiers)
  | .error fault => .error fault

@[simp] theorem sources_of_ofSources? {identifiers : List String} {derivation : Derivation}
    (h : ofSources? identifiers = some derivation) : derivation.sources = identifiers := by
  match identifiers with
  | [] => simp [ofSources?] at h
  | [source] => cases h; rfl
  | first :: second :: rest => cases h; rfl

end Derivation

end ExternalId

end EntitySchema
