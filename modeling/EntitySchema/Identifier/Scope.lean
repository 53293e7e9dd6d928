import EntitySchema.NameMap

/-!
# Scopes of identifiers

Within a scope (the columns of a table, the tables of a schema, the functions of a schema) an
identifier belongs to the meaning that claimed it first, and no other meaning can claim it.
-/

namespace EntitySchema

namespace Identifier

/-- Two meanings that have the same identifier in one scope. -/
structure Collision where
  scope : String
  identifier : String
  first : String
  second : String
deriving Repr, DecidableEq

/-- The identifiers claimed so far, each with the meaning that claimed it. -/
structure Scope where
  label : String
  owners : NameMap String

namespace Scope

def named (label : String) : Scope := ⟨label, ∅⟩

/-- Claims `identifier` for `meaning`; to claim it again for the same meaning changes nothing. -/
def claim (scope : Scope) (meaning identifier : String) : Except Collision Scope :=
  match scope.owners.get? identifier with
  | none => .ok { scope with owners := scope.owners.insert identifier meaning }
  | some owner =>
    if owner = meaning then .ok scope
    else .error ⟨scope.label, identifier, owner, meaning⟩

/-- Claims one identifier after another, up to the first that collides. -/
def claimAll (scope : Scope) : List (String × String) → Except Collision Scope
  | [] => .ok scope
  | (meaning, identifier) :: claims =>
    match scope.claim meaning identifier with
    | .ok scope => scope.claimAll claims
    | .error collision => .error collision

def size (scope : Scope) : Nat := scope.owners.size

theorem claim_eq_ok_iff {scope after : Scope} {meaning identifier : String} :
    scope.claim meaning identifier = .ok after ↔
      scope.owners.get? identifier = none ∧
          after = { scope with owners := scope.owners.insert identifier meaning } ∨
        scope.owners.get? identifier = some meaning ∧ after = scope := by
  unfold claim
  split
  next h => simp [h, eq_comm]
  next owner h =>
    by_cases ho : owner = meaning
    · simp [h, ho, eq_comm]
    · simp [h, ho]

theorem claim_eq_error_iff {scope : Scope} {meaning identifier : String} {collision : Collision} :
    scope.claim meaning identifier = .error collision ↔
      ∃ owner, scope.owners.get? identifier = some owner ∧ owner ≠ meaning ∧
        collision = ⟨scope.label, identifier, owner, meaning⟩ := by
  unfold claim
  split
  next h => simp [h]
  next owner h =>
    by_cases ho : owner = meaning
    · simp [h, ho]
    · simp [h, ho, @eq_comm _ collision]

@[simp] theorem claimAll_nil (scope : Scope) : scope.claimAll [] = .ok scope := rfl

end Scope

end Identifier

end EntitySchema
