import EntitySchema.ExternalId.Derivation
import EntitySchema.Proofs.Identifier.NormalForm

/-!
# Dollar signs in identifiers

A dollar sign is a separator, and no identifier has a separator in it.
-/

namespace EntitySchema

namespace Identifier.Namer

theorem dollar_notMem_name (namer : Namer) (role : Role) (base : String) (parent : Bool) :
    '$' ∉ (namer.name role base parent).toList := by
  intro hmem
  have hsettled := (namer.isNormal_name role base parent).settled '$' hmem
  exact absurd hsettled.2 (by decide)

end Identifier.Namer

namespace ExternalId.Derivation

open Identifier (Namer)

variable {namer : Namer} {entity : Entity}

theorem dollar_notMem_of_mem_sourceIdentifiers {sources identifiers : List String}
    (h : sourceIdentifiers namer entity sources = .ok identifiers) :
    ∀ source ∈ identifiers, '$' ∉ source.toList := by
  induction sources generalizing identifiers with
  | nil =>
      cases h
      intro source hsource
      cases hsource
  | cons source sources ih =>
      rw [sourceIdentifiers] at h
      split at h
      · cases h
      · split at h
        next rest hrest =>
          cases h
          intro other hother
          rcases List.mem_cons.1 hother with rfl | hother
          · exact namer.dollar_notMem_name .column source false
          · exact ih hrest other hother
        · cases h

/-- The columns that an external id is derived from have no dollar sign in their names. -/
theorem dollar_notMem_of_mem_sources {derivation : Derivation}
    (h : ofEntity namer entity = .ok (some derivation)) :
    ∀ source ∈ derivation.sources, '$' ∉ source.toList := by
  unfold ofEntity at h
  split at h
  next identifiers hidentifiers =>
    rw [sources_of_ofSources? (Except.ok.inj h)]
    exact dollar_notMem_of_mem_sourceIdentifiers hidentifiers
  · cases h

end ExternalId.Derivation

end EntitySchema
