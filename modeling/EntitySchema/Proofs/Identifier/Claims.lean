import EntitySchema.Identifier.Scope

/-!
# Runs of claims

A run of claims succeeds exactly when no identifier is claimed for two meanings, whichever claims
stand between the two. The scope itself enters only through what it owned before.
-/

namespace EntitySchema

namespace Identifier.Scope

variable {scope after : Scope} {claims : List (String × String)}

/-- Two claims that can stand in one scope. -/
def Agree (a b : String × String) : Prop := a.2 = b.2 → a.1 = b.1

theorem get?_owners_claim {meaning identifier : String}
    (h : scope.claim meaning identifier = .ok after) (other : String) :
    after.owners.get? other =
      if identifier = other then some meaning else scope.owners.get? other := by
  rcases claim_eq_ok_iff.1 h with ⟨-, rfl⟩ | ⟨howner, rfl⟩
  · exact scope.owners.get?_insert identifier other meaning
  · split
    next heq => exact heq ▸ howner
    · rfl

theorem exists_claim_eq_ok_iff {meaning identifier : String} :
    (∃ after, scope.claim meaning identifier = .ok after) ↔
      ∀ owner, scope.owners.get? identifier = some owner → owner = meaning := by
  simp only [claim_eq_ok_iff]
  cases scope.owners.get? identifier with
  | none => simp
  | some owner => simp

theorem claimAll_cons_eq_ok_iff {claim : String × String} :
    scope.claimAll (claim :: claims) = .ok after ↔
      ∃ next, scope.claim claim.1 claim.2 = .ok next ∧ next.claimAll claims = .ok after := by
  rw [claimAll]
  cases scope.claim claim.1 claim.2 with
  | error collision => simp
  | ok next => simp

theorem claimAll_append_eq_ok_iff {more : List (String × String)} :
    scope.claimAll (claims ++ more) = .ok after ↔
      ∃ next, scope.claimAll claims = .ok next ∧ next.claimAll more = .ok after := by
  induction claims generalizing scope with
  | nil => simp
  | cons claim claims ih =>
      simp only [List.cons_append, claimAll_cons_eq_ok_iff, ih]
      constructor
      · rintro ⟨first, hfirst, next, hnext, hmore⟩
        exact ⟨next, ⟨first, hfirst, hnext⟩, hmore⟩
      · rintro ⟨next, ⟨first, hfirst, hnext⟩, hmore⟩
        exact ⟨first, hfirst, next, hnext, hmore⟩

theorem exists_claimAll_eq_ok_iff :
    (∃ after, scope.claimAll claims = .ok after) ↔
      (∀ claim ∈ claims, ∀ owner, scope.owners.get? claim.2 = some owner → owner = claim.1) ∧
        claims.Pairwise Agree := by
  induction claims generalizing scope with
  | nil => simp
  | cons claim claims ih =>
      have hstep : (∃ after, scope.claimAll (claim :: claims) = .ok after) ↔
          ∃ next, scope.claim claim.1 claim.2 = .ok next ∧
            ∃ after, next.claimAll claims = .ok after := by
        simp only [claimAll_cons_eq_ok_iff]
        constructor
        · rintro ⟨after, next, hnext, hafter⟩
          exact ⟨next, hnext, after, hafter⟩
        · rintro ⟨next, hnext, after, hafter⟩
          exact ⟨after, next, hnext, hafter⟩
      rw [hstep, List.forall_mem_cons, List.pairwise_cons]
      constructor
      · rintro ⟨next, hnext, hrest⟩
        obtain ⟨howned, hagree⟩ := ih.1 hrest
        -- The next scope owns what this one did and the claimed identifier, so that the condition on
        -- it says both what earlier owners and what the first claim ask of the rest.
        refine ⟨⟨exists_claim_eq_ok_iff.1 ⟨next, hnext⟩, ?_⟩, ?_, hagree⟩
        · intro other hother owner howner
          have hget := get?_owners_claim hnext other.2
          by_cases heq : claim.2 = other.2
          · rw [if_pos heq] at hget
            have hmeaning := howned other hother claim.1 hget
            exact (exists_claim_eq_ok_iff.1 ⟨next, hnext⟩ owner (heq ▸ howner)).trans hmeaning
          · rw [if_neg heq] at hget
            exact howned other hother owner (hget.trans howner)
        · intro other hother heq
          apply howned other hother
          rw [get?_owners_claim hnext, if_pos heq]
      · rintro ⟨⟨hfirst, howned⟩, hagree, hrest⟩
        obtain ⟨next, hnext⟩ := exists_claim_eq_ok_iff.2 hfirst
        refine ⟨next, hnext, ih.2 ⟨?_, hrest⟩⟩
        intro other hother owner howner
        rw [get?_owners_claim hnext] at howner
        split at howner
        next heq => exact (Option.some.inj howner).symm.trans (hagree other hother heq)
        · exact howned other hother owner howner

/-- In a new scope the claims only have to agree with each other. -/
theorem exists_claimAll_named_eq_ok_iff (label : String) :
    (∃ after, (named label).claimAll claims = .ok after) ↔ claims.Pairwise Agree := by
  rw [exists_claimAll_eq_ok_iff]
  simp [named]

/-- Where a run of claims succeeds, an identifier is taken twice only for one meaning claimed
twice. -/
theorem nodup_identifiers_iff (h : claims.Pairwise Agree) :
    (claims.map Prod.snd).Nodup ↔ claims.Pairwise fun a b => a.2 = b.2 → a.1 ≠ b.1 := by
  rw [List.nodup_iff_pairwise_ne, List.pairwise_map]
  constructor
  · intro hne
    exact hne.imp fun hab heq => absurd heq hab
  · intro hne
    exact (h.and hne).imp fun ⟨hagree, hdiffer⟩ heq => hdiffer heq (hagree heq)

theorem agree_of_nodup (h : (claims.map Prod.snd).Nodup) : claims.Pairwise Agree := by
  rw [List.nodup_iff_pairwise_ne, List.pairwise_map] at h
  exact h.imp fun hne heq => absurd heq hne

end Identifier.Scope

end EntitySchema
