import EntitySchema.Proofs.NameMap
import EntitySchema.Proofs.Identifier.Claims

/-!
# Claims after failed claims

A scope can go on after a claim that failed, and then every identifier belongs to the meaning of its first
claim, whatever was claimed later. So a scope can be told from the claims alone, and so can the claims that
failed. That none fails does not depend on the order of the claims.
-/

namespace EntitySchema

namespace Identifier.Scope

variable {scope : Scope} {claim : String × String} {claims permuted : List (String × String)}

/-- The claim of an identifier in place, where a failure does not take back what was changed before it. -/
def claimProgram (meaning identifier : String) : EStateM Collision Scope Unit := do
  match (← get).owners.get? identifier with
  | none => modify fun scope => { scope with owners := scope.owners.insert identifier meaning }
  | some owner =>
    if owner ≠ meaning then throw ⟨(← get).label, identifier, owner, meaning⟩

/-- The scope that a claim in place leaves, and the collision if it fails. -/
def attempt (scope : Scope) (claim : String × String) : Scope × Option Collision :=
  match (claimProgram claim.1 claim.2).run scope with
  | .ok _ after => (after, none)
  | .error collision after => (after, some collision)

/-- The scope that claims leave, of which those that fail do not stop the others. -/
def attemptAll (scope : Scope) (claims : List (String × String)) : Scope :=
  claims.foldl (fun scope claim => (scope.attempt claim).1) scope

/-- The scope that claims leave from the beginning. -/
def registered (label : String) (claims : List (String × String)) : Scope :=
  (named label).attemptAll claims

/-- The collisions that are met when claim after claim is attempted. -/
def collisions (scope : Scope) : List (String × String) → List Collision
  | [] => []
  | claim :: claims => (scope.attempt claim).2.toList ++ (scope.attempt claim).1.collisions claims

/-- The meaning for which an identifier is claimed first. -/
def firstMeaning? (claims : List (String × String)) (identifier : String) : Option String :=
  (claims.find? (·.2 = identifier)).map Prod.fst

/-- What can be told of a scope after any claims, of which some may have failed. -/
structure Registers (label : String) (claims : List (String × String)) : Prop where
  performed : ∀ claim, (registered label claims).attempt claim =
    match (registered label claims).claim claim.1 claim.2 with
    | .ok after => (after, none)
    | .error collision => (registered label claims, some collision)
  owner : ∀ identifier,
    (registered label claims).owners.get? identifier = firstMeaning? claims identifier
  kept : ∀ more identifier owner,
    (registered label claims).owners.get? identifier = some owner →
      (registered label (claims ++ more)).owners.get? identifier = some owner
  collides : ∀ claim collision, ((registered label claims).attempt claim).2 = some collision ↔
    ∃ first, firstMeaning? claims claim.2 = some first ∧ first ≠ claim.1 ∧
      collision = ⟨label, claim.2, first, claim.1⟩
  unchanged : ∀ claim, ((registered label claims).attempt claim).2 ≠ none →
    registered label (claims ++ [claim]) = registered label claims
  size : (registered label claims).size = (claims.map Prod.snd).toFinset.card
  succeeds : (named label).collisions claims = [] ↔
    ∀ a ∈ claims, ∀ b ∈ claims, a.2 = b.2 → a.1 = b.1
  unordered : ∀ permuted, claims.Perm permuted →
    ((named label).collisions permuted = [] ↔ (named label).collisions claims = [])
  sameScope : ∀ permuted, claims.Perm permuted → (named label).collisions claims = [] →
    registered label permuted = registered label claims

theorem eq_of_owners_eq {other : Scope} (hlabel : scope.label = other.label)
    (howners : scope.owners = other.owners) : scope = other := by
  cases scope
  cases other
  cases hlabel
  cases howners
  rfl

theorem run_claimProgram (scope : Scope) (meaning identifier : String) :
    (claimProgram meaning identifier).run scope = match scope.claim meaning identifier with
      | .ok after => .ok () after
      | .error collision => .error collision scope := by
  rw [Scope.claim]
  cases howner : scope.owners.get? identifier with
  | none => simp [claimProgram, howner]
  | some owner =>
      by_cases hmeaning : owner = meaning
      · simp [claimProgram, howner, hmeaning]
      · simp [claimProgram, howner, hmeaning]

/-- A claim in place gives the scope that has the identifier, or the scope as it was. -/
theorem attempt_eq (scope : Scope) (claim : String × String) :
    scope.attempt claim = match scope.claim claim.1 claim.2 with
      | .ok after => (after, none)
      | .error collision => (scope, some collision) := by
  rw [attempt, run_claimProgram]
  cases scope.claim claim.1 claim.2 with
  | ok after => rfl
  | error collision => rfl

theorem cases_of_attempt (scope : Scope) (claim : String × String) :
    (∃ after, scope.claim claim.1 claim.2 = .ok after ∧ scope.attempt claim = (after, none)) ∨
      ∃ collision, scope.claim claim.1 claim.2 = .error collision ∧
        scope.attempt claim = (scope, some collision) := by
  rw [attempt_eq]
  cases scope.claim claim.1 claim.2 with
  | ok after => exact .inl ⟨after, rfl, rfl⟩
  | error collision => exact .inr ⟨collision, rfl, rfl⟩

theorem attempt_eq_some_iff {collision : Collision} :
    (scope.attempt claim).2 = some collision ↔
      ∃ owner, scope.owners.get? claim.2 = some owner ∧ owner ≠ claim.1 ∧
        collision = ⟨scope.label, claim.2, owner, claim.1⟩ := by
  rw [← claim_eq_error_iff]
  obtain ⟨after, hclaim, hattempt⟩ | ⟨found, hclaim, hattempt⟩ := scope.cases_of_attempt claim
  · simp [hclaim, hattempt]
  · simp [hclaim, hattempt]

theorem attempt_eq_self (h : (scope.attempt claim).2 ≠ none) : (scope.attempt claim).1 = scope := by
  obtain ⟨after, -, hattempt⟩ | ⟨collision, -, hattempt⟩ := scope.cases_of_attempt claim
  · rw [hattempt] at h
    exact absurd rfl h
  · rw [hattempt]

@[simp] theorem label_attempt (scope : Scope) (claim : String × String) :
    (scope.attempt claim).1.label = scope.label := by
  obtain ⟨after, hclaim, hattempt⟩ | ⟨collision, -, hattempt⟩ := scope.cases_of_attempt claim
  · rw [hattempt]
    rcases claim_eq_ok_iff.1 hclaim with ⟨-, rfl⟩ | ⟨-, rfl⟩
    · rfl
    · rfl
  · rw [hattempt]

/-- What belongs to a meaning stays with it, and the identifier of the claim belongs to some meaning from
then on. -/
theorem get?_owners_attempt (scope : Scope) (claim : String × String) (identifier : String) :
    (scope.attempt claim).1.owners.get? identifier =
      (scope.owners.get? identifier).or (if claim.2 = identifier then some claim.1 else none) := by
  obtain ⟨after, hclaim, hattempt⟩ | ⟨collision, hclaim, hattempt⟩ := scope.cases_of_attempt claim
  · rw [hattempt, get?_owners_claim hclaim]
    split
    next heq =>
      have howner := exists_claim_eq_ok_iff.1 ⟨after, hclaim⟩
      rw [heq] at howner
      cases hget : scope.owners.get? identifier with
      | none => rfl
      | some owner => rw [howner owner hget, Option.some_or]
    next => rw [Option.or_none]
  · obtain ⟨owner, howner, -⟩ := claim_eq_error_iff.1 hclaim
    rw [hattempt]
    split
    next heq => rw [← heq, howner, Option.some_or]
    next => rw [Option.or_none]

theorem firstMeaning?_cons (claim : String × String) (claims : List (String × String))
    (identifier : String) :
    firstMeaning? (claim :: claims) identifier =
      (if claim.2 = identifier then some claim.1 else none).or (firstMeaning? claims identifier) := by
  rw [firstMeaning?, List.find?_cons]
  by_cases heq : claim.2 = identifier
  · simp [heq]
  · simp [heq, firstMeaning?]

theorem attemptAll_cons (scope : Scope) (claim : String × String) (claims : List (String × String)) :
    scope.attemptAll (claim :: claims) = (scope.attempt claim).1.attemptAll claims := rfl

theorem attemptAll_append (scope : Scope) (claims more : List (String × String)) :
    scope.attemptAll (claims ++ more) = (scope.attemptAll claims).attemptAll more :=
  List.foldl_append

@[simp] theorem label_attemptAll (scope : Scope) (claims : List (String × String)) :
    (scope.attemptAll claims).label = scope.label := by
  induction claims generalizing scope with
  | nil => rfl
  | cons claim claims ih => rw [attemptAll_cons, ih, label_attempt]

theorem get?_owners_attemptAll (scope : Scope) (claims : List (String × String))
    (identifier : String) :
    (scope.attemptAll claims).owners.get? identifier =
      (scope.owners.get? identifier).or (firstMeaning? claims identifier) := by
  induction claims generalizing scope with
  | nil => exact (Option.or_none).symm
  | cons claim claims ih =>
      rw [attemptAll_cons, ih, get?_owners_attempt, firstMeaning?_cons, Option.or_assoc]

theorem registered_append (label : String) (claims more : List (String × String)) :
    registered label (claims ++ more) = (registered label claims).attemptAll more :=
  attemptAll_append (named label) claims more

theorem label_registered (label : String) (claims : List (String × String)) :
    (registered label claims).label = label :=
  label_attemptAll (named label) claims

theorem get?_owners_registered (label : String) (claims : List (String × String))
    (identifier : String) :
    (registered label claims).owners.get? identifier = firstMeaning? claims identifier := by
  rw [registered, get?_owners_attemptAll, named, NameMap.get?_empty, Option.none_or]

/-- To stop at the first collision is to attempt all claims as long as there is none. -/
theorem claimAll_eq (scope : Scope) (claims : List (String × String)) :
    scope.claimAll claims = match (scope.collisions claims).head? with
      | none => .ok (scope.attemptAll claims)
      | some collision => .error collision := by
  induction claims generalizing scope with
  | nil => rfl
  | cons claim claims ih =>
      rw [claimAll, collisions, attemptAll_cons]
      obtain ⟨after, hclaim, hattempt⟩ | ⟨collision, hclaim, hattempt⟩ := scope.cases_of_attempt claim
      · simp [hclaim, hattempt, ih]
      · simp [hclaim, hattempt]

theorem collisions_eq_nil_iff (label : String) (claims : List (String × String)) :
    (named label).collisions claims = [] ↔ ∀ a ∈ claims, ∀ b ∈ claims, Agree a b := by
  have hall : (named label).collisions claims = [] ↔
      ∃ after, (named label).claimAll claims = .ok after := by
    rw [claimAll_eq, ← List.head?_eq_none_iff]
    cases ((named label).collisions claims).head? with
    | none => simp
    | some collision => simp
  rw [hall, exists_claimAll_named_eq_ok_iff]
  constructor
  · intro hpairwise
    have hflip : claims.Pairwise (flip Agree) := hpairwise.imp fun hab heq => (hab heq.symm).symm
    exact hpairwise.forall_of_forall_of_flip (fun _ _ _ => rfl) hflip
  · exact List.pairwise_of_forall_mem_list

theorem isSome_firstMeaning?_iff {identifier : String} :
    (firstMeaning? claims identifier).isSome = true ↔ identifier ∈ claims.map Prod.snd := by
  rw [firstMeaning?, Option.isSome_map, List.find?_isSome, List.mem_map]
  simp only [decide_eq_true_eq]

theorem size_registered (label : String) (claims : List (String × String)) :
    (registered label claims).size = (claims.map Prod.snd).toFinset.card := by
  refine NameMap.size_eq_card fun identifier => ?_
  rw [get?_owners_registered, isSome_firstMeaning?_iff]

/-- Where all claims of an identifier agree, any of them tells its meaning. -/
theorem firstMeaning?_eq_some_iff (hagree : ∀ a ∈ claims, ∀ b ∈ claims, Agree a b)
    {identifier meaning : String} :
    firstMeaning? claims identifier = some meaning ↔ (meaning, identifier) ∈ claims := by
  rw [firstMeaning?, Option.map_eq_some_iff]
  constructor
  · rintro ⟨claim, hfind, rfl⟩
    have hidentifier := List.find?_some hfind
    rw [decide_eq_true_eq] at hidentifier
    exact hidentifier ▸ List.mem_of_find?_eq_some hfind
  · intro hmem
    have hsome : (claims.find? (·.2 = identifier)).isSome = true :=
      List.find?_isSome.2 ⟨_, hmem, decide_eq_true rfl⟩
    obtain ⟨first, hfirst⟩ := Option.isSome_iff_exists.1 hsome
    have hidentifier := List.find?_some hfirst
    rw [decide_eq_true_eq] at hidentifier
    exact ⟨first, hfirst, hagree first (List.mem_of_find?_eq_some hfirst) _ hmem hidentifier⟩

theorem registered_eq_of_perm (label : String) (hperm : claims.Perm permuted)
    (hagree : ∀ a ∈ claims, ∀ b ∈ claims, Agree a b) :
    registered label permuted = registered label claims := by
  have hagree' : ∀ a ∈ permuted, ∀ b ∈ permuted, Agree a b :=
    fun a ha b hb => hagree a (hperm.mem_iff.2 ha) b (hperm.mem_iff.2 hb)
  refine eq_of_owners_eq ?_ ?_
  · rw [label_registered, label_registered]
  · ext1 identifier
    rw [get?_owners_registered, get?_owners_registered]
    refine Option.ext fun meaning => ?_
    rw [firstMeaning?_eq_some_iff hagree, firstMeaning?_eq_some_iff hagree', hperm.mem_iff]

theorem registers (label : String) (claims : List (String × String)) : Registers label claims where
  performed claim := attempt_eq _ claim
  owner := get?_owners_registered label claims
  kept more identifier owner howner := by
    rw [registered_append, get?_owners_attemptAll, howner, Option.some_or]
  collides claim collision := by
    rw [attempt_eq_some_iff, get?_owners_registered, label_registered]
  unchanged claim hcollides := by
    rw [registered_append, attemptAll_cons, attempt_eq_self hcollides]
    rfl
  size := size_registered label claims
  succeeds := collisions_eq_nil_iff label claims
  unordered permuted hperm := by
    rw [collisions_eq_nil_iff, collisions_eq_nil_iff]
    simp only [hperm.mem_iff]
  sameScope permuted hperm hnone :=
    registered_eq_of_perm label hperm ((collisions_eq_nil_iff label claims).1 hnone)

end Identifier.Scope

end EntitySchema
