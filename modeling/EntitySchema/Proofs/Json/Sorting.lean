import EntitySchema.Json.Basic
import EntitySchema.Proofs.NameMap
import Mathlib.Data.List.Perm.Basic

/-!
# Members in order

Sorting leaves of the members with one key the last, whose value is sorted too. If no key is repeated,
nothing is lost and only the order changes.
-/

namespace EntitySchema

namespace Json

variable {key : String} {item : Json} {members : List (String × Json)}

/-- A fact about all values holds of a value if it holds of the values of all its members. -/
theorem induction_on_members {P : Json → Prop}
    (h : ∀ json, (∀ members, json = .object members → ∀ member ∈ members, P member.2) → P json) :
    ∀ json, P json
  | json => h json fun _ hobject member hmem => by
      have hsmaller : sizeOf member.2 < sizeOf json := by
        subst hobject
        obtain ⟨key, item⟩ := member
        have hmember := List.sizeOf_lt_of_mem hmem
        rw [Prod.mk.sizeOf_spec] at hmember
        rw [Json.object.sizeOf_spec]
        show sizeOf item < _
        omega
      exact induction_on_members h member.2
  termination_by json => sizeOf json

/-- The last member with the given key. -/
def lastMember? (key : String) : List (String × Json) → Option Json
  | [] => none
  | (other, item) :: members =>
    (lastMember? key members).or (if other = key then some item else none)

theorem mem_of_lastMember? (h : lastMember? key members = some item) : (key, item) ∈ members := by
  induction members with
  | nil => cases h
  | cons member members ih =>
      obtain ⟨other, found⟩ := member
      rw [lastMember?, Option.or_eq_some_iff] at h
      rcases h with h | ⟨-, h⟩
      · exact List.mem_cons_of_mem _ (ih h)
      · split at h
        next heq =>
          cases h
          exact heq ▸ List.mem_cons_self
        · cases h

theorem lastMember?_eq_none (h : key ∉ members.map Prod.fst) : lastMember? key members = none := by
  rw [Option.eq_none_iff_forall_ne_some]
  intro item hitem
  exact h (List.mem_map_of_mem (mem_of_lastMember? hitem))

theorem pairwise_sortedMembers (members : List (String × Json)) :
    (sortedMembers members).Pairwise (·.1 < ·.1) := by
  induction members with
  | nil => exact .nil
  | cons member members ih =>
      rw [sortedMembers]
      split
      · exact ih
      · exact NameMap.sorted_insertSorted _ _ ih

theorem member?_sortedMembers (key : String) (members : List (String × Json)) :
    member? (sortedMembers members) key = (lastMember? key members).map sorted := by
  unfold member?
  induction members with
  | nil => rfl
  | cons member members ih =>
      obtain ⟨other, item⟩ := member
      rw [sortedMembers, lastMember?]
      by_cases heq : other = key
      · subst heq
        cases hlast : lastMember? other members with
        | none =>
            rw [hlast] at ih
            simp [ih, NameMap.lookup?_insertSorted_self]
        | some found =>
            rw [hlast] at ih
            simp [ih]
      · rw [if_neg heq, Option.or_none, ← ih]
        split
        · rfl
        · exact NameMap.lookup?_insertSorted_ne heq _ _

theorem mem_sortedMembers_iff :
    (key, item) ∈ sortedMembers members ↔
      ∃ found, lastMember? key members = some found ∧ found.sorted = item := by
  rw [← NameMap.lookup?_eq_some (pairwise_sortedMembers members), ← Option.map_eq_some_iff,
    ← member?_sortedMembers]
  rfl

mutual

/-- No object in the value has two members with one key. -/
def hasDistinctKeys : Json → Bool
  | array items => itemsHaveDistinctKeys items
  | object members => decide (members.map Prod.fst).Nodup && membersHaveDistinctKeys members
  | _ => true

def itemsHaveDistinctKeys : List Json → Bool
  | [] => true
  | item :: items => hasDistinctKeys item && itemsHaveDistinctKeys items

def membersHaveDistinctKeys : List (String × Json) → Bool
  | [] => true
  | (_, item) :: members => hasDistinctKeys item && membersHaveDistinctKeys members

end

theorem membersHaveDistinctKeys_iff :
    membersHaveDistinctKeys members = true ↔
      ∀ member ∈ members, member.2.hasDistinctKeys = true := by
  induction members with
  | nil => simp [membersHaveDistinctKeys]
  | cons member members ih =>
      rw [membersHaveDistinctKeys, Bool.and_eq_true, ih, List.forall_mem_cons]

theorem hasDistinctKeys_object_iff :
    (object members).hasDistinctKeys = true ↔
      (members.map Prod.fst).Nodup ∧ ∀ member ∈ members, member.2.hasDistinctKeys = true := by
  rw [hasDistinctKeys, Bool.and_eq_true, decide_eq_true_iff, membersHaveDistinctKeys_iff]

theorem lastMember?_eq_member? (hnodup : (members.map Prod.fst).Nodup) (key : String) :
    lastMember? key members = member? members key := by
  unfold member?
  induction members with
  | nil => rfl
  | cons member members ih =>
      obtain ⟨other, item⟩ := member
      obtain ⟨hnew, hnodup⟩ := List.nodup_cons.1 hnodup
      rw [lastMember?, NameMap.lookup?]
      split
      next heq =>
        subst heq
        rw [lastMember?_eq_none hnew, Option.none_or]
      · rw [Option.or_none, ih hnodup]

theorem member?_sortedMembers_of_nodup (hnodup : (members.map Prod.fst).Nodup) (key : String) :
    member? (sortedMembers members) key = (member? members key).map sorted := by
  rw [member?_sortedMembers, lastMember?_eq_member? hnodup]

theorem perm_sortedMembers (hnodup : (members.map Prod.fst).Nodup) :
    (sortedMembers members).Perm (members.map fun member => (member.1, member.2.sorted)) := by
  induction members with
  | nil => exact .refl _
  | cons member members ih =>
      obtain ⟨key, item⟩ := member
      have hrest := ih (List.nodup_cons.1 hnodup).2
      have hnone : NameMap.lookup? key (sortedMembers members) = none := by
        have hnew := member?_sortedMembers key members
        rwa [lastMember?_eq_none (List.nodup_cons.1 hnodup).1] at hnew
      rw [sortedMembers, hnone, List.map_cons]
      exact (NameMap.perm_insertSorted hnone).trans (hrest.cons _)

theorem mem_sortedMembers_of_mem (hnodup : (members.map Prod.fst).Nodup)
    (hmem : (key, item) ∈ members) : (key, item.sorted) ∈ sortedMembers members := by
  rw [(perm_sortedMembers hnodup).mem_iff]
  exact List.mem_map.2 ⟨(key, item), hmem, rfl⟩

/-- What the sorted members are made of is what the members are made of, in another order. -/
theorem perm_flatMap_sortedMembers {α : Type} {f : String × Json → List α}
    (hnodup : (members.map Prod.fst).Nodup)
    (h : ∀ member ∈ members, (f (member.1, member.2.sorted)).Perm (f member)) :
    ((sortedMembers members).flatMap f).Perm (members.flatMap f) := by
  have hmap := (perm_sortedMembers hnodup).flatMap_right f
  rw [List.flatMap_map] at hmap
  exact hmap.trans (.flatMap_left members h)

theorem eq_object_of_asObject? {json : Json} (h : json.asObject? = some members) :
    json = object members := by
  cases json with
  | object found => exact congrArg object (Option.some.inj h)
  | _ => cases h

@[simp] theorem asString?_sorted (json : Json) : json.sorted.asString? = json.asString? := by
  cases json <;> rfl

@[simp] theorem asBool?_sorted (json : Json) : json.sorted.asBool? = json.asBool? := by
  cases json <;> rfl

@[simp] theorem asObject?_sorted (json : Json) :
    json.sorted.asObject? = json.asObject?.map sortedMembers := by
  cases json <;> rfl

end Json

end EntitySchema
