import Mathlib.Data.Finset.Card
import EntitySchema.NameMap

/-!
# Keys of maps

A map has an entry for each name that can be looked up in it, and for no others. So it can be counted by
the names that were put in, however often each of them was.
-/

namespace EntitySchema

namespace NameMap

variable {α : Type} {map : NameMap α} {name : String} {value : α} {entries : List (String × α)}

theorem lookup?_eq_none (h : name ∉ entries.map Prod.fst) : lookup? name entries = none := by
  induction entries with
  | nil => rfl
  | cons first rest ih =>
      rw [List.map_cons, List.mem_cons, not_or] at h
      rw [lookup?, if_neg (Ne.symm h.1), ih h.2]

theorem perm_insertSorted (hnew : lookup? name entries = none) :
    (insertSorted name value entries).Perm ((name, value) :: entries) := by
  induction entries with
  | nil => exact .refl _
  | cons first rest ih =>
      rw [lookup?] at hnew
      split at hnew
      · cases hnew
      next hne =>
        rw [insertSorted, if_neg (Ne.symm hne)]
        split
        · exact .refl _
        · exact ((ih hnew).cons first).trans (.swap _ _ _)

theorem nodup_keys (map : NameMap α) : map.keys.Nodup :=
  (map.sorted.imp fun hlt => String.ne_of_lt hlt).map _ fun _ _ hne => hne

theorem mem_keys_iff : name ∈ map.keys ↔ (map.get? name).isSome := by
  simp only [Option.isSome_iff_exists, get?_eq_some, keys, List.mem_map, Prod.exists]
  constructor
  · rintro ⟨_, value, hmem, rfl⟩
    exact ⟨value, hmem⟩
  · rintro ⟨value, hmem⟩
    exact ⟨name, value, hmem, rfl⟩

/-- The size of a map is the number of the names that can be looked up. -/
theorem size_eq_card {names : List String} (h : ∀ name, (map.get? name).isSome ↔ name ∈ names) :
    map.size = names.toFinset.card := by
  have hkeys : map.keys.toFinset = names.toFinset := by
    ext name
    rw [List.mem_toFinset, List.mem_toFinset, mem_keys_iff, h]
  rw [← hkeys, List.toFinset_card_of_nodup map.nodup_keys]
  exact (List.length_map _).symm

end NameMap

end EntitySchema
