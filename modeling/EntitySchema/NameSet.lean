/-!
# Sets of names

A set of names is a strictly increasing list, so two sets with the same members are equal and a set
is listed in the order of its characters' code points.
-/

namespace EntitySchema

/-- A finite set of names, listed in increasing order. -/
structure NameSet where
  toList : List String
  sorted : toList.Pairwise (· < ·)
deriving DecidableEq

namespace NameSet

theorem eq_or_lt_of_not_lt {a b : String} (h : ¬ a < b) : b = a ∨ b < a := by
  by_cases hba : b < a
  · exact .inr hba
  · exact .inl (String.le_antisymm (String.not_lt.1 h) (String.not_lt.1 hba))

/-- Puts `name` at its place in an increasing list. -/
def insertSorted (name : String) : List String → List String
  | [] => [name]
  | first :: rest =>
    if name < first then name :: first :: rest
    else if name = first then first :: rest
    else first :: insertSorted name rest

theorem mem_insertSorted {x name : String} {names : List String} :
    x ∈ insertSorted name names ↔ x = name ∨ x ∈ names := by
  induction names with
  | nil => simp [insertSorted]
  | cons first rest ih =>
    rw [insertSorted]
    split
    · simp
    · split
      · subst name; simp
      · simp only [List.mem_cons, ih]
        constructor
        · rintro (h | h | h) <;> simp [h]
        · rintro (h | h | h) <;> simp [h]

theorem sorted_insertSorted (name : String) {names : List String}
    (h : names.Pairwise (· < ·)) : (insertSorted name names).Pairwise (· < ·) := by
  induction names with
  | nil => simp [insertSorted]
  | cons first rest ih =>
    obtain ⟨hfirst, hrest⟩ := List.pairwise_cons.1 h
    rw [insertSorted]
    split
    next hlt =>
      refine List.pairwise_cons.2 ⟨fun x hx => ?_, h⟩
      rcases List.mem_cons.1 hx with rfl | hx
      · exact hlt
      · exact String.lt_trans hlt (hfirst x hx)
    next hnot =>
      split
      · exact h
      next hne =>
        refine List.pairwise_cons.2 ⟨fun x hx => ?_, ih hrest⟩
        rcases mem_insertSorted.1 hx with rfl | hx
        · exact (eq_or_lt_of_not_lt hnot).resolve_left fun he => hne he.symm
        · exact hfirst x hx

def empty : NameSet := ⟨[], .nil⟩

instance : EmptyCollection NameSet := ⟨empty⟩

instance : Inhabited NameSet := ⟨empty⟩

instance : Membership String NameSet := ⟨fun names name => name ∈ names.toList⟩

instance (name : String) (names : NameSet) : Decidable (name ∈ names) :=
  inferInstanceAs (Decidable (name ∈ names.toList))

def insert (names : NameSet) (name : String) : NameSet :=
  ⟨insertSorted name names.toList, sorted_insertSorted name names.sorted⟩

/-- The set with all names of a list as further members. -/
def insertAll (names : NameSet) (more : List String) : NameSet := more.foldl insert names

/-- The set of the names of a list, in which a name may stand several times. -/
def ofList (names : List String) : NameSet := empty.insertAll names

theorem mem_toList {x : String} {names : NameSet} : x ∈ names.toList ↔ x ∈ names := Iff.rfl

@[simp] theorem not_mem_empty (x : String) : ¬ x ∈ (∅ : NameSet) :=
  fun h => nomatch (show x ∈ ([] : List String) from h)

@[simp] theorem mem_insert {x name : String} {names : NameSet} :
    x ∈ names.insert name ↔ x = name ∨ x ∈ names :=
  mem_insertSorted

@[simp] theorem mem_insertAll {x : String} {names : NameSet} {more : List String} :
    x ∈ names.insertAll more ↔ x ∈ more ∨ x ∈ names := by
  induction more generalizing names with
  | nil => simp [insertAll]
  | cons name more ih =>
    have h := @ih (names.insert name)
    simp only [insertAll, List.foldl_cons] at h ⊢
    rw [h, mem_insert, List.mem_cons, or_left_comm, or_assoc]

@[simp] theorem mem_ofList {x : String} {names : List String} :
    x ∈ ofList names ↔ x ∈ names := by
  rw [ofList, mem_insertAll]
  exact or_iff_left (not_mem_empty x)

/-- Increasing lists with the same members are equal. -/
theorem eq_of_sorted {as bs : List String} (ha : as.Pairwise (· < ·)) (hb : bs.Pairwise (· < ·))
    (h : ∀ x, x ∈ as ↔ x ∈ bs) : as = bs := by
  induction as generalizing bs with
  | nil =>
    cases bs with
    | nil => rfl
    | cons b bs => simpa using h b
  | cons a as ih =>
    cases bs with
    | nil => simpa using h a
    | cons b bs =>
      obtain ⟨ha, has⟩ := List.pairwise_cons.1 ha
      obtain ⟨hb, hbs⟩ := List.pairwise_cons.1 hb
      have hab : a = b := by
        rcases List.mem_cons.1 ((h a).1 List.mem_cons_self) with he | hm
        · exact he
        rcases List.mem_cons.1 ((h b).2 List.mem_cons_self) with he | hm'
        · exact he.symm
        · exact absurd (hb a hm) (String.lt_asymm (ha b hm'))
      subst hab
      congr 1
      refine ih has hbs fun x => ?_
      have hx := h x
      simp only [List.mem_cons] at hx
      constructor
      · intro hm
        rcases hx.1 (.inr hm) with rfl | hm'
        · exact absurd (ha _ hm) (String.lt_irrefl _)
        · exact hm'
      · intro hm
        rcases hx.2 (.inr hm) with rfl | hm'
        · exact absurd (hb _ hm) (String.lt_irrefl _)
        · exact hm'

@[ext] theorem ext {s t : NameSet} (h : ∀ x, x ∈ s ↔ x ∈ t) : s = t := by
  obtain ⟨as, ha⟩ := s
  obtain ⟨bs, hb⟩ := t
  have : as = bs := eq_of_sorted ha hb h
  subst this
  rfl

end NameSet

end EntitySchema
