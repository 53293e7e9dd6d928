import EntitySchema.NameSet

/-!
# Maps with names as keys

A map is a list of entries with strictly increasing keys, so two maps with the same look-ups are
equal and a map is listed in the order of its keys.
-/

namespace EntitySchema

/-- A finite map from names to values, listed by increasing name. -/
structure NameMap (α : Type) where
  entries : List (String × α)
  sorted : entries.Pairwise (·.1 < ·.1)

namespace NameMap

variable {α β : Type}

instance [DecidableEq α] : DecidableEq (NameMap α) := fun s t =>
  if h : s.entries = t.entries then
    isTrue (by cases s; cases t; cases h; rfl)
  else
    isFalse fun he => h (he ▸ rfl)

/-- Puts an entry at its place in an increasing list, instead of an entry with the same key. -/
def insertSorted (name : String) (value : α) : List (String × α) → List (String × α)
  | [] => [(name, value)]
  | first :: rest =>
    if name < first.1 then (name, value) :: first :: rest
    else if name = first.1 then (name, value) :: rest
    else first :: insertSorted name value rest

theorem mem_insertSorted {x : String × α} {name : String} {value : α}
    {entries : List (String × α)} :
    x ∈ insertSorted name value entries → x = (name, value) ∨ x ∈ entries := by
  induction entries with
  | nil => simp [insertSorted]
  | cons first rest ih =>
    rw [insertSorted]
    split
    · simp
    · split
      · intro h
        exact (List.mem_cons.1 h).imp_right (List.mem_cons_of_mem _)
      · intro h
        rcases List.mem_cons.1 h with h | h
        · exact .inr (h ▸ List.mem_cons_self)
        · exact (ih h).imp_right (List.mem_cons_of_mem _)

theorem sorted_insertSorted (name : String) (value : α) {entries : List (String × α)}
    (h : entries.Pairwise (·.1 < ·.1)) :
    (insertSorted name value entries).Pairwise (·.1 < ·.1) := by
  induction entries with
  | nil => simp [insertSorted]
  | cons first rest ih =>
    obtain ⟨hfirst, hrest⟩ := List.pairwise_cons.1 h
    rw [insertSorted]
    split
    next hlt =>
      refine List.pairwise_cons.2 ⟨fun x hx => ?_, h⟩
      rcases List.mem_cons.1 hx with rfl | hx
      · exact hlt
      · exact String.lt_trans hlt (hfirst x hx)
    next hnot =>
      split
      next heq => exact List.pairwise_cons.2 ⟨fun x hx => heq ▸ hfirst x hx, hrest⟩
      next hne =>
        refine List.pairwise_cons.2 ⟨fun x hx => ?_, ih hrest⟩
        rcases mem_insertSorted hx with rfl | hx
        · exact (NameSet.eq_or_lt_of_not_lt hnot).resolve_left fun he => hne he.symm
        · exact hfirst x hx

/-- The value of the first entry with the key `name`. -/
def lookup? (name : String) : List (String × α) → Option α
  | [] => none
  | first :: rest => if first.1 = name then some first.2 else lookup? name rest

def empty : NameMap α := ⟨[], .nil⟩

instance : EmptyCollection (NameMap α) := ⟨empty⟩

instance : Inhabited (NameMap α) := ⟨empty⟩

def get? (map : NameMap α) (name : String) : Option α := lookup? name map.entries

def contains (map : NameMap α) (name : String) : Bool := (map.get? name).isSome

def keys (map : NameMap α) : List String := map.entries.map (·.1)

def values (map : NameMap α) : List α := map.entries.map (·.2)

def size (map : NameMap α) : Nat := map.entries.length

/-- The map in which `name` has the given value, whatever it had before. -/
def insert (map : NameMap α) (name : String) (value : α) : NameMap α :=
  ⟨insertSorted name value map.entries, sorted_insertSorted name value map.sorted⟩

/-- The map without a value at `name`. -/
def erase (map : NameMap α) (name : String) : NameMap α :=
  ⟨map.entries.filter (·.1 != name), map.sorted.filter _⟩

/-- The map in which `f` has been applied to every value, under its name. -/
def mapValues (f : String → α → β) (map : NameMap α) : NameMap β :=
  ⟨map.entries.map fun e => (e.1, f e.1 e.2), map.sorted.map _ fun _ _ h => h⟩

/-- The map in which `f` has been applied to the value at `name`, if there is one. -/
def modify (map : NameMap α) (name : String) (f : α → α) : NameMap α :=
  match map.get? name with
  | some value => map.insert name (f value)
  | none => map

/-- The map of a list of entries, in which the last entry of a name counts. -/
def ofList (entries : List (String × α)) : NameMap α :=
  entries.foldl (fun map e => map.insert e.1 e.2) empty

theorem lookup?_insertSorted_self (name : String) (value : α) (entries : List (String × α)) :
    lookup? name (insertSorted name value entries) = some value := by
  induction entries with
  | nil => simp [insertSorted, lookup?]
  | cons first rest ih =>
    rw [insertSorted]
    split
    · simp [lookup?]
    · split
      · simp [lookup?]
      next hne => simp [lookup?, Ne.symm hne, ih]

theorem lookup?_insertSorted_ne {name other : String} (h : name ≠ other) (value : α)
    (entries : List (String × α)) :
    lookup? other (insertSorted name value entries) = lookup? other entries := by
  induction entries with
  | nil => simp [insertSorted, lookup?, h]
  | cons first rest ih =>
    rw [insertSorted]
    split
    · simp [lookup?, h]
    · split
      next heq => simp [lookup?, h, ← heq]
      · simp [lookup?, ih]

@[simp] theorem get?_empty (name : String) : (∅ : NameMap α).get? name = none := rfl

@[simp] theorem get?_insert_self (map : NameMap α) (name : String) (value : α) :
    (map.insert name value).get? name = some value :=
  lookup?_insertSorted_self name value map.entries

theorem get?_insert_ne (map : NameMap α) {name other : String} (h : name ≠ other) (value : α) :
    (map.insert name value).get? other = map.get? other :=
  lookup?_insertSorted_ne h value map.entries

theorem get?_insert (map : NameMap α) (name other : String) (value : α) :
    (map.insert name value).get? other = if name = other then some value else map.get? other := by
  split
  next h => subst h; exact map.get?_insert_self name value
  next h => exact map.get?_insert_ne h value

theorem lookup?_filter_ne {name other : String} (h : name ≠ other) (entries : List (String × α)) :
    lookup? other (entries.filter (·.1 != name)) = lookup? other entries := by
  induction entries with
  | nil => rfl
  | cons first rest ih =>
    by_cases hf : first.1 = name
    · have : first.1 ≠ other := hf ▸ h
      simp [hf, lookup?, ih, h]
    · simp [hf, lookup?, ih]

theorem lookup?_filter_self (name : String) (entries : List (String × α)) :
    lookup? name (entries.filter (·.1 != name)) = none := by
  induction entries with
  | nil => rfl
  | cons first rest ih =>
    by_cases hf : first.1 = name <;> simp [hf, lookup?, ih]

theorem get?_erase (map : NameMap α) (name other : String) :
    (map.erase name).get? other = if name = other then none else map.get? other := by
  split
  next h => subst h; exact lookup?_filter_self name map.entries
  next h => exact lookup?_filter_ne h map.entries

theorem get?_mapValues (f : String → α → β) (map : NameMap α) (name : String) :
    (map.mapValues f).get? name = (map.get? name).map (f name) := by
  obtain ⟨entries, h⟩ := map
  simp only [get?, mapValues]
  clear h
  induction entries with
  | nil => rfl
  | cons first rest ih =>
    by_cases hf : first.1 = name <;> simp [lookup?, hf, ih]

theorem get?_modify (map : NameMap α) (name other : String) (f : α → α) :
    (map.modify name f).get? other =
      if name = other then (map.get? other).map f else map.get? other := by
  unfold modify
  split
  next value h =>
    rw [get?_insert]
    split
    next he => subst he; simp [h]
    · rfl
  next h =>
    split
    next he => subst he; simp [h]
    · rfl

@[simp] theorem keys_mapValues (f : String → α → β) (map : NameMap α) :
    (map.mapValues f).keys = map.keys := by
  simp [keys, mapValues]

theorem lookup?_eq_some {entries : List (String × α)} (h : entries.Pairwise (·.1 < ·.1))
    {name : String} {value : α} :
    lookup? name entries = some value ↔ (name, value) ∈ entries := by
  induction entries with
  | nil => simp [lookup?]
  | cons first rest ih =>
    obtain ⟨hfirst, hrest⟩ := List.pairwise_cons.1 h
    by_cases hf : first.1 = name
    · subst hf
      simp only [lookup?, ↓reduceIte, Option.some.injEq, List.mem_cons]
      constructor
      · rintro rfl; exact .inl rfl
      · rintro (he | hm)
        · exact congrArg Prod.snd he.symm
        · exact absurd (hfirst _ hm) (String.lt_irrefl _)
    · simp only [lookup?, hf, ↓reduceIte, ih hrest, List.mem_cons]
      constructor
      · exact .inr
      · rintro (he | hm)
        · exact absurd (congrArg Prod.fst he).symm hf
        · exact hm

theorem get?_eq_some {map : NameMap α} {name : String} {value : α} :
    map.get? name = some value ↔ (name, value) ∈ map.entries :=
  lookup?_eq_some map.sorted

theorem eq_of_lookup?_eq {as bs : List (String × α)} (ha : as.Pairwise (·.1 < ·.1))
    (hb : bs.Pairwise (·.1 < ·.1)) (h : ∀ name, lookup? name as = lookup? name bs) : as = bs := by
  induction as generalizing bs with
  | nil =>
    cases bs with
    | nil => rfl
    | cons b bs => simpa [lookup?] using h b.1
  | cons a as ih =>
    cases bs with
    | nil => simpa [lookup?] using h a.1
    | cons b bs =>
      have hab : a = b := by
        have h₁ : (a.1, a.2) ∈ b :: bs :=
          (lookup?_eq_some hb).1 (by rw [← h]; simp [lookup?])
        have h₂ : (b.1, b.2) ∈ a :: as :=
          (lookup?_eq_some ha).1 (by rw [h]; simp [lookup?])
        rcases List.mem_cons.1 h₁ with he | hm
        · exact he
        rcases List.mem_cons.1 h₂ with he | hm'
        · exact he.symm
        · exact absurd ((List.pairwise_cons.1 hb).1 _ hm)
            (String.lt_asymm ((List.pairwise_cons.1 ha).1 _ hm'))
      subst hab
      congr 1
      obtain ⟨ha, has⟩ := List.pairwise_cons.1 ha
      obtain ⟨hb, hbs⟩ := List.pairwise_cons.1 hb
      refine ih has hbs fun name => ?_
      have hn := h name
      by_cases he : a.1 = name
      · subst he
        have none_of {l : List (String × α)} (hl : ∀ x ∈ l, a.1 < x.1)
            (hs : l.Pairwise (·.1 < ·.1)) : lookup? a.1 l = none := by
          cases hv : lookup? a.1 l with
          | none => rfl
          | some v => exact absurd (hl _ ((lookup?_eq_some hs).1 hv)) (String.lt_irrefl _)
        rw [none_of ha has, none_of hb hbs]
      · simpa [lookup?, he] using hn

@[ext] theorem ext {s t : NameMap α} (h : ∀ name, s.get? name = t.get? name) : s = t := by
  obtain ⟨as, ha⟩ := s
  obtain ⟨bs, hb⟩ := t
  have : as = bs := eq_of_lookup?_eq ha hb h
  subst this
  rfl

end NameMap

end EntitySchema
