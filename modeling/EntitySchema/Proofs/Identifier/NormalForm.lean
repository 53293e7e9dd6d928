import EntitySchema.Proofs.Text.Lowercase
import EntitySchema.Proofs.Identifier.Bounds

/-!
# Texts in normal form

To be in normal form is a matter of each single character, of the first one and of the last one. What
it asks of the first and of each single one holds in every beginning of the text too, and so it
survives a cut. What it asks of the last one does not.
-/

namespace EntitySchema

namespace Identifier

variable {limit : Nat} {as bs cs base suffix : List Char}

/-- The character stays as it is wherever it stands in a name. -/
def Settled (c : Char) : Prop := Text.IsLower c ∧ isSeparator c = false

instance (c : Char) : Decidable (Settled c) := inferInstanceAs (Decidable (_ ∧ _))

/-- No character is to be replaced, and none to be removed from the front or put there. -/
structure IsNormal (cs : List Char) : Prop where
  settled : ∀ c ∈ cs, Settled c
  solidStart : Text.SolidStart cs
  startsNoDigit : ∀ c ∈ cs.head?, c.isDigit = false

/-- A name that is normal at its end as well. -/
structure IsNormalForm (cs : List Char) : Prop where
  isNormal : IsNormal cs
  solidEnd : Text.SolidEnd cs

instance (cs : List Char) : Decidable (IsNormal cs) :=
  haveI : Decidable (∀ c ∈ cs, Settled c) := List.decidableBAll _ cs
  haveI : Decidable (∀ c ∈ cs.head?, c.isDigit = false) := Option.decidableForallMem cs.head?
  decidable_of_iff ((∀ c ∈ cs, Settled c) ∧ Text.SolidStart cs ∧ ∀ c ∈ cs.head?, c.isDigit = false)
    ⟨fun ⟨hsettled, hstart, hdigit⟩ => ⟨hsettled, hstart, hdigit⟩,
      fun ⟨hsettled, hstart, hdigit⟩ => ⟨hsettled, hstart, hdigit⟩⟩

instance (cs : List Char) : Decidable (IsNormalForm cs) :=
  decidable_of_iff (IsNormal cs ∧ Text.SolidEnd cs)
    ⟨fun ⟨hnormal, hend⟩ => ⟨hnormal, hend⟩, fun ⟨hnormal, hend⟩ => ⟨hnormal, hend⟩⟩

section Closure

theorem isNormalForm_nil : IsNormalForm [] := by decide

theorem IsNormal.beginning (h : IsNormal cs) (has : as <+: cs) : IsNormal as where
  settled c hc := h.settled c (has.subset hc)
  solidStart := h.solidStart.beginning has
  startsNoDigit c hc := by
    obtain ⟨rest, rfl⟩ := has
    cases as with
    | nil => cases hc
    | cons a as => exact h.startsNoDigit c hc

theorem IsNormal.append (has : IsNormal as) (hbs : IsNormal bs) : IsNormal (as ++ bs) := by
  cases as with
  | nil => exact hbs
  | cons a as =>
      exact ⟨List.forall_mem_append.2 ⟨has.settled, hbs.settled⟩, has.solidStart, has.startsNoDigit⟩

theorem IsNormalForm.append (has : IsNormalForm as) (hbs : IsNormalForm bs) :
    IsNormalForm (as ++ bs) :=
  ⟨has.isNormal.append hbs.isNormal, has.solidEnd.append hbs.solidEnd⟩

theorem IsNormalForm.intercalate {parts : List String} (h : ∀ part ∈ parts, IsNormalForm part.toList) :
    IsNormalForm ("_".intercalate parts).toList := by
  induction parts with
  | nil => exact isNormalForm_nil
  | cons part parts ih =>
      obtain ⟨hpart, hparts⟩ := List.forall_mem_cons.1 h
      cases parts with
      | nil => rwa [String.intercalate_singleton]
      | cons next parts =>
          have hunderscore : IsNormalForm "_".toList := by decide +kernel
          rw [String.intercalate_cons_cons, String.toList_append, String.toList_append]
          exact (hpart.append hunderscore).append (ih hparts)

end Closure

theorem settled_underscore : Settled '_' := by decide +kernel

theorem isSeparator_of_letterlike {c : Char} (h : Text.Letterlike c) : isSeparator c = false := by
  have hseparators : ∀ d ∈ ['@', '$', ' ', '.', ',', '-', '/', '\\'], d.toNat ≤ '\\'.toNat := by
    simp only [List.forall_mem_cons, List.not_mem_nil, false_implies, implies_true, and_true]
    decide
  rw [isSeparator, decide_eq_false_iff_not]
  exact fun hmem => Nat.not_le.2 h.1 (hseparators c hmem)

theorem isSeparator_replaceSeparator (c : Char) : isSeparator (replaceSeparator c) = false := by
  unfold replaceSeparator
  split
  · exact settled_underscore.2
  next h => exact Bool.eq_false_iff.2 h

theorem isWhiteSpace_replaceSeparator (c : Char) (h : Text.isWhiteSpace c = false) :
    Text.isWhiteSpace (replaceSeparator c) = false := by
  unfold replaceSeparator
  split
  · decide
  · exact h

theorem map_replaceSeparator_eq_self (h : ∀ c ∈ cs, Settled c) : cs.map replaceSeparator = cs := by
  refine (List.map_congr_left fun c hc => ?_).trans (List.map_id cs)
  rw [replaceSeparator, if_neg (Bool.eq_false_iff.1 (h c hc).2), id]

theorem guardDigit_eq_self (h : ∀ c ∈ cs.head?, c.isDigit = false) : guardDigit cs = cs := by
  cases cs with
  | nil => rfl
  | cons c cs => rw [guardDigit, if_neg (Bool.eq_false_iff.1 (h c rfl))]

theorem isNormalForm_guardDigit (hsettled : ∀ c ∈ cs, Settled c) (hstart : Text.SolidStart cs)
    (hend : Text.SolidEnd cs) : IsNormalForm (guardDigit cs) := by
  cases cs with
  | nil => exact isNormalForm_nil
  | cons c cs =>
      rw [guardDigit]
      split
      next h =>
        refine ⟨⟨List.forall_mem_cons.2 ⟨settled_underscore, hsettled⟩, ?_, ?_⟩, ?_⟩
        · exact fun d hd => by cases hd; decide
        · exact fun d hd => by cases hd; decide
        · exact Text.solidEnd_append_of_ne_nil ['_'] (List.cons_ne_nil c cs) hend
      next h =>
        exact ⟨⟨hsettled, hstart, fun d hd => by cases hd; exact Bool.eq_false_iff.2 h⟩, hend⟩

/-- Whatever text is normalized, the result is in normal form. -/
theorem isNormalForm_normalChars (raw : List Char) : IsNormalForm (normalChars raw) := by
  have hstart := (Text.solidStart_trim raw).map isWhiteSpace_replaceSeparator
  have hend := (Text.solidEnd_trim raw).map isWhiteSpace_replaceSeparator
  refine isNormalForm_guardDigit (fun d hd => ⟨Text.isLower_of_mem_lowercaseAfter hd, ?_⟩)
    hstart.lowercase hend.lowercase
  rcases Text.mem_or_letterlike_of_mem_lowercaseAfter hd with hmem | hletter
  · obtain ⟨c, -, rfl⟩ := List.mem_map.1 hmem
    exact isSeparator_replaceSeparator c
  · exact isSeparator_of_letterlike hletter

/-- Of a name that is normal up to its end, normalizing removes the white space there and nothing
else. -/
theorem normalChars_of_isNormal (h : IsNormal cs) : normalChars cs = Text.trimEnd cs := by
  have hpart : IsNormal (Text.trimEnd cs) := h.beginning (Text.prefix_trimEnd cs)
  have hlower : Text.lowercase (Text.trimEnd cs) = Text.trimEnd cs :=
    Text.lowercaseAfter_eq_self (fun c hc => (hpart.settled c hc).1) []
  rw [normalChars, h.solidStart.trim_eq, map_replaceSeparator_eq_self hpart.settled, hlower,
    guardDigit_eq_self hpart.startsNoDigit]

/-- The texts in normal form are the fixed points of normalizing. -/
theorem normalChars_eq_self_iff : normalChars cs = cs ↔ IsNormalForm cs := by
  refine ⟨fun h => h ▸ isNormalForm_normalChars cs, fun h => ?_⟩
  rw [normalChars_of_isNormal h.isNormal, Text.trimEnd_eq_self_iff.2 h.solidEnd]

theorem isNormal_takeBytes (n : Nat) (h : IsNormal cs) : IsNormal (Text.takeBytes n cs) :=
  h.beginning (Text.prefix_takeBytes n cs)

theorem isNormal_boundedChars (limit : Nat) (hbase : IsNormal base) (hsuffix : IsNormal suffix) :
    IsNormal (boundedChars limit base suffix) := by
  rcases Nat.lt_or_ge (Text.byteLength suffix) limit with hlt | hge
  · rw [boundedChars_of_lt base hlt]
    exact (isNormal_takeBytes _ hbase).append hsuffix
  · rw [boundedChars_of_le base hge]
    exact isNormal_takeBytes _ hsuffix

theorem isNormalForm_suffix (role : Role) : IsNormalForm role.suffix.toList := by
  cases role <;> decide +kernel

/-- What is put together before it is cut and gets its suffix is in normal form. -/
theorem isNormalForm_marked (base : String) (parent : Bool) :
    IsNormalForm ((if parent then parentMark else "") ++ normalize base).toList := by
  have hmark : IsNormalForm (if parent then parentMark else "").toList := by
    cases parent <;> decide +kernel
  rw [String.toList_append, toList_normalize]
  exact hmark.append (isNormalForm_normalChars _)

theorem isNormalForm_joined (parts : List String) :
    IsNormalForm ("_".intercalate (parts.map normalize)).toList := by
  refine IsNormalForm.intercalate fun part hpart => ?_
  obtain ⟨raw, -, rfl⟩ := List.mem_map.1 hpart
  exact toList_normalize raw ▸ isNormalForm_normalChars _

theorem Namer.isNormal_bounded (namer : Namer) {base suffix : String} (hbase : IsNormal base.toList)
    (hsuffix : IsNormal suffix.toList) : IsNormal (namer.bounded base suffix).toList := by
  rw [toList_bounded]
  exact isNormal_boundedChars namer.limit hbase hsuffix

theorem Namer.isNormal_name (namer : Namer) (role : Role) (base : String) (parent : Bool) :
    IsNormal (namer.name role base parent).toList :=
  namer.isNormal_bounded (isNormalForm_marked base parent).isNormal
    (isNormalForm_suffix role).isNormal

end Identifier

end EntitySchema
