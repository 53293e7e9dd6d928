import Mathlib.Data.List.DropRight
import EntitySchema.Text.WhiteSpace

/-!
# Trimmed text

Text is trimmed when neither its first nor its last character is white space. Only the end matters to
text that is cut, since a cut never changes where a text begins.
-/

namespace EntitySchema.Text

variable {cs : List Char}

/-- The text does not begin with white space. -/
def SolidStart (cs : List Char) : Prop := ∀ c ∈ cs.head?, isWhiteSpace c = false

/-- The text does not end with white space. -/
def SolidEnd (cs : List Char) : Prop := ∀ c ∈ cs.getLast?, isWhiteSpace c = false

instance (cs : List Char) : Decidable (SolidStart cs) := Option.decidableForallMem cs.head?

instance (cs : List Char) : Decidable (SolidEnd cs) := Option.decidableForallMem cs.getLast?

theorem solidEnd_append_of_ne_nil (as : List Char) {bs : List Char} (hne : bs ≠ [])
    (h : SolidEnd bs) : SolidEnd (as ++ bs) := by
  intro c hc
  rw [List.getLast?_append_of_ne_nil as hne] at hc
  exact h c hc

theorem SolidEnd.append {as bs : List Char} (has : SolidEnd as) (hbs : SolidEnd bs) :
    SolidEnd (as ++ bs) := by
  cases bs with
  | nil => rwa [List.append_nil]
  | cons b bs => exact solidEnd_append_of_ne_nil as (List.cons_ne_nil b bs) hbs

section Map

variable {f : Char → Char} (hf : ∀ c, isWhiteSpace c = false → isWhiteSpace (f c) = false)
include hf

theorem SolidStart.map (h : SolidStart cs) : SolidStart (cs.map f) := by
  intro d hd
  rw [List.head?_map, Option.mem_def, Option.map_eq_some_iff] at hd
  obtain ⟨c, hc, rfl⟩ := hd
  exact hf c (h c hc)

theorem SolidEnd.map (h : SolidEnd cs) : SolidEnd (cs.map f) := by
  intro d hd
  rw [List.getLast?_map, Option.mem_def, Option.map_eq_some_iff] at hd
  obtain ⟨c, hc, rfl⟩ := hd
  exact hf c (h c hc)

end Map

theorem solidEnd_of_forall (h : ∀ c ∈ cs, isWhiteSpace c = false) : SolidEnd cs :=
  fun c hc => h c (List.mem_of_getLast? hc)

theorem prefix_trimEnd (cs : List Char) : trimEnd cs <+: cs :=
  List.rdropWhile_prefix isWhiteSpace cs

theorem trimEnd_eq_self_iff : trimEnd cs = cs ↔ SolidEnd cs := by
  change cs.rdropWhile isWhiteSpace = cs ↔ SolidEnd cs
  rw [List.rdropWhile_eq_self_iff]
  rcases cs.eq_nil_or_concat with rfl | ⟨front, last, rfl⟩
  · simp [SolidEnd]
  · simp [SolidEnd]

theorem solidEnd_trimEnd (cs : List Char) : SolidEnd (trimEnd cs) := by
  rw [← trimEnd_eq_self_iff]
  exact List.rdropWhile_idempotent isWhiteSpace cs

theorem solidStart_trimStart (cs : List Char) : SolidStart (trimStart cs) := by
  intro c hc
  have hhead := List.head?_dropWhile_not isWhiteSpace cs
  rw [trimStart, Option.mem_def] at hc
  rwa [hc] at hhead

theorem SolidStart.beginning {as : List Char} (h : SolidStart cs) (has : as <+: cs) :
    SolidStart as := by
  obtain ⟨rest, rfl⟩ := has
  cases as with
  | nil => exact fun _ hc => nomatch hc
  | cons a as => exact h

theorem SolidStart.trimStart_eq (h : SolidStart cs) : trimStart cs = cs := by
  cases cs with
  | nil => rfl
  | cons c cs => exact trimStart_eq_self (h c rfl)

theorem SolidStart.trim_eq (h : SolidStart cs) : trim cs = trimEnd cs := by
  rw [trim, h.trimStart_eq]

theorem solidStart_trim (cs : List Char) : SolidStart (trim cs) :=
  (solidStart_trimStart cs).beginning (prefix_trimEnd _)

theorem solidEnd_trim (cs : List Char) : SolidEnd (trim cs) := solidEnd_trimEnd _

end EntitySchema.Text
