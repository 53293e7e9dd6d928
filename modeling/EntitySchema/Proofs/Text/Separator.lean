/-!
# Text around a separator

A text without the separator can be read back from a longer one in which the separator follows it.
Numerals are such texts for every separator that is no digit.
-/

namespace EntitySchema.Text

theorem notMem_repr {c : Char} (h : c.isDigit = false) (n : Nat) : c ∉ (Nat.repr n).toList := by
  intro hmem
  rw [Nat.toList_repr] at hmem
  have hdigit := Nat.isDigit_of_mem_toDigits (by decide) (by decide) hmem
  cases h.symm.trans hdigit

theorem repr_inj {m n : Nat} (h : (Nat.repr m).toList = (Nat.repr n).toList) : m = n := by
  rw [Nat.toList_repr, Nat.toList_repr] at h
  have hnumber := congrArg (Nat.ofDigitChars 10 · 0) h
  simpa only [Nat.ofDigitChars_ten_toDigits] using hnumber

theorem append_cons_inj {c : Char} {as bs as' bs' : List Char} (h : c ∉ as) (h' : c ∉ as') :
    as ++ c :: bs = as' ++ c :: bs' ↔ as = as' ∧ bs = bs' := by
  induction as generalizing as' with
  | nil =>
      cases as' with
      | nil => simp
      | cons a as' =>
          have hne : c ≠ a := fun heq => h' (heq ▸ List.mem_cons_self)
          simp [hne]
  | cons a as ih =>
      have hne : a ≠ c := fun heq => h (heq ▸ List.mem_cons_self)
      cases as' with
      | nil => simp [hne]
      | cons a' as' =>
          have hrest : as ++ c :: bs = as' ++ c :: bs' ↔ as = as' ∧ bs = bs' :=
            ih (fun hmem => h (List.mem_cons_of_mem a hmem))
              fun hmem => h' (List.mem_cons_of_mem a' hmem)
          simp only [List.cons_append, List.cons.injEq, hrest, and_assoc]

/-- Pieces that end at the first separator can be read back one after another. -/
theorem flatMap_terminated_inj {c : Char} {ps qs : List (List Char)} (hps : ∀ p ∈ ps, c ∉ p)
    (hqs : ∀ q ∈ qs, c ∉ q) :
    ps.flatMap (· ++ [c]) = qs.flatMap (· ++ [c]) ↔ ps = qs := by
  induction ps generalizing qs with
  | nil =>
      cases qs with
      | nil => simp
      | cons q qs => simp
  | cons p ps ih =>
      cases qs with
      | nil => simp
      | cons q qs =>
          have hrest : ps.flatMap (· ++ [c]) = qs.flatMap (· ++ [c]) ↔ ps = qs :=
            ih (fun p' hp' => hps p' (List.mem_cons_of_mem p hp'))
              fun q' hq' => hqs q' (List.mem_cons_of_mem q hq')
          simp only [List.flatMap_cons, List.append_assoc, List.cons_append, List.nil_append]
          rw [append_cons_inj (hps p List.mem_cons_self) (hqs q List.mem_cons_self), hrest,
            List.cons.injEq]

end EntitySchema.Text
