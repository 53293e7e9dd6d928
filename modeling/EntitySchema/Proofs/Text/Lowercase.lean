import EntitySchema.Text.Lowercase
import EntitySchema.Proofs.Text.Trimming

/-!
# Lowercase text

What the table gives as a lowercase form is in no run of the table itself, so that lowercase text stays
as it is. Among the characters of ASCII such a form is a letter, and it is never white space: of these,
a lowercase text has only what was there before.
-/

namespace EntitySchema.Text

namespace CaseRun

variable {run other : CaseRun} {n m : Nat}

/-- The last of the forms that a run gives. -/
def lastImage (run : CaseRun) : Nat := run.image + (run.last - run.first)

/-- No form that the first run gives is listed by the second: it lies outside, or always between two
that are listed. -/
def apart (run other : CaseRun) : Bool :=
  -- Evaluated for every two runs of the table, so no decision procedure stands in between.
  Nat.blt other.last run.image || Nat.blt run.lastImage other.first ||
    Nat.beq other.step 2 && (Nat.beq run.step 2 || Nat.beq run.first run.last) &&
      Nat.beq ((run.image + other.first) % 2) 1

/-- No form that the run gives is in the range. -/
def Misses (run : CaseRun) (range : CodeRange) : Prop :=
  run.lastImage < range.first ∨ range.last < run.image

instance (run : CaseRun) (range : CodeRange) : Decidable (run.Misses range) :=
  inferInstanceAs (Decidable (_ ∨ _))

theorem lower?_eq_some_iff : run.lower? n = some m ↔
    (run.first ≤ n ∧ n ≤ run.last ∧ (n - run.first) % run.step = 0) ∧
      m = run.image + (n - run.first) := by
  rw [lower?]
  split
  next h => simp [h, eq_comm]
  next h => simp [h]

theorem lower?_eq_none_of_apart (h : run.apart other = true) (hlower : run.lower? n = some m) :
    other.lower? m = none := by
  obtain ⟨⟨hfirst, hlast, hstep⟩, rfl⟩ := lower?_eq_some_iff.1 hlower
  simp only [apart, Bool.or_eq_true, Bool.and_eq_true, Nat.blt_eq, Nat.beq_eq] at h
  rw [lower?, if_neg]
  rintro ⟨hother, hbefore, hlisted⟩
  rcases h with (habove | hbelow) | ⟨⟨htwo, hsingle⟩, hodd⟩
  · omega
  · rw [lastImage] at hbelow
    omega
  · rw [htwo] at hlisted
    have heven : (n - run.first) % 2 = 0 := by
      rcases hsingle with hstep' | hone
      · rwa [hstep'] at hstep
      · omega
    omega

theorem Misses.not_mem {range : CodeRange} (h : run.Misses range) (hlower : run.lower? n = some m) :
    ¬ (range.first ≤ m ∧ m ≤ range.last) := by
  obtain ⟨⟨hfirst, hlast, -⟩, rfl⟩ := lower?_eq_some_iff.1 hlower
  rw [Misses, lastImage] at h
  omega

theorem apart_all : all.all (fun run => all.all run.apart) = true := by
  decide +kernel

/-- Up to the backslash there is no lowercase form, nor any among the two letters that are not lowered
by the table, and the code points that are no characters. -/
def unloweredRanges : List CodeRange :=
  [⟨0x0000, 0x005C⟩, ⟨0x0130, 0x0130⟩, ⟨0x03A3, 0x03A3⟩, ⟨0xD800, 0xDFFF⟩]

theorem misses_unlowered : ∀ run ∈ all, ∀ range ∈ unloweredRanges, run.Misses range := by
  decide +kernel

theorem misses_whiteSpace : ∀ run ∈ all, ∀ range ∈ whiteSpaceRanges, run.Misses range := by
  decide +kernel

theorem lastImage_lt : ∀ run ∈ all, run.lastImage < 0x110000 := by
  decide +kernel

end CaseRun

variable {c d : Char} {cs : List Char} {n m : Nat}

theorem lowerCode_cases (n : Nat) (runs : List CaseRun) :
    lowerCode n runs = n ∨ ∃ run ∈ runs, run.lower? n = some (lowerCode n runs) := by
  induction runs with
  | nil => exact .inl rfl
  | cons run runs ih =>
      rw [lowerCode]
      cases hlower : run.lower? n with
      | some m => exact .inr ⟨run, List.mem_cons_self, hlower⟩
      | none =>
          rcases ih with hsame | ⟨other, hother, hform⟩
          · exact .inl hsame
          · exact .inr ⟨other, List.mem_cons_of_mem run hother, hform⟩

theorem lowerCode_eq_self {runs : List CaseRun} (h : ∀ run ∈ runs, run.lower? n = none) :
    lowerCode n runs = n := by
  induction runs with
  | nil => rfl
  | cons run runs ih =>
      obtain ⟨hrun, hrest⟩ := List.forall_mem_cons.1 h
      rw [lowerCode, hrun, Option.getD_none, ih hrest]

/-- The character is its own lowercase form, whatever stands around it. -/
def IsLower (c : Char) : Prop := c ≠ 'Σ' ∧ lowerLetter c = [c]

instance (c : Char) : Decidable (IsLower c) := inferInstanceAs (Decidable (_ ∧ _))

/-- The character is no white space, and in ASCII it comes behind all digits and separators. -/
def Letterlike (c : Char) : Prop := '\\'.toNat < c.toNat ∧ isWhiteSpace c = false

instance (c : Char) : Decidable (Letterlike c) := inferInstanceAs (Decidable (_ ∧ _))

/-- What the table gives is a letter that the table leaves as it is. -/
theorem isLower_and_letterlike_of_form {run : CaseRun} (hrun : run ∈ CaseRun.all)
    (hlower : run.lower? n = some m) : IsLower (Char.ofNat m) ∧ Letterlike (Char.ofNat m) := by
  have hunlowered : ∀ range ∈ CaseRun.unloweredRanges, ¬ (range.first ≤ m ∧ m ≤ range.last) :=
    fun range hrange => (CaseRun.misses_unlowered run hrun range hrange).not_mem hlower
  simp only [CaseRun.unloweredRanges, List.forall_mem_cons] at hunlowered
  obtain ⟨hascii, hdotted, hsigma, hsurrogate, -⟩ := hunlowered
  have hlast : m < 0x110000 := by
    have hbound := CaseRun.lastImage_lt run hrun
    obtain ⟨⟨-, hle, -⟩, rfl⟩ := CaseRun.lower?_eq_some_iff.1 hlower
    rw [CaseRun.lastImage] at hbound
    omega
  have hcode : (Char.ofNat m).toNat = m := by
    have hvalid : m.isValidChar := by
      rw [Nat.isValidChar]
      omega
    rw [Char.ofNat, dif_pos hvalid]
    rfl
  have hne : ∀ c : Char, ¬ (c.toNat ≤ m ∧ m ≤ c.toNat) → Char.ofNat m ≠ c := by
    rintro c hc rfl
    rw [hcode] at hc
    omega
  refine ⟨⟨hne 'Σ' hsigma, ?_⟩, ?_, ?_⟩
  · have hsame : lowerCode m CaseRun.all = m :=
      lowerCode_eq_self fun other hother => by
        have hapart := List.all_eq_true.1 (List.all_eq_true.1 CaseRun.apart_all run hrun) other hother
        exact CaseRun.lower?_eq_none_of_apart hapart hlower
    rw [lowerLetter, if_neg (hne 'İ' hdotted), hcode, hsame]
  · rw [hcode]
    change 0x5C < m
    omega
  · rw [isWhiteSpace, CodeRange.anyContains, List.any_eq_false]
    intro range hrange
    have hmiss := (CaseRun.misses_whiteSpace run hrun range hrange).not_mem hlower
    simpa [CodeRange.contains, hcode] using hmiss

theorem lowerLetter_cases (c : Char) (hc : c ≠ 'İ') :
    lowerLetter c = [c] ∨ ∃ d, lowerLetter c = [d] ∧ IsLower d ∧ Letterlike d := by
  rw [lowerLetter, if_neg hc]
  rcases lowerCode_cases c.toNat CaseRun.all with hsame | ⟨run, hrun, hform⟩
  · rw [hsame, Char.ofNat_toNat]
    exact .inl rfl
  · exact .inr ⟨_, rfl, isLower_and_letterlike_of_form hrun hform⟩

theorem lowerBetween_cases (before : List Char) (c : Char) (after : List Char) :
    (c ≠ 'Σ' ∧ lowerBetween before c after = [c] ∧ IsLower c) ∨
      lowerBetween before c after ≠ [] ∧
        ∀ d ∈ lowerBetween before c after, IsLower d ∧ Letterlike d := by
  have hspecial : ∀ d ∈ ['ς', 'σ', 'i', '\u0307'], IsLower d ∧ Letterlike d := by
    simp only [List.forall_mem_cons, List.not_mem_nil, false_implies, implies_true, and_true]
    decide +kernel
  unfold lowerBetween
  split
  next hsigma =>
    right
    split
    · exact ⟨List.cons_ne_nil _ _, fun d hd => hspecial d (by simp_all)⟩
    · exact ⟨List.cons_ne_nil _ _, fun d hd => hspecial d (by simp_all)⟩
  next hsigma =>
    by_cases hdotted : c = 'İ'
    · right
      rw [lowerLetter, if_pos hdotted]
      exact ⟨List.cons_ne_nil _ _, fun d hd => hspecial d (by simp_all)⟩
    · rcases lowerLetter_cases c hdotted with hsame | ⟨d, hd, hlower⟩
      · exact .inl ⟨hsigma, hsame, hsigma, hsame⟩
      · rw [hd]
        exact .inr ⟨List.cons_ne_nil _ _, fun e he => List.mem_singleton.1 he ▸ hlower⟩

theorem lowerBetween_ne_nil (before : List Char) (c : Char) (after : List Char) :
    lowerBetween before c after ≠ [] := by
  rcases lowerBetween_cases before c after with ⟨-, hsame, -⟩ | ⟨hne, -⟩
  · rw [hsame]
    exact List.cons_ne_nil _ _
  · exact hne

theorem isLower_of_mem_lowerBetween {before after : List Char}
    (h : d ∈ lowerBetween before c after) : IsLower d := by
  rcases lowerBetween_cases before c after with ⟨-, hsame, hlower⟩ | ⟨-, hforms⟩
  · rw [hsame] at h
    exact List.mem_singleton.1 h ▸ hlower
  · exact (hforms d h).1

theorem eq_or_letterlike_of_mem_lowerBetween {before after : List Char}
    (h : d ∈ lowerBetween before c after) : d = c ∨ Letterlike d := by
  rcases lowerBetween_cases before c after with ⟨-, hsame, -⟩ | ⟨-, hforms⟩
  · rw [hsame] at h
    exact .inl (List.mem_singleton.1 h)
  · exact .inr (hforms d h).2

theorem isLower_of_mem_lowercaseAfter {before : List Char} (h : d ∈ lowercaseAfter before cs) :
    IsLower d := by
  induction cs generalizing before with
  | nil => cases h
  | cons c cs ih =>
      rw [lowercaseAfter_cons, List.mem_append] at h
      exact h.elim isLower_of_mem_lowerBetween ih

theorem mem_or_letterlike_of_mem_lowercaseAfter {before : List Char}
    (h : d ∈ lowercaseAfter before cs) : d ∈ cs ∨ Letterlike d := by
  induction cs generalizing before with
  | nil => cases h
  | cons c cs ih =>
      rw [lowercaseAfter_cons, List.mem_append] at h
      rcases h with h | h
      · rcases eq_or_letterlike_of_mem_lowerBetween h with rfl | hletter
        · exact .inl List.mem_cons_self
        · exact .inr hletter
      · exact (ih h).imp_left (List.mem_cons_of_mem c)

theorem lowercaseAfter_eq_self (h : ∀ c ∈ cs, IsLower c) (before : List Char) :
    lowercaseAfter before cs = cs := by
  induction cs generalizing before with
  | nil => rfl
  | cons c cs ih =>
      obtain ⟨⟨hsigma, hletter⟩, hrest⟩ := List.forall_mem_cons.1 h
      rw [lowercaseAfter_cons, lowerBetween, if_neg hsigma, hletter, ih hrest, List.singleton_append]

theorem SolidStart.lowercase (h : SolidStart cs) : SolidStart (lowercase cs) := by
  cases cs with
  | nil => exact h
  | cons c cs =>
      obtain ⟨d, rest, hforms⟩ := List.exists_cons_of_ne_nil (lowerBetween_ne_nil [] c cs)
      have hd : d ∈ lowerBetween [] c cs := hforms ▸ List.mem_cons_self
      intro e he
      rw [Text.lowercase, lowercaseAfter_cons, hforms] at he
      cases he
      rcases eq_or_letterlike_of_mem_lowerBetween hd with rfl | hletter
      · exact h d rfl
      · exact hletter.2

theorem getLast?_lowercaseAfter_concat (before cs : List Char) (c : Char) :
    ∃ between, ∃ d ∈ lowerBetween between c [],
      (lowercaseAfter before (cs ++ [c])).getLast? = some d := by
  induction cs generalizing before with
  | nil =>
      have hne := lowerBetween_ne_nil before c []
      refine ⟨before, _, List.getLast_mem hne, ?_⟩
      rw [List.nil_append, lowercaseAfter_cons, lowercaseAfter, List.append_nil,
        List.getLast?_eq_some_getLast hne]
  | cons b cs ih =>
      obtain ⟨between, d, hd, hlast⟩ := ih (b :: before)
      refine ⟨between, d, hd, ?_⟩
      rw [List.cons_append, lowercaseAfter_cons, List.getLast?_append, hlast, Option.some_or]

theorem SolidEnd.lowercase (h : SolidEnd cs) : SolidEnd (lowercase cs) := by
  rcases List.eq_nil_or_concat' cs with rfl | ⟨front, c, rfl⟩
  · exact h
  · obtain ⟨between, d, hd, hlast⟩ := getLast?_lowercaseAfter_concat [] front c
    intro e he
    rw [Text.lowercase, hlast] at he
    cases he
    rcases eq_or_letterlike_of_mem_lowerBetween hd with rfl | hletter
    · exact h d List.getLast?_concat
    · exact hletter.2

end EntitySchema.Text
