import EntitySchema.Files.Tree

/-!
# The directory of a path

What a path says lies in its steps that are not blank. The directory of a path that ends in a name says
what the steps before the name say.
-/

namespace EntitySchema

namespace Path

open FileTree (isBlankStep)

/-- Whether a step names something in a directory. -/
def isName (step : String) : Bool := !isBlankStep step && step != ".."

theorem isName_iff {step : String} :
    isName step = true ↔ isBlankStep step = false ∧ step ≠ ".." := by
  rw [isName, Bool.and_eq_true, Bool.not_eq_true', bne_iff_ne]

/-- The steps that say something. -/
def significant (steps : List String) : List String := steps.filter fun step => !isBlankStep step

def stepsOf (cs : List Char) : List String := (Text.splitAt ['/'] cs).map String.ofList

theorem stepsOf_toList (path : String) : stepsOf path.toList = steps path := rfl

theorem splitAt_slash_cons (c : Char) (cs : List Char) :
    Text.splitAt ['/'] (c :: cs) =
      if c = '/' then [] :: Text.splitAt ['/'] cs
      else Text.consToFirst c (Text.splitAt ['/'] cs) := by
  by_cases h : c = '/'
  · subst h
    simp [Text.splitAt, Text.pieces]
  · simp [Text.splitAt, Text.pieces, h, Ne.symm h]

theorem consToFirst_append {ps : List (List Char)} (h : ps ≠ []) (c : Char)
    (qs : List (List Char)) :
    Text.consToFirst c (ps ++ qs) = Text.consToFirst c ps ++ qs := by
  cases ps with
  | nil => exact absurd rfl h
  | cons p ps => rfl

theorem splitAt_slash_append (as bs : List Char) :
    Text.splitAt ['/'] (as ++ '/' :: bs) = Text.splitAt ['/'] as ++ Text.splitAt ['/'] bs := by
  induction as with
  | nil => exact splitAt_slash_cons '/' bs
  | cons a as ih =>
      rw [List.cons_append, splitAt_slash_cons, splitAt_slash_cons, ih]
      split
      · rfl
      · exact consToFirst_append (Text.splitAt_ne_nil _ _) a _

theorem stepsOf_append (as bs : List Char) :
    stepsOf (as ++ '/' :: bs) = stepsOf as ++ stepsOf bs := by
  rw [stepsOf, splitAt_slash_append, List.map_append, ← stepsOf, ← stepsOf]

theorem stepsOf_of_notMem {cs : List Char} (h : '/' ∉ cs) : stepsOf cs = [String.ofList cs] := by
  have hpieces : Text.splitAt ['/'] cs = [cs] := by
    induction cs with
    | nil => rfl
    | cons c cs ih =>
        obtain ⟨hc, hcs⟩ := not_or.1 (mt List.mem_cons.2 h)
        rw [splitAt_slash_cons, if_neg (Ne.symm hc), ih hcs]
        rfl
  rw [stepsOf, hpieces]
  rfl

theorem significant_append (front back : List String) :
    significant (front ++ back) = significant front ++ significant back :=
  List.filter_append ..

theorem significant_stepsOf_append_slash (cs : List Char) :
    significant (stepsOf (cs ++ ['/'])) = significant (stepsOf cs) := by
  have hblank : significant (stepsOf []) = [] := by decide
  rw [stepsOf_append, significant_append, hblank, List.append_nil]

theorem significant_stepsOf_dropBlankSteps (r : List Char) :
    significant (stepsOf (dropBlankSteps r).reverse) = significant (stepsOf r.reverse) := by
  fun_induction dropBlankSteps r with
  | case1 => rfl
  | case2 cs hne ih =>
      rw [ih, List.reverse_cons, significant_stepsOf_append_slash]
  | case3 => decide
  | case4 cs hne ih =>
      have hblank : significant (stepsOf ['.']) = [] := by decide
      have hreverse : ('.' :: '/' :: cs).reverse = cs.reverse ++ '/' :: ['.'] := by simp
      rw [ih, hreverse, stepsOf_append, significant_append, hblank, List.append_nil]
  | case5 => rfl

theorem dropBlankSteps_suffix (r : List Char) : dropBlankSteps r <:+ r := by
  fun_induction dropBlankSteps r with
  | case1 => exact List.suffix_rfl
  | case2 cs hne ih => exact ih.trans (List.suffix_cons _ _)
  | case3 => exact List.suffix_cons _ _
  | case4 cs hne ih => exact ih.trans ((List.suffix_cons _ _).trans (List.suffix_cons _ _))
  | case5 => exact List.suffix_rfl

theorem getLast?_dropBlankSteps (r : List Char) : (dropBlankSteps r).getLast? = r.getLast? := by
  fun_induction dropBlankSteps r with
  | case1 => rfl
  | case2 cs hne ih =>
      cases cs with
      | nil => exact absurd rfl hne
      | cons c cs => rw [ih, List.getLast?_cons_cons]
  | case3 => rfl
  | case4 cs hne ih =>
      cases cs with
      | nil => exact absurd rfl hne
      | cons c cs => rw [ih, List.getLast?_cons_cons, List.getLast?_cons_cons]
  | case5 => rfl

theorem isAbsolute_eq (path : String) :
    isAbsolute path = (path.toList.reverse.getLast? == some '/') := by
  rw [isAbsolute, List.getLast?_reverse]
  cases path.toList with
  | nil => rfl
  | cons c cs =>
      rw [List.isPrefixOf_cons_cons, Bool.beq_comm]
      simp

theorem dropBlankSteps_append {r rest : List Char} (hslash : '/' ∉ r) (hnil : r ≠ [])
    (hdot : r ≠ ['.']) : dropBlankSteps (r ++ rest) = r ++ rest := by
  cases r with
  | nil => exact absurd rfl hnil
  | cons c r =>
      cases r with
      | nil =>
          unfold dropBlankSteps
          split <;> simp_all
      | cons d r =>
          unfold dropBlankSteps
          split <;> simp_all

theorem parent?_of_reverse {path : String} {r rest : List Char}
    (hpath : path.toList.reverse = r ++ rest) (hslash : '/' ∉ r) (hnil : r ≠ []) (hdot : r ≠ ['.']) :
    parent? path = some (String.ofList (dropBlankSteps (rest.dropWhile (· != '/'))).reverse) := by
  have hdrop : (r ++ rest).dropWhile (· != '/') = rest.dropWhile (· != '/') := by
    refine List.dropWhile_append_of_pos fun c hc => bne_iff_ne.2 ?_
    exact fun h => hslash (h ▸ hc)
  rw [parent?, hpath, dropBlankSteps_append hslash hnil hdot]
  split
  · next h => exact absurd (List.append_eq_nil_iff.1 h).1 hnil
  · next h =>
      have hmem : ∀ c ∈ r, c = '/' := fun c hc =>
        List.mem_singleton.1 (h ▸ List.mem_append_left rest hc)
      obtain ⟨c, hc⟩ := List.exists_mem_of_ne_nil r hnil
      exact absurd (hmem c hc ▸ hc) hslash
  · rw [hdrop]

theorem ne_of_isName {r : List Char} (h : isName (String.ofList r.reverse) = true) :
    r ≠ [] ∧ r ≠ ['.'] := by
  constructor
  · rintro rfl
    exact absurd h (by decide)
  · rintro rfl
    exact absurd h (by decide)

/-- A path that ends in a name leads on from its directory, which is empty if there is no other step. -/
theorem exists_parent?_of_isName {path name : String} {front : List String}
    (hsteps : steps path = front ++ [name]) (hname : isName name = true) :
    ∃ directory, parent? path = some directory ∧
      (directory = "" ∧ front = [] ∨ directory ≠ "" ∧ directory.toList <+: path.toList ∧
        isAbsolute directory = isAbsolute path ∧
        significant (steps directory) = significant front) := by
  rw [← stepsOf_toList] at hsteps
  by_cases hmem : '/' ∈ path.toList.reverse
  · obtain ⟨r, rest, hreverse, hslash⟩ := List.eq_append_cons_of_mem hmem
    have hlist : path.toList = rest.reverse ++ '/' :: r.reverse := by
      rw [← List.reverse_reverse path.toList, hreverse]
      simp
    rw [hlist, stepsOf_append, stepsOf_of_notMem (mt List.mem_reverse.1 hslash)] at hsteps
    obtain ⟨rfl, hlast⟩ := List.append_inj' hsteps rfl
    obtain rfl : String.ofList r.reverse = name := (List.cons.inj hlast).1
    obtain ⟨hnil, hdot⟩ := ne_of_isName hname
    have hparent := parent?_of_reverse hreverse hslash hnil hdot
    have hdirectory : ('/' :: rest).dropWhile (· != '/') = '/' :: rest := by simp
    have hlast := getLast?_dropBlankSteps ('/' :: rest)
    rw [hdirectory] at hparent
    refine ⟨_, hparent, .inr ⟨?_, ?_, ?_, ?_⟩⟩
    · intro hempty
      have hend : dropBlankSteps ('/' :: rest) = [] := by
        simpa using congrArg String.toList hempty
      rw [hend] at hlast
      cases rest with
      | nil => cases hlast
      | cons c rest => cases hlast.trans List.getLast?_cons_cons
    · have hbegins := List.reverse_prefix.2 (dropBlankSteps_suffix ('/' :: rest))
      rw [String.toList_ofList, hlist]
      exact hbegins.trans (by simp)
    · rw [isAbsolute_eq, isAbsolute_eq, String.toList_ofList, List.reverse_reverse, hlast, hreverse,
        List.getLast?_append, List.getLast?_cons, Option.some_or]
    · rw [← stepsOf_toList, String.toList_ofList, significant_stepsOf_dropBlankSteps,
        List.reverse_cons, significant_stepsOf_append_slash]
  · have hreverse : path.toList.reverse = path.toList.reverse ++ [] := (List.append_nil _).symm
    rw [stepsOf_of_notMem (mt List.mem_reverse.2 hmem)] at hsteps
    have hparts : [] ++ [String.ofList path.toList] = front ++ [name] := hsteps
    obtain ⟨rfl, hlast⟩ := List.append_inj' hparts rfl
    obtain rfl : String.ofList path.toList = name := (List.cons.inj hlast).1
    rw [← List.reverse_reverse path.toList] at hname
    obtain ⟨hnil, hdot⟩ := ne_of_isName hname
    exact ⟨_, parent?_of_reverse hreverse hmem hnil hdot, .inl ⟨by decide, rfl⟩⟩

theorem isValid_iff {path : String} :
    isValid path = true ↔ isFollowable path = true ∧ ∀ step ∈ steps path, isPossible step = true := by
  rw [isValid, Bool.and_eq_true, List.all_eq_true]

theorem isFollowable_of_prefix {path directory : String} (h : isFollowable path = true)
    (hne : directory ≠ "") (hbegins : directory.toList <+: path.toList) :
    isFollowable directory = true := by
  simp only [isFollowable, Bool.and_eq_true, bne_iff_ne, decide_eq_true_eq, Bool.not_eq_true',
    List.contains_eq_mem, decide_eq_false_iff_not] at h ⊢
  obtain ⟨⟨-, hlength⟩, hzero⟩ := h
  obtain ⟨rest, hrest⟩ := hbegins
  refine ⟨⟨hne, ?_⟩, fun hmem => hzero ?_⟩
  · rw [← hrest, Text.byteLength_append] at hlength
    omega
  · rw [← hrest]
    exact List.mem_append_left rest hmem

end Path

end EntitySchema
