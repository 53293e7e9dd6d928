import Mathlib.Data.List.TakeWhile
import EntitySchema.Proofs.Sql.Lexeme

/-!
# How a name is spelled

The names that are read first tell how the text begins: with a word, or with a quoted name. A name that
is followed by a mark is read as itself exactly if it is a word without capital letters, since between
quotes it would be longer than it is.
-/

namespace EntitySchema.Sql

variable {reading : Reading} {part : Part} {names tail : List Part} {more : List Lexeme}
  {text cs : List Char}

/-- Words that are read as they are written. -/
def isPlainWord : List Char → Bool
  | [] => false
  | c :: cs => isWordStart c && cs.all isWordPart && (c :: cs).all fun c => c.toLower = c

def IsPlain (name : String) : Prop := isPlainWord name.toList = true

instance (name : String) : Decidable (IsPlain name) :=
  inferInstanceAs (Decidable (isPlainWord name.toList = true))

example : IsPlain "archive_table" ∧ ¬ IsPlain "Sys" ∧ ¬ IsPlain "no table" := by decide

/-- The names that have been read before the one that is being read. -/
def Reading.parts : Reading → List Part
  | word before _ | quoted before _ | closed before _ | dotted before => before
  | code | mark _ | literal | literalEnd | comment | body | bodyDollar | bodyEnd => []

theorem parts_prefix_of_extend? {longer : Reading} {c : Char}
    (h : reading.extend? c = some longer) : reading.parts <+: longer.parts := by
  cases reading with
  | word before text =>
      simp only [Reading.extend?] at h
      split at h
      · cases h
        exact List.prefix_rfl
      · split at h
        · cases h
          exact List.prefix_append _ _
        · cases h
  | quoted before text =>
      simp only [Reading.extend?] at h
      split at h <;> cases h <;> exact List.prefix_rfl
  | closed before text =>
      simp only [Reading.extend?] at h
      split at h
      · cases h
        exact List.prefix_rfl
      · split at h
        · cases h
          exact List.prefix_append _ _
        · cases h
  | dotted before =>
      simp only [Reading.extend?] at h
      split at h
      · cases h
        exact List.prefix_rfl
      · split at h
        · cases h
          exact List.prefix_rfl
        · cases h
  | _ => exact List.nil_prefix

theorem parts_prefix_of_flush {rest : List Lexeme} (h : reading.flush ++ rest = .names names :: more) :
    reading.parts <+: names := by
  cases reading with
  | word before text =>
      cases h
      exact List.prefix_append _ _
  | closed before text =>
      cases h
      exact List.prefix_append _ _
  | dotted before =>
      cases h
      exact List.prefix_rfl
  | quoted before text => cases h
  | _ => exact List.nil_prefix

theorem parts_prefix_of_lexFrom (h : lexFrom reading cs = .names names :: more) :
    reading.parts <+: names := by
  induction cs generalizing reading with
  | nil => exact parts_prefix_of_flush ((List.append_nil _).trans h)
  | cons c cs ih =>
      cases hextend : reading.extend? c with
      | some longer =>
          rw [lexFrom_of_extend?_eq_some hextend] at h
          exact (parts_prefix_of_extend? hextend).trans (ih h)
      | none =>
          rw [lexFrom_of_extend?_eq_none hextend] at h
          exact parts_prefix_of_flush h

theorem prefix_of_word {before : List Part}
    (h : lexFrom (.word before text) cs = .names names :: more) :
    before ++ [.ofWord (text ++ cs.takeWhile isWordPart)] <+: names := by
  induction cs generalizing text with
  | nil =>
      cases h
      simp
  | cons c cs ih =>
      by_cases hc : isWordPart c = true
      · have hextend : (Reading.word before text).extend? c = some (.word before (text ++ [c])) :=
          if_pos hc
        rw [lexFrom_of_extend?_eq_some hextend] at h
        have hprefix := ih h
        rwa [List.append_assoc, List.singleton_append, ← List.takeWhile_cons_of_pos hc] at hprefix
      · rw [List.takeWhile_cons_of_neg hc, List.append_nil]
        by_cases hdot : c = '.'
        · subst hdot
          have hextend : (Reading.word before text).extend? '.' =
              some (.dotted (before ++ [.ofWord text])) := rfl
          rw [lexFrom_of_extend?_eq_some hextend] at h
          exact parts_prefix_of_lexFrom h
        · have hextend : (Reading.word before text).extend? c = none := by
            simp [Reading.extend?, hc, hdot]
          rw [lexFrom_of_extend?_eq_none hextend] at h
          cases h
          exact List.prefix_rfl

/-- Behind the quote that opens a name stands its text, also if the name is being read already. In the
second part, the first character is the quote that the name may end with. -/
theorem exists_of_quoted {before : List Part} (cs text : List Char) :
    (lexFrom (.quoted before text) cs = .names names :: more → ∃ content rest,
      cs = Text.doubleQuotes '"' content ++ '"' :: rest ∧
        before ++ [.ofQuoted (text ++ content)] <+: names) ∧
    (lexFrom (.closed before text) cs = .names names :: more → ∃ content rest,
      '"' :: cs = Text.doubleQuotes '"' content ++ '"' :: rest ∧
        before ++ [.ofQuoted (text ++ content)] <+: names) := by
  induction cs generalizing text with
  | nil =>
      constructor
      · intro h
        cases h
      · intro h
        cases h
        exact ⟨[], [], rfl, by simp⟩
  | cons c cs ih =>
      constructor
      · intro h
        by_cases hc : c = '"'
        · subst hc
          have hextend : (Reading.quoted before text).extend? '"' = some (.closed before text) := rfl
          rw [lexFrom_of_extend?_eq_some hextend] at h
          exact (ih text).2 h
        · have hextend : (Reading.quoted before text).extend? c =
              some (.quoted before (text ++ [c])) := if_neg hc
          rw [lexFrom_of_extend?_eq_some hextend] at h
          obtain ⟨content, rest, rfl, hprefix⟩ := (ih (text ++ [c])).1 h
          refine ⟨c :: content, rest, ?_, ?_⟩
          · rw [Text.doubleQuotes, if_neg hc, List.cons_append]
          · rwa [List.append_assoc, List.singleton_append] at hprefix
      · intro h
        by_cases hc : c = '"'
        · subst hc
          have hextend : (Reading.closed before text).extend? '"' =
              some (.quoted before (text ++ ['"'])) := rfl
          rw [lexFrom_of_extend?_eq_some hextend] at h
          obtain ⟨content, rest, rfl, hprefix⟩ := (ih (text ++ ['"'])).1 h
          refine ⟨'"' :: content, rest, ?_, ?_⟩
          · rw [Text.doubleQuotes, if_pos rfl, List.cons_append, List.cons_append]
          · rwa [List.append_assoc, List.singleton_append] at hprefix
        · refine ⟨[], c :: cs, rfl, ?_⟩
          rw [List.append_nil]
          by_cases hdot : c = '.'
          · subst hdot
            have hextend : (Reading.closed before text).extend? '.' =
                some (.dotted (before ++ [.ofQuoted text])) := rfl
            rw [lexFrom_of_extend?_eq_some hextend] at h
            exact parts_prefix_of_lexFrom h
          · have hextend : (Reading.closed before text).extend? c = none := by
              simp [Reading.extend?, hc, hdot]
            rw [lexFrom_of_extend?_eq_none hextend] at h
            cases h
            exact List.prefix_rfl

/-- The text begins with the name as it is written. -/
inductive Spells : List Char → Part → Prop
  | word {c : Char} {cs : List Char} : isWordStart c = true →
      Spells (c :: cs) (.ofWord ((c :: cs).takeWhile isWordPart))
  | quoted (content rest : List Char) :
      Spells ('"' :: (Text.doubleQuotes '"' content ++ '"' :: rest)) (.ofQuoted content)

/-- Readings that do not become names. -/
def Reading.isNameless : Reading → Bool
  | mark _ | literal | literalEnd | comment | body | bodyDollar | bodyEnd => true
  | code | word _ _ | quoted _ _ | closed _ _ | dotted _ => false

theorem isNameless_of_extend? {longer : Reading} {c : Char} (h : reading.isNameless = true)
    (hextend : reading.extend? c = some longer) : longer.isNameless = true := by
  cases reading with
  | code | word | quoted | closed | dotted => cases h
  | mark d =>
      simp only [Reading.extend?] at hextend
      split at hextend
      · cases hextend
        rfl
      · split at hextend
        · cases hextend
          rfl
        · cases hextend
  | _ =>
      simp only [Reading.extend?] at hextend
      try split at hextend
      all_goals cases hextend
      all_goals rfl

theorem flush_append_ne_names (h : reading.isNameless = true) (rest : List Lexeme) :
    reading.flush ++ rest ≠ .names names :: more := by
  cases reading with
  | code | word | quoted | closed | dotted => cases h
  | _ =>
      intro heq
      cases heq

theorem lexFrom_ne_names (h : reading.isNameless = true) :
    lexFrom reading cs ≠ .names names :: more := by
  induction cs generalizing reading with
  | nil =>
      have hflush : reading.flush ++ [] ≠ .names names :: more := flush_append_ne_names h []
      rwa [List.append_nil] at hflush
  | cons c cs ih =>
      cases hextend : reading.extend? c with
      | some longer =>
          rw [lexFrom_of_extend?_eq_some hextend]
          exact ih (isNameless_of_extend? h hextend)
      | none =>
          rw [lexFrom_of_extend?_eq_none hextend]
          exact flush_append_ne_names h _

/-- What is read as names begins with the first of them, behind white space. -/
theorem exists_spells_of_code (h : lexFrom .code cs = .names (part :: tail) :: more) :
    ∃ gap rest, cs = gap ++ rest ∧ (∀ c ∈ gap, c.isWhitespace = true) ∧ Spells rest part := by
  induction cs with
  | nil => cases h
  | cons c cs ih =>
      rw [lexFrom_of_extend?_eq_none rfl] at h
      change lexFrom (.ofChar c) cs = _ at h
      unfold Reading.ofChar at h
      split at h
      next hc =>
        obtain ⟨content, rest, rfl, hprefix⟩ := (exists_of_quoted cs []).1 h
        obtain rfl := (List.cons_prefix_cons.1 hprefix).1
        exact ⟨[], _, rfl, List.forall_mem_nil _, hc ▸ .quoted content rest⟩
      split at h
      · exact absurd h (lexFrom_ne_names rfl)
      split at h
      next hc =>
        obtain rfl := (List.cons_prefix_cons.1 (prefix_of_word h)).1
        have hpart : isWordPart c = true := by simp [isWordPart, hc]
        refine ⟨[], _, rfl, List.forall_mem_nil _, ?_⟩
        rw [List.singleton_append, ← List.takeWhile_cons_of_pos hpart]
        exact .word hc
      split at h
      next hc =>
        obtain ⟨gap, rest, rfl, hgap, hrest⟩ := ih h
        exact ⟨c :: gap, rest, rfl, List.forall_mem_cons.2 ⟨hc, hgap⟩, hrest⟩
      · exact absurd h (lexFrom_ne_names rfl)

theorem spells_of_dotted (before : List Part)
    (h : lexFrom (.dotted before) cs = .names (before ++ part :: tail) :: more) :
    Spells cs part := by
  have hshort : ∀ {rest}, .names before :: rest ≠ Lexeme.names (before ++ part :: tail) :: more := by
    intro rest heq
    simp at heq
  cases cs with
  | nil => exact absurd h hshort
  | cons c cs =>
      by_cases hc : isWordStart c = true
      · have hextend : (Reading.dotted before).extend? c = some (.word before [c]) := if_pos hc
        rw [lexFrom_of_extend?_eq_some hextend] at h
        have hprefix := (List.prefix_append_right_inj before).1 (prefix_of_word h)
        obtain rfl := (List.cons_prefix_cons.1 hprefix).1
        have hpart : isWordPart c = true := by simp [isWordPart, hc]
        rw [List.singleton_append, ← List.takeWhile_cons_of_pos hpart]
        exact .word hc
      by_cases hquote : c = '"'
      · subst hquote
        have hextend : (Reading.dotted before).extend? '"' = some (.quoted before []) := rfl
        rw [lexFrom_of_extend?_eq_some hextend] at h
        obtain ⟨content, rest, rfl, hprefix⟩ := (exists_of_quoted cs []).1 h
        obtain rfl := (List.cons_prefix_cons.1 ((List.prefix_append_right_inj before).1 hprefix)).1
        exact .quoted content rest
      · have hextend : (Reading.dotted before).extend? c = none := by
          simp [Reading.extend?, hc, hquote]
        rw [lexFrom_of_extend?_eq_none hextend] at h
        exact absurd h hshort

theorem not_isWhitespace_toLower {c : Char} (h : isWordPart c = true) :
    c.toLower.isWhitespace = false := by
  have hascii : ∀ n < 128, isWordPart (Char.ofNat n) = true →
      (Char.ofNat n).toLower.isWhitespace = false := by decide
  by_cases hlt : c.toNat < 128
  · have hof := hascii c.toNat hlt
    rw [Char.ofNat_toNat] at hof
    exact hof h
  · have hlower : c.toLower = c := by
      refine dif_neg fun hcapital => hlt ?_
      have hle : c.toNat ≤ 90 := hcapital.2
      omega
    rw [hlower, Char.isWhitespace]
    have hne : ∀ d : Char, d.toNat < 128 → c ≠ d := fun d hd heq => hlt (heq ▸ hd)
    simp [hne]

theorem length_takeWhile_le_doubleQuotes (stop : Char) (cs rest : List Char) (hstop : stop ≠ '"') :
    (cs.takeWhile (· ≠ stop)).length ≤
      ((Text.doubleQuotes '"' cs ++ rest).takeWhile (· ≠ stop)).length := by
  induction cs with
  | nil => exact Nat.zero_le _
  | cons c cs ih =>
      by_cases hc : c = '"'
      · subst hc
        have hlonger := ih.trans (Nat.le_succ _)
        rw [Text.doubleQuotes, if_pos rfl]
        simpa [hstop.symm] using hlonger
      · rw [Text.doubleQuotes, if_neg hc]
        by_cases hs : c = stop
        · simp [hs]
        · simpa [hs] using ih

variable {gap rest : List Char} {name : String} {stop : Char}

/-- Between quotes, a name is longer than it is, up to a character that ends it. -/
theorem not_spells_quoted (content : List Char) (hgap : ∀ c ∈ gap, c ≠ stop) (hstop : stop ≠ '"')
    (h : gap ++ '"' :: (Text.doubleQuotes '"' content ++ cs) = content ++ stop :: rest) : False := by
  have hleft : (content ++ stop :: rest).takeWhile (· ≠ stop) = content.takeWhile (· ≠ stop) := by
    rw [List.takeWhile_append]
    split
    next heq =>
      rw [(List.takeWhile_prefix _).eq_of_length heq, List.takeWhile_cons_of_neg (by simp),
        List.append_nil]
    next => rfl
  have hright : (gap ++ '"' :: (Text.doubleQuotes '"' content ++ cs)).takeWhile (· ≠ stop) =
      gap ++ '"' :: (Text.doubleQuotes '"' content ++ cs).takeWhile (· ≠ stop) := by
    rw [List.takeWhile_append_of_pos (by simpa using hgap),
      List.takeWhile_cons_of_pos (by simpa using hstop.symm)]
  have hlength := congrArg (fun cs => (cs.takeWhile (· ≠ stop)).length) h
  have hle := length_takeWhile_le_doubleQuotes stop content cs hstop
  simp only [hleft, hright, List.length_append, List.length_cons] at hlength
  omega

/-- A name that is spelled up to a mark and read as itself is a plain word. -/
theorem isPlain_of_spells (hgap : ∀ c ∈ gap, c.isWhitespace = true)
    (hstop : stop ≠ '"' ∧ stop.isWhitespace = false)
    (h : gap ++ cs = name.toList ++ stop :: rest) (hspells : Spells cs part)
    (hname : part.name = name) : gap = [] ∧ IsPlain name := by
  subst hname
  cases hspells with
  | quoted content rest =>
      refine absurd h fun h => ?_
      have hcontent : (Part.ofQuoted content).name.toList = content := String.toList_ofList
      rw [hcontent] at h
      refine not_spells_quoted content ?_ hstop.1 h
      intro c hc heq
      cases (hgap c hc).symm.trans (heq ▸ hstop.2)
  | @word c cs hc =>
      have hpart : isWordPart c = true := by simp [isWordPart, hc]
      have hread : (Part.ofWord ((c :: cs).takeWhile isWordPart)).name.toList =
          ((c :: cs).takeWhile isWordPart).map Char.toLower := String.toList_ofList
      rw [hread] at h
      -- The first character that is read is no white space.
      have hempty : gap = [] := by
        cases gap with
        | nil => rfl
        | cons g gap =>
            rw [List.takeWhile_cons_of_pos hpart, List.map_cons, List.cons_append,
              List.cons_append] at h
            have hg := hgap g List.mem_cons_self
            rw [(List.cons.inj h).1, not_isWhitespace_toLower hpart] at hg
            cases hg
      refine ⟨hempty, ?_⟩
      subst hempty
      rw [List.nil_append] at h
      have hword : ((c :: cs).takeWhile isWordPart).map Char.toLower =
          (c :: cs).takeWhile isWordPart := by
        have hprefix := List.prefix_append
          (((c :: cs).takeWhile isWordPart).map Char.toLower) (stop :: rest)
        rw [← h] at hprefix
        exact (List.prefix_of_prefix_length_le hprefix (List.takeWhile_prefix _)
          (List.length_map _).le).eq_of_length (List.length_map _)
      have hfixed : ∀ d ∈ (c :: cs).takeWhile isWordPart, d.toLower = d :=
        List.map_eq_map_iff.1 (hword.trans (List.map_id _).symm)
      have hall : ∀ d ∈ (c :: cs).takeWhile isWordPart, isWordPart d = true ∧ d.toLower = d :=
        fun d hd => ⟨List.mem_takeWhile_imp hd, hfixed d hd⟩
      rw [IsPlain, hread, hword]
      rw [List.takeWhile_cons_of_pos hpart] at hall ⊢
      simp only [isPlainWord, hc, Bool.true_and, Bool.and_eq_true, List.all_eq_true,
        decide_eq_true_eq]
      exact ⟨fun d hd => (hall d (List.mem_cons_of_mem c hd)).1, fun d hd => (hall d hd).2⟩

theorem ofWord_eq_of_isPlain (h : IsPlain name) : Part.ofWord name.toList = .word name := by
  have hfixed : ∀ c ∈ name.toList, c.toLower = id c := by
    cases hname : name.toList with
    | nil => exact List.forall_mem_nil _
    | cons c cs =>
        rw [IsPlain, hname, isPlainWord, Bool.and_eq_true, List.all_eq_true] at h
        exact fun d hd => of_decide_eq_true (h.2 d hd)
  rw [Part.ofWord, List.map_eq_map_iff.2 hfixed, List.map_id, String.ofList_toList]

theorem extends_of_isPlain (h : IsPlain name) :
    ∃ c cs, name.toList = c :: cs ∧ isWordStart c = true ∧
      ∀ before, Extends (.word before [c]) cs (.word before name.toList) := by
  rw [IsPlain] at h
  cases hname : name.toList with
  | nil =>
      rw [hname] at h
      cases h
  | cons c cs =>
      rw [hname, isPlainWord, Bool.and_eq_true, Bool.and_eq_true, List.all_eq_true] at h
      exact ⟨c, cs, rfl, h.1.1, fun before => .word before [c] h.1.2⟩

theorem ofChar_of_isWordStart {c : Char} (h : isWordStart c = true) : .ofChar c = Reading.word [] [c] := by
  have hquote : c ≠ '"' := by
    rintro rfl
    cases h
  have hquote' : c ≠ '\'' := by
    rintro rfl
    cases h
  simp [Reading.ofChar, hquote, hquote', h]

theorem extend?_dot_of_isPlain (h : IsPlain name) :
    (Reading.word [] name.toList).extend? '.' = some (.dotted [.word name]) := by
  rw [← ofWord_eq_of_isPlain h]
  rfl

theorem lexFrom_dot_of_isPlain (h : IsPlain name) (cs : List Char) :
    lexFrom .code (name.toList ++ '.' :: cs) = lexFrom (.dotted [.word name]) cs := by
  obtain ⟨c, more, hname, hc, hextends⟩ := extends_of_isPlain h
  rw [hname, List.cons_append, lexFrom_of_extend?_eq_none rfl, ofChar_of_isWordStart hc,
    (hextends []).lexFrom_eq, lexFrom_of_extend?_eq_some (extend?_dot_of_isPlain h)]
  rfl

/-- Two names with a dot between them that are read as themselves are plain words. -/
theorem isPlain_of_lexFrom {schema routine : String} {first second : Part}
    (h : lexFrom .code (schema.toList ++ '.' :: (routine.toList ++ '(' :: cs)) =
      .names [first, second] :: more)
    (hfirst : first.name = schema) (hsecond : second.name = routine) :
    IsPlain schema ∧ IsPlain routine := by
  obtain ⟨gap, rest, hcs, hgap, hspells⟩ := exists_spells_of_code h
  have hschema := (isPlain_of_spells hgap (by decide) hcs.symm hspells hfirst).2
  rw [lexFrom_dot_of_isPlain hschema] at h
  have hprefix : [.word schema] <+: [first, second] := parts_prefix_of_lexFrom h
  obtain rfl := (List.cons_prefix_cons.1 hprefix).1
  have hspells' := spells_of_dotted [.word schema] h
  have hnil : ∀ c ∈ ([] : List Char), c.isWhitespace = true := List.forall_mem_nil _
  exact ⟨hschema, (isPlain_of_spells hnil (by decide) rfl hspells' hsecond).2⟩

theorem lexes_of_isPlain {schema routine : String} (hschema : IsPlain schema)
    (hroutine : IsPlain routine) :
    Lexes (schema ++ "." ++ routine) [.names [.word schema, .word routine]] := by
  obtain ⟨c, cs, hname, hc, hextends⟩ := extends_of_isPlain hschema
  obtain ⟨d, ds, hname', hd, hextends'⟩ := extends_of_isPlain hroutine
  have htext : (schema ++ "." ++ routine).toList = c :: (cs ++ ('.' :: d :: ds)) := by
    simp [hname, hname']
  have hstart : (Reading.dotted [.word schema]).extend? d = some (.word [.word schema] [d]) :=
    if_pos hd
  have hlexes := Lexes.ofExtends htext (ofChar_of_isWordStart hc ▸
    (hextends []).append (.cons (extend?_dot_of_isPlain hschema)
      (.cons hstart (hextends' [.word schema])))) rfl
  rwa [Reading.flush, ofWord_eq_of_isPlain hroutine] at hlexes

end EntitySchema.Sql
