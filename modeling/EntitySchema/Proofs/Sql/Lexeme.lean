import EntitySchema.Sql.Statement

/-!
# Lexemes

A script is read lexeme by lexeme, each of which is as long as possible. A name is either a word, which
is folded to lower case, or any text between double quotes; names with dots between them are one
lexeme. Reserved words are not told from other words, and white space around a dot ends the lexeme.
-/

namespace EntitySchema.Sql

/-- A name with what it is read from. -/
inductive Part where
  | word (name : String)
  | quoted (name : String)
deriving DecidableEq

namespace Part

def name : Part → String
  | word name | quoted name => name

/-- The name that is read from a word. Only the letters of ASCII are folded. -/
def ofWord (text : List Char) : Part := word (String.ofList (text.map Char.toLower))

def ofQuoted (text : List Char) : Part := quoted (String.ofList text)

end Part

inductive Lexeme where
  /-- Names that dots lead from one to the next. -/
  | names (parts : List Part)
  | literal
  /-- A text between double dollar signs. -/
  | body
  | comment
  | mark (c : Char)
deriving DecidableEq

/-- Characters that a word can begin with. -/
def isWordStart (c : Char) : Bool := c.isAlpha || c = '_' || decide (128 ≤ c.toNat)

/-- Characters that a word can go on with. -/
def isWordPart (c : Char) : Bool := isWordStart c || c.isDigit || c = '$'

/-- The lexeme that a reader is in the middle of, or perhaps behind. -/
inductive Reading where
  | code
  | mark (c : Char)
  | word (before : List Part) (text : List Char)
  | quoted (before : List Part) (text : List Char)
  | closed (before : List Part) (text : List Char)
  /-- Behind the dot after names. -/
  | dotted (parts : List Part)
  | literal
  | literalEnd
  | comment
  | body
  | bodyDollar
  | bodyEnd
deriving DecidableEq

namespace Reading

/-- What a character begins. -/
def ofChar (c : Char) : Reading :=
  if c = '"' then quoted [] []
  else if c = '\'' then literal
  else if isWordStart c then word [] [c]
  else if c.isWhitespace then code
  else mark c

/-- The lexeme with one more character, if that belongs to it. -/
def extend? : Reading → Char → Option Reading
  | code, _ => none
  | mark d, c =>
    if d = '-' ∧ c = '-' then some comment else if d = '$' ∧ c = '$' then some body else none
  | word before text, c =>
    if isWordPart c then some (word before (text ++ [c]))
    else if c = '.' then some (dotted (before ++ [.ofWord text])) else none
  | quoted before text, c =>
    if c = '"' then some (closed before text) else some (quoted before (text ++ [c]))
  | closed before text, c =>
    if c = '"' then some (quoted before (text ++ ['"']))
    else if c = '.' then some (dotted (before ++ [.ofQuoted text])) else none
  | dotted parts, c =>
    if isWordStart c then some (word parts [c])
    else if c = '"' then some (quoted parts []) else none
  | literal, c => if c = '\'' then some literalEnd else some literal
  | literalEnd, c => if c = '\'' then some literal else none
  | comment, c => if c = '\n' ∨ c = '\r' then none else some comment
  | body, c => if c = '$' then some bodyDollar else some body
  | bodyDollar, c => if c = '$' then some bodyEnd else some body
  | bodyEnd, _ => none

/-- The lexemes that have been read if the lexeme ends here. Of what is not closed, the mark that
opens it is left. -/
def flush : Reading → List Lexeme
  | code => []
  | mark c => [.mark c]
  | word before text => [.names (before ++ [.ofWord text])]
  | quoted _ _ => [.mark '"']
  | closed before text => [.names (before ++ [.ofQuoted text])]
  | dotted parts => [.names parts, .mark '.']
  | literal => [.mark '\'']
  | literalEnd => [.literal]
  | comment => [.comment]
  | body | bodyDollar => [.mark '$']
  | bodyEnd => [.body]

def next (reading : Reading) (c : Char) : Reading := (reading.extend? c).getD (ofChar c)

def after (reading : Reading) (cs : List Char) : Reading := cs.foldl next reading

/-- Lexemes that may end where they are. -/
def isWhole : Reading → Bool
  | code | mark _ | word _ _ | closed _ _ | literalEnd | bodyEnd => true
  | quoted _ _ | dotted _ | literal | comment | body | bodyDollar => false

/-- Lexemes that nothing can be added to. -/
def isDone : Reading → Bool
  | code | bodyEnd => true
  | mark c => c != '-' && c != '$'
  | word _ _ | closed _ _ | literalEnd | quoted _ _ | dotted _ | literal | comment | body
  | bodyDollar => false

end Reading

/-- The lexemes of a text, of which the first one is being read already. -/
def lexFrom : Reading → List Char → List Lexeme
  | reading, [] => reading.flush
  | reading, c :: cs =>
    match reading.extend? c with
    | some longer => lexFrom longer cs
    | none => reading.flush ++ lexFrom (.ofChar c) cs

def lex (text : String) : List Lexeme := lexFrom .code text.toList

/-- Also where a quoted name contains a quote or a dot. -/
example : lex "A.\"B\"\"c.\" := 'x''y'; -- ;\n$$ ; $$" =
    [.names [.word "a", .quoted "B\"c."], .mark ':', .mark '=', .literal, .mark ';', .comment,
      .body] := by decide

/-- Characters that end every lexeme that may end. -/
def breaks (c : Char) : Bool := !isWordPart c && !(['.', '"', '\'', '-'].contains c)

variable {reading longer : Reading} {c : Char} {as bs cs : List Char}

namespace Reading

theorem extend?_of_breaks (h : reading.isWhole = true) (hc : breaks c = true) :
    reading.extend? c = none := by
  simp only [breaks, isWordPart, Bool.and_eq_true, Bool.not_eq_true', Bool.or_eq_false_iff,
    decide_eq_false_iff_not, List.contains_cons, List.contains_nil, beq_eq_false_iff_ne] at hc
  cases reading <;> simp_all [extend?, isWhole, isWordPart]

theorem extend?_of_isDone (h : reading.isDone = true) : reading.extend? c = none := by
  cases reading <;> simp_all [extend?, isDone]

theorem isWhole_of_isDone (h : reading.isDone = true) : reading.isWhole = true := by
  cases reading <;> simp_all [isDone, isWhole]

theorem after_append (reading : Reading) (as bs : List Char) :
    reading.after (as ++ bs) = (reading.after as).after bs :=
  List.foldl_append

theorem after_cons_of_extend?_eq_none (h : reading.extend? c = none) (cs : List Char) :
    reading.after (c :: cs) = code.after (c :: cs) := by
  rw [after, after, List.foldl_cons, List.foldl_cons, next, h]
  rfl

end Reading

theorem lexFrom_of_extend?_eq_some (h : reading.extend? c = some longer) (cs : List Char) :
    lexFrom reading (c :: cs) = lexFrom longer cs := by
  simp only [lexFrom, h]

theorem lexFrom_of_extend?_eq_none (h : reading.extend? c = none) (cs : List Char) :
    lexFrom reading (c :: cs) = reading.flush ++ lexFrom (.ofChar c) cs := by
  simp only [lexFrom, h]

theorem lexFrom_append (h : ∀ c, bs.head? = some c → (reading.after as).extend? c = none) :
    lexFrom reading (as ++ bs) = lexFrom reading as ++ lexFrom .code bs := by
  induction as generalizing reading with
  | nil =>
      cases bs with
      | nil => exact (List.append_nil _).symm
      | cons c bs =>
          have hc : reading.extend? c = none := h c rfl
          rw [List.nil_append, lexFrom_of_extend?_eq_none hc]
          rfl
  | cons a as ih =>
      rw [Reading.after, List.foldl_cons, Reading.next] at h
      cases hextend : reading.extend? a with
      | some longer =>
          rw [hextend] at h
          rw [List.cons_append, lexFrom_of_extend?_eq_some hextend,
            lexFrom_of_extend?_eq_some hextend]
          exact ih h
      | none =>
          rw [hextend] at h
          rw [List.cons_append, lexFrom_of_extend?_eq_none hextend,
            lexFrom_of_extend?_eq_none hextend, List.append_assoc]
          exact congrArg _ (ih h)

/-- Text that only adds to the lexeme that is being read. -/
def Extends (reading : Reading) (cs : List Char) (longer : Reading) : Prop :=
  cs.foldlM Reading.extend? reading = some longer

namespace Extends

variable {middle : Reading}

theorem nil (reading : Reading) : Extends reading [] reading := rfl

theorem cons (hc : reading.extend? c = some middle) (h : Extends middle cs longer) :
    Extends reading (c :: cs) longer := by
  rw [Extends, List.foldlM_cons, hc]
  exact h

theorem append (ha : Extends reading as middle) (hb : Extends middle bs longer) :
    Extends reading (as ++ bs) longer := by
  rw [Extends, List.foldlM_append, ha]
  exact hb

theorem lexFrom_eq (h : Extends reading cs longer) (rest : List Char) :
    lexFrom reading (cs ++ rest) = lexFrom longer rest := by
  induction cs generalizing reading with
  | nil =>
      cases h
      rfl
  | cons c cs ih =>
      rw [Extends, List.foldlM_cons] at h
      obtain ⟨middle, hc, hcs⟩ := Option.bind_eq_some_iff.1 h
      rw [List.cons_append, lexFrom_of_extend?_eq_some hc]
      exact ih hcs

theorem after_eq (h : Extends reading cs longer) : reading.after cs = longer := by
  induction cs generalizing reading with
  | nil =>
      cases h
      rfl
  | cons c cs ih =>
      rw [Extends, List.foldlM_cons] at h
      obtain ⟨middle, hc, hcs⟩ := Option.bind_eq_some_iff.1 h
      rw [Reading.after, List.foldl_cons, Reading.next, hc]
      exact ih hcs

theorem quoted (before : List Part) (text cs : List Char) :
    Extends (.quoted before text) (Text.doubleQuotes '"' cs ++ ['"'])
      (.closed before (text ++ cs)) := by
  induction cs generalizing text with
  | nil =>
      rw [List.append_nil]
      exact cons rfl (nil _)
  | cons c cs ih =>
      have hlonger := ih (text ++ [c])
      rw [List.append_assoc, List.singleton_append] at hlonger
      by_cases hc : c = '"'
      · subst hc
        exact cons rfl (cons rfl hlonger)
      · rw [Text.doubleQuotes, if_neg hc]
        exact cons (if_neg hc) hlonger

theorem identifier (name : String) :
    Extends (.ofChar '"') (Text.doubleQuotes '"' name.toList ++ ['"'])
      (.closed [] name.toList) :=
  quoted [] [] name.toList

theorem dot_identifier (before : List Part) (text : List Char) (name : String) :
    Extends (.closed before text) ('.' :: (Sql.identifier name).toList)
      (.closed (before ++ [.ofQuoted text]) name.toList) := by
  have hname := quoted (before ++ [.ofQuoted text]) [] name.toList
  rw [Sql.identifier, Text.toList_quoted]
  exact cons rfl (cons rfl hname)

theorem literal (cs : List Char) :
    Extends .literal (Text.doubleQuotes '\'' cs ++ ['\'']) .literalEnd := by
  induction cs with
  | nil => exact cons rfl (nil _)
  | cons c cs ih =>
      by_cases hc : c = '\''
      · subst hc
        exact cons rfl (cons rfl ih)
      · rw [Text.doubleQuotes, if_neg hc]
        exact cons (if_neg hc) ih

theorem word (before : List Part) (text : List Char) (h : ∀ c ∈ cs, isWordPart c = true) :
    Extends (.word before text) cs (.word before (text ++ cs)) := by
  induction cs generalizing text with
  | nil =>
      rw [List.append_nil]
      exact nil _
  | cons c cs ih =>
      obtain ⟨hc, hcs⟩ := List.forall_mem_cons.1 h
      have hlonger := ih (text ++ [c]) hcs
      rw [List.append_assoc, List.singleton_append] at hlonger
      exact cons (if_pos hc) hlonger

theorem body (h : '$' ∉ cs) : Extends .body (cs ++ ['$', '$']) .bodyEnd := by
  induction cs with
  | nil => exact cons rfl (cons rfl (nil _))
  | cons c cs ih =>
      have hc : c ≠ '$' := fun heq => h (heq ▸ List.mem_cons_self)
      exact cons (if_neg hc) (ih fun hmem => h (List.mem_cons_of_mem c hmem))

end Extends

/-- A text with its lexemes, the last of which may end where the text ends. -/
structure Lexes (text : String) (lexemes : List Lexeme) : Prop where
  lex_eq : lex text = lexemes
  isWhole : (Reading.code.after text.toList).isWhole = true

namespace Lexes

variable {text more : String} {ls ms gs : List Lexeme}

theorem ofWhole (text : String) (h : (Reading.code.after text.toList).isWhole = true) :
    Lexes text (lex text) := ⟨rfl, h⟩

theorem join (ha : Lexes text ls) (hb : Lexes more ms)
    (h : ∀ c, more.toList.head? = some c →
      (Reading.code.after text.toList).extend? c = none) : Lexes (text ++ more) (ls ++ ms) := by
  constructor
  · rw [lex, String.toList_append, lexFrom_append h]
    exact congr (congrArg _ ha.lex_eq) hb.lex_eq
  · rw [String.toList_append, Reading.after_append]
    cases hmore : more.toList with
    | nil => exact ha.isWhole
    | cons c cs =>
        rw [Reading.after_cons_of_extend?_eq_none (h c (by rw [hmore]; rfl)), ← hmore]
        exact hb.isWhole

theorem prepend (lead : String) (hlead : (Reading.code.after lead.toList).isDone = true)
    (h : Lexes text ls) : Lexes (lead ++ text) (lex lead ++ ls) :=
  (ofWhole lead (Reading.isWhole_of_isDone hlead)).join h fun _ _ =>
    Reading.extend?_of_isDone hlead

theorem append (ha : Lexes text ls) (hb : Lexes more ms)
    (hbreaks : more.toList.head?.all breaks = true) : Lexes (text ++ more) (ls ++ ms) := by
  refine ha.join hb fun c hc => Reading.extend?_of_breaks ha.isWhole ?_
  rw [hc] at hbreaks
  exact hbreaks

/-- What ends a text decides what stands behind both. -/
theorem after_append (h : Lexes text ls) (hbreaks : more.toList.head?.any breaks = true) :
    Reading.code.after (text ++ more).toList = Reading.code.after more.toList := by
  rw [String.toList_append, Reading.after_append]
  cases hmore : more.toList with
  | nil =>
      rw [hmore] at hbreaks
      cases hbreaks
  | cons c cs =>
      rw [hmore] at hbreaks
      exact Reading.after_cons_of_extend?_eq_none (Reading.extend?_of_breaks h.isWhole hbreaks) cs

/-- Texts with something between them that ends the one and is done before the other. -/
theorem between (ha : Lexes text ls) (gap : String)
    (hgap : gap.toList.head?.any breaks = true ∧ (Reading.code.after gap.toList).isDone = true)
    (hb : Lexes more ms) : Lexes (text ++ gap ++ more) (ls ++ (lex gap ++ ms)) := by
  rw [String.append_assoc]
  refine ha.append (hb.prepend gap hgap.2) ?_
  cases hlist : gap.toList with
  | nil =>
      rw [hlist] at hgap
      cases hgap.1
  | cons c cs =>
      rw [hlist] at hgap
      rw [String.toList_append, hlist]
      exact hgap.1

theorem intercalate {α : Type} {write : α → String} {read : α → List Lexeme} {xs : List α}
    (gap : String)
    (hgap : gap.toList.head?.any breaks = true ∧ (Reading.code.after gap.toList).isDone = true)
    (hxs : ∀ x ∈ xs, Lexes (write x) (read x)) :
    Lexes (gap.intercalate (xs.map write)) ((lex gap).intercalate (xs.map read)) := by
  induction xs with
  | nil => exact ofWhole "" rfl
  | cons x xs ih =>
      have hx := hxs x List.mem_cons_self
      have hrest := ih fun y hy => hxs y (List.mem_cons_of_mem x hy)
      cases xs with
      | nil => simpa [List.intercalate] using hx
      | cons y ys =>
          rw [List.map_cons, List.map_cons, String.intercalate_cons_cons, List.map_cons,
            List.map_cons, List.intercalate_cons_cons, List.append_assoc]
          exact hx.between gap hgap hrest

theorem ofExtends {c : Char} {cs : List Char} {last : Reading} (htext : text.toList = c :: cs)
    (h : Extends (.ofChar c) cs last) (hlast : last.isWhole = true) : Lexes text last.flush := by
  constructor
  · have hlex := h.lexFrom_eq []
    rw [List.append_nil] at hlex
    rw [lex, htext]
    exact hlex
  · rw [htext, Reading.after, List.foldl_cons]
    exact (congrArg _ h.after_eq).trans hlast

theorem identifier (name : String) : Lexes (Sql.identifier name) [.names [.quoted name]] := by
  have htext : (Sql.identifier name).toList = '"' :: (Text.doubleQuotes '"' name.toList ++ ['"']) :=
    Text.toList_quoted '"' name
  have hlexes := ofExtends htext (.identifier name) rfl
  simpa [Reading.flush, Part.ofQuoted] using hlexes

theorem qualified (q : QualifiedName) :
    Lexes q.text [.names [.quoted q.schema, .quoted q.name]] := by
  have htext : q.text.toList = '"' :: ((Text.doubleQuotes '"' q.schema.toList ++ ['"']) ++
      ('.' :: (Sql.identifier q.name).toList)) := by
    simp [QualifiedName.text, Sql.identifier, Text.toList_quoted]
  have hlexes := ofExtends htext
    ((Extends.identifier q.schema).append (.dot_identifier _ _ q.name)) rfl
  simpa [Reading.flush, Part.ofQuoted] using hlexes

theorem qualified_dot (q : QualifiedName) (name : String) :
    Lexes (q.text ++ "." ++ Sql.identifier name)
      [.names [.quoted q.schema, .quoted q.name, .quoted name]] := by
  have htext : (q.text ++ "." ++ Sql.identifier name).toList =
      '"' :: ((Text.doubleQuotes '"' q.schema.toList ++ ['"']) ++
        ('.' :: (Sql.identifier q.name).toList) ++ ('.' :: (Sql.identifier name).toList)) := by
    simp [QualifiedName.text, Sql.identifier, Text.toList_quoted]
  have hlexes := ofExtends htext (((Extends.identifier q.schema).append
    (.dot_identifier _ _ q.name)).append (.dot_identifier _ _ name)) rfl
  simpa [Reading.flush, Part.ofQuoted] using hlexes

theorem literal (content : String) : Lexes (Sql.literal content) [.literal] :=
  ofExtends (Text.toList_quoted '\'' content) (.literal content.toList) rfl

theorem body (h : '$' ∉ text.toList) : Lexes ("$$" ++ text ++ "$$") [.body] := by
  have hopen : Extends (.ofChar '$') ['$'] .body := rfl
  refine ofExtends ?_ (hopen.append (.body h)) rfl
  simp

end Lexes

end EntitySchema.Sql
