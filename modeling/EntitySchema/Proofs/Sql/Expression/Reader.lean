import EntitySchema.Proofs.Sql.Expression.Token

/-!
# Reading expressions

An expression is read from its tokens, with the calls that are still open on a stack. Reading what
was written gives the expression back: quoted names end where they should, so that commas and
parentheses in them are not taken for those of a call.
-/

namespace EntitySchema.Sql

namespace Expression

mutual

def tokens : Expression → List Token
  | newText column => [.word "NEW", .dot, .quoted (.identifier column), .cast, .word "text"]
  | literal text => [.quoted (.literal text)]
  | call function [] => [.word function, .opening, .closing]
  | call function (argument :: arguments) =>
    .word function :: .opening :: (argument.tokens ++ moreTokens arguments ++ [.closing])

def moreTokens : List Expression → List Token
  | [] => []
  | argument :: arguments => .comma :: (argument.tokens ++ moreTokens arguments)

end

mutual

/-- Every function in the expression has a word as its name. -/
def Named : Expression → Prop
  | newText _ | literal _ => True
  | call function arguments => Token.IsWord function ∧ AllNamed arguments

def AllNamed : List Expression → Prop
  | [] => True
  | argument :: arguments => argument.Named ∧ AllNamed arguments

end

theorem allNamed_iff {arguments : List Expression} :
    AllNamed arguments ↔ ∀ argument ∈ arguments, argument.Named := by
  induction arguments with
  | nil => simp [AllNamed]
  | cons argument arguments ih => rw [AllNamed, ih, List.forall_mem_cons]

theorem stops_moreText (arguments : List Expression) {cs : List Char} (hcs : Token.Stops cs) :
    Token.Stops ((moreText arguments).toList ++ cs) := by
  cases arguments with
  | nil => simpa [moreText] using hcs
  | cons argument arguments =>
      rw [moreText, String.toList_append, String.toList_append]
      exact Token.stops_cons (c := ',') (by decide) _

theorem list?_newText (column : String) {cs : List Char} (hcs : Token.Stops cs) :
    Token.list? ((newText column).text.toList ++ cs) =
      (Token.list? cs).map ((newText column).tokens ++ ·) := by
  have htext : (newText column).text.toList ++ cs =
      "NEW".toList ++ '.' :: ((Quoted.identifier column).text.toList ++
        ':' :: ':' :: ("text".toList ++ cs)) := by
    simp [text, identifier, Quoted.text, Quoted.quote, Quoted.content]
  rw [htext, Token.list?_word (by decide) (Token.stops_cons (by decide) _),
    Token.list?_mark .dot rfl, Token.list?_quoted _ (Token.stops_cons (by decide) _),
    Token.list?_cast, Token.list?_word (by decide) hcs]
  simp only [Option.map_map]
  rfl

theorem list?_literal (content : String) {cs : List Char} (hcs : Token.Stops cs) :
    Token.list? ((literal content).text.toList ++ cs) =
      (Token.list? cs).map ((literal content).tokens ++ ·) :=
  Token.list?_quoted (.literal content) hcs

mutual

theorem list?_text (e : Expression) (h : e.Named) {cs : List Char} (hcs : Token.Stops cs) :
    Token.list? (e.text.toList ++ cs) = (Token.list? cs).map (e.tokens ++ ·) := by
  cases e with
  | newText column => exact list?_newText column hcs
  | literal content => exact list?_literal content hcs
  | call function arguments =>
      obtain ⟨hfunction, harguments⟩ := h
      cases arguments with
      | nil =>
          have htext : (call function []).text.toList ++ cs =
              function.toList ++ '(' :: ')' :: cs := by
            simp [text]
          rw [htext, Token.list?_word hfunction (Token.stops_cons (by decide) _),
            Token.list?_mark .opening rfl, Token.list?_mark .closing rfl]
          simp only [Option.map_map]
          rfl
      | cons argument arguments =>
          have htext : (call function (argument :: arguments)).text.toList ++ cs =
              function.toList ++ '(' ::
                (argument.text.toList ++ ((moreText arguments).toList ++ ')' :: cs)) := by
            simp [text]
          have hclose : Token.Stops (')' :: cs) := Token.stops_cons (by decide) cs
          rw [htext, Token.list?_word hfunction (Token.stops_cons (by decide) _),
            Token.list?_mark .opening rfl,
            list?_text argument harguments.1 (stops_moreText arguments hclose),
            list?_moreText arguments harguments.2 hclose, Token.list?_mark .closing rfl]
          simp only [Option.map_map]
          congr 1
          funext ts
          simp [tokens]

theorem list?_moreText (es : List Expression) (h : AllNamed es) {cs : List Char}
    (hcs : Token.Stops cs) :
    Token.list? ((moreText es).toList ++ cs) = (Token.list? cs).map (moreTokens es ++ ·) := by
  cases es with
  | nil => simp [moreText, moreTokens]
  | cons e es =>
      have htext : (moreText (e :: es)).toList ++ cs =
          ',' :: ' ' :: (e.text.toList ++ ((moreText es).toList ++ cs)) := by
        simp [moreText]
      rw [htext, Token.list?_mark .comma rfl, Token.list?_blank,
        list?_text e h.1 (stops_moreText es hcs), list?_moreText es h.2 hcs]
      simp only [Option.map_map]
      congr 1
      funext ts
      simp [moreTokens]

end

/-- A call that is still open, with the arguments read so far in reverse. -/
structure Frame where
  function : String
  arguments : List Expression

/-- What the reader has before it: nothing, so that an expression has to follow, or a complete one.
-/
inductive Focus where
  | awaiting
  | complete (e : Expression)

def read : Focus → List Frame → List Token → Option Expression
  | .awaiting, frames, .word "NEW" :: .dot :: .quoted (.identifier column) :: .cast
      :: .word "text" :: ts =>
    read (.complete (newText column)) frames ts
  | .awaiting, frames, .quoted (.literal text) :: ts => read (.complete (literal text)) frames ts
  | .awaiting, frames, .word function :: .opening :: .closing :: ts =>
    read (.complete (call function [])) frames ts
  | .awaiting, frames, .word function :: .opening :: ts =>
    read .awaiting (⟨function, []⟩ :: frames) ts
  | .complete e, [], [] => some e
  | .complete e, ⟨function, arguments⟩ :: frames, .comma :: ts =>
    read .awaiting (⟨function, e :: arguments⟩ :: frames) ts
  | .complete e, ⟨function, arguments⟩ :: frames, .closing :: ts =>
    read (.complete (call function (e :: arguments).reverse)) frames ts
  | _, _, _ => none

def ofText? (text : String) : Option Expression :=
  (Token.list? text.toList).bind (read .awaiting [])

theorem head?_tokens_ne_closing (e : Expression) (ts : List Token) :
    (e.tokens ++ ts).head? ≠ some .closing := by
  cases e with
  | newText column => simp [tokens]
  | literal text => simp [tokens]
  | call function arguments => cases arguments <;> simp [tokens]

mutual

theorem read_tokens (e : Expression) (frames : List Frame) (ts : List Token) :
    read .awaiting frames (e.tokens ++ ts) = read (.complete e) frames ts := by
  cases e with
  | newText column => simp [tokens, read]
  | literal text => simp [tokens, read]
  | call function arguments =>
      cases arguments with
      | nil => simp [tokens, read]
      | cons argument arguments =>
          have hopen : read .awaiting frames ((call function (argument :: arguments)).tokens ++ ts) =
              read .awaiting (⟨function, []⟩ :: frames)
                (argument.tokens ++ (moreTokens arguments ++ .closing :: ts)) := by
            have hhead := head?_tokens_ne_closing argument (moreTokens arguments ++ .closing :: ts)
            simp only [tokens, List.cons_append, List.append_assoc, List.nil_append]
            rw [read]
            rintro rest heq
            rw [heq] at hhead
            exact hhead rfl
          rw [hopen, read_tokens argument, read_moreTokens arguments]
          simp

theorem read_moreTokens (es : List Expression) (e : Expression) (function : String)
    (before : List Expression) (frames : List Frame) (ts : List Token) :
    read (.complete e) (⟨function, before⟩ :: frames) (moreTokens es ++ .closing :: ts) =
      read (.complete (call function (before.reverse ++ e :: es))) frames ts := by
  cases es with
  | nil => simp [moreTokens, read]
  | cons next es =>
      simp only [moreTokens, List.cons_append, List.append_assoc]
      rw [read, read_tokens next, read_moreTokens es]
      simp

end

/-- Reading the text of an expression gives the expression back. -/
theorem ofText?_text {e : Expression} (h : e.Named) : ofText? e.text = some e := by
  have htokens := list?_text e h Token.stops_nil
  rw [List.append_nil] at htokens
  have hread := read_tokens e [] []
  rw [List.append_nil] at hread
  rw [ofText?, htokens, Token.list?, Option.map_some, Option.bind_some, List.append_nil, hread, read]

end Expression

end EntitySchema.Sql
