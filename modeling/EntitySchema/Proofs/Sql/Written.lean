import EntitySchema.Sql.Expression
import EntitySchema.Proofs.Sql.Splitting

/-!
# Names and literals in a text

Between quotes stand names and literals, and the rest of a text is plain. What was written between
quotes can be read back if no two quoted texts touch, since a quote behind a closing quote would belong
to it.
-/

namespace EntitySchema.Sql

/-- What stands between quotes. -/
inductive Quoted where
  | identifier (name : String)
  | literal (text : String)
deriving DecidableEq

namespace Quoted

/-- What a character quotes, if it is a quote. -/
def ofQuote? (c : Char) : Option (String → Quoted) :=
  if c = '"' then some identifier else if c = '\'' then some literal else none

def quote : Quoted → Char
  | identifier _ => '"'
  | literal _ => '\''

def content : Quoted → String
  | identifier name => name
  | literal text => text

def text (q : Quoted) : String := Text.quoted q.quote q.content

theorem quote_cases (q : Quoted) : q.quote = '"' ∨ q.quote = '\'' := by
  cases q with
  | identifier name => exact .inl rfl
  | literal text => exact .inr rfl

theorem ofQuote?_quote (q : Quoted) :
    ∃ make, ofQuote? q.quote = some make ∧ make q.content = q := by
  cases q with
  | identifier name => exact ⟨identifier, rfl, rfl⟩
  | literal text => exact ⟨literal, rfl, rfl⟩

end Quoted

theorem length_of_undoubleQuotes? {quote : Char} {cs text rest : List Char}
    (h : Text.undoubleQuotes? quote cs = some (text, rest)) : rest.length < cs.length := by
  induction cs using Text.undoubleQuotes?.induct quote generalizing text rest with
  | case1 => cases h
  | case2 =>
      simp only [Text.undoubleQuotes?, if_true, Option.some.injEq, Prod.mk.injEq] at h
      obtain ⟨-, rfl⟩ := h
      simp
  | case3 c hc =>
      simp [Text.undoubleQuotes?, hc] at h
  | case4 cs ih =>
      simp only [Text.undoubleQuotes?, if_true, Option.map_eq_some_iff] at h
      obtain ⟨⟨text', rest'⟩, hread, heq⟩ := h
      cases heq
      have hlt := ih hread
      simp only [List.length_cons]
      omega
  | case5 d cs hd =>
      simp only [Text.undoubleQuotes?, if_true, if_neg hd, Option.some.injEq, Prod.mk.injEq] at h
      obtain ⟨-, rfl⟩ := h
      simp
  | case6 c d cs hc ih =>
      simp only [Text.undoubleQuotes?, if_neg hc, Option.map_eq_some_iff] at h
      obtain ⟨⟨text', rest'⟩, hread, heq⟩ := h
      cases heq
      have hlt := ih hread
      simp only [List.length_cons] at hlt ⊢
      omega

/-- The names and literals of a text with their quotes undone, if every quote is closed. -/
def quotedTexts? : List Char → Option (List Quoted)
  | [] => some []
  | c :: cs =>
    match Quoted.ofQuote? c with
    | none => quotedTexts? cs
    | some make =>
      match _hread : Text.undoubleQuotes? c cs with
      | none => none
      | some (text, rest) => (quotedTexts? rest).map (make (String.ofList text) :: ·)
termination_by cs => cs.length
decreasing_by
  · simp
  · have hlt := length_of_undoubleQuotes? _hread
    simp only [List.length_cons]
    omega

/-- Characters that quote nothing. -/
def isUnquoted (c : Char) : Bool := (Quoted.ofQuote? c).isNone

theorem not_isUnquoted_quote (q : Quoted) : isUnquoted q.quote = false := by
  cases q <;> rfl

/-- Characters that neither end a statement nor begin a body or a comment. -/
def isCode (c : Char) : Bool := c != ';' && c != '$' && c != '-'

/-- Characters that do not end a body. -/
def isBody (c : Char) : Bool := c != '$'

/-- A text of quoted texts, which stand apart, and of unquoted characters of some kind. -/
inductive Written (plain : Char → Bool) : List Char → List Quoted → Prop
  | nil : Written plain [] []
  | plain {c : Char} {cs : List Char} {qs : List Quoted} :
      isUnquoted c = true → plain c = true → Written plain cs qs → Written plain (c :: cs) qs
  | quoted {q : Quoted} {cs : List Char} {qs : List Quoted} :
      cs.head? ≠ some q.quote → Written plain cs qs → Written plain (q.text.toList ++ cs) (q :: qs)

namespace Written

variable {plain other : Char → Bool} {as bs cs : List Char} {qs rs : List Quoted}

theorem mono (h : Written plain cs qs) (hplain : ∀ c, plain c = true → other c = true) :
    Written other cs qs := by
  induction h with
  | nil => exact .nil
  | plain hunquoted hc _ ih => exact .plain hunquoted (hplain _ hc) ih
  | quoted hhead _ ih => exact .quoted hhead ih

/-- Reading a text gives what was written between quotes. -/
theorem quotedTexts?_eq (h : Written plain cs qs) : quotedTexts? cs = some qs := by
  induction h with
  | nil => rw [quotedTexts?]
  | plain hunquoted _ _ ih =>
      rw [quotedTexts?, Option.isNone_iff_eq_none.1 hunquoted]
      exact ih
  | @quoted q cs qs hhead _ ih =>
      obtain ⟨make, hmake, hq⟩ := q.ofQuote?_quote
      have hread := Text.undoubleQuotes?_doubleQuotes q.content.toList hhead
      rw [Quoted.text, Text.toList_quoted, List.cons_append, List.cons_append, List.append_assoc,
        List.singleton_append, quotedTexts?, hmake]
      simp only
      split
      next heq => cases heq.symm.trans hread
      next text rest heq =>
        cases heq.symm.trans hread
        rw [ih, Option.map_some, String.ofList_toList, hq]

/-- Nothing that is quoted ends a statement. -/
theorem passes (h : Written isCode cs qs) : Passes .code cs .code := by
  induction h with
  | nil => exact .nil _
  | @plain c cs qs hunquoted hc _ ih =>
      apply Passes.append (.plain (c := c) ?_) ih
      intro hmem
      simp only [List.mem_cons, List.not_mem_nil, or_false] at hmem
      rcases hmem with rfl | rfl | rfl | rfl | rfl
      · cases hunquoted
      · cases hunquoted
      · cases hc
      · cases hc
      · cases hc
  | @quoted q cs qs _ _ ih => exact (Passes.quoted q.quote q.quote_cases q.content).append ih

/-- A text does not begin with a quote. -/
def StartsUnquoted (cs : List Char) : Prop := ∀ c, cs.head? = some c → isUnquoted c = true

theorem append (ha : Written plain as qs) (hb : Written plain bs rs) (hstart : StartsUnquoted bs) :
    Written plain (as ++ bs) (qs ++ rs) := by
  induction ha with
  | nil => exact hb
  | plain hunquoted hc _ ih => exact .plain hunquoted hc ih
  | @quoted q cs qs hhead _ ih =>
      rw [List.append_assoc, List.cons_append]
      -- If nothing else follows the closing quote, `bs` does, which must not begin with a quote.
      refine .quoted ?_ ih
      cases cs with
      | nil =>
          intro heq
          cases (not_isUnquoted_quote q).symm.trans (hstart q.quote heq)
      | cons c cs => exact hhead

theorem plainAppend (h : ∀ c ∈ as, isUnquoted c = true ∧ plain c = true)
    (hb : Written plain bs qs) : Written plain (as ++ bs) qs := by
  induction as with
  | nil => exact hb
  | cons a as ih =>
      obtain ⟨hunquoted, ha⟩ := h a List.mem_cons_self
      exact .plain hunquoted ha (ih fun c hc => h c (List.mem_cons_of_mem a hc))

theorem notMem_doubleQuotes {c quote : Char} (h : c ∉ cs) (hquote : c ≠ quote) :
    c ∉ Text.doubleQuotes quote cs := by
  induction cs with
  | nil => exact h
  | cons d cs ih =>
      have hrest := ih fun hmem => h (List.mem_cons_of_mem d hmem)
      have hd : c ≠ d := fun heq => h (heq ▸ List.mem_cons_self)
      rw [Text.doubleQuotes]
      split <;> simp [hrest, hquote, hd]

/-- A character that is not plain occurs at most in what is quoted. -/
theorem notMem {c : Char} (h : Written plain cs qs) (hplain : plain c = false)
    (hunquoted : isUnquoted c = true) (hqs : ∀ q ∈ qs, c ∉ q.content.toList) : c ∉ cs := by
  induction h with
  | nil => exact List.not_mem_nil
  | @plain d cs qs _ hd _ ih =>
      intro hmem
      rcases List.mem_cons.1 hmem with rfl | hmem
      · cases hplain.symm.trans hd
      · exact ih hqs hmem
  | @quoted q cs qs _ _ ih =>
      have hquote : c ≠ q.quote := fun heq => by
        cases (not_isUnquoted_quote q).symm.trans (heq ▸ hunquoted)
      have hcontent := notMem_doubleQuotes (hqs q List.mem_cons_self) hquote
      have hrest := ih fun r hr => hqs r (List.mem_cons_of_mem q hr)
      simp [Quoted.text, Text.toList_quoted, hquote, hcontent, hrest]

end Written

/-- Text without quotes, all of whose characters are of some kind. -/
def Plain (plain : Char → Bool) (text : String) : Prop :=
  text.toList.all (fun c => isUnquoted c && plain c) = true

instance (plain : Char → Bool) (text : String) : Decidable (Plain plain text) :=
  inferInstanceAs (Decidable (text.toList.all (fun c => isUnquoted c && plain c) = true))

theorem Plain.of_mem {plain : Char → Bool} {text : String} (h : Plain plain text) :
    ∀ c ∈ text.toList, isUnquoted c = true ∧ plain c = true := by
  intro c hc
  exact Bool.and_eq_true_iff.1 (List.all_eq_true.1 h c hc)

theorem Plain.append {plain : Char → Bool} {text more : String} (h : Plain plain text)
    (hmore : Plain plain more) : Plain plain (text ++ more) := by
  rw [Plain, String.toList_append, List.all_append, h, hmore]
  rfl

/-- A text in which these names and literals are quoted. -/
def Reads (plain : Char → Bool) (text : String) (qs : List Quoted) : Prop :=
  Written plain text.toList qs

namespace Reads

variable {plain : Char → Bool} {text more : String} {qs rs : List Quoted}

theorem prepend (lead : String) (hlead : Plain plain lead) (h : Reads plain text qs) :
    Reads plain (lead ++ text) qs := by
  rw [Reads, String.toList_append]
  exact Written.plainAppend hlead.of_mem h

theorem ofPlain (h : Plain plain text) : Reads plain text [] := by
  have hempty : Reads plain "" [] := .nil
  simpa using hempty.prepend text h

theorem ofQuoted (q : Quoted) : Reads plain q.text [q] := by
  have hwritten : Written plain (q.text.toList ++ []) [q] := .quoted (by simp) .nil
  rwa [List.append_nil] at hwritten

theorem identifier (name : String) : Reads plain (Sql.identifier name) [.identifier name] :=
  ofQuoted (.identifier name)

theorem literal (content : String) : Reads plain (Sql.literal content) [.literal content] :=
  ofQuoted (.literal content)

theorem appendPlain (h : Reads plain text qs) (gap : String) (hgap : Plain plain gap) :
    Reads plain (text ++ gap) qs := by
  rw [Reads, String.toList_append, ← List.append_nil qs]
  exact Written.append h (ofPlain hgap) fun c hc => (hgap.of_mem c (List.mem_of_head? hc)).1

/-- Texts with something plain between them. -/
theorem append (h : Reads plain text qs) (gap : String) (hgap : Plain plain gap ∧ gap ≠ "")
    (hmore : Reads plain more rs) : Reads plain (text ++ gap ++ more) (qs ++ rs) := by
  rw [Reads, String.append_assoc, String.toList_append]
  refine Written.append h (prepend gap hgap.1 hmore) fun c hc => ?_
  cases hlist : gap.toList with
  | nil => exact absurd (String.toList_inj.1 hlist) hgap.2
  | cons d ds =>
      rw [String.toList_append, hlist] at hc
      cases hc
      exact (hgap.1.of_mem _ (hlist ▸ List.mem_cons_self)).1

theorem appendJoin {α : Type} {write : α → String} {quotes : α → List Quoted} {xs : List α}
    (h : Reads plain text qs) (gap : String) (hgap : Plain plain gap ∧ gap ≠ "")
    (hxs : ∀ x ∈ xs, Reads plain (write x) (quotes x)) :
    Reads plain (text ++ String.join (xs.map fun x => gap ++ write x))
      (qs ++ xs.flatMap quotes) := by
  induction xs generalizing text qs with
  | nil => simpa using h
  | cons x xs ih =>
      have hx := append h gap hgap (hxs x List.mem_cons_self)
      have hrest := ih hx fun y hy => hxs y (List.mem_cons_of_mem x hy)
      rwa [List.map_cons, String.join_cons, List.flatMap_cons, ← List.append_assoc,
        ← String.append_assoc, ← String.append_assoc]

theorem intercalate {α : Type} {write : α → String} {quotes : α → List Quoted} {xs : List α}
    (gap : String) (hgap : Plain plain gap ∧ gap ≠ "") (hxs : ∀ x ∈ xs, Reads plain (write x) (quotes x)) :
    Reads plain (gap.intercalate (xs.map write)) (xs.flatMap quotes) := by
  induction xs with
  | nil => exact .nil
  | cons x xs ih =>
      have hx := hxs x List.mem_cons_self
      have hrest := ih fun y hy => hxs y (List.mem_cons_of_mem x hy)
      cases xs with
      | nil => simpa using hx
      | cons y ys =>
          rw [List.map_cons, List.map_cons, String.intercalate_cons_cons, List.flatMap_cons]
          exact append hx gap hgap hrest

end Reads

end EntitySchema.Sql
