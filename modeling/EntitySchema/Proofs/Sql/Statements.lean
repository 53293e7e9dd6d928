import EntitySchema.Sql.Statement
import EntitySchema.Proofs.Sql.Written

/-!
# Names and literals in statements

A statement is written so that it is not split, and that its names and literals can be read back in
the order in which they stand in it. The types of columns and the routines of triggers are not quoted,
and have to be plain; names in a function body must not contain the dollar sign that ends the body.
-/

namespace EntitySchema.Sql

def QualifiedName.quoted (q : QualifiedName) : List Quoted :=
  [.identifier q.schema, .identifier q.name]

def ColumnClause.quoted : ColumnClause → List Quoted
  | references table column => table.quoted ++ [.identifier column]
  | identity | primaryKey | notNull | defaultNow | unique => []

def TableItem.quoted : TableItem → List Quoted
  | column name _ clauses => [.identifier name] ++ clauses.flatMap ColumnClause.quoted
  | primaryKey columns => columns.flatMap fun name => [.identifier name]

def TableItem.Sound : TableItem → Prop
  | column _ type _ => Plain isCode type
  | primaryKey _ => True

namespace Expression

mutual

def quoted : Expression → List Quoted
  | newText column => [.identifier column]
  | literal text => [.literal text]
  | call _ [] => []
  | call _ (argument :: arguments) => argument.quoted ++ moreQuoted arguments

def moreQuoted : List Expression → List Quoted
  | [] => []
  | argument :: arguments => argument.quoted ++ moreQuoted arguments

end

@[simp] theorem quoted_newText (column : String) :
    (newText column).quoted = [.identifier column] := rfl

@[simp] theorem quoted_literal (text : String) : (literal text).quoted = [.literal text] := rfl

theorem moreQuoted_eq (arguments : List Expression) :
    moreQuoted arguments = arguments.flatMap quoted := by
  induction arguments with
  | nil => rfl
  | cons argument arguments ih => rw [moreQuoted, ih, List.flatMap_cons]

theorem quoted_call (function : String) (arguments : List Expression) :
    (call function arguments).quoted = arguments.flatMap quoted := by
  cases arguments with
  | nil => rfl
  | cons argument arguments => rw [quoted, moreQuoted_eq, List.flatMap_cons]

variable {plain : Char → Bool}

theorem reads_moreText {arguments : List Expression} {text : String} {qs : List Quoted}
    (h : Reads plain text qs) (hgap : Plain plain ", ")
    (harguments : ∀ argument ∈ arguments, Reads plain argument.text argument.quoted) :
    Reads plain (text ++ moreText arguments) (qs ++ moreQuoted arguments) := by
  induction arguments generalizing text qs with
  | nil => simpa [moreText, moreQuoted] using h
  | cons argument arguments ih =>
      have hargument := h.append ", " ⟨hgap, by decide⟩ (harguments argument List.mem_cons_self)
      have hmore := ih hargument fun other hother => harguments other (List.mem_cons_of_mem _ hother)
      rwa [moreText, moreQuoted, ← List.append_assoc, ← String.append_assoc,
        ← String.append_assoc]

theorem reads_call (function : String) (arguments : List Expression)
    (hfunction : Plain isBody function)
    (harguments : ∀ argument ∈ arguments, Reads isBody argument.text argument.quoted) :
    Reads isBody (call function arguments).text (call function arguments).quoted := by
  cases arguments with
  | nil => exact .ofPlain (hfunction.append (by decide))
  | cons argument arguments =>
      have hparenthesis : Plain isBody "(" := by decide
      have hopen := hfunction.append hparenthesis
      have hmore := reads_moreText (.prepend _ hopen (harguments argument List.mem_cons_self))
        (by decide) fun other hother => harguments other (List.mem_cons_of_mem _ hother)
      exact hmore.appendPlain ")" (by decide)

theorem reads_newText (column : String) :
    Reads isBody (newText column).text (newText column).quoted := by
  have hnew : Reads isBody _ _ := .prepend "NEW." (by decide) (.identifier column)
  exact hnew.appendPlain "::text" (by decide)

theorem reads_ofDerivation (derivation : ExternalId.Derivation) :
    Reads isBody (ofDerivation derivation).text (ofDerivation derivation).quoted := by
  cases derivation with
  | direct source => exact reads_newText source
  | contentHash sources =>
      have hconcat := reads_call "concat" (sources.map newText) (by decide)
        (by simpa using fun source _ => reads_newText source)
      have hconvert := reads_call "convert_to"
        [call "concat" (sources.map newText), literal "UTF8"] (by decide)
        (by simpa using ⟨hconcat, .literal "UTF8"⟩)
      have hdigest := reads_call "sha256" _ (by decide) (List.forall_mem_singleton.2 hconvert)
      exact reads_call "encode" _ (by decide) (by simpa using ⟨hdigest, .literal "hex"⟩)

/-- The expression names nothing but the columns that it depends on. -/
theorem notMem_quoted_ofDerivation {derivation : ExternalId.Derivation} {c : Char}
    (hsources : ∀ source ∈ derivation.sources, c ∉ source.toList)
    (hliterals : c ∉ "UTF8".toList ++ "hex".toList) :
    ∀ q ∈ (ofDerivation derivation).quoted, c ∉ q.content.toList := by
  rw [List.mem_append, not_or] at hliterals
  intro q hq
  cases derivation with
  | direct source =>
      rw [List.mem_singleton.1 hq]
      exact hsources source List.mem_cons_self
  | contentHash sources =>
      simp only [ofDerivation, quoted_call, List.flatMap_cons, List.flatMap_nil, List.append_nil,
        List.mem_append, List.flatMap_map, quoted_newText, quoted_literal, List.mem_flatMap,
        List.mem_singleton] at hq
      rcases hq with (⟨source, hsource, rfl⟩ | rfl) | rfl
      · exact hsources source hsource
      · exact hliterals.1
      · exact hliterals.2

end Expression

namespace Statement

/-- The names and literals of a statement, in written order. -/
def quoted : Statement → List Quoted
  | createSchema schema => [.identifier schema]
  | createTable table items => table.quoted ++ items.flatMap TableItem.quoted
  | commentOnTable table comment => table.quoted ++ [.literal comment]
  | commentOnColumn table column comment =>
    table.quoted ++ [.identifier column] ++ [.literal comment]
  | createFunction function target value => function.quoted ++ ([.identifier target] ++ value.quoted)
  | createRowTrigger name _ table function => [.identifier name] ++ table.quoted ++ function.quoted
  | createTruncateTrigger name table _ arguments =>
    [.identifier name] ++ table.quoted ++ arguments.flatMap fun text => [.literal text]

/-- Nothing has to be quoted that is not, and no body ends early. -/
def Sound : Statement → Prop
  | createTable _ items => ∀ item ∈ items, item.Sound
  | createFunction _ target value =>
    '$' ∉ target.toList ∧ Reads isBody value.text value.quoted ∧
      ∀ q ∈ value.quoted, '$' ∉ q.content.toList
  | createTruncateTrigger _ _ routine _ => Plain isCode routine
  | createSchema _ | commentOnTable _ _ | commentOnColumn _ _ _ | createRowTrigger _ _ _ _ => True

/-- The body of a trigger function. -/
def functionBody (target : String) (value : Expression) : String :=
  "\nBEGIN\n    NEW." ++ identifier target ++ " := " ++ value.text ++ ";\n    RETURN NEW;\nEND;\n"

/-- The text without the semicolon at its end. -/
def bare : Statement → String
  | createSchema schema => "CREATE SCHEMA IF NOT EXISTS " ++ identifier schema
  | createTable table items => "CREATE TABLE IF NOT EXISTS " ++ table.text ++ " (\n    "
      ++ ",\n    ".intercalate (items.map TableItem.text) ++ "\n)"
  | commentOnTable table comment => "COMMENT ON TABLE " ++ table.text ++ " IS " ++ literal comment
  | commentOnColumn table column comment =>
      "COMMENT ON COLUMN " ++ table.text ++ "." ++ identifier column ++ " IS " ++ literal comment
  | createFunction function target value =>
      "CREATE OR REPLACE FUNCTION " ++ function.text ++ "() RETURNS TRIGGER AS " ++ "$$"
        ++ functionBody target value ++ "$$" ++ " LANGUAGE plpgsql"
  | createRowTrigger name event table function =>
      "CREATE TRIGGER " ++ identifier name ++ ("\n    BEFORE " ++ event.keyword ++ " ON ")
        ++ table.text ++ "\n    FOR EACH ROW EXECUTE FUNCTION " ++ function.text ++ "()"
  | createTruncateTrigger name table routine arguments =>
      "CREATE TRIGGER " ++ identifier name ++ "\n    BEFORE TRUNCATE ON " ++ table.text
        ++ ("\n    FOR EACH STATEMENT EXECUTE FUNCTION " ++ routine ++ "(")
        ++ ", ".intercalate (arguments.map literal) ++ ")"

theorem text_eq_bare (statement : Statement) : statement.text = statement.bare ++ ";\n" := by
  apply String.toList_inj.1
  unfold bare functionBody
  cases statement <;> simp [text, lines]

/-- The text is that of the statement without the semicolon at its end. -/
structure IsBare (statement : Statement) (bare : String) : Prop where
  text_eq : statement.text = bare ++ ";\n"
  starts : bare.toList.head? = some 'C'
  passes : Passes .code bare.toList .code
  quoted_eq : quotedTexts? bare.toList = some statement.quoted

theorem IsBare.ofReads {statement : Statement} (hstarts : statement.bare.toList.head? = some 'C')
    (h : Reads isCode statement.bare statement.quoted) : statement.IsBare statement.bare :=
  ⟨statement.text_eq_bare, hstarts, h.passes, h.quotedTexts?_eq⟩

end Statement

theorem QualifiedName.reads (table : QualifiedName) : Reads isCode table.text table.quoted :=
  .append (.identifier table.schema) "." (by decide) (.identifier table.name)

theorem ColumnClause.reads (clause : ColumnClause) : Reads isCode clause.text clause.quoted := by
  cases clause with
  | references table column =>
      have htable := table.reads.prepend "REFERENCES " (by decide)
      have hcolumn := htable.append " (" (by decide) (.identifier column)
      exact hcolumn.appendPlain ")" (by decide)
  | _ => exact .ofPlain (by decide)

theorem TableItem.reads {item : TableItem} (h : item.Sound) :
    Reads isCode item.text item.quoted := by
  cases item with
  | column name type clauses =>
      have htype : Reads isCode _ _ := .append (.identifier name) " " (by decide) (.ofPlain h)
      exact htype.appendJoin " " (by decide) fun clause _ => clause.reads
  | primaryKey columns =>
      have hcolumns : Reads isCode _ _ := .intercalate ", " (by decide)
        fun name (_ : name ∈ columns) => .identifier name
      have hkey := hcolumns.prepend "PRIMARY KEY (" (by decide)
      exact hkey.appendPlain ")" (by decide)

namespace Statement

theorem isBare_createSchema (schema : String) :
    (createSchema schema).IsBare (createSchema schema).bare := by
  apply IsBare.ofReads
  · unfold bare
    simp
  · exact .prepend _ (by decide) (.identifier schema)

theorem isBare_createTable (table : QualifiedName) {items : List TableItem}
    (h : ∀ item ∈ items, item.Sound) :
    (createTable table items).IsBare (createTable table items).bare := by
  apply IsBare.ofReads
  · unfold bare
    simp
  · have hitems : Reads isCode _ _ := .intercalate ",\n    " (by decide)
      fun item hitem => TableItem.reads (h item hitem)
    have htable := table.reads.prepend "CREATE TABLE IF NOT EXISTS " (by decide)
    have hopen := htable.append " (\n    " (by decide) hitems
    exact hopen.appendPlain "\n)" (by decide)

theorem isBare_commentOnTable (table : QualifiedName) (comment : String) :
    (commentOnTable table comment).IsBare (commentOnTable table comment).bare := by
  apply IsBare.ofReads
  · unfold bare
    simp
  · have htable := table.reads.prepend "COMMENT ON TABLE " (by decide)
    exact htable.append " IS " (by decide) (.literal comment)

theorem isBare_commentOnColumn (table : QualifiedName) (column comment : String) :
    (commentOnColumn table column comment).IsBare (commentOnColumn table column comment).bare := by
  apply IsBare.ofReads
  · unfold bare
    simp
  · have htable := table.reads.prepend "COMMENT ON COLUMN " (by decide)
    have hcolumn := htable.append "." (by decide) (.identifier column)
    exact hcolumn.append " IS " (by decide) (.literal comment)

theorem reads_functionBody (target : String) {value : Expression}
    (h : Reads isBody value.text value.quoted) :
    Reads isBody (functionBody target value) ([.identifier target] ++ value.quoted) := by
  have htarget : Reads isBody _ _ :=
    .prepend "\nBEGIN\n    NEW." (by decide) (.identifier target)
  have hvalue := htarget.append " := " (by decide) h
  exact hvalue.appendPlain ";\n    RETURN NEW;\nEND;\n" (by decide)

theorem dollar_notMem_functionBody {function : QualifiedName} {target : String}
    {value : Expression} (h : (createFunction function target value).Sound) :
    '$' ∉ (functionBody target value).toList := by
  obtain ⟨htarget, hvalue, hquoted⟩ := h
  refine (reads_functionBody target hvalue).notMem rfl rfl fun q hq => ?_
  rcases List.mem_cons.1 hq with rfl | hq
  · exact htarget
  · exact hquoted q hq

theorem isBare_createFunction (function : QualifiedName) {target : String} {value : Expression}
    (h : (createFunction function target value).Sound) :
    (createFunction function target value).IsBare
      (createFunction function target value).bare := by
  have hcreate := function.reads.prepend "CREATE OR REPLACE FUNCTION " (by decide)
  have hhead := hcreate.appendPlain "() RETURNS TRIGGER AS " (by decide)
  have hbody := reads_functionBody target h.2.1
  apply IsBare.mk
  · exact text_eq_bare _
  · unfold bare
    simp
  · have htail : Reads isCode " LANGUAGE plpgsql" [] := .ofPlain (by decide)
    have hpasses :=
      (hhead.passes.append (.body (dollar_notMem_functionBody h))).append htail.passes
    unfold bare
    simpa [String.toList_append] using hpasses
  · -- Dollar signs mean nothing to a reader of names and literals.
    have hopen : Reads (fun _ => true) _ _ :=
      .append (hhead.mono fun _ _ => rfl) "$$" (by decide) (hbody.mono fun _ _ => rfl)
    have hclose := hopen.appendPlain "$$" (by decide)
    have hend := hclose.appendPlain " LANGUAGE plpgsql" (by decide)
    exact hend.quotedTexts?_eq

theorem isBare_createRowTrigger (name : String) (event : ExternalId.Event)
    (table function : QualifiedName) :
    (createRowTrigger name event table function).IsBare
      (createRowTrigger name event table function).bare := by
  apply IsBare.ofReads
  · unfold bare
    simp
  · have hbefore : Plain isCode ("\n    BEFORE " ++ event.keyword ++ " ON ") := by
      cases event <;> decide
    have hname : Reads isCode _ _ := .prepend "CREATE TRIGGER " (by decide) (.identifier name)
    have htable := hname.append _ ⟨hbefore, by simp⟩ table.reads
    have hfunction := htable.append "\n    FOR EACH ROW EXECUTE FUNCTION " (by decide)
      function.reads
    exact hfunction.appendPlain "()" (by decide)

theorem isBare_createTruncateTrigger (name : String) (table : QualifiedName) {routine : String}
    (arguments : List String) (h : Plain isCode routine) :
    (createTruncateTrigger name table routine arguments).IsBare
      (createTruncateTrigger name table routine arguments).bare := by
  apply IsBare.ofReads
  · unfold bare
    simp
  · have hexecute : Plain isCode "\n    FOR EACH STATEMENT EXECUTE FUNCTION " := by decide
    have hparenthesis : Plain isCode "(" := by decide
    have hroutine := (hexecute.append h).append hparenthesis
    have hname : Reads isCode _ _ := .prepend "CREATE TRIGGER " (by decide) (.identifier name)
    have htable := hname.append "\n    BEFORE TRUNCATE ON " (by decide) table.reads
    have harguments : Reads isCode _ _ := .intercalate ", " (by decide)
      fun text (_ : text ∈ arguments) => .literal text
    have hcall := htable.append _ ⟨hroutine, by simp⟩ harguments
    exact hcall.appendPlain ")" (by decide)

theorem exists_isBare {statement : Statement} (h : statement.Sound) :
    ∃ bare, statement.IsBare bare := by
  cases statement with
  | createSchema schema => exact ⟨_, isBare_createSchema schema⟩
  | createTable table items => exact ⟨_, isBare_createTable table h⟩
  | commentOnTable table comment => exact ⟨_, isBare_commentOnTable table comment⟩
  | commentOnColumn table column comment => exact ⟨_, isBare_commentOnColumn table column comment⟩
  | createFunction function target value => exact ⟨_, isBare_createFunction function h⟩
  | createRowTrigger name event table function =>
      exact ⟨_, isBare_createRowTrigger name event table function⟩
  | createTruncateTrigger name table routine arguments =>
      exact ⟨_, isBare_createTruncateTrigger name table arguments h⟩

end Statement

end EntitySchema.Sql
