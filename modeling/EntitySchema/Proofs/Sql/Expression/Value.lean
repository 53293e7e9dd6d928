import EntitySchema.Proofs.Sql.Expression.Reader

/-!
# Values of expressions

What the database computes for an expression over a new row. Joining texts skips nulls, and every
other function is null if one of its arguments is. The text that a trigger function assigns is read
and computed to be the external id of the row, null where the row has none.
-/

namespace EntitySchema

namespace Sha256

/-- The bytes of a word, the highest first. -/
def wordBytes (w : UInt32) : List UInt8 :=
  [24, 16, 8, 0].map fun shift => UInt8.ofNat (w.toNat >>> shift)

def digestBytes (message : List UInt8) : List UInt8 := (digest message).flatMap wordBytes

def hexByte (b : UInt8) : List Char := [hexDigit (b.toNat / 16), hexDigit (b.toNat % 16)]

theorem flatMap_hexByte_wordBytes (w : UInt32) : (wordBytes w).flatMap hexByte = hexWord w := by
  have hdigits : ∀ shift, hexByte (UInt8.ofNat (w.toNat >>> shift)) =
      [hexDigit ((w.toNat >>> (shift + 4)) % 16), hexDigit ((w.toNat >>> shift) % 16)] := by
    intro shift
    have hhigh : w.toNat >>> shift % 2 ^ 8 / 16 = w.toNat >>> (shift + 4) % 16 := by
      rw [Nat.shiftRight_add, Nat.shiftRight_eq_div_pow (w.toNat >>> shift)]
      omega
    have hlow : w.toNat >>> shift % 2 ^ 8 % 16 = w.toNat >>> shift % 16 := by omega
    rw [hexByte, UInt8.toNat_ofNat', hhigh, hlow]
  simp only [wordBytes, List.map_cons, List.map_nil, List.flatMap_cons, List.flatMap_nil, hdigits]
  rfl

theorem flatMap_hexByte_digestBytes (message : List UInt8) :
    (digestBytes message).flatMap hexByte = (digest message).flatMap hexWord := by
  rw [digestBytes, List.flatMap_assoc]
  simp only [flatMap_hexByte_wordBytes]

end Sha256

namespace Sql

open ExternalId (Row Derivation)

inductive Value where
  | null
  | text (content : String)
  | bytes (content : List UInt8)
deriving DecidableEq

namespace Value

def ofText? : Option String → Value
  | none => null
  | some content => text content

/-- The texts one after the other, where null is skipped. -/
def joinTexts? : List Value → Option String
  | [] => some ""
  | null :: values => joinTexts? values
  | text content :: values => (joinTexts? values).map (content ++ ·)
  | bytes _ :: _ => none

theorem joinTexts?_ofText? (row : Row) (sources : List String) :
    joinTexts? (sources.map fun source => ofText? (row source)) =
      some (Derivation.content row sources) := by
  induction sources with
  | nil => rfl
  | cons source sources ih =>
      rw [Derivation.content, List.map_cons, List.map_cons, String.join_cons, ← Derivation.content]
      cases row source with
      | none => rw [ofText?, joinTexts?, ih, Option.getD_none, String.empty_append]
      | some content => rw [ofText?, joinTexts?, ih, Option.map_some, Option.getD_some]

/-- The value of a function of the database, if it has one for these arguments. -/
def ofCall? (function : String) (values : List Value) : Option Value :=
  match function, values with
  | "concat", value :: values => (joinTexts? (value :: values)).map text
  | "convert_to", [text content, text "UTF8"] => some (bytes content.toUTF8.data.toList)
  | "sha256", [bytes message] => some (bytes (Sha256.digestBytes message))
  | "encode", [bytes content, text "hex"] =>
    some (text (String.ofList (content.flatMap Sha256.hexByte)))
  | "convert_to", values | "sha256", values | "encode", values =>
    if null ∈ values then some null else none
  | _, _ => none

end Value

namespace Expression

mutual

def value? (row : Row) : Expression → Option Value
  | newText column => some (.ofText? (row column))
  | literal text => some (.text text)
  | call function arguments => (values? row arguments).bind (Value.ofCall? function)

def values? (row : Row) : List Expression → Option (List Value)
  | [] => some []
  | argument :: arguments =>
    (argument.value? row).bind fun value => (values? row arguments).map (value :: ·)

end

theorem values?_newText (row : Row) (columns : List String) :
    values? row (columns.map newText) = some (columns.map fun column => .ofText? (row column)) := by
  induction columns with
  | nil => rfl
  | cons column columns ih =>
      rw [List.map_cons, values?, ih, value?]
      rfl

theorem value?_call {row : Row} (function : String) {arguments : List Expression}
    {values : List Value} (h : values? row arguments = some values) :
    (call function arguments).value? row = Value.ofCall? function values := by
  rw [value?, h, Option.bind_some]

theorem values?_singleton {row : Row} {argument : Expression} {value : Value}
    (h : argument.value? row = some value) : values? row [argument] = some [value] := by
  rw [values?, h]
  rfl

theorem values?_pair {row : Row} {argument : Expression} {value : Value} (content : String)
    (h : argument.value? row = some value) :
    values? row [argument, literal content] = some [value, .text content] := by
  rw [values?, h]
  rfl

theorem value?_ofDerivation (row : Row) {derivation : Derivation} (h : derivation.sources ≠ []) :
    (ofDerivation derivation).value? row = some (.ofText? (derivation.value row)) := by
  cases derivation with
  | direct source => rfl
  | contentHash sources =>
      have hconcat : (call "concat" (sources.map newText)).value? row =
          some (.text (Derivation.content row sources)) := by
        obtain ⟨source, rest, rfl⟩ := List.exists_cons_of_ne_nil h
        rw [value?_call "concat" (values?_newText row (source :: rest)), ← Option.map_some,
          ← Value.joinTexts?_ofText?]
        rfl
      have hconvert := value?_call "convert_to" (values?_pair "UTF8" hconcat)
      have hdigest := value?_call "sha256" (values?_singleton hconvert)
      have hencode := value?_call "encode" (values?_pair "hex" hdigest)
      rw [ofDerivation, hencode, Value.ofCall?, Sha256.flatMap_hexByte_digestBytes]
      rfl

theorem named_ofDerivation (derivation : Derivation) : (ofDerivation derivation).Named := by
  cases derivation with
  | direct source => trivial
  | contentHash sources =>
      have hsources : AllNamed (sources.map newText) := by
        rw [allNamed_iff, List.forall_mem_map]
        exact fun source _ => trivial
      have hconcat : (call "concat" (sources.map newText)).Named := ⟨by decide, hsources⟩
      have hconvert : (call "convert_to"
          [call "concat" (sources.map newText), literal "UTF8"]).Named :=
        ⟨by decide, hconcat, trivial, trivial⟩
      exact ⟨by decide, ⟨by decide, hconvert, trivial⟩, trivial, trivial⟩

theorem sources_ne_nil_of_ofEntity {namer : Identifier.Namer} {entity : Entity}
    {derivation : Derivation} (h : Derivation.ofEntity namer entity = .ok (some derivation)) :
    derivation.sources ≠ [] := by
  unfold Derivation.ofEntity at h
  split at h
  next identifiers _ =>
    have hsources := Except.ok.inj h
    rw [Derivation.sources_of_ofSources? hsources]
    rintro rfl
    cases hsources
  · cases h

/-- Whatever the columns are called and whichever of them are null, what the database reads and
computes for the text of an external id is the external id of the row. -/
theorem value?_of_read_ofDerivation {namer : Identifier.Namer} {entity : Entity}
    {derivation : Derivation} (h : Derivation.ofEntity namer entity = .ok (some derivation))
    (row : Row) :
    (ofText? (ofDerivation derivation).text).bind (value? row) =
      some (.ofText? (derivation.value row)) := by
  rw [ofText?_text (named_ofDerivation derivation), Option.bind_some]
  exact value?_ofDerivation row (sources_ne_nil_of_ofEntity h)

/-- Sources whose names contain quotes, commas and parentheses. -/
def quoting : Entity where
  name := "quoting"
  columns := [{ name := "a\"),(NEW.\"b", type := "text" }, { name := "c''", type := "text" },
    { name := "Ü(::text", type := "text" }]
  externalIdSources := ["Ü(::text", "c''", "a\"),(NEW.\"b"]

theorem value?_of_read_quoting :
    Derivation.ofEntity {} quoting =
        .ok (some (.contentHash ["ü(::text", "c''", "a\")_(new_\"b"])) ∧
      (ofText? ("encode(sha256(convert_to(concat(NEW.\"ü(::text\"::text, NEW.\"c''\"::text, "
          ++ "NEW.\"a\"\")_(new_\"\"b\"::text), 'UTF8')), 'hex')")).bind
          (value? fun column => if column = "c''" then none else some column) =
        some (.text (Sha256.hexDigest "ü(::texta\")_(new_\"b")) := by
  have hderivation : Derivation.ofEntity {} quoting =
      .ok (some (.contentHash ["ü(::text", "c''", "a\")_(new_\"b"])) := by decide +kernel
  exact ⟨hderivation, value?_of_read_ofDerivation hderivation _⟩

end Expression

end Sql

end EntitySchema
