import EntitySchema.Proofs.Json.Escape

/-!
# Texts of a JSON value

A value is written as a sequence of tokens. Blanks may stand anywhere between them, so a value has many
texts, one of which is printed; every one of them has the same tokens when it is read.
-/

namespace EntitySchema.Json

open Token (isBlank next? listAfter)

/-- How a token is written. Numerals, which have more than one form, are left out. -/
def Token.spelling? : Token → Option (List Char)
  | .beginArray => some ['[']
  | .endArray => some [']']
  | .beginObject => some ['\x7b']
  | .endObject => some ['\x7d']
  | .comma => some [',']
  | .colon => some [':']
  | .null => some ['n', 'u', 'l', 'l']
  | .bool true => some ['t', 'r', 'u', 'e']
  | .bool false => some ['f', 'a', 'l', 's', 'e']
  | .number _ => none
  | .string none => none
  | .string (some text) => some (stringChars text)

/-- The characters write the tokens in their order, with any blanks around them. -/
inductive Writes : List Char → List Token → Prop
  | nil : Writes [] []
  | blank {c : Char} {cs : List Char} {tokens : List Token} :
      isBlank c = true → Writes cs tokens → Writes (c :: cs) tokens
  | token (token : Token) {spelling cs : List Char} {tokens : List Token} :
      token.spelling? = some spelling → Writes cs tokens →
        Writes (spelling ++ cs) (token :: tokens)

mutual

/-- The tokens of a value. -/
def tokens : Json → List Token
  | null => [.null]
  | bool value => [.bool value]
  | number n => [.number n]
  | string text => [.string (some text)]
  | array [] => [.beginArray, .endArray]
  | array (item :: items) => .beginArray :: (tokens item ++ moreItemTokens items ++ [.endArray])
  | object [] => [.beginObject, .endObject]
  | object ((key, item) :: members) =>
    .beginObject :: .string (some key) :: .colon ::
      (tokens item ++ moreMemberTokens members ++ [.endObject])

/-- The tokens of the items of an array after the first. -/
def moreItemTokens : List Json → List Token
  | [] => []
  | item :: items => .comma :: (tokens item ++ moreItemTokens items)

/-- The tokens of the members of an object after the first. -/
def moreMemberTokens : List (String × Json) → List Token
  | [] => []
  | (key, item) :: members =>
    .comma :: .string (some key) :: .colon :: (tokens item ++ moreMemberTokens members)

end

mutual

/-- The value has no numbers, and at most `limit` arrays and objects inside each other. -/
def Plain (limit : Nat) : Json → Prop
  | null => True
  | bool _ => True
  | number _ => False
  | string _ => True
  | array items => 0 < limit ∧ PlainItems (limit - 1) items
  | object members => 0 < limit ∧ PlainMembers (limit - 1) members

/-- All items are plain. -/
def PlainItems (limit : Nat) : List Json → Prop
  | [] => True
  | item :: items => Plain limit item ∧ PlainItems limit items

/-- The values of all members are plain. -/
def PlainMembers (limit : Nat) : List (String × Json) → Prop
  | [] => True
  | (_, item) :: members => Plain limit item ∧ PlainMembers limit members

end

@[simp] theorem plain_bool (limit : Nat) (value : Bool) : (bool value).Plain limit := trivial

@[simp] theorem plain_string (limit : Nat) (text : String) : (string text).Plain limit := trivial

theorem plainItems_iff {limit : Nat} {items : List Json} :
    PlainItems limit items ↔ ∀ item ∈ items, item.Plain limit := by
  induction items with
  | nil => simp [PlainItems]
  | cons item items ih => rw [PlainItems, ih, List.forall_mem_cons]

theorem plainMembers_iff {limit : Nat} {members : List (String × Json)} :
    PlainMembers limit members ↔ ∀ member ∈ members, member.2.Plain limit := by
  induction members with
  | nil => simp [PlainMembers]
  | cons member members ih => rw [PlainMembers, ih, List.forall_mem_cons]

theorem plain_array {limit : Nat} {items : List Json} (h : ∀ item ∈ items, item.Plain limit) :
    (array items).Plain (limit + 1) :=
  ⟨Nat.succ_pos limit, plainItems_iff.2 h⟩

theorem plain_object {limit : Nat} {members : List (String × Json)}
    (h : ∀ member ∈ members, member.2.Plain limit) : (object members).Plain (limit + 1) :=
  ⟨Nat.succ_pos limit, plainMembers_iff.2 h⟩

/-- An array of encoded items is as plain as their encoding, one level deeper. -/
theorem plain_array_map {α : Type} {limit : Nat} {encode : α → Json}
    (h : ∀ a, (encode a).Plain limit) (items : List α) :
    (array (items.map encode)).Plain (limit + 1) :=
  plain_array (List.forall_mem_map.2 fun a _ => h a)

variable {token : Token} {spelling cs rest : List Char} {ts : List Token} {limit : Nat}

theorem next?_append_of_spelling? (h : token.spelling? = some spelling) (rest : List Char) :
    next? (spelling ++ rest) = some (token, rest) := by
  cases token with
  | number n => cases h
  | bool value => cases value <;> cases h <;> rfl
  | string text? =>
      cases text? with
      | none => cases h
      | some text =>
          cases h
          exact next?_stringChars text rest
  | _ => cases h; rfl

theorem exists_eq_cons_of_spelling? (h : token.spelling? = some spelling) :
    ∃ c cs, spelling = c :: cs ∧ isBlank c = false := by
  cases token with
  | number n => cases h
  | bool value => cases value <;> cases h <;> exact ⟨_, _, rfl, by decide⟩
  | string text? =>
      cases text? with
      | none => cases h
      | some text =>
          cases h
          exact ⟨'"', _, rfl, by decide⟩
  | _ => cases h; exact ⟨_, _, rfl, by decide⟩

theorem listAfter_of_writes (h : Writes cs ts) (before : List Token) {fuel : Nat}
    (hfuel : cs.length ≤ fuel) : listAfter before fuel cs = some (before.reverse ++ ts) := by
  induction h generalizing before fuel with
  | nil => simp [listAfter]
  | blank hblank _ ih =>
      cases fuel with
      | zero => cases hfuel
      | succ fuel =>
          rw [listAfter, if_pos hblank]
          exact ih before (Nat.le_of_succ_le_succ hfuel)
  | @token token spelling cs ts hspelling _ ih =>
      have hnext := next?_append_of_spelling? hspelling cs
      obtain ⟨c, tail, rfl, hblank⟩ := exists_eq_cons_of_spelling? hspelling
      rw [List.cons_append] at hnext hfuel ⊢
      cases fuel with
      | zero => cases hfuel
      | succ fuel =>
          have hle : cs.length ≤ fuel := by
            rw [List.length_cons, List.length_append] at hfuel
            omega
          rw [listAfter, hblank, if_neg Bool.false_ne_true, hnext]
          simp only [ih (token :: before) hle, List.reverse_cons, List.append_assoc,
            List.singleton_append]

theorem list?_of_writes (h : Writes cs ts) : Token.list? cs = some ts :=
  listAfter_of_writes h [] (Nat.le_refl _)

namespace Writes

theorem append {ds : List Char} {us : List Token} (h : Writes cs ts) (h' : Writes ds us) :
    Writes (cs ++ ds) (ts ++ us) := by
  induction h with
  | nil => exact h'
  | blank hblank _ ih => exact .blank hblank ih
  | token _ hspelling _ ih =>
      rw [List.append_assoc]
      exact .token _ hspelling ih

theorem of_spelling? (token : Token) (h : token.spelling? = some spelling) : Writes spelling [token] :=
  List.append_nil spelling ▸ .token token h .nil

theorem blanks (hblank : ∀ c ∈ cs, isBlank c = true) : Writes cs [] := by
  induction cs with
  | nil => exact .nil
  | cons c cs ih =>
      obtain ⟨hc, hcs⟩ := List.forall_mem_cons.1 hblank
      exact .blank hc (ih hcs)

theorem newline (depth : Nat) : Writes (Json.newline depth) [] := by
  refine blanks fun c hc => ?_
  rcases List.mem_cons.1 hc with rfl | hc
  · decide
  · rw [List.eq_of_mem_replicate hc]
    decide

theorem member (key : String) (h : Writes cs ts) :
    Writes (stringChars key ++ ':' :: ' ' :: cs) (.string (some key) :: .colon :: ts) :=
  .token _ rfl (.token .colon rfl (.blank (by decide) h))

end Writes

mutual

theorem writes_printAt (depth : Nat) :
    ∀ {limit : Nat} {json : Json}, json.Plain limit → Writes (printAt depth json) json.tokens
  | _, null, _ => .of_spelling? _ rfl
  | _, bool true, _ => .of_spelling? _ rfl
  | _, bool false, _ => .of_spelling? _ rfl
  | _, number _, h => h.elim
  | _, string _, _ => .of_spelling? _ rfl
  | _, array [], _ => .append (.of_spelling? .beginArray rfl) (.of_spelling? _ rfl)
  | _, array (item :: items), ⟨_, hitem, hitems⟩ => by
      have hbegin := Writes.token .beginArray rfl (Writes.newline (depth + 1))
      have hitems := (writes_printAt (depth + 1) hitem).append (writes_printItems (depth + 1) hitems)
      have hend := (Writes.newline depth).append (.of_spelling? .endArray rfl)
      simpa only [printAt, tokens, List.append_assoc, List.cons_append, List.nil_append] using
        hbegin.append (hitems.append hend)
  | _, object [], _ => .append (.of_spelling? .beginObject rfl) (.of_spelling? _ rfl)
  | _, object ((key, item) :: members), ⟨_, hitem, hmembers⟩ => by
      have hbegin := Writes.token .beginObject rfl (Writes.newline (depth + 1))
      have hmembers := ((writes_printAt (depth + 1) hitem).member key).append
        (writes_printMembers (depth + 1) hmembers)
      have hend := (Writes.newline depth).append (.of_spelling? .endObject rfl)
      simpa only [printAt, tokens, List.append_assoc, List.cons_append, List.nil_append] using
        hbegin.append (hmembers.append hend)

theorem writes_printItems (depth : Nat) :
    ∀ {limit : Nat} {items : List Json}, PlainItems limit items →
      Writes (printItems depth items) (moreItemTokens items)
  | _, [], _ => .nil
  | _, item :: items, ⟨hitem, hitems⟩ => by
      have hcomma := Writes.token .comma rfl (Writes.newline depth)
      simpa only [printItems, moreItemTokens, List.append_assoc, List.cons_append,
        List.nil_append] using
        hcomma.append ((writes_printAt depth hitem).append (writes_printItems depth hitems))

theorem writes_printMembers (depth : Nat) :
    ∀ {limit : Nat} {members : List (String × Json)}, PlainMembers limit members →
      Writes (printMembers depth members) (moreMemberTokens members)
  | _, [], _ => .nil
  | _, (key, item) :: members, ⟨hitem, hmembers⟩ => by
      have hcomma := Writes.token .comma rfl (Writes.newline depth)
      simpa only [printMembers, moreMemberTokens, List.append_assoc, List.cons_append,
        List.nil_append] using
        hcomma.append (((writes_printAt depth hitem).member key).append
          (writes_printMembers depth hmembers))

end

theorem writes_print {json : Json} (h : json.Plain limit) : Writes json.print.toList json.tokens := by
  rw [print, String.toList_ofList]
  exact writes_printAt 0 h

end EntitySchema.Json
