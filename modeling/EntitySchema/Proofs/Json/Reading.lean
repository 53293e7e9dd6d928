import EntitySchema.Proofs.Json.Layout

/-!
# Reading what was written

The reader makes of the tokens of a value its tree, whatever is open around it. Hence every text of a value
without numbers that is not nested too deeply is read as this value.
-/

namespace EntitySchema.Json

open Json.Tree (Frame)

open Token (nestingFrom)

mutual

/-- The tree of a value. -/
def toTree : Json → Tree
  | null => .null
  | bool value => .bool value
  | number n => .number n
  | string text => .string (some text)
  | array items => .array (itemTrees items)
  | object members => .object (memberTrees members)

/-- The trees of the items of an array. -/
def itemTrees : List Json → List Tree
  | [] => []
  | item :: items => toTree item :: itemTrees items

/-- The trees of the members of an object. -/
def memberTrees : List (String × Json) → List (Option String × Tree)
  | [] => []
  | (key, item) :: members => (some key, toTree item) :: memberTrees members

end

theorem exists_tokens_eq_cons (json : Json) :
    ∃ token ts, json.tokens = token :: ts ∧ token ≠ .endArray := by
  cases json with
  | array items => cases items <;> exact ⟨_, _, rfl, nofun⟩
  | object members => cases members <;> exact ⟨_, _, rfl, nofun⟩
  | _ => exact ⟨_, _, rfl, nofun⟩

/-- An array is open after its beginning unless it ends there. -/
theorem read_beginArray (frames : List Frame) (json : Json) (ts : List Token) :
    Tree.read .awaiting frames (.beginArray :: (json.tokens ++ ts)) =
      Tree.read .awaiting (.array [] :: frames) (json.tokens ++ ts) := by
  obtain ⟨token, rest, htokens, hne⟩ := exists_tokens_eq_cons json
  rw [htokens, List.cons_append, Tree.read]
  intro ts' h
  exact hne (List.cons.inj h).1

mutual

theorem read_tokens (frames : List Frame) (ts : List Token) : ∀ json : Json,
    Tree.read .awaiting frames (json.tokens ++ ts) = Tree.read (.complete json.toTree) frames ts
  | null => by rw [tokens, List.singleton_append, Tree.read, toTree]
  | bool value => by rw [tokens, List.singleton_append, Tree.read, toTree]
  | number n => by rw [tokens, List.singleton_append, Tree.read, toTree]
  | string text => by rw [tokens, List.singleton_append, Tree.read, toTree]
  | array [] => by
      rw [tokens, List.cons_append, List.singleton_append, Tree.read, toTree, itemTrees]
  | array (item :: items) => by
      rw [tokens, List.cons_append, List.append_assoc, List.append_assoc, read_beginArray,
        read_tokens, List.singleton_append, read_moreItemTokens, toTree, itemTrees]
      rfl
  | object [] => by
      rw [tokens, List.cons_append, List.singleton_append, Tree.read, toTree, memberTrees]
  | object ((key, item) :: members) => by
      rw [tokens, List.cons_append, List.cons_append, List.cons_append, List.append_assoc,
        List.append_assoc, Tree.read, read_tokens, List.singleton_append, read_moreMemberTokens, toTree,
        memberTrees]
      rfl

theorem read_moreItemTokens (frames : List Frame) (ts : List Token) :
    ∀ (items : List Json) (before : List Tree) (tree : Tree),
      Tree.read (.complete tree) (.array before :: frames) (moreItemTokens items ++ .endArray :: ts) =
        Tree.read (.complete (.array (before.reverse ++ tree :: itemTrees items))) frames ts
  | [], before, tree => by
      rw [moreItemTokens, List.nil_append, Tree.read, itemTrees, List.reverse_cons]
  | item :: items, before, tree => by
      rw [moreItemTokens, List.cons_append, List.append_assoc, Tree.read, read_tokens,
        read_moreItemTokens, itemTrees, List.reverse_cons, List.append_assoc]
      rfl

theorem read_moreMemberTokens (frames : List Frame) (ts : List Token) :
    ∀ (members : List (String × Json)) (before : List (Option String × Tree))
      (key : Option String) (tree : Tree),
      Tree.read (.complete tree) (.object before key :: frames)
          (moreMemberTokens members ++ .endObject :: ts) =
        Tree.read (.complete (.object (before.reverse ++ (key, tree) :: memberTrees members))) frames ts
  | [], before, key, tree => by
      rw [moreMemberTokens, List.nil_append, Tree.read, memberTrees, List.reverse_cons]
  | (next, item) :: members, before, key, tree => by
      rw [moreMemberTokens, List.cons_append, List.cons_append, List.cons_append, List.append_assoc,
        Tree.read, read_tokens, read_moreMemberTokens, memberTrees, List.reverse_cons, List.append_assoc]
      rfl

end

theorem ofTokens?_tokens (json : Json) : Tree.ofTokens? json.tokens = some json.toTree := by
  have hread := read_tokens [] [] json
  rw [List.append_nil] at hread
  rw [Tree.ofTokens?, hread, Tree.read]

mutual

theorem ofTree?_toTree : ∀ {limit : Nat} {json : Json}, json.Plain limit →
    ofTree? json.toTree = some json
  | _, null, _ => rfl
  | _, bool _, _ => rfl
  | _, number _, h => h.elim
  | _, string _, _ => rfl
  | _, array items, ⟨_, hitems⟩ => by rw [toTree, ofTree?, ofItems?_itemTrees hitems]; rfl
  | _, object members, ⟨_, hmembers⟩ => by
      rw [toTree, ofTree?, ofMembers?_memberTrees hmembers]; rfl

theorem ofItems?_itemTrees : ∀ {limit : Nat} {items : List Json}, PlainItems limit items →
    ofItems? (itemTrees items) = some items
  | _, [], _ => rfl
  | _, item :: items, ⟨hitem, hitems⟩ => by
      rw [itemTrees, ofItems?, ofTree?_toTree hitem, ofItems?_itemTrees hitems]
      rfl

theorem ofMembers?_memberTrees : ∀ {limit : Nat} {members : List (String × Json)},
    PlainMembers limit members → ofMembers? (memberTrees members) = some members
  | _, [], _ => rfl
  | _, (key, item) :: members, ⟨hitem, hmembers⟩ => by
      rw [memberTrees, ofMembers?, ofTree?_toTree hitem, ofMembers?_memberTrees hmembers]
      rfl

end

theorem nestingFrom_comma (depth deepest : Nat) (ts : List Token) :
    nestingFrom depth deepest (.comma :: ts) = nestingFrom depth deepest ts := rfl

theorem nestingFrom_key (depth deepest : Nat) (key : Option String) (ts : List Token) :
    nestingFrom depth deepest (.string key :: .colon :: ts) = nestingFrom depth deepest ts := rfl

mutual

/-- A value inside `depth` arrays and objects takes the nesting no deeper than its own limit, if what
follows does not. -/
theorem nestingFrom_tokens_le {bound : Nat} {ts : List Token} : ∀ {limit : Nat} {json : Json},
    json.Plain limit → ∀ {depth deepest : Nat}, depth + limit ≤ bound → deepest ≤ bound →
      (∀ d ≤ bound, nestingFrom depth d ts ≤ bound) →
        nestingFrom depth deepest (json.tokens ++ ts) ≤ bound
  | _, null, _, _, _, _, hdeepest, hrest => hrest _ hdeepest
  | _, bool _, _, _, _, _, hdeepest, hrest => hrest _ hdeepest
  | _, number _, h, _, _, _, _, _ => h.elim
  | _, string _, _, _, _, _, hdeepest, hrest => hrest _ hdeepest
  | _, array [], ⟨hpos, _⟩, depth, _, hdepth, hdeepest, hrest => by
      rw [tokens, List.cons_append, List.singleton_append, nestingFrom, nestingFrom]
      exact hrest _ (by omega)
  | _, array (item :: items), ⟨hpos, hitem, hitems⟩, depth, _, hdepth, hdeepest, hrest => by
      rw [tokens, List.cons_append, List.append_assoc, List.append_assoc, nestingFrom]
      refine nestingFrom_tokens_le hitem (by omega) (by omega) fun d hd => ?_
      refine nestingFrom_moreItemTokens_le hitems (by omega) hd fun d hd => ?_
      rw [List.singleton_append, nestingFrom]
      exact hrest d hd
  | _, object [], ⟨hpos, _⟩, depth, _, hdepth, hdeepest, hrest => by
      rw [tokens, List.cons_append, List.singleton_append, nestingFrom, nestingFrom]
      exact hrest _ (by omega)
  | _, object ((_, item) :: members), ⟨hpos, hitem, hmembers⟩, depth, _, hdepth, hdeepest,
      hrest => by
      rw [tokens, List.cons_append, List.cons_append, List.cons_append, List.append_assoc,
        List.append_assoc, nestingFrom, nestingFrom_key]
      refine nestingFrom_tokens_le hitem (by omega) (by omega) fun d hd => ?_
      refine nestingFrom_moreMemberTokens_le hmembers (by omega) hd fun d hd => ?_
      rw [List.singleton_append, nestingFrom]
      exact hrest d hd

theorem nestingFrom_moreItemTokens_le {bound : Nat} {ts : List Token} :
    ∀ {limit : Nat} {items : List Json}, PlainItems limit items →
      ∀ {depth deepest : Nat}, depth + limit ≤ bound → deepest ≤ bound →
        (∀ d ≤ bound, nestingFrom depth d ts ≤ bound) →
          nestingFrom depth deepest (moreItemTokens items ++ ts) ≤ bound
  | _, [], _, _, _, _, hdeepest, hrest => hrest _ hdeepest
  | _, item :: items, ⟨hitem, hitems⟩, depth, _, hdepth, hdeepest, hrest => by
      rw [moreItemTokens, List.cons_append, List.append_assoc, nestingFrom_comma]
      refine nestingFrom_tokens_le hitem hdepth hdeepest fun d hd => ?_
      exact nestingFrom_moreItemTokens_le hitems hdepth hd hrest

theorem nestingFrom_moreMemberTokens_le {bound : Nat} {ts : List Token} :
    ∀ {limit : Nat} {members : List (String × Json)}, PlainMembers limit members →
      ∀ {depth deepest : Nat}, depth + limit ≤ bound → deepest ≤ bound →
        (∀ d ≤ bound, nestingFrom depth d ts ≤ bound) →
          nestingFrom depth deepest (moreMemberTokens members ++ ts) ≤ bound
  | _, [], _, _, _, _, hdeepest, hrest => hrest _ hdeepest
  | _, (_, item) :: members, ⟨hitem, hmembers⟩, depth, _, hdepth, hdeepest, hrest => by
      rw [moreMemberTokens, List.cons_append, List.cons_append, List.cons_append, List.append_assoc,
        nestingFrom_comma, nestingFrom_key]
      refine nestingFrom_tokens_le hitem hdepth hdeepest fun d hd => ?_
      exact nestingFrom_moreMemberTokens_le hmembers hdepth hd hrest

end

variable {json : Json} {limit : Nat} {text : String}

theorem nesting_tokens_le (h : json.Plain limit) : Token.nesting json.tokens ≤ limit := by
  have hnesting : Token.nestingFrom 0 0 (json.tokens ++ []) ≤ limit :=
    nestingFrom_tokens_le h (by omega) (Nat.zero_le _) fun d hd => hd
  rw [List.append_nil] at hnesting
  exact hnesting

theorem treeOfText?_of_writes (h : Writes text.toList json.tokens) :
    Tree.ofText? text = some json.toTree := by
  rw [Tree.ofText?, list?_of_writes h, Option.bind_some, ofTokens?_tokens]

theorem ofText?_of_writes (hplain : json.Plain limit) (hlimit : limit ≤ nestingLimit)
    (h : Writes text.toList json.tokens) : ofText? text = some json := by
  have hnesting : ¬nestingLimit < Token.nesting json.tokens :=
    Nat.not_lt.2 (Nat.le_trans (nesting_tokens_le hplain) hlimit)
  simp only [ofText?, list?_of_writes h, Option.bind_eq_bind, Option.bind_some, if_neg hnesting,
    ofTokens?_tokens, ofTree?_toTree hplain]

end EntitySchema.Json
