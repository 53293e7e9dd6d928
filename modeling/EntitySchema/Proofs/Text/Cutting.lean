import EntitySchema.Text.Bytes

/-!
# Cutting text

On the bytes of its UTF-8 form a text is cut at the last boundary between characters that is not
behind the limit, which is sought from the limit backwards. Such a search could leave the text at its
front, and a cut could go through a character. Neither happens, and what is left is the longest
beginning that fits.
-/

namespace EntitySchema.Text

section Append

variable {n : Nat} {as : List Char}

theorem takeBytes_append_of_le (bs : List Char) (h : byteLength as ≤ n) :
    takeBytes n (as ++ bs) = as ++ takeBytes (n - byteLength as) bs := by
  induction as generalizing n with
  | nil => rfl
  | cons c as ih =>
      rw [byteLength_cons] at h
      have hc : c.utf8Size ≤ n := by omega
      rw [List.cons_append, takeBytes, if_pos hc, ih (by omega), byteLength_cons, Nat.sub_add_eq,
        List.cons_append]

theorem takeBytes_append_of_ge (bs : List Char) (h : n ≤ byteLength as) :
    takeBytes n (as ++ bs) = takeBytes n as := by
  induction as generalizing n with
  | nil =>
      obtain rfl : n = 0 := Nat.le_zero.1 h
      cases bs with
      | nil => rfl
      | cons c bs => simp [takeBytes, Nat.ne_of_gt c.utf8Size_pos]
  | cons c as ih =>
      rw [byteLength_cons] at h
      rw [List.cons_append, takeBytes, takeBytes]
      split
      · rw [ih (by omega)]
      · rfl

end Append

section Beginning

variable {n : Nat} {as cs : List Char}

theorem prefix_takeBytes (n : Nat) (cs : List Char) : takeBytes n cs <+: cs := by
  obtain ⟨rest, hrest⟩ := exists_takeBytes_append n cs
  exact ⟨rest, hrest.symm⟩

theorem byteLength_le_of_prefix (h : as <+: cs) : byteLength as ≤ byteLength cs := by
  obtain ⟨rest, rfl⟩ := h
  rw [byteLength_append]
  exact Nat.le_add_right _ _

theorem eq_nil_of_byteLength_eq_zero (h : byteLength cs = 0) : cs = [] := by
  cases cs with
  | nil => rfl
  | cons c cs =>
      have hpos := c.utf8Size_pos
      rw [byteLength_cons] at h
      omega

/-- A text that is cut comes close to the limit: a character that does not fit has four bytes at the
most. -/
theorem takeBytes_eq_self_of_lt (h : byteLength (takeBytes n cs) + 3 < n) : takeBytes n cs = cs := by
  induction cs generalizing n with
  | nil => rfl
  | cons c cs ih =>
      have hsize := c.utf8Size_le_four
      rw [takeBytes] at h ⊢
      split
      next hfits =>
        rw [if_pos hfits, byteLength_cons] at h
        rw [ih (by omega)]
      next hfits =>
        rw [if_neg hfits, byteLength_nil] at h
        omega

/-- The longest beginning that fits in `n` bytes is the longest one that fits in fewer, if it does so at
all. -/
theorem takeBytes_eq_of_le {m : Nat} (hle : m ≤ n) (hfits : byteLength (takeBytes n cs) ≤ m) :
    takeBytes m cs = takeBytes n cs := by
  induction cs generalizing m n with
  | nil => rfl
  | cons c cs ih =>
      rw [takeBytes] at hfits
      rw [takeBytes, takeBytes]
      by_cases hn : c.utf8Size ≤ n
      · rw [if_pos hn, byteLength_cons] at hfits
        have hrest : takeBytes (m - c.utf8Size) cs = takeBytes (n - c.utf8Size) cs :=
          ih (by omega) (by omega)
        rw [if_pos hn, if_pos (by omega), hrest]
      · rw [if_neg hn, if_neg (by omega)]

end Beginning

/-- The first boundary between characters that is met from byte `n` backwards. -/
def boundaryBack? (text : String) : Nat → Option Nat
  | 0 => if String.Pos.Raw.IsValid text ⟨0⟩ then some 0 else none
  | n + 1 => if String.Pos.Raw.IsValid text ⟨n + 1⟩ then some (n + 1) else boundaryBack? text n

/-- The first `n` bytes of a text, unless that splits a character or they are not there. -/
def bytesUpTo? (text : String) (n : Nat) : Option ByteArray :=
  if String.Pos.Raw.IsValid text ⟨n⟩ then some (text.toByteArray.extract 0 n) else none

/-- The bytes of a text cut to the limit. -/
def cutBytes? (limit : Nat) (text : String) : Option ByteArray :=
  if text.utf8ByteSize ≤ limit then some text.toByteArray
  else (boundaryBack? text limit).bind (bytesUpTo? text)

/-- No longer beginning of the text takes at most `n` bytes. -/
structure IsLongest (n : Nat) (text part : String) : Prop where
  isBeginning : ∃ rest, text = part ++ rest
  size_le : part.utf8ByteSize ≤ n
  longest : ∀ other rest, text = other ++ rest → other.utf8ByteSize ≤ n → ∃ more, part = other ++ more

variable {limit n m : Nat} {text : String}

theorem byteLength_toList (text : String) : byteLength text.toList = text.utf8ByteSize := by
  have hlist : ∀ cs : List Char, byteLength cs = (String.ofList cs).utf8ByteSize := by
    intro cs
    induction cs with
    | nil => rfl
    | cons c cs ih =>
        rw [byteLength_cons, ih, String.ofList_cons, String.utf8ByteSize_append,
          String.utf8ByteSize_singleton]
  rw [hlist, String.ofList_toList]

theorem boundaryBack?_eq_some (hle : m ≤ n) (hvalid : String.Pos.Raw.IsValid text ⟨m⟩)
    (hnone : ∀ k, m < k → k ≤ n → ¬ String.Pos.Raw.IsValid text ⟨k⟩) :
    boundaryBack? text n = some m := by
  induction n with
  | zero =>
      obtain rfl : m = 0 := Nat.le_zero.1 hle
      rw [boundaryBack?, if_pos hvalid]
  | succ n ih =>
      rw [boundaryBack?]
      rcases Nat.lt_or_ge n m with hlt | hge
      · obtain rfl : m = n + 1 := by omega
        rw [if_pos hvalid]
      · rw [if_neg (hnone (n + 1) (by omega) (Nat.le_refl _))]
        exact ih hge fun k hk hkn => hnone k hk (by omega)

theorem isValid_iff {text : String} :
    String.Pos.Raw.IsValid text ⟨n⟩ ↔ ∃ part rest, text = part ++ rest ∧ part.utf8ByteSize = n := by
  rw [String.Pos.Raw.isValid_iff_exists_append]
  simp only [String.Pos.Raw.ext_iff, String.byteIdx_rawEndPos, eq_comm (a := n)]

theorem isLongest_takeBytes (n : Nat) (text : String) :
    IsLongest n text (String.ofList (takeBytes n text.toList)) := by
  obtain ⟨rest, hrest⟩ := exists_takeBytes_append n text.toList
  constructor
  case isBeginning =>
    refine ⟨String.ofList rest, ?_⟩
    rw [← String.ofList_append, ← hrest, String.ofList_toList]
  case size_le =>
    rw [← byteLength_toList, String.toList_ofList]
    exact byteLength_takeBytes_le n text.toList
  case longest =>
    intro other remainder htext hsize
    have hother : text.toList = other.toList ++ remainder.toList := by
      rw [htext, String.toList_append]
    rw [← byteLength_toList] at hsize
    have hlength := takeBytes_longest hother hsize
    have hbeginning : other.toList <+: text.toList := ⟨remainder.toList, hother.symm⟩
    obtain ⟨more, hmore⟩ := List.prefix_of_prefix_length_le hbeginning
      (prefix_takeBytes n text.toList) hlength
    refine ⟨String.ofList more, ?_⟩
    rw [← hmore, String.ofList_append, String.ofList_toList]

/-- The search ends at a boundary within the text, at which the longest beginning ends. -/
theorem cutBytes?_eq (limit : Nat) (text : String) :
    cutBytes? limit text = some (String.ofList (takeBytes limit text.toList)).toByteArray := by
  unfold cutBytes?
  split
  next hsize =>
    rw [← byteLength_toList] at hsize
    rw [takeBytes_eq_self hsize, String.ofList_toList]
  next hsize =>
    obtain ⟨⟨rest, htext⟩, hfits, hlongest⟩ := isLongest_takeBytes limit text
    generalize String.ofList (takeBytes limit text.toList) = part at *
    have hvalid : String.Pos.Raw.IsValid text ⟨part.utf8ByteSize⟩ :=
      isValid_iff.2 ⟨part, rest, htext, rfl⟩
    have hback : boundaryBack? text limit = some part.utf8ByteSize := by
      refine boundaryBack?_eq_some hfits hvalid fun k hk hklimit hboundary => ?_
      obtain ⟨other, remainder, hother, rfl⟩ := isValid_iff.1 hboundary
      obtain ⟨more, rfl⟩ := hlongest other remainder hother hklimit
      rw [String.utf8ByteSize_append] at hk
      omega
    have hbytes : text.toByteArray.extract 0 part.utf8ByteSize = part.toByteArray := by
      rw [htext, String.toByteArray_append]
      exact ByteArray.extract_append_eq_left rfl
    rw [hback, Option.bind_some, bytesUpTo?, if_pos hvalid, hbytes]

end EntitySchema.Text
