/-!
# Text measured in bytes

Limits on names count the bytes of the UTF-8 form, but a name is cut between characters only:
`takeBytes n` is the longest beginning of a text that fits in `n` bytes.
-/

namespace EntitySchema.Text

/-- The number of bytes of the UTF-8 form. -/
def byteLength : List Char → Nat
  | [] => 0
  | c :: cs => c.utf8Size + byteLength cs

/-- The longest beginning that takes at most `n` bytes. -/
def takeBytes (n : Nat) : List Char → List Char
  | [] => []
  | c :: cs => if c.utf8Size ≤ n then c :: takeBytes (n - c.utf8Size) cs else []

@[simp] theorem byteLength_nil : byteLength [] = 0 := rfl

@[simp] theorem byteLength_cons (c : Char) (cs : List Char) :
    byteLength (c :: cs) = c.utf8Size + byteLength cs := rfl

@[simp] theorem byteLength_append (as bs : List Char) :
    byteLength (as ++ bs) = byteLength as + byteLength bs := by
  induction as with
  | nil => simp
  | cons c as ih => simp [ih, Nat.add_assoc]

@[simp] theorem takeBytes_nil (n : Nat) : takeBytes n [] = [] := rfl

theorem byteLength_takeBytes_le (n : Nat) (cs : List Char) : byteLength (takeBytes n cs) ≤ n := by
  induction cs generalizing n with
  | nil => simp
  | cons c cs ih =>
    by_cases h : c.utf8Size ≤ n
    · have := ih (n - c.utf8Size)
      simp only [takeBytes, h, ↓reduceIte, byteLength_cons]
      omega
    · simp [takeBytes, h]

theorem takeBytes_eq_self {n : Nat} {cs : List Char} (h : byteLength cs ≤ n) :
    takeBytes n cs = cs := by
  induction cs generalizing n with
  | nil => rfl
  | cons c cs ih =>
    rw [byteLength_cons] at h
    simp only [takeBytes, show c.utf8Size ≤ n by omega, ↓reduceIte]
    rw [ih (by omega)]

/-- What is left of a text behind its longest beginning of `n` bytes. -/
theorem exists_takeBytes_append (n : Nat) (cs : List Char) :
    ∃ rest, cs = takeBytes n cs ++ rest := by
  induction cs generalizing n with
  | nil => exact ⟨[], rfl⟩
  | cons c cs ih =>
    by_cases h : c.utf8Size ≤ n
    · obtain ⟨rest, hrest⟩ := ih (n - c.utf8Size)
      exact ⟨rest, by simp [takeBytes, h, ← hrest]⟩
    · exact ⟨c :: cs, by simp [takeBytes, h]⟩

/-- No longer beginning fits. -/
theorem takeBytes_longest {n : Nat} {cs longer rest : List Char} (h : cs = longer ++ rest)
    (hn : byteLength longer ≤ n) : longer.length ≤ (takeBytes n cs).length := by
  subst h
  induction longer generalizing n with
  | nil => simp
  | cons c longer ih =>
    rw [byteLength_cons] at hn
    have hc : c.utf8Size ≤ n := by omega
    have hl : byteLength longer ≤ n - c.utf8Size := by omega
    simpa [takeBytes, hc] using ih hl

end EntitySchema.Text
