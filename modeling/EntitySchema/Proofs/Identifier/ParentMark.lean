import EntitySchema.Proofs.Identifier.Bounds

/-!
# Marked names

The owning side of a relation of an entity to itself is told from the other side by a mark in front of
the name. Where names are cut the mark can be lost: put in front of a text that begins with marks only,
it moves them by one place, and a beginning of the text that ends among them looks the same as before.
-/

namespace EntitySchema

namespace Identifier

/-- The first `n` characters of the mark written again and again. -/
def marks (n : Nat) : List Char :=
  (List.range n).map fun i => parentMark.toList.getD (i % parentMark.length) '_'

variable {m n : Nat} {cs : List Char}

theorem marks_add (n : Nat) : marks (parentMark.length + n) = parentMark.toList ++ marks n := by
  rw [marks, List.range_add, List.map_append, List.map_map]
  congr 1
  refine List.map_congr_left fun i _ => ?_
  rw [Function.comp_apply, Nat.add_mod_left]

theorem prefix_marks (h : m ≤ n) : marks m <+: marks n := by
  obtain ⟨k, rfl⟩ := Nat.exists_eq_add_of_le h
  rw [marks, marks, List.range_add, List.map_append]
  exact List.prefix_append _ _

theorem byteLength_marks (n : Nat) : Text.byteLength (marks n) = n := by
  have hsize : ∀ i < parentMark.length, (parentMark.toList.getD i '_').utf8Size = 1 := by decide
  induction n with
  | zero => rfl
  | succ n ih =>
      have hlast := hsize (n % parentMark.length) (Nat.mod_lt _ (by decide))
      rw [marks, List.range_succ, List.map_append, Text.byteLength_append]
      simp only [List.map_cons, List.map_nil, Text.byteLength_cons, Text.byteLength_nil, hlast]
      exact congrArg (· + 1) ih

theorem takeBytes_eq_marks (h : marks n <+: cs) : Text.takeBytes n cs = marks n := by
  obtain ⟨rest, rfl⟩ := h
  have hlength := byteLength_marks n
  rw [Text.takeBytes_append_of_ge rest (Nat.le_of_eq hlength.symm),
    Text.takeBytes_eq_self (Nat.le_of_eq hlength)]

theorem takeBytes_mark_of_lt (h : n < parentMark.length) (cs : List Char) :
    Text.takeBytes n (parentMark.toList ++ cs) = marks n := by
  have hcut : ∀ n < parentMark.length, Text.takeBytes n parentMark.toList = marks n := by decide
  have hlength : n ≤ Text.byteLength parentMark.toList := by
    have : Text.byteLength parentMark.toList = parentMark.length := by decide
    omega
  rw [Text.takeBytes_append_of_ge cs hlength, hcut n h]

theorem takeBytes_mark (n : Nat) (cs : List Char) :
    Text.takeBytes (parentMark.length + n) (parentMark.toList ++ cs) =
      parentMark.toList ++ Text.takeBytes n cs := by
  have hlength : Text.byteLength parentMark.toList = parentMark.length := by decide
  rw [Text.takeBytes_append_of_le cs (by omega), hlength, Nat.add_sub_cancel_left]

/-- The induction takes one mark after the other away from the text: if the mark is lost, the text
begins with one, and behind that the mark is lost again. -/
theorem prefix_marks_of_takeBytes_eq
    (h : Text.takeBytes n (parentMark.toList ++ cs) = Text.takeBytes n cs) : marks n <+: cs := by
  induction n using Nat.strongRecOn generalizing cs with
  | ind n ih =>
      rcases Nat.lt_or_ge n parentMark.length with hlt | hge
      · rw [takeBytes_mark_of_lt hlt cs] at h
        exact h ▸ Text.prefix_takeBytes n cs
      · obtain ⟨k, rfl⟩ := Nat.exists_eq_add_of_le hge
        rw [takeBytes_mark] at h
        have hmark : parentMark.toList <+: cs :=
          List.IsPrefix.trans ⟨_, h⟩ (Text.prefix_takeBytes _ cs)
        obtain ⟨rest, rfl⟩ := hmark
        rw [takeBytes_mark, List.append_cancel_left_eq] at h
        have hrest := ih k (Nat.lt_add_of_pos_left (by decide)) h
        rw [marks_add]
        exact (List.prefix_append_right_inj _).2 hrest

theorem takeBytes_mark_eq_iff (n : Nat) (cs : List Char) :
    Text.takeBytes n (parentMark.toList ++ cs) = Text.takeBytes n cs ↔ marks n <+: cs := by
  refine ⟨prefix_marks_of_takeBytes_eq, fun h => ?_⟩
  rw [takeBytes_eq_marks h]
  rcases Nat.lt_or_ge n parentMark.length with hlt | hge
  · exact takeBytes_mark_of_lt hlt cs
  · obtain ⟨k, rfl⟩ := Nat.exists_eq_add_of_le hge
    have hless : marks k <+: cs := (prefix_marks (Nat.le_add_left k _)).trans h
    rw [takeBytes_mark, takeBytes_eq_marks hless, marks_add]

namespace Namer

/-- The mark is lost in the name of a primary key: the limit leaves no room for more than the suffix,
or nothing but marks of the base. -/
def Absorbs (namer : Namer) (base : String) : Prop :=
  namer.limit ≤ Role.primaryKey.suffix.length ∨
    marks (namer.limit - Role.primaryKey.suffix.length) <+: (normalize base).toList

instance (namer : Namer) (base : String) : Decidable (namer.Absorbs base) :=
  inferInstanceAs (Decidable (_ ∨ _))

theorem name_marked_eq_iff (namer : Namer) (base : String) :
    namer.name .primaryKey base true = namer.name .primaryKey base false ↔ namer.Absorbs base := by
  have hsize : Role.primaryKey.suffix.utf8ByteSize = Role.primaryKey.suffix.length := by decide
  rw [Absorbs, name, name, if_pos rfl, if_neg Bool.false_ne_true, String.empty_append]
  rcases Nat.lt_or_ge Role.primaryKey.suffix.utf8ByteSize namer.limit with hlt | hge
  · rw [bounded_of_lt _ _ _ hlt, bounded_of_lt _ _ _ hlt, String.append_left_inj, String.ofList_inj,
      String.toList_append, takeBytes_mark_eq_iff, hsize, or_iff_right (by omega)]
  · rw [bounded_of_le _ _ _ hge, bounded_of_le _ _ _ hge]
    exact iff_of_true rfl (.inl (hsize ▸ hge))

/-- As long as the limit has room for mark and suffix, only a name that begins with the mark loses
it. -/
theorem Absorbs.begins {namer : Namer} {base : String} (h : namer.Absorbs base)
    (hlimit : parentMark.length + Role.primaryKey.suffix.length ≤ namer.limit) :
    parentMark.toList <+: (normalize base).toList := by
  have hmark : 0 < parentMark.length := by decide
  have hprefix := h.resolve_left (by omega)
  obtain ⟨k, hk⟩ := Nat.exists_eq_add_of_le (Nat.le_sub_of_add_le hlimit)
  rw [hk, marks_add] at hprefix
  exact (List.prefix_append _ _).trans hprefix

end Namer

end Identifier

end EntitySchema
