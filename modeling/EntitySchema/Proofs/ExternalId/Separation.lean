import Mathlib.Data.List.Basic
import EntitySchema.ExternalId.Derivation

/-!
# Rows with one external id

The values of several sources are joined with nothing between them before they are hashed. So two rows
have one external id exactly if their joined values are one text, which rows that differ can also have:
then what one of them has more in one column, the other has more in another one.
-/

namespace EntitySchema.ExternalId.Derivation

variable {row other : Row} {sources : List String}

/-- The row has a value in each of the columns. -/
def Filled (row : Row) (sources : List String) : Prop := ∀ source ∈ sources, (row source).isSome

/-- The value in the column is longer in the first row. -/
def Longer (row other : Row) (source : String) : Prop :=
  ((other source).getD "").length < ((row source).getD "").length

@[simp] theorem content_nil (row : Row) : content row [] = "" := rfl

theorem content_cons (row : Row) (source : String) (sources : List String) :
    content row (source :: sources) = (row source).getD "" ++ content row sources := by
  rw [content, List.map_cons, String.join_cons, content]

theorem exists_longer_of_length_lt
    (h : (content other sources).length < (content row sources).length) :
    ∃ source ∈ sources, Longer row other source := by
  induction sources with
  | nil => exact absurd h (Nat.lt_irrefl _)
  | cons source sources ih =>
      by_cases hlonger : Longer row other source
      · exact ⟨source, List.mem_cons_self, hlonger⟩
      · rw [content_cons, content_cons, String.length_append, String.length_append] at h
        unfold Longer at hlonger
        obtain ⟨found, hfound, hmore⟩ := ih (by omega)
        exact ⟨found, List.mem_cons_of_mem _ hfound, hmore⟩

/-- The induction is on the columns: as long as the values are of one length they are equal, and at the
first that are not, the rest has to make up for what the other row has less. -/
theorem agree_or_longer_of_content_eq (h : content row sources = content other sources) :
    (∀ source ∈ sources, (row source).getD "" = (other source).getD "") ∨
      (∃ source ∈ sources, Longer row other source) ∧
        ∃ source ∈ sources, Longer other row source := by
  induction sources with
  | nil => exact .inl (List.forall_mem_nil _)
  | cons source sources ih =>
      rw [content_cons, content_cons] at h
      have hlength := congrArg String.length h
      rw [String.length_append, String.length_append] at hlength
      rcases Nat.lt_trichotomy ((row source).getD "").length ((other source).getD "").length with
        hlt | heq | hgt
      · have hrest : (content other sources).length < (content row sources).length := by omega
        obtain ⟨found, hfound, hmore⟩ := exists_longer_of_length_lt hrest
        exact .inr ⟨⟨found, List.mem_cons_of_mem _ hfound, hmore⟩, source, List.mem_cons_self, hlt⟩
      · have htext := congrArg String.toList h
        rw [String.toList_append, String.toList_append] at htext
        obtain ⟨hvalue, hrest⟩ := List.append_inj htext heq
        rcases ih (String.toList_inj.1 hrest) with hagree | ⟨⟨s, hs, hrow⟩, t, ht, hother⟩
        · exact .inl (List.forall_mem_cons.2 ⟨String.toList_inj.1 hvalue, hagree⟩)
        · exact .inr ⟨⟨s, List.mem_cons_of_mem _ hs, hrow⟩, t, List.mem_cons_of_mem _ ht, hother⟩
      · have hrest : (content row sources).length < (content other sources).length := by omega
        obtain ⟨found, hfound, hmore⟩ := exists_longer_of_length_lt hrest
        exact .inr ⟨⟨source, List.mem_cons_self, hgt⟩, found, List.mem_cons_of_mem _ hfound, hmore⟩

theorem eq_of_getD_eq {source : String} (hrow : (row source).isSome) (hother : (other source).isSome)
    (h : (row source).getD "" = (other source).getD "") : row source = other source := by
  obtain ⟨value, hvalue⟩ := Option.isSome_iff_exists.1 hrow
  obtain ⟨value', hvalue'⟩ := Option.isSome_iff_exists.1 hother
  rw [hvalue, hvalue', Option.getD_some, Option.getD_some] at h
  rw [hvalue, hvalue', h]

theorem valueBy_eq_iff {digest : String → String} (hdigest : Function.Injective digest)
    (derivation : Derivation) (hrow : Filled row derivation.sources)
    (hother : Filled other derivation.sources) :
    derivation.valueBy digest row = derivation.valueBy digest other ↔
      content row derivation.sources = content other derivation.sources := by
  cases derivation with
  | direct source =>
      have hcontent : ∀ row, content row [source] = (row source).getD "" := by
        intro row
        rw [content_cons, content_nil, String.append_empty]
      rw [valueBy, valueBy, sources, hcontent, hcontent]
      constructor
      · exact congrArg (Option.getD · "")
      · exact eq_of_getD_eq (hrow source (List.mem_singleton_self _))
          (hother source (List.mem_singleton_self _))
  | contentHash sources =>
      rw [valueBy, valueBy, Option.some.injEq, hdigest.eq_iff]
      rfl

/-- What it means for the values of two rows that these have one external id. -/
structure Separates (digest : String → String) (derivation : Derivation) (row other : Row) : Prop where
  eq_iff : derivation.valueBy digest row = derivation.valueBy digest other ↔
    content row derivation.sources = content other derivation.sources
  agree_or : derivation.valueBy digest row = derivation.valueBy digest other →
    (∀ source ∈ derivation.sources, row source = other source) ∨
      (∃ source ∈ derivation.sources, Longer row other source) ∧
        ∃ source ∈ derivation.sources, Longer other row source
  /-- Values changed into others of the same length change the external id. -/
  ne_of_length_eq : (∀ source ∈ derivation.sources,
      ((row source).getD "").length = ((other source).getD "").length) →
    (∃ source ∈ derivation.sources, row source ≠ other source) →
      derivation.valueBy digest row ≠ derivation.valueBy digest other

/-- Up to collisions of the digest, the external id tells rows apart as far as their joined values do. -/
theorem separates {digest : String → String} (hdigest : Function.Injective digest)
    (derivation : Derivation) (hrow : Filled row derivation.sources)
    (hother : Filled other derivation.sources) : Separates digest derivation row other := by
  have hiff := valueBy_eq_iff hdigest derivation hrow hother
  have hagree : derivation.valueBy digest row = derivation.valueBy digest other →
      (∀ source ∈ derivation.sources, row source = other source) ∨
        (∃ source ∈ derivation.sources, Longer row other source) ∧
          ∃ source ∈ derivation.sources, Longer other row source := by
    intro hvalue
    apply (agree_or_longer_of_content_eq (hiff.1 hvalue)).imp_left
    exact fun h source hsource =>
      eq_of_getD_eq (hrow source hsource) (hother source hsource) (h source hsource)
  refine ⟨hiff, hagree, ?_⟩
  rintro hlength ⟨source, hsource, hne⟩ hvalue
  rcases hagree hvalue with heq | ⟨⟨longer, hlonger, hmore⟩, -⟩
  · exact hne (heq source hsource)
  · exact absurd (hlength longer hlonger) (Nat.ne_of_gt hmore)

/-- A place on a shelf, whose external id is derived from both of its columns. -/
def shelf : Entity where
  name := "shelf"
  columns := [{ name := "Rack", type := "text" }, { name := "Slot", type := "text" }]
  externalIdSources := ["Rack", "Slot"]

/-- The row of a place. -/
def place (rack slot : String) : Row := fun column =>
  if column = "rack" then some rack else if column = "slot" then some slot else none

theorem filled_place (rack slot : String) : Filled (place rack slot) ["rack", "slot"] := by
  simp [Filled, place]

/-- The digest on two texts, and elsewhere a text that no digest is. -/
def sparseDigest (text : String) : String :=
  if text = "foobar" ∨ text = "barfoo" then Sha256.hexDigest text else "-" ++ text

theorem sparseDigest_injective : Function.Injective sparseDigest := by
  have hdistinct : Sha256.hexDigest "foobar" ≠ Sha256.hexDigest "barfoo" := by decide +kernel
  have hhex : ∀ text, text = "foobar" ∨ text = "barfoo" →
      (Sha256.hexDigest text).toList.head? ≠ some '-' := by
    rintro text (rfl | rfl)
    · decide +kernel
    · decide +kernel
  have hmark : ∀ text, ("-" ++ text).toList.head? = some '-' := fun text => by
    rw [String.toList_append]
    rfl
  intro text text' h
  unfold sparseDigest at h
  split at h
  next hspecial =>
    split at h
    next hspecial' =>
      rcases hspecial with rfl | rfl <;> rcases hspecial' with rfl | rfl
      · rfl
      · exact absurd h hdistinct
      · exact absurd h.symm hdistinct
      · rfl
    · exact absurd (h ▸ hmark text') (hhex text hspecial)
  · split at h
    next hspecial' => exact absurd (h.symm ▸ hmark text) (hhex text' hspecial')
    · exact String.append_right_inj _ |>.1 h

/-- Rack and slot exchanged, in three letters each. -/
theorem separates_exchanged :
    ofEntity {} shelf = .ok (some (.contentHash ["rack", "slot"])) ∧
      Function.Injective sparseDigest ∧
      sparseDigest "foobar" = Sha256.hexDigest "foobar" ∧
      sparseDigest "barfoo" = Sha256.hexDigest "barfoo" ∧
      Filled (place "foo" "bar") ["rack", "slot"] ∧ Filled (place "bar" "foo") ["rack", "slot"] ∧
      Separates sparseDigest (.contentHash ["rack", "slot"]) (place "foo" "bar") (place "bar" "foo") ∧
      valueBy sparseDigest (place "foo" "bar") (.contentHash ["rack", "slot"]) ≠
        valueBy sparseDigest (place "bar" "foo") (.contentHash ["rack", "slot"]) := by
  have h := separates sparseDigest_injective (.contentHash ["rack", "slot"])
    (filled_place "foo" "bar") (filled_place "bar" "foo")
  refine ⟨by decide +kernel, sparseDigest_injective, rfl, rfl, filled_place _ _, filled_place _ _, h, ?_⟩
  apply h.ne_of_length_eq
  · decide +kernel
  · exact ⟨"rack", by decide +kernel⟩

/-- Rack `1` with slot `11` and rack `11` with slot `1` have one external id, whatever the digest. -/
theorem not_agree_exchanged :
    ofEntity {} shelf = .ok (some (.contentHash ["rack", "slot"])) ∧
      Filled (place "1" "11") ["rack", "slot"] ∧ Filled (place "11" "1") ["rack", "slot"] ∧
      place "1" "11" "rack" = place "11" "1" "slot" ∧ place "1" "11" "slot" = place "11" "1" "rack" ∧
      place "1" "11" "rack" ≠ place "11" "1" "rack" ∧
      ∀ digest : String → String,
        valueBy digest (place "1" "11") (.contentHash ["rack", "slot"]) =
          valueBy digest (place "11" "1") (.contentHash ["rack", "slot"]) := by
  have hcontent : content (place "1" "11") ["rack", "slot"] = content (place "11" "1") ["rack", "slot"] := by
    decide +kernel
  refine ⟨by decide +kernel, filled_place _ _, filled_place _ _, rfl, rfl, by decide +kernel, ?_⟩
  intro digest
  rw [valueBy, valueBy, hcontent]

end EntitySchema.ExternalId.Derivation
