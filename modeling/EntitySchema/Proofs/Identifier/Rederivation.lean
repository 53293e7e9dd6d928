import EntitySchema.ArchiveTrigger
import EntitySchema.ExternalId.Trigger
import EntitySchema.Proofs.Identifier.NormalForm

/-!
# Names derived from names

The names of triggers and functions are derived from the name of their table, which is normalized for
it once more. A cut can leave white space at the end of the table's name, and then the name derived
goes without it. A suffix longer than any cut falls short of the limit finds room only behind names
that were not cut, and those are kept whole.
-/

namespace EntitySchema

namespace Identifier

/-- The text without the white space at its end. -/
def trimmedEnd (text : String) : String := String.ofList (Text.trimEnd text.toList)

namespace Namer

/-- There is room for the whole identifier and for the whole suffix behind it. -/
def Fits (namer : Namer) (identifier suffix : String) : Prop :=
  identifier.utf8ByteSize + suffix.utf8ByteSize ≤ namer.limit

/-- What comes of an identifier when names are derived from it. -/
structure Rederives (namer : Namer) (identifier : String) : Prop where
  normalized : normalize identifier = trimmedEnd identifier
  fixed : normalize identifier = identifier ↔ Text.SolidEnd identifier.toList
  again : namer.derived identifier "" = trimmedEnd identifier
  derived : ∀ suffix, namer.Fits identifier suffix →
    namer.derived identifier suffix = trimmedEnd identifier ++ suffix
  uncut : identifier.utf8ByteSize + 3 < namer.limit → normalize identifier = identifier
  whole : ∀ suffix, 3 < suffix.utf8ByteSize → namer.Fits identifier suffix →
    namer.derived identifier suffix = identifier ++ suffix
  archiveTrigger : ∀ config key, namer.Fits identifier ArchiveTrigger.suffix →
    (ArchiveTrigger.ofTable config namer identifier key).name = identifier ++ ArchiveTrigger.suffix
  trigger : ∀ schema target derivation event, namer.Fits identifier event.suffix →
    (ExternalId.Trigger.forEvent namer schema identifier target derivation event).name =
      identifier ++ event.suffix
  function : ∀ schema target derivation event, namer.Fits identifier (event.suffix ++ "_fn") →
    (ExternalId.Trigger.forEvent namer schema identifier target derivation event).function =
      identifier ++ (event.suffix ++ "_fn")

/-- Whatever a namer names is normal up to the end, and to its very end behind a suffix. -/
structure KeepsForm (namer : Namer) : Prop where
  name : ∀ role base parent, namer.Rederives (namer.name role base parent)
  suffixed : ∀ role base parent, role.suffix ≠ "" →
    normalize (namer.name role base parent) = namer.name role base parent
  join : ∀ parts, namer.Rederives (namer.join parts)

end Namer

section Chars

variable {limit : Nat} {base suffix : List Char}

theorem boundedChars_eq_append (h : Text.byteLength base + Text.byteLength suffix ≤ limit) :
    boundedChars limit base suffix = base ++ suffix := by
  rcases Nat.lt_or_ge (Text.byteLength suffix) limit with hlt | hge
  · rw [boundedChars_of_lt base hlt, Text.takeBytes_eq_self (by omega)]
  · cases base with
    | nil =>
        rw [boundedChars_of_le [] hge, Text.takeBytes_eq_self (by omega), List.nil_append]
    | cons c base =>
        -- There is no room left for a base.
        have hpos := c.utf8Size_pos
        rw [Text.byteLength_cons] at h
        omega

/-- Far enough from the limit, a name is base and suffix as they were. -/
theorem isNormalForm_boundedChars_of_lt (hbase : IsNormalForm base) (hsuffix : IsNormalForm suffix)
    (h : Text.byteLength (boundedChars limit base suffix) + 3 < limit) :
    IsNormalForm (boundedChars limit base suffix) := by
  rcases Nat.lt_or_ge (Text.byteLength suffix) limit with hlt | hge
  · rw [boundedChars_of_lt base hlt] at h ⊢
    rw [Text.byteLength_append] at h
    rw [Text.takeBytes_eq_self_of_lt (by omega)]
    exact hbase.append hsuffix
  · rw [boundedChars_of_le base hge] at h ⊢
    rwa [Text.takeBytes_eq_self_of_lt h]

theorem solidEnd_boundedChars (limit : Nat) (base : List Char) (hne : suffix ≠ [])
    (hsolid : ∀ c ∈ suffix, Text.isWhiteSpace c = false) :
    Text.SolidEnd (boundedChars limit base suffix) := by
  rcases Nat.lt_or_ge (Text.byteLength suffix) limit with hlt | hge
  · rw [boundedChars_of_lt base hlt]
    exact Text.solidEnd_append_of_ne_nil _ hne (Text.solidEnd_of_forall hsolid)
  · rw [boundedChars_of_le base hge]
    exact Text.solidEnd_of_forall fun c hc => hsolid c ((Text.prefix_takeBytes _ _).subset hc)

end Chars

theorem Role.isWhiteSpace_of_mem_suffix (role : Role) :
    ∀ c ∈ role.suffix.toList, Text.isWhiteSpace c = false := by
  have hall : role.suffix.toList.all (! Text.isWhiteSpace ·) = true := by
    cases role <;> decide
  simpa using hall

section Strings

variable {namer : Namer} {identifier base suffix : String}

theorem normalize_of_isNormal (h : IsNormal identifier.toList) :
    normalize identifier = trimmedEnd identifier := by
  rw [normalize, normalChars_of_isNormal h, trimmedEnd]

theorem normalize_eq_self_iff : normalize identifier = identifier ↔ IsNormalForm identifier.toList := by
  rw [← normalChars_eq_self_iff, ← toList_normalize, String.toList_inj]

theorem utf8ByteSize_trimmedEnd_le (text : String) :
    (trimmedEnd text).utf8ByteSize ≤ text.utf8ByteSize := by
  rw [← Text.byteLength_toList, ← Text.byteLength_toList, trimmedEnd, String.toList_ofList]
  exact Text.byteLength_le_of_prefix (Text.prefix_trimEnd _)

theorem Namer.bounded_eq_append (h : namer.Fits base suffix) :
    namer.bounded base suffix = base ++ suffix := by
  rw [Fits, ← Text.byteLength_toList, ← Text.byteLength_toList] at h
  rw [bounded, boundedChars_eq_append h, String.ofList_append, String.ofList_toList,
    String.ofList_toList]

theorem Namer.derived_of_isNormal (h : IsNormal identifier.toList)
    (hfits : namer.Fits identifier suffix) :
    namer.derived identifier suffix = trimmedEnd identifier ++ suffix := by
  have hsize := utf8ByteSize_trimmedEnd_le identifier
  rw [Fits] at hfits
  rw [derived, normalize_of_isNormal h, bounded_eq_append]
  rw [Fits]
  omega

theorem Namer.derived_of_isNormalForm (h : IsNormalForm identifier.toList)
    (hfits : namer.Fits identifier suffix) : namer.derived identifier suffix = identifier ++ suffix := by
  rw [derived_of_isNormal h.isNormal hfits, ← normalize_of_isNormal h.isNormal,
    normalize_eq_self_iff.2 h]

/-- It takes only a name that is normal up to its end, and to the very end unless it comes close to the
limit. -/
theorem Namer.rederives (hnormal : IsNormal identifier.toList)
    (hlimit : identifier.utf8ByteSize ≤ namer.limit)
    (hshort : identifier.utf8ByteSize + 3 < namer.limit → IsNormalForm identifier.toList) :
    namer.Rederives identifier := by
  have hwhole : ∀ ending : String, 3 < ending.utf8ByteSize → namer.Fits identifier ending →
      namer.derived identifier ending = identifier ++ ending := by
    intro ending hlong hfits
    have hroom : identifier.utf8ByteSize + 3 < namer.limit := by
      rw [Fits] at hfits
      omega
    exact derived_of_isNormalForm (hshort hroom) hfits
  constructor
  case normalized => exact normalize_of_isNormal hnormal
  case fixed =>
    rw [normalize_eq_self_iff]
    exact ⟨fun h => h.solidEnd, fun h => ⟨hnormal, h⟩⟩
  case again =>
    have hfits : namer.Fits identifier "" := hlimit
    rw [derived_of_isNormal hnormal hfits, String.append_empty]
  case derived => exact fun ending => derived_of_isNormal hnormal
  case uncut => exact fun h => normalize_eq_self_iff.2 (hshort h)
  case whole => exact hwhole
  case archiveTrigger => exact fun config key => hwhole _ (by decide)
  case trigger => exact fun schema target derivation event => hwhole _ (by cases event <;> decide)
  case function => exact fun schema target derivation event => hwhole _ (by cases event <;> decide)

theorem Namer.rederives_bounded (namer : Namer) (hbase : IsNormalForm base.toList)
    (hsuffix : IsNormalForm suffix.toList) : namer.Rederives (namer.bounded base suffix) := by
  refine rederives (namer.isNormal_bounded hbase.isNormal hsuffix.isNormal)
    (namer.isBounded base suffix).size_le fun h => ?_
  rw [← Text.byteLength_toList, toList_bounded] at h
  rw [toList_bounded]
  exact isNormalForm_boundedChars_of_lt hbase hsuffix h

end Strings

theorem Namer.keepsForm (namer : Namer) : namer.KeepsForm where
  name role base parent :=
    namer.rederives_bounded (isNormalForm_marked base parent) (isNormalForm_suffix role)
  suffixed role base parent hne := by
    have hrederives :=
      namer.rederives_bounded (isNormalForm_marked base parent) (isNormalForm_suffix role)
    refine hrederives.fixed.2 ?_
    rw [toList_bounded]
    refine solidEnd_boundedChars _ _ ?_ role.isWhiteSpace_of_mem_suffix
    exact fun hnil => hne (String.toList_inj.1 hnil)
  join parts := namer.rederives_bounded (isNormalForm_joined parts) isNormalForm_nil

/-- The cut leaves a tab at the end of the name, which is lost as soon as a name is derived from it. -/
theorem tab_lost_when_rederived :
    (⟨3⟩ : Namer).name .table "ab\tcd" false = "ab\t" ∧ normalize "ab\t" ≠ "ab\t" ∧
      (⟨3⟩ : Namer).derived "ab\t" "" ≠ "ab\t" ∧
      (⟨6⟩ : Namer).name .table "ab\t𝔸" false = "ab\t" ∧
      (⟨6⟩ : Namer).derived "ab\t" "_x" ≠ "ab\t" ++ "_x" := by
  decide +kernel

end Identifier

end EntitySchema
