import EntitySchema.Proofs.RowType.Keys
import EntitySchema.Proofs.RowType.Sharing

/-!
# When sharing cannot be noticed

A shared row type is found by its key alone, so that sharing changes no answer as long as requests
of one key ask for one row type. Keys are pasted together without escapes: two entities of flags can
have one key and still differ in their columns, and then the second is handed the columns of the
first.
-/

namespace EntitySchema.RowTypeCache

open Identifier (Namer)

variable {Asked : Namer → Entity → Prop} {cache other : RowTypeCache} {namer : Namer}
  {entity : Entity}

/-- The cache answers requests with the row types of their entities, and schemas are made with it as
with an empty one. -/
structure Transparent (Asked : Namer → Entity → Prop) (cache : RowTypeCache) : Prop where
  request : ∀ namer entity, Asked namer entity →
    (cache.request namer entity).1.map SharedRowType.rowType = RowType.ofEntity namer entity
  ofModel : ∀ config model, (∀ entity ∈ model.toList, Asked config.namer entity) →
    (Schema.ofModel config model cache).1 = (Schema.ofModel config model ∅).1

theorem map_rowType_make (cache : RowTypeCache) (namer : Namer) (entity : Entity) :
    (cache.make namer entity).1.map SharedRowType.rowType = RowType.ofEntity namer entity := by
  unfold make
  cases RowType.ofEntity namer entity with
  | error fault => rfl
  | ok rowType => rfl

theorem map_rowType_request (hapart : Apart Asked) (hfaithful : Faithful Asked cache)
    (hasked : Asked namer entity) :
    (cache.request namer entity).1.map SharedRowType.rowType = RowType.ofEntity namer entity := by
  rcases request_cases cache namer entity with ⟨found, hflags, hfound, heq⟩ |
    ⟨made, next, -, -, hrowType, -, heq⟩ | ⟨-, heq⟩
  · obtain ⟨namer', entity', hasked', hflags', hkey, hrowType⟩ := hfaithful _ _ hfound
    rw [heq, hapart namer entity namer' entity' hasked hasked' hflags hflags' hkey.symm, hrowType]
    rfl
  · rw [heq, hrowType]
    rfl
  · rw [heq, map_rowType_make]

/-- Two caches that give one answer fail in one way, or hand out one row type. -/
theorem request_alike (h : (cache.request namer entity).1.map SharedRowType.rowType =
      (other.request namer entity).1.map SharedRowType.rowType) :
    (∃ fault next next', cache.request namer entity = (.error fault, next) ∧
        other.request namer entity = (.error fault, next')) ∨
      ∃ shared shared' next next', cache.request namer entity = (.ok shared, next) ∧
        other.request namer entity = (.ok shared', next') ∧ shared.rowType = shared'.rowType := by
  rcases hcache : cache.request namer entity with ⟨fault | shared, next⟩ <;>
    rcases hother : other.request namer entity with ⟨fault' | shared', next'⟩ <;>
    rw [hcache, hother] at h
  · cases h
    exact .inl ⟨_, _, _, rfl, rfl⟩
  · cases h
  · cases h
  · exact .inr ⟨_, _, _, _, rfl, rfl, Except.ok.inj h⟩

theorem parts_alike (hapart : Apart Asked) {config : Config} (associations : List Association)
    {entities : List Entity} (hasked : ∀ entity ∈ entities, Asked config.namer entity)
    (hcache : Faithful Asked cache) (hother : Faithful Asked other) (scopes : Schema.Scopes) :
    (Schema.parts config associations scopes cache entities).1 =
      (Schema.parts config associations scopes other entities).1 := by
  induction entities generalizing scopes cache other with
  | nil => rfl
  | cons entity entities ih =>
      have hrest : ∀ other ∈ entities, Asked config.namer other :=
        fun other hother => hasked other (List.mem_cons_of_mem _ hother)
      have hentity := hasked entity List.mem_cons_self
      have hnext := hcache.request hentity
      have hnext' := hother.request hentity
      have halike := request_alike ((map_rowType_request hapart hcache hentity).trans
        (map_rowType_request hapart hother hentity).symm)
      simp only [Schema.parts]
      cases scopes.tables.claim ("entity " ++ entity.name)
          (config.namer.name .table entity.name false) with
      | error collision => rfl
      | ok tables =>
          rcases halike with ⟨fault, next, next', heq, heq'⟩ |
            ⟨shared, shared', next, next', heq, heq', hrowType⟩
          · simp only [heq, heq']
          -- The serial numbers may differ, but a part is made of the row type alone.
          simp only [heq, heq', hrowType]
          rw [heq] at hnext
          rw [heq'] at hnext'
          cases EntityPart.ofEntity config associations entity shared'.rowType with
          | error error => rfl
          | ok part =>
              simp only
              cases scopes.functions.claimAll (part.functionClaims entity) with
              | error collision => rfl
              | ok functions =>
                  have hparts := ih hrest hnext hnext' ⟨tables, functions⟩
                  simp only
                  rcases hmade : Schema.parts config associations ⟨tables, functions⟩ next entities
                    with ⟨made | made, last⟩ <;>
                  rcases hmade' : Schema.parts config associations ⟨tables, functions⟩ next' entities
                    with ⟨made' | made', last'⟩ <;>
                  rw [hmade, hmade'] at hparts <;> cases hparts <;> rfl

theorem ofModel_alike (hapart : Apart Asked) {config : Config} {model : Model}
    (hasked : ∀ entity ∈ model.toList, Asked config.namer entity)
    (hcache : Faithful Asked cache) (hother : Faithful Asked other) :
    (Schema.ofModel config model cache).1 = (Schema.ofModel config model other).1 := by
  simp only [Schema.ofModel]
  cases Association.ofModel config.namer model with
  | error error => rfl
  | ok associations =>
      simp only
      cases Schema.uncovered? model associations with
      | some cause => rfl
      | none =>
          have hparts := parts_alike hapart associations hasked hcache hother
            (Schema.initialScopes config)
          simp only
          rcases hmade : Schema.parts config associations (Schema.initialScopes config) cache
            model.toList with ⟨made | made, last⟩ <;>
          rcases hmade' : Schema.parts config associations (Schema.initialScopes config) other
            model.toList with ⟨made' | made', last'⟩ <;>
          rw [hmade, hmade'] at hparts <;> cases hparts
          · rfl
          · simp only
            cases made.2.tables.claimAll (Schema.associationClaims associations) with
            | error collision => rfl
            | ok after => rfl

theorem Faithful.transparent (h : Faithful Asked cache) (hapart : Apart Asked) :
    Transparent Asked cache where
  request _ _ hasked := map_rowType_request hapart h hasked
  ofModel _ _ hasked := ofModel_alike hapart hasked h faithful_empty

theorem request_empty (namer : Namer) (h : isBooleanOnly entity = true) :
    ∃ made next, RowType.ofEntity namer entity = .ok made.rowType ∧
      (∅ : RowTypeCache).request namer entity = (.ok made, next) ∧
      next.shared.get? (key namer entity) = some made := by
  rcases request_cases ∅ namer entity with ⟨found, -, hfound, -⟩ |
    ⟨made, next, -, -, hrowType, hnext, heq⟩ | ⟨hnot, -⟩
  · cases (NameMap.get?_empty (key namer entity)).symm.trans hfound
  · exact ⟨made, next, hrowType, heq, by rw [hnext, NameMap.get?_insert_self]⟩
  · cases h.symm.trans hnot

/-- After every history of requests, sharing cannot be noticed in what is asked next, exactly when
keys tell apart what can be asked. -/
theorem transparent_iff (Asked : Namer → Entity → Prop) :
    (∀ history : List Use, (∀ step ∈ history, step.Within Asked) →
        Transparent Asked (after history)) ↔ Apart Asked := by
  constructor
  · intro htransparent namer entity namer' entity' hasked hasked' hflags hflags' hkey
    obtain ⟨made, next, hrowType, hrequest, hshared⟩ := request_empty namer hflags
    have hnext : after [.request namer entity] = next := by
      rw [after, List.foldl_cons, List.foldl_nil, use, hrequest]
    have hwithin : ∀ step ∈ [Use.request namer entity], step.Within Asked := by
      simpa [Use.Within] using hasked
    have hsecond := (htransparent _ hwithin).request namer' entity' hasked'
    rw [hnext] at hsecond
    -- The second request finds what the first one left under their common key.
    rcases request_cases next namer' entity' with ⟨found, -, hfound, heq⟩ |
      ⟨-, -, -, hnone, -⟩ | ⟨hnot, -⟩
    · rw [← hkey, hshared] at hfound
      cases hfound
      rw [hrowType, ← hsecond, heq]
      rfl
    · rw [← hkey, hshared] at hnone
      cases hnone
    · cases hflags'.symm.trans hnot
  · intro hapart history hwithin
    exact (faithful_after hwithin).transparent hapart

/-- Sharing cannot be noticed among entities whose names and annotations are without separators. -/
theorem transparent_after_of_separable {history : List Use}
    (h : ∀ step ∈ history, step.Within fun _ entity => Separable entity) :
    Transparent (fun _ entity => Separable entity) (after history) :=
  (faithful_after h).transparent apart_separable

/-- A table of one flag, whose annotation reads like a second one. -/
def posing : Entity where
  name := "flags"
  columns := [{ name := "a", type := "boolean", annotation := "x|b:boolean:false:" }]

/-- A table of two flags. -/
def genuine : Entity where
  name := "flags"
  columns := [{ name := "a", type := "boolean", annotation := "x" }, { name := "b", type := "boolean" }]

/-- The second request is answered with the one column of the first. -/
theorem not_transparent_posing :
    ((after [.request {} posing]).request {} genuine).1.map SharedRowType.rowType =
        RowType.ofEntity {} posing ∧
      ¬ Transparent (fun _ _ => True) (after [.request {} posing]) := by
  refine ⟨by decide +kernel, fun htransparent => ?_⟩
  have hsame := htransparent.request {} genuine trivial
  have hother : ((after [.request {} posing]).request {} genuine).1.map SharedRowType.rowType ≠
      RowType.ofEntity {} genuine := by decide +kernel
  exact hother hsame

end EntitySchema.RowTypeCache
