import EntitySchema.Proofs.RowType.Fields
import EntitySchema.Proofs.Schema.Emission

/-!
# What a cache of row types holds

Whatever happened to a cache, each row type that it shares was made for an entity of flags, and it is
still kept under the key of that request.
-/

namespace EntitySchema

open Identifier (Namer)

namespace RowType

/-- An entity of flags always has a row type. -/
theorem exists_ofEntity_eq_ok (namer : Namer) {entity : Entity}
    (h : RowTypeCache.isBooleanOnly entity = true) :
    ∃ rowType, ofEntity namer entity = .ok rowType := by
  have htags := RowTypeCache.isBooleanOnly_iff.1 h
  rw [exists_ofEntity_iff]
  intro column hcolumn
  exact ⟨.boolean, htags column hcolumn, by decide⟩

end RowType

namespace RowTypeCache

variable {Asked : Namer → Entity → Prop} {cache : RowTypeCache} {namer : Namer} {entity : Entity}

/-- What can happen to a cache. -/
inductive Use where
  | request (namer : Namer) (entity : Entity)
  | clear
  | emit (config : Config) (model : Model)

/-- The cache after it was used. -/
def use (cache : RowTypeCache) : Use → RowTypeCache
  | .request namer entity => (cache.request namer entity).2
  | .clear => cache.clear
  | .emit config model => (Schema.ofModel config model cache).2

/-- The cache that began empty, after a history of uses. -/
def after (history : List Use) : RowTypeCache := history.foldl use ∅

/-- A use that asks for row types only as allowed. -/
def Use.Within (Asked : Namer → Entity → Prop) : Use → Prop
  | .request namer entity => Asked namer entity
  | .clear => True
  | .emit config model => ∀ entity ∈ model.toList, Asked config.namer entity

/-- Each shared row type is that of some entity of flags, for which it was asked under its key. -/
def Faithful (Asked : Namer → Entity → Prop) (cache : RowTypeCache) : Prop :=
  ∀ key shared, cache.shared.get? key = some shared → ∃ namer entity, Asked namer entity ∧
    isBooleanOnly entity = true ∧ RowTypeCache.key namer entity = key ∧
      RowType.ofEntity namer entity = .ok shared.rowType

theorem faithful_empty : Faithful Asked ∅ := by
  intro key shared h
  cases (NameMap.get?_empty key).symm.trans h

theorem faithful_clear : Faithful Asked cache.clear := by
  intro key shared h
  cases (NameMap.get?_empty key).symm.trans h

theorem make_eq_ok_iff {shared : SharedRowType} {next : RowTypeCache} :
    cache.make namer entity = (.ok shared, next) ↔
      RowType.ofEntity namer entity = .ok shared.rowType ∧ shared.serial = cache.nextSerial ∧
        next = { cache with nextSerial := cache.nextSerial + 1 } := by
  unfold make
  cases RowType.ofEntity namer entity with
  | error fault => simp
  | ok rowType =>
      obtain ⟨serial, own⟩ := shared
      simp only [Prod.mk.injEq, Except.ok.injEq, SharedRowType.mk.injEq]
      constructor
      · rintro ⟨⟨rfl, rfl⟩, rfl⟩
        exact ⟨rfl, rfl, rfl⟩
      · rintro ⟨rfl, rfl, rfl⟩
        exact ⟨⟨rfl, rfl⟩, rfl⟩

/-- The answers to a request: what is shared already, and otherwise the row type of the entity. -/
theorem request_cases (cache : RowTypeCache) (namer : Namer) (entity : Entity) :
    (∃ found, isBooleanOnly entity = true ∧ cache.shared.get? (key namer entity) = some found ∧
        cache.request namer entity = (.ok found, cache)) ∨
      (∃ made next, isBooleanOnly entity = true ∧
        cache.shared.get? (key namer entity) = none ∧
        RowType.ofEntity namer entity = .ok made.rowType ∧
        next.shared = cache.shared.insert (key namer entity) made ∧
        cache.request namer entity = (.ok made, next)) ∨
      (isBooleanOnly entity = false ∧
        cache.request namer entity = cache.make namer entity) := by
  cases hflags : isBooleanOnly entity with
  | false => exact .inr (.inr ⟨rfl, request_of_not_isBooleanOnly hflags cache namer⟩)
  | true =>
      cases hfound : cache.shared.get? (key namer entity) with
      | some found => exact .inl ⟨found, rfl, rfl, by simp [request, hflags, hfound]⟩
      | none =>
          obtain ⟨rowType, hrowType⟩ := RowType.exists_ofEntity_eq_ok namer hflags
          have hmake : cache.make namer entity = (.ok ⟨cache.nextSerial, rowType⟩,
              { cache with nextSerial := cache.nextSerial + 1 }) :=
            make_eq_ok_iff.2 ⟨hrowType, rfl, rfl⟩
          simp only [request, hflags, hfound, hmake, if_true]
          exact .inr (.inl ⟨_, _, trivial, trivial, hrowType, rfl, rfl⟩)

/-- Whatever a request is answered with is the row type of some entity. -/
theorem Faithful.exists_ofEntity {shared : SharedRowType} {next : RowTypeCache}
    (h : Faithful Asked cache) (hrequest : cache.request namer entity = (.ok shared, next)) :
    ∃ namer entity, RowType.ofEntity namer entity = .ok shared.rowType := by
  rcases request_cases cache namer entity with ⟨found, -, hfound, heq⟩ |
    ⟨made, after, -, -, hrowType, -, heq⟩ | ⟨-, heq⟩
  · cases heq.symm.trans hrequest
    obtain ⟨maker, source, -, -, -, hsource⟩ := h _ _ hfound
    exact ⟨maker, source, hsource⟩
  · cases heq.symm.trans hrequest
    exact ⟨namer, entity, hrowType⟩
  · exact ⟨namer, entity, (make_eq_ok_iff.1 (heq.symm.trans hrequest)).1⟩

theorem Faithful.request (h : Faithful Asked cache) (hasked : Asked namer entity) :
    Faithful Asked (cache.request namer entity).2 := by
  rcases request_cases cache namer entity with ⟨found, -, -, heq⟩ |
    ⟨made, next, hflags, -, hrowType, hnext, heq⟩ | ⟨-, heq⟩
  · rw [heq]
    exact h
  · rw [heq]
    intro key shared hshared
    rw [hnext, NameMap.get?_insert] at hshared
    split at hshared
    next hkey =>
      cases hshared
      exact ⟨namer, entity, hasked, hflags, hkey, hrowType⟩
    next => exact h key shared hshared
  · rw [heq]
    intro key shared hshared
    rw [shared_make] at hshared
    exact h key shared hshared

theorem Faithful.parts {config : Config} (associations : List Association) {entities : List Entity}
    (h : Faithful Asked cache) (hasked : ∀ entity ∈ entities, Asked config.namer entity)
    (scopes : Schema.Scopes) :
    Faithful Asked (Schema.parts config associations scopes cache entities).2 := by
  induction entities generalizing scopes cache with
  | nil => exact h
  | cons entity entities ih =>
      have hrest : ∀ other ∈ entities, Asked config.namer other :=
        fun other hother => hasked other (List.mem_cons_of_mem _ hother)
      have hnext := h.request (hasked entity List.mem_cons_self)
      -- Wherever it stops, the run leaves a cache behind, also when it fails.
      rw [Schema.parts]
      split
      · exact h
      next tables htables =>
        split
        next hrequest =>
          rw [hrequest] at hnext
          exact hnext
        next shared next hrequest =>
          rw [hrequest] at hnext
          split
          · exact hnext
          next part hpart =>
            split
            · exact hnext
            next functions hfunctions =>
              have hlast := ih hnext hrest ⟨tables, functions⟩
              split
              all_goals
                next heq =>
                  rw [heq] at hlast
                  exact hlast

theorem Faithful.ofModel {config : Config} {model : Model} (h : Faithful Asked cache)
    (hasked : ∀ entity ∈ model.toList, Asked config.namer entity) :
    Faithful Asked (Schema.ofModel config model cache).2 := by
  rw [Schema.ofModel]
  split
  · exact h
  next associations _ =>
    split
    · exact h
    · have hparts := h.parts associations hasked (Schema.initialScopes config)
      split
      next heq =>
        rw [heq] at hparts
        exact hparts
      next heq =>
        rw [heq] at hparts
        split
        · exact hparts
        · exact hparts

theorem Faithful.use {step : Use} (h : Faithful Asked cache) (hstep : step.Within Asked) :
    Faithful Asked (cache.use step) := by
  cases step with
  | request namer entity => exact h.request hstep
  | clear => exact faithful_clear
  | emit config model => exact h.ofModel hstep

theorem faithful_after {history : List Use} (h : ∀ step ∈ history, step.Within Asked) :
    Faithful Asked (after history) := by
  have hfold : ∀ {cache : RowTypeCache}, Faithful Asked cache →
      Faithful Asked (history.foldl RowTypeCache.use cache) := by
    induction history with
    | nil => exact id
    | cons step history ih =>
        intro cache hcache
        exact ih (fun other hother => h other (List.mem_cons_of_mem _ hother))
          (hcache.use (h step List.mem_cons_self))
  exact hfold faithful_empty

end RowTypeCache

end EntitySchema
