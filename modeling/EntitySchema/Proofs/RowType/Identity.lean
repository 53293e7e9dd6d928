import Mathlib.Data.Finset.Dedup
import Mathlib.Data.List.DropRight
import EntitySchema.Proofs.NameMap
import EntitySchema.Proofs.RowType.Sharing

/-!
# Which requests are answered with one row type

A session is a cache together with all the row types that it has handed out. Two requests for
entities of flags get the same row type, told by its serial number, exactly if they have the same key
and the cache was not cleared between them. The cache holds one row type for each key that was asked
for since it was last cleared.
-/

namespace EntitySchema

open Identifier (Namer)

namespace RowTypeCache

/-- What a cache is called for. -/
inductive Call where
  | request (namer : Namer) (entity : Entity)
  | clear
deriving DecidableEq

/-- The key of a request for an entity of flags. -/
def Call.flagKey? : Call → Option String
  | .request namer entity => if isBooleanOnly entity then some (key namer entity) else none
  | .clear => none

/-- The keys of the requests for entities of flags since the cache was last cleared. -/
def keysSinceClear (calls : List Call) : List String :=
  (calls.rtakeWhile (· ≠ .clear)).filterMap Call.flagKey?

/-- A cache in use, with every row type that it has handed out. -/
structure Session where
  cache : RowTypeCache := ∅
  handedOut : List SharedRowType := []

namespace Session

def answer (session : Session) (namer : Namer) (entity : Entity) :
    Except UnsupportedTag SharedRowType :=
  (session.cache.request namer entity).1

def next (session : Session) : Call → Session
  | .request namer entity =>
      ⟨(session.cache.request namer entity).2,
        session.handedOut ++ (session.answer namer entity).toOption.toList⟩
  | .clear => { session with cache := session.cache.clear }

section

variable {session : Session} {namer : Namer} {entity : Entity} {cache : RowTypeCache}

theorem next_of_ok {shared : SharedRowType}
    (h : session.cache.request namer entity = (.ok shared, cache)) :
    session.next (.request namer entity) = ⟨cache, session.handedOut ++ [shared]⟩ := by
  simp only [next, answer, h]
  rfl

theorem next_of_error {fault : UnsupportedTag}
    (h : session.cache.request namer entity = (.error fault, cache)) :
    session.next (.request namer entity) = ⟨cache, session.handedOut⟩ := by
  simp only [next, answer, h]
  exact congrArg _ (List.append_nil _)

end

/-- The session that began with an empty cache, after the calls. -/
def after (calls : List Call) : Session := calls.foldl next {}

theorem after_concat (calls : List Call) (call : Call) :
    after (calls ++ [call]) = (after calls).next call := by
  simp [after]

end Session

section Keys

variable {calls : List Call} {namer : Namer} {entity : Entity}

theorem keysSinceClear_clear : keysSinceClear (calls ++ [.clear]) = [] := by
  rw [keysSinceClear, List.rtakeWhile_concat_neg _ _ _ (by simp), List.filterMap_nil]

theorem mem_keysSinceClear_request {name : String} :
    name ∈ keysSinceClear (calls ++ [.request namer entity]) ↔
      name ∈ keysSinceClear calls ∨ (isBooleanOnly entity = true ∧ key namer entity = name) := by
  rw [keysSinceClear, List.rtakeWhile_concat_pos _ _ _ (by simp), List.filterMap_append,
    List.mem_append]
  apply or_congr_right
  simp [Call.flagKey?]

end Keys

/-- The outcomes of a request: what is shared already, a new row type that is shared from now on, a
new row type that is not, or a fault. -/
theorem request_outcomes (cache : RowTypeCache) (namer : Namer) (entity : Entity) :
    (∃ found, isBooleanOnly entity = true ∧ cache.shared.get? (key namer entity) = some found ∧
        cache.request namer entity = (.ok found, cache)) ∨
      (∃ rowType, isBooleanOnly entity = true ∧
        cache.shared.get? (key namer entity) = none ∧
        cache.request namer entity = (.ok ⟨cache.nextSerial, rowType⟩,
          ⟨cache.shared.insert (key namer entity) ⟨cache.nextSerial, rowType⟩,
            cache.nextSerial + 1⟩)) ∨
      (∃ rowType, isBooleanOnly entity = false ∧
        cache.request namer entity = (.ok ⟨cache.nextSerial, rowType⟩,
          ⟨cache.shared, cache.nextSerial + 1⟩)) ∨
      (∃ fault, isBooleanOnly entity = false ∧
        cache.request namer entity = (.error fault, cache)) := by
  cases hflags : isBooleanOnly entity with
  | false =>
      rw [request_of_not_isBooleanOnly hflags]
      cases hrowType : RowType.ofEntity namer entity with
      | ok rowType =>
          exact .inr (.inr (.inl ⟨rowType, rfl, make_eq_ok_iff.2 ⟨hrowType, rfl, rfl⟩⟩))
      | error fault => exact .inr (.inr (.inr ⟨fault, rfl, by simp [make, hrowType]⟩))
  | true =>
      cases hfound : cache.shared.get? (key namer entity) with
      | some found => exact .inl ⟨found, rfl, rfl, by simp [request, hflags, hfound]⟩
      | none =>
          obtain ⟨rowType, hrowType⟩ := RowType.exists_ofEntity_eq_ok namer hflags
          have hmake : cache.make namer entity = (.ok ⟨cache.nextSerial, rowType⟩,
              { cache with nextSerial := cache.nextSerial + 1 }) :=
            make_eq_ok_iff.2 ⟨hrowType, rfl, rfl⟩
          exact .inr (.inl ⟨rowType, rfl, rfl, by simp [request, hflags, hfound, hmake]⟩)

/-- What holds of a session after the calls. -/
structure Ledger (calls : List Call) (session : Session) : Prop where
  kept : ∀ name, (session.cache.shared.get? name).isSome ↔ name ∈ keysSinceClear calls
  known : ∀ name shared, session.cache.shared.get? name = some shared → shared ∈ session.handedOut
  keys : ∀ name name' shared, session.cache.shared.get? name = some shared →
    session.cache.shared.get? name' = some shared → name = name'
  earlier : ∀ given ∈ session.handedOut, given.serial < session.cache.nextSerial
  serials : ∀ given ∈ session.handedOut, ∀ given' ∈ session.handedOut,
    given.serial = given'.serial → given = given'

namespace Ledger

variable {calls : List Call} {session : Session} {namer : Namer} {entity : Entity}

theorem start : Ledger [] {} where
  kept name := by simp [keysSinceClear]; rfl
  known _ _ h := by cases (NameMap.get?_empty _).symm.trans h
  keys _ _ _ h := by cases (NameMap.get?_empty _).symm.trans h
  earlier _ h := by cases h
  serials _ h := by cases h

theorem clear (h : Ledger calls session) : Ledger (calls ++ [.clear]) (session.next .clear) where
  kept name := by simp [keysSinceClear_clear, Session.next, RowTypeCache.clear]
  known _ _ hget := by cases (NameMap.get?_empty _).symm.trans hget
  keys _ _ _ hget := by cases (NameMap.get?_empty _).symm.trans hget
  earlier := h.earlier
  serials := h.serials

theorem serials_give (h : Ledger calls session) (rowType : RowType) :
    (∀ given ∈ session.handedOut ++ [⟨session.cache.nextSerial, rowType⟩],
      given.serial < session.cache.nextSerial + 1) ∧
    ∀ given ∈ session.handedOut ++ [⟨session.cache.nextSerial, rowType⟩],
      ∀ given' ∈ session.handedOut ++ [⟨session.cache.nextSerial, rowType⟩],
        given.serial = given'.serial → given = given' := by
  have hne : ∀ given ∈ session.handedOut, given.serial ≠ session.cache.nextSerial :=
    fun given hgiven => (h.earlier given hgiven).ne
  simp only [List.mem_append, List.mem_singleton]
  constructor
  · rintro given (hgiven | rfl)
    · exact (h.earlier given hgiven).trans (Nat.lt_succ_self _)
    · exact Nat.lt_succ_self _
  · rintro given (hgiven | rfl) given' (hgiven' | rfl) heq
    · exact h.serials given hgiven given' hgiven' heq
    · exact absurd heq (hne given hgiven)
    · exact absurd heq.symm (hne given' hgiven')
    · rfl

theorem give_found (h : Ledger calls session) {found : SharedRowType}
    (hfound : session.cache.shared.get? (key namer entity) = some found) :
    Ledger (calls ++ [.request namer entity])
      ⟨session.cache, session.handedOut ++ [found]⟩ := by
  have hgiven : found ∈ session.handedOut := h.known _ _ hfound
  have hmem : ∀ given, given ∈ session.handedOut ++ [found] ↔ given ∈ session.handedOut := by
    simpa using hgiven
  refine ⟨fun name => ?_, ?_, h.keys, ?_, ?_⟩
  · rw [mem_keysSinceClear_request, ← h.kept name]
    refine (or_iff_left_of_imp ?_).symm
    rintro ⟨-, rfl⟩
    exact Option.isSome_of_mem hfound
  · simpa only [hmem] using h.known
  · simpa only [hmem] using h.earlier
  · simpa only [hmem] using h.serials

theorem give_shared (h : Ledger calls session) (hflags : isBooleanOnly entity = true)
    (rowType : RowType) :
    Ledger (calls ++ [.request namer entity])
      ⟨⟨session.cache.shared.insert (key namer entity) ⟨session.cache.nextSerial, rowType⟩,
        session.cache.nextSerial + 1⟩,
        session.handedOut ++ [⟨session.cache.nextSerial, rowType⟩]⟩ := by
  obtain ⟨hearlier, hserials⟩ := h.serials_give rowType
  -- What was shared before has another serial number than what is shared now.
  have hfresh : ∀ name, session.cache.shared.get? name ≠
      some ⟨session.cache.nextSerial, rowType⟩ :=
    fun name hget => (h.earlier _ (h.known _ _ hget)).ne rfl
  refine ⟨fun name => ?_, fun name shared hget => ?_, fun name name' shared hget hget' => ?_,
    hearlier, hserials⟩
  · rw [mem_keysSinceClear_request, ← h.kept name, NameMap.get?_insert]
    by_cases hname : key namer entity = name <;> simp [hname, hflags]
  · rw [NameMap.get?_insert] at hget
    split at hget
    · cases hget
      exact List.mem_append_right _ List.mem_cons_self
    · exact List.mem_append_left _ (h.known _ _ hget)
  · rw [NameMap.get?_insert] at hget hget'
    split at hget <;> split at hget'
    next hname hname' => exact hname.symm.trans hname'
    next => exact absurd (hget'.trans hget.symm) (hfresh name')
    next => exact absurd (hget.trans hget'.symm) (hfresh name)
    next => exact h.keys _ _ _ hget hget'

theorem give_own (h : Ledger calls session) (hflags : isBooleanOnly entity = false)
    (rowType : RowType) :
    Ledger (calls ++ [.request namer entity])
      ⟨⟨session.cache.shared, session.cache.nextSerial + 1⟩,
        session.handedOut ++ [⟨session.cache.nextSerial, rowType⟩]⟩ := by
  obtain ⟨hearlier, hserials⟩ := h.serials_give rowType
  refine ⟨fun name => ?_, fun name shared hget => ?_, h.keys, hearlier, hserials⟩
  · simp [mem_keysSinceClear_request, hflags, h.kept name]
  · exact List.mem_append_left _ (h.known _ _ hget)

theorem give_nothing (h : Ledger calls session) (hflags : isBooleanOnly entity = false) :
    Ledger (calls ++ [.request namer entity]) session := by
  refine ⟨fun name => ?_, h.known, h.keys, h.earlier, h.serials⟩
  simp [mem_keysSinceClear_request, hflags, h.kept name]

theorem next (h : Ledger calls session) (call : Call) :
    Ledger (calls ++ [call]) (session.next call) := by
  cases call with
  | clear => exact h.clear
  | request namer entity =>
      rcases request_outcomes session.cache namer entity with ⟨found, -, hfound, heq⟩ |
        ⟨rowType, hflags, -, heq⟩ | ⟨rowType, hflags, heq⟩ | ⟨fault, hflags, heq⟩
      · rw [Session.next_of_ok heq]
        exact h.give_found hfound
      · rw [Session.next_of_ok heq]
        exact h.give_shared hflags rowType
      · rw [Session.next_of_ok heq]
        exact h.give_own hflags rowType
      · rw [Session.next_of_error heq]
        exact h.give_nothing hflags

theorem after (calls : List Call) : Ledger calls (.after calls) := by
  induction calls using List.reverseRecOn with
  | nil => exact start
  | append_singleton calls call ih =>
      rw [Session.after_concat]
      exact ih.next call

end Ledger

section

variable {calls earlier between : List Call} {namer : Namer} {entity : Entity}
  {shared first : SharedRowType}

/-- A row type that a session handed out is not made again, so requests leave it where it is. -/
theorem Ledger.get?_next_iff {session : Session} (h : Ledger calls session)
    (hgiven : shared ∈ session.handedOut) (namer : Namer) (entity : Entity) (name : String) :
    (session.next (.request namer entity)).cache.shared.get? name = some shared ↔
      session.cache.shared.get? name = some shared := by
  rcases request_outcomes session.cache namer entity with ⟨found, -, -, heq⟩ |
    ⟨rowType, -, hnone, heq⟩ | ⟨rowType, -, heq⟩ | ⟨fault, -, heq⟩
  · rw [Session.next_of_ok heq]
  · have hne : some (SharedRowType.mk session.cache.nextSerial rowType) ≠ some shared := by
      rintro ⟨⟩
      exact (h.earlier _ hgiven).ne rfl
    rw [Session.next_of_ok heq, NameMap.get?_insert]
    split
    next hname => simp [← hname, hnone, hne]
    next => rfl
  · rw [Session.next_of_ok heq]
  · rw [Session.next_of_error heq]

theorem kept_of_answer (session : Session) (hflags : isBooleanOnly entity = true)
    (h : session.answer namer entity = .ok shared) :
    shared ∈ (session.next (.request namer entity)).handedOut ∧
      (session.next (.request namer entity)).cache.shared.get? (key namer entity) =
        some shared := by
  have hgive : ∀ {cache}, session.cache.request namer entity = (.ok shared, cache) →
      shared ∈ (session.next (.request namer entity)).handedOut := by
    intro cache heq
    rw [Session.next_of_ok heq]
    exact List.mem_append_right _ List.mem_cons_self
  rw [Session.answer] at h
  rcases request_outcomes session.cache namer entity with ⟨found, -, hfound, heq⟩ |
    ⟨rowType, -, -, heq⟩ | ⟨rowType, hother, -⟩ | ⟨fault, hother, -⟩
  · rw [heq] at h
    cases h
    exact ⟨hgive heq, by rwa [Session.next_of_ok heq]⟩
  · rw [heq] at h
    cases h
    exact ⟨hgive heq, by rw [Session.next_of_ok heq, NameMap.get?_insert_self]⟩
  · cases hother.symm.trans hflags
  · cases hother.symm.trans hflags

theorem Session.handedOut_subset_next (session : Session) (call : Call) :
    session.handedOut ⊆ (session.next call).handedOut := by
  cases call with
  | request namer entity => exact List.subset_append_left _ _
  | clear => exact List.Subset.refl _

/-- What an entity of flags was answered with is handed out from then on, and kept under its key and
no other until the cache is cleared. -/
theorem kept_iff (hflags : isBooleanOnly entity = true)
    (hfirst : (Session.after earlier).answer namer entity = .ok first) (between : List Call) :
    first ∈ (Session.after (earlier ++ .request namer entity :: between)).handedOut ∧ ∀ name,
      (Session.after (earlier ++ .request namer entity :: between)).cache.shared.get? name =
        some first ↔ key namer entity = name ∧ .clear ∉ between := by
  induction between using List.reverseRecOn with
  | nil =>
      obtain ⟨hgiven, hkept⟩ := kept_of_answer _ hflags hfirst
      rw [Session.after_concat]
      refine ⟨hgiven, fun name => ⟨fun hget => ⟨?_, List.not_mem_nil⟩, fun hname => ?_⟩⟩
      · exact ((Ledger.after earlier).next (.request namer entity)).keys _ _ _ hkept hget
      · exact hname.1 ▸ hkept
  | append_singleton between call ih =>
      have hcalls : earlier ++ .request namer entity :: (between ++ [call]) =
          (earlier ++ .request namer entity :: between) ++ [call] := by simp
      rw [hcalls, Session.after_concat]
      refine ⟨Session.handedOut_subset_next _ call ih.1, fun name => ?_⟩
      cases call with
      | clear => simp [Session.next, RowTypeCache.clear]
      | request namer' entity' =>
          rw [(Ledger.after _).get?_next_iff ih.1, ih.2 name]
          simp

/-- Two requests for entities of flags are answered with one row type exactly if their keys are equal
and the cache was not cleared between them. -/
theorem serial_eq_iff (hflags : isBooleanOnly entity = true)
    (hfirst : (Session.after earlier).answer namer entity = .ok first)
    {namer' : Namer} {entity' : Entity} {second : SharedRowType}
    (hflags' : isBooleanOnly entity' = true)
    (hsecond : (Session.after (earlier ++ .request namer entity :: between)).answer
      namer' entity' = .ok second) :
    first.serial = second.serial ↔
      key namer entity = key namer' entity' ∧ .clear ∉ between := by
  obtain ⟨hgiven, hkept⟩ := kept_of_answer _ hflags' hsecond
  have hledger := Ledger.after (earlier ++ .request namer entity :: between)
  obtain ⟨hgiven', hkept'⟩ := kept_iff hflags hfirst between
  calc first.serial = second.serial
      ↔ first = second :=
        ⟨(hledger.next _).serials _ (Session.handedOut_subset_next _ _ hgiven') _ hgiven,
          congrArg _⟩
    _ ↔ ((Session.after _).next (.request namer' entity')).cache.shared.get?
          (key namer' entity') = some first := by
        rw [hkept, Option.some.injEq, eq_comm]
    _ ↔ key namer entity = key namer' entity' ∧ .clear ∉ between := by
        rw [hledger.get?_next_iff hgiven', hkept']

/-- What the callers of a cache can rely on after the calls. -/
structure Lawful (calls : List Call) : Prop where
  answered : ∀ namer entity, isBooleanOnly entity = true →
    ∃ shared, (Session.after calls).answer namer entity = .ok shared
  same_iff : ∀ earlier namer entity between first namer' entity' second,
    calls = earlier ++ .request namer entity :: between →
      isBooleanOnly entity = true → isBooleanOnly entity' = true →
        (Session.after earlier).answer namer entity = .ok first →
          (Session.after calls).answer namer' entity' = .ok second →
            (first.serial = second.serial ↔
              key namer entity = key namer' entity' ∧ .clear ∉ between)
  identity : ∀ given ∈ (Session.after calls).handedOut, ∀ given' ∈ (Session.after calls).handedOut,
    given.serial = given'.serial → given = given'
  unshared : ∀ namer entity, isBooleanOnly entity = false →
    ((Session.after calls).cache.request namer entity).2.shared =
        (Session.after calls).cache.shared ∧
      ∀ made, (Session.after calls).answer namer entity = .ok made →
        ∀ given ∈ (Session.after calls).handedOut, given.serial ≠ made.serial
  failed : ∀ namer entity fault, (Session.after calls).answer namer entity = .error fault →
    ((Session.after calls).cache.request namer entity).2 = (Session.after calls).cache
  size_eq : (Session.after calls).cache.size = (keysSinceClear calls).toFinset.card

theorem Ledger.size_eq {session : Session} (h : Ledger calls session) :
    session.cache.size = (keysSinceClear calls).toFinset.card :=
  NameMap.size_eq_card h.kept

/-- Whatever a cache was called for, its callers can rely on it. -/
theorem lawful_after (calls : List Call) : Lawful calls where
  answered namer entity hflags := by
    rcases request_outcomes (Session.after calls).cache namer entity with ⟨found, -, -, heq⟩ |
      ⟨rowType, -, -, heq⟩ | ⟨rowType, hother, -⟩ | ⟨fault, hother, -⟩
    · exact ⟨found, by rw [Session.answer, heq]⟩
    · exact ⟨_, by rw [Session.answer, heq]⟩
    · cases hother.symm.trans hflags
    · cases hother.symm.trans hflags
  same_iff earlier namer entity between first namer' entity' second hcalls hflags hflags' hfirst
      hsecond := by
    subst hcalls
    exact serial_eq_iff hflags hfirst hflags' hsecond
  identity := (Ledger.after calls).serials
  unshared namer entity hother := by
    rw [Session.answer, request_of_not_isBooleanOnly hother]
    refine ⟨shared_make _ namer entity, fun made hmade given hgiven => ?_⟩
    have hserial := (make_eq_ok_iff.1 (Prod.ext hmade rfl)).2.1
    exact hserial ▸ ((Ledger.after calls).earlier given hgiven).ne
  failed namer entity fault hfault := by
    rw [Session.answer] at hfault
    rcases request_outcomes (Session.after calls).cache namer entity with ⟨found, -, -, heq⟩ |
      ⟨rowType, -, -, heq⟩ | ⟨rowType, -, heq⟩ | ⟨fault', -, heq⟩
    · cases hfault.symm.trans (congrArg Prod.fst heq)
    · cases hfault.symm.trans (congrArg Prod.fst heq)
    · cases hfault.symm.trans (congrArg Prod.fst heq)
    · exact congrArg Prod.snd heq
  size_eq := (Ledger.after calls).size_eq

end

end RowTypeCache

end EntitySchema
