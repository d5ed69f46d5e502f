import IpoOne.Indexer.Reconcile
import IpoOne.Lib.Run

/-!
# Runs of the indexer

The indexer is a state machine over its methods.  `systemStep` is the state a method leaves, whether
it returned or threw, and `Reachable` the states that any sequence of calls leads to from a new
indexer with an empty store.

`Keyed` is the first invariant: both maps of the indexer are keyed by the observations' own event
keys.
-/

set_option autoImplicit false

namespace IpoOne
namespace Indexer

open Fallible

/-- A call of the indexer, with what the clock says and what the database throws, if it does. -/
inductive SystemInput (H : Type) where
  | ingest (log : RawLog) (failure : Option DomainError)
  | observeCanonicalBlock (blockNumber : Option ℕ) (blockHash : Option Bytes32)
      (observedAt : Option ℕ) (failure : Option DomainError)
  | restore (now : ℕ)
  | reconcile (directReads : List DirectRead) (now : ℕ) (failure : Option DomainError)
  | approveRecovery (reconciliationId : H) (approvalHash approvedByHash : Option Bytes32) (now : ℕ)
      (failure : Option DomainError)

section Steps

variable {H : Type} [LinearOrder H] (prims : Primitives H) (descriptor : Descriptor)

/-- One call on the indexer. -/
def systemStep (s : System H) : SystemInput H → System H
  | .ingest log failure => (ingest prims descriptor s log failure).2
  | .observeCanonicalBlock blockNumber blockHash observedAt failure =>
    (observeCanonicalBlock prims descriptor s blockNumber blockHash observedAt failure).2
  | .restore now => (restore prims descriptor s now).2
  | .reconcile directReads now failure =>
    (reconcile prims descriptor s directReads now failure).2
  | .approveRecovery reconciliationId approvalHash approvedByHash now failure =>
    (approveRecovery prims descriptor s reconciliationId approvalHash approvedByHash now failure).2

/-- A new indexer with an empty store. -/
def System.new (now : ℕ) : System H where
  indexer := .new prims descriptor now
  store := .empty

/-- `s` can be reached by calls of the indexer, some of which may have thrown. -/
def System.Reachable (s : System H) : Prop :=
  ∃ now, Run.Reachable (systemStep prims descriptor) (System.new prims descriptor now) s

theorem System.reachable_new (now : ℕ) :
    (System.new prims descriptor now).Reachable prims descriptor :=
  ⟨now, Run.reachable_refl _⟩

end Steps

/-! ## What the steps of a method do -/

section Methods

variable {H : Type} [LinearOrder H] {prims : Primitives H} {descriptor : Descriptor}
  {ix ix' : PoolEventIndexer H} {o : Observation H}

omit [LinearOrder H] in
/-- An invalidation is about the same event. -/
theorem createInvalidation_ok {hash : Option Bytes32} {observedAt : Option ℕ} {i : Observation H}
    (h : createInvalidation prims o hash observedAt = .ok i) :
    o.observationStatus ≠ .finalized ∧ i.eventKey = o.eventKey ∧ IsInvalidation prims i := by
  simp only [createInvalidation, bind_eq_ok, throwIf_eq_ok, required_eq_ok, pure_eq_ok] at h
  obtain ⟨_, hfinal, _, _, _, _, _, _, rfl⟩ := h
  exact ⟨hfinal, rfl, rfl, rfl⟩

/-- What `admission` lets through: no finalized observation is replaced, and what is replaced is
invalidated first. -/
theorem admission_ok {invalidations : List (Observation H)}
    (h : admission prims ix o = .ok invalidations) :
    ∀ i ∈ invalidations, ∃ current, ix.latestByEventKey.get o.eventKey = some current ∧
      ∃ hash observedAt, createInvalidation prims current hash observedAt = .ok i := by
  simp only [admission, bind_eq_ok] at h
  obtain ⟨_, _, h⟩ := h
  intro i hi
  cases hcurrent : ix.latestByEventKey.get o.eventKey with
  | none =>
    rw [hcurrent, replaced] at h
    cases pure_eq_ok.1 h
    cases hi
  | some current =>
    rw [hcurrent, replaced] at h
    split at h
    · simp only [bind_eq_ok, pure_eq_ok] at h
      obtain ⟨invalidation, hinvalidation, rfl⟩ := h
      rw [List.mem_singleton] at hi
      exact ⟨current, rfl, _, _, hi ▸ hinvalidation⟩
    · cases pure_eq_ok.1 h
      cases hi

theorem finalize_ok {effect : Option (FinalizedEffect H × OutboxMessage H)}
    (h : finalize prims descriptor ix o = .ok (ix', effect)) :
    (ix' = ix ∧ effect = none ∧
      ¬ (o.observationStatus = .finalized ∧ o.eventKey ∉ ix.finalizedEventKeySet)) ∨
    (o.observationStatus = .finalized ∧ o.eventKey ∉ ix.finalizedEventKeySet ∧
      ∃ state eventKeys, effect.isSome = true ∧
        rebuildProjection descriptor (ix.finalizedObservations.set o.eventKey o)
          = .ok (state, eventKeys) ∧
        ix' = { ix with
          state
          finalizedObservations := ix.finalizedObservations.set o.eventKey o
          finalizedEventKeySet := ix.finalizedEventKeySet ++ [o.eventKey]
          finalizedEventKeys := eventKeys }) := by
  rw [finalize] at h
  split at h
  · rename_i hnew
    simp only [bind_eq_ok, pure_eq_ok, Prod.exists, Prod.mk.injEq] at h
    obtain ⟨state, eventKeys, hrebuild, rfl, rfl⟩ := h
    exact .inr ⟨hnew.1, hnew.2, state, eventKeys, rfl, hrebuild, rfl⟩
  · rename_i hold
    obtain ⟨rfl, rfl⟩ := Prod.mk.inj (pure_eq_ok.1 h)
    exact .inl ⟨rfl, rfl, hold⟩

variable (prims descriptor)

/-- **What can become of an observation**: the five ways through `#applyObservation`, each with the
outcome and the indexer it leaves. -/
inductive Outcome (ix : PoolEventIndexer H) (o : Observation H) :
    Domain (Option (Bundle H)) × PoolEventIndexer H → Prop
  | duplicate (dup : isDuplicate (ix.latestByEventKey.get o.eventKey) o = true) :
      Outcome ix o (.ok none, ix)
  | refused (e : DomainError) (fresh : isDuplicate (ix.latestByEventKey.get o.eventKey) o = false)
      (admitted : admission prims ix o = .error e) : Outcome ix o (.error e, ix)
  | unprojected (e : DomainError) (invalidations : List (Observation H))
      (fresh : isDuplicate (ix.latestByEventKey.get o.eventKey) o = false)
      (admitted : admission prims ix o = .ok invalidations)
      (finalized : finalize prims descriptor (setLatest ix (invalidations ++ [o])) o = .error e) :
      Outcome ix o (.error e, setLatest ix (invalidations ++ [o]))
  | outOfWindow (e : DomainError) (invalidations : List (Observation H))
      (projected : PoolEventIndexer H) (effect : Option (FinalizedEffect H × OutboxMessage H))
      (fresh : isDuplicate (ix.latestByEventKey.get o.eventKey) o = false)
      (admitted : admission prims ix o = .ok invalidations)
      (finalized : finalize prims descriptor (setLatest ix (invalidations ++ [o])) o
        = .ok (projected, effect))
      (window : cursorFor prims descriptor projected.head o = .error e) :
      Outcome ix o (.error e, projected)
  | applied (invalidations : List (Observation H)) (projected : PoolEventIndexer H)
      (effect : Option (FinalizedEffect H × OutboxMessage H)) (head : Option (Head H))
      (cursor : Cursor H) (fresh : isDuplicate (ix.latestByEventKey.get o.eventKey) o = false)
      (admitted : admission prims ix o = .ok invalidations)
      (finalized : finalize prims descriptor (setLatest ix (invalidations ++ [o])) o
        = .ok (projected, effect))
      (window : cursorFor prims descriptor projected.head o = .ok (head, cursor)) :
      Outcome ix o (.ok (some ⟨invalidations ++ [o], effect, some cursor⟩),
        { projected with head })

theorem applyObservation_outcome (ix : PoolEventIndexer H) (o : Observation H) :
    Outcome prims descriptor ix o (applyObservation prims descriptor ix o) := by
  rw [applyObservation]
  split
  · rename_i hdup
    exact .duplicate hdup
  · rename_i hfresh
    rw [Bool.not_eq_true] at hfresh
    split
    · rename_i e hadmission
      exact .refused e hfresh hadmission
    · rename_i invalidations hadmission
      dsimp only
      split
      · rename_i e hfinalize
        exact .unprojected e invalidations hfresh hadmission hfinalize
      · rename_i projected effect hfinalize
        split
        · rename_i e hcursor
          exact .outOfWindow e invalidations projected effect hfresh hadmission hfinalize hcursor
        · rename_i head cursor hcursor
          exact .applied invalidations projected effect head cursor hfresh hadmission
            hfinalize hcursor

variable {prims descriptor}

/-- The projection does not touch the latest observations, nor the head. -/
theorem finalize_frame {effect : Option (FinalizedEffect H × OutboxMessage H)}
    (h : finalize prims descriptor ix o = .ok (ix', effect)) :
    ix'.latestByEventKey = ix.latestByEventKey ∧ ix'.head = ix.head := by
  obtain ⟨rfl, _⟩ | ⟨_, _, _, _, _, _, rfl⟩ := finalize_ok h
  · exact ⟨rfl, rfl⟩
  · exact ⟨rfl, rfl⟩

variable (prims descriptor)

/-- Whatever becomes of an observation, the latest observations are only ever set. -/
theorem applyObservation_latest (ix : PoolEventIndexer H) (o : Observation H) :
    ∃ os, (applyObservation prims descriptor ix o).2.latestByEventKey
      = (setLatest ix os).latestByEventKey := by
  have houtcome := applyObservation_outcome prims descriptor ix o
  generalize applyObservation prims descriptor ix o = r at houtcome ⊢
  cases houtcome with
  | duplicate dup => exact ⟨[], rfl⟩
  | refused e fresh admitted => exact ⟨[], rfl⟩
  | unprojected e invalidations fresh admitted finalized => exact ⟨_, rfl⟩
  | outOfWindow e invalidations projected effect fresh admitted finalized window =>
    exact ⟨_, (finalize_frame finalized).1⟩
  | applied invalidations projected effect head cursor fresh admitted finalized window =>
    exact ⟨_, (finalize_frame finalized).1⟩

theorem replay_latest (ix : PoolEventIndexer H) (history : List (Observation H)) :
    ∃ os, (replay prims descriptor ix history).2.latestByEventKey
      = (setLatest ix os).latestByEventKey := by
  induction history generalizing ix with
  | nil => exact ⟨[], rfl⟩
  | cons o rest ih =>
    rw [replay]
    split
    · obtain ⟨os, hos⟩ := ih (setLatest ix [o])
      exact ⟨o :: os, hos⟩
    · split
      · exact ⟨[o], rfl⟩
      · rename_i head _ _
        obtain ⟨os, hos⟩ := ih { setLatest ix [o] with
          head
          finalizedObservations :=
            if o.observationStatus = .finalized
            then (setLatest ix [o]).finalizedObservations.set o.eventKey o
            else (setLatest ix [o]).finalizedObservations }
        exact ⟨o :: os, hos⟩

/-- An ingestion leaves the indexer as it was or as `applyObservation` leaves it. -/
theorem ingest_indexer (s : System H) (log : RawLog) (failure : Option DomainError) :
    (ingest prims descriptor s log failure).2.indexer = s.indexer ∨
      ∃ o, normalizeLog prims descriptor log = .ok o ∧
        (ingest prims descriptor s log failure).2.indexer
          = (applyObservation prims descriptor s.indexer o).2 := by
  rw [ingest]
  split
  · exact .inl rfl
  · rename_i o ho
    refine .inr ⟨o, ho, ?_⟩
    split
    · rename_i e ix happly
      rw [happly]
    · rename_i ix happly
      rw [happly]
    · rename_i bundle ix happly
      rw [happly]
      split <;> rfl

theorem observeCanonicalBlock_latest (s : System H) (blockNumber : Option ℕ)
    (blockHash : Option Bytes32) (observedAt : Option ℕ) (failure : Option DomainError) :
    ∃ os, (observeCanonicalBlock prims descriptor s blockNumber blockHash observedAt
      failure).2.indexer.latestByEventKey = (setLatest s.indexer os).latestByEventKey := by
  rw [observeCanonicalBlock]
  split
  · exact ⟨[], rfl⟩
  · rename_i number hash invalidations _
    split
    · exact ⟨[], rfl⟩
    · refine ⟨invalidations, ?_⟩
      dsimp only
      split <;> rfl

end Methods

/-! ## Keys -/

section Keys

variable {H : Type} [LinearOrder H] {prims : Primitives H} {descriptor : Descriptor}

/-- The latest observations are kept under their own keys. -/
def Keyed (ix : PoolEventIndexer H) : Prop :=
  ∀ k o, ix.latestByEventKey.get k = some o → o.eventKey = k

theorem keyed_setLatest {ix ix' : PoolEventIndexer H} {os : List (Observation H)} (h : Keyed ix)
    (hlatest : ix'.latestByEventKey = (setLatest ix os).latestByEventKey) : Keyed ix' := by
  rw [Keyed, hlatest]
  clear hlatest
  induction os generalizing ix with
  | nil => exact h
  | cons o rest ih =>
    refine @ih (setLatest ix [o]) fun k x hx ↦ ?_
    rw [setLatest, List.foldl_cons, List.foldl_nil, InsertionMap.get_set] at hx
    split at hx
    · rename_i hk
      rw [← Option.some.inj hx, hk]
    · exact h k x hx

theorem keyed_new (now : ℕ) : Keyed (PoolEventIndexer.new prims descriptor now) := by
  intro k o h
  cases h

theorem keyed_clear (ix : PoolEventIndexer H) : Keyed (clear descriptor ix) := by
  intro k o h
  cases h

theorem keyed_step {s : System H} (i : SystemInput H) (h : Keyed s.indexer) :
    Keyed (systemStep prims descriptor s i).indexer := by
  cases i with
  | ingest log failure =>
    rw [systemStep]
    rcases ingest_indexer prims descriptor s log failure with hsame | ⟨o, _, happly⟩
    · rw [hsame]
      exact h
    · rw [happly]
      obtain ⟨os, hos⟩ := applyObservation_latest prims descriptor s.indexer o
      exact keyed_setLatest h hos
  | observeCanonicalBlock blockNumber blockHash observedAt failure =>
    obtain ⟨os, hos⟩ := observeCanonicalBlock_latest prims descriptor s blockNumber blockHash
      observedAt failure
    exact keyed_setLatest h hos
  | restore now =>
    rw [systemStep, restore]
    dsimp only
    split
    · rename_i e ix hreplay
      obtain ⟨os, hos⟩ := replay_latest prims descriptor (clear descriptor s.indexer)
        s.store.observations
      rw [hreplay] at hos
      exact keyed_setLatest (keyed_clear s.indexer) hos
    · rename_i ix hreplay
      obtain ⟨os, hos⟩ := replay_latest prims descriptor (clear descriptor s.indexer)
        s.store.observations
      rw [hreplay] at hos
      split
      · exact keyed_setLatest (keyed_clear s.indexer) hos
      · exact keyed_setLatest (keyed_clear s.indexer) hos
  | reconcile directReads now failure =>
    rw [systemStep, reconcile]
    split
    · exact h
    · dsimp only
      split <;> exact h
  | approveRecovery reconciliationId approvalHash approvedByHash now failure =>
    rw [systemStep, approveRecovery]
    split
    · exact h
    · dsimp only
      split <;> exact h

/-- **Every reachable indexer is keyed.** -/
theorem System.Reachable.keyed {s : System H} (h : s.Reachable prims descriptor) :
    Keyed s.indexer := by
  obtain ⟨now, hrun⟩ := h
  exact Run.reachable_induct (P := fun s ↦ Keyed s.indexer) (fun _ i hs ↦ keyed_step i hs)
    (keyed_new now) hrun

end Keys

end Indexer
end IpoOne
