import IpoOne.Indexer.Refinement
import IpoOne.Indexer.System

/-!
# Rejected calls of the indexer

A call that is rejected should leave the indexer as it was, so that the provider's next delivery of
the same log is taken up.  `#applyObservation` writes the latest observation *before* it rebuilds
the projection, computes the cursor and commits, and nothing takes that write back.  So a rejection
is clean exactly when it comes before the write, that is, when a log that gets past the checks on it
cannot be rejected any more: `ingestAtomic_iff` and `observeAtomic_iff`.

`rejected_log_lost` is the smallest accident: the database fails once, and the log is never stored,
since its second delivery counts as a duplicate.
-/

set_option autoImplicit false

namespace IpoOne
namespace Indexer

open Fallible

section Conditions

variable {H : Type} [LinearOrder H] (prims : Primitives H) (descriptor : Descriptor)

/-- The log gets past the checks: it is well formed, no duplicate, and may follow the latest
observation of its event. -/
def Admitted (ix : PoolEventIndexer H) (log : RawLog) (o : Observation H) : Prop :=
  normalizeLog prims descriptor log = .ok o ∧
    isDuplicate (ix.latestByEventKey.get o.eventKey) o = false ∧
    ∃ invalidations, admission prims ix o = .ok invalidations

/-- The finalized events still project when the observation joins them. -/
def Rebuilds (ix : PoolEventIndexer H) (o : Observation H) : Prop :=
  o.observationStatus = .finalized ∧ o.eventKey ∉ ix.finalizedEventKeySet →
    ∃ r, rebuildProjection descriptor (ix.finalizedObservations.set o.eventKey o) = .ok r

/-- The observation is not further behind the head than a reorganization may reach. -/
def InWindow (head : Option (Head H)) (o : Observation H) : Prop :=
  ∀ h, head = some h → o.blockNumber < h.blockNumber →
    h.blockNumber - o.blockNumber ≤ descriptor.finalityPolicy.maxReorgDepth

/-- If the ingestion is rejected, the indexer is what it was, and every later delivery of the log
that is accepted is taken up and stored. -/
def IngestAtomic (s : System H) (log : RawLog) (failure : Option DomainError) : Prop :=
  ∀ e s', ingest prims descriptor s log failure = (.error e, s') →
    s'.indexer = s.indexer ∧ ∀ retry r s'', ingest prims descriptor s' log retry = (.ok r, s'') →
      r.disposition ≠ .duplicate ∧ r.persisted ≠ none

/-- If the call is rejected, the indexer is what it was. -/
def ObserveAtomic (s : System H) (blockNumber : Option ℕ) (blockHash : Option Bytes32)
    (observedAt : Option ℕ) (failure : Option DomainError) : Prop :=
  ∀ e s', observeCanonicalBlock prims descriptor s blockNumber blockHash observedAt failure
    = (.error e, s') → s'.indexer = s.indexer

end Conditions

section Ingest

variable {H : Type} [LinearOrder H] {prims : Primitives H} {descriptor : Descriptor}
  {ix : PoolEventIndexer H} {o : Observation H}

omit [LinearOrder H] in
theorem cursorFor_isOk_iff {head : Option (Head H)} :
    (∃ r, cursorFor prims descriptor head o = .ok r) ↔ InWindow descriptor head o := by
  simp only [cursorFor, bind_eq_ok, throwIf_eq_ok, pure_eq_ok, exists_and_left, exists_eq',
    and_true, exists_const]
  cases head with
  | none => simp [InWindow]
  | some h => simp [InWindow]

theorem finalize_isOk_iff : (∃ r, finalize prims descriptor ix o = .ok r) ↔
    Rebuilds descriptor ix o := by
  rw [finalize, Rebuilds]
  split
  · rename_i hnew
    simp only [bind_eq_ok, pure_eq_ok]
    constructor
    · rintro ⟨_, r, hr, _⟩ _
      exact ⟨r, hr⟩
    · intro h
      obtain ⟨r, hr⟩ := h hnew
      exact ⟨_, r, hr, rfl⟩
  · rename_i hold
    exact ⟨fun _ h ↦ absurd h hold, fun _ ↦ ⟨_, rfl⟩⟩

/-- The first finalized observation projects if its event applies. -/
theorem rebuildProjection_first {state : ProjectionState}
    (h : applyFinalizedEvent (initialState descriptor) o = .ok state) :
    rebuildProjection descriptor (InsertionMap.empty.set o.eventKey o)
      = .ok (state, [o.eventKey]) := by
  have hordered : orderedFinalized (InsertionMap.empty.set o.eventKey o) = [o] :=
    List.mergeSort_singleton o
  rw [rebuildProjection, hordered, List.foldlM_cons, h]
  rfl

theorem get_setLatest (ix : PoolEventIndexer H) (os : List (Observation H)) (o : Observation H) :
    (setLatest ix (os ++ [o])).latestByEventKey.get o.eventKey = some o := by
  rw [setLatest, List.foldl_append, List.foldl_cons, List.foldl_nil, InsertionMap.get_set_self]

/-- What is recorded is a duplicate of itself. -/
theorem isDuplicate_self (o : Observation H) : isDuplicate (some o) o = true := by
  simp [isDuplicate]

variable (prims descriptor)

/-- An observation that gets past the checks is recorded, whatever becomes of it; it is handed to
the store exactly if it projects and is in the window. -/
theorem applyObservation_admitted
    (hfresh : isDuplicate (ix.latestByEventKey.get o.eventKey) o = false)
    (hadmission : ∃ invalidations, admission prims ix o = .ok invalidations) :
    (applyObservation prims descriptor ix o).2.latestByEventKey.get o.eventKey = some o ∧
      ((∃ bundle, (applyObservation prims descriptor ix o).1 = .ok (some bundle)) ∧
          Rebuilds descriptor ix o ∧ InWindow descriptor ix.head o ∨
        (∃ e, (applyObservation prims descriptor ix o).1 = .error e) ∧
          ¬ (Rebuilds descriptor ix o ∧ InWindow descriptor ix.head o)) := by
  obtain ⟨invalidations, hadmission⟩ := hadmission
  have houtcome := applyObservation_outcome prims descriptor ix o
  generalize applyObservation prims descriptor ix o = r at houtcome ⊢
  cases houtcome with
  | duplicate dup => exact absurd dup (by rw [hfresh]; decide)
  | refused e fresh admitted => cases admitted.symm.trans hadmission
  | unprojected e invalidations fresh admitted finalized =>
    refine ⟨get_setLatest .., .inr ⟨⟨e, rfl⟩, fun ⟨hrebuilds, _⟩ ↦ ?_⟩⟩
    have hwritten : Rebuilds descriptor (setLatest ix (invalidations ++ [o])) o := hrebuilds
    obtain ⟨r, hr⟩ := finalize_isOk_iff.2 hwritten
    cases finalized.symm.trans hr
  | outOfWindow e invalidations projected effect fresh admitted finalized window =>
    obtain ⟨hlatest, hhead⟩ := finalize_frame finalized
    refine ⟨hlatest ▸ get_setLatest .., .inr ⟨⟨e, rfl⟩, fun ⟨_, hwindow⟩ ↦ ?_⟩⟩
    obtain ⟨r, hr⟩ := cursorFor_isOk_iff.2 hwindow
    rw [hhead] at window
    cases window.symm.trans hr
  | applied invalidations projected effect head cursor fresh admitted finalized window =>
    obtain ⟨hlatest, hhead⟩ := finalize_frame finalized
    refine ⟨hlatest ▸ get_setLatest .., .inl ⟨⟨_, rfl⟩, ?_, ?_⟩⟩
    · have hwritten := finalize_isOk_iff.1 ⟨_, finalized⟩
      exact hwritten
    · rw [hhead] at window
      exact cursorFor_isOk_iff.1 ⟨_, window⟩

/-- Nothing but the database can make a commit fail. -/
theorem commitIngestion_none (store : Store H) (bundle : Bundle H) :
    ∃ r, commitIngestion store bundle none = .ok r := by
  rw [commitIngestion]
  split
  · exact ⟨_, rfl⟩
  · exact ⟨_, rfl⟩

variable {s : System H} {log : RawLog}

theorem ingest_error (failure : Option DomainError) {e : DomainError}
    (hlog : normalizeLog prims descriptor log = .ok o)
    (h : (applyObservation prims descriptor s.indexer o).1 = .error e) :
    ingest prims descriptor s log failure
      = (.error e, { s with indexer := (applyObservation prims descriptor s.indexer o).2 }) := by
  rw [ingest, hlog]
  dsimp only
  generalize applyObservation prims descriptor s.indexer o = r at h ⊢
  obtain ⟨r, ix⟩ := r
  cases h
  rfl

theorem ingest_applied (failure : Option DomainError) {bundle : Bundle H}
    (hlog : normalizeLog prims descriptor log = .ok o)
    (h : (applyObservation prims descriptor s.indexer o).1 = .ok (some bundle)) :
    ingest prims descriptor s log failure =
      match commitIngestion s.store bundle failure with
      | .error e =>
        (.error e, { s with indexer := (applyObservation prims descriptor s.indexer o).2 })
      | .ok (store, persisted) =>
        (.ok { disposition := if bundle.effect.isSome then .finalized else .observed
               observation := o
               invalidations := bundle.observations.filter (·.observationStatus = .invalidated)
               effect := bundle.effect.map (·.1)
               snapshot := (applyObservation prims descriptor s.indexer o).2.snapshot prims
               persisted := some persisted },
          { indexer := (applyObservation prims descriptor s.indexer o).2, store }) := by
  rw [ingest, hlog]
  dsimp only
  generalize applyObservation prims descriptor s.indexer o = r at h ⊢
  obtain ⟨r, ix⟩ := r
  cases h
  rfl

/-- A log that gets past the checks and is rejected nonetheless leaves its observation behind. -/
theorem ingest_rejected {failure : Option DomainError}
    (hadmitted : Admitted prims descriptor s.indexer log o)
    (hnotSafe : ¬ (Rebuilds descriptor s.indexer o ∧ InWindow descriptor s.indexer.head o ∧
      failure = none)) :
    ∃ e, ingest prims descriptor s log failure
      = (.error e, { s with indexer := (applyObservation prims descriptor s.indexer o).2 }) := by
  obtain ⟨hlog, hfresh, hadmission⟩ := hadmitted
  obtain ⟨_, ⟨⟨bundle, hbundle⟩, hrebuilds, hwindow⟩ | ⟨⟨e, he⟩, _⟩⟩ :=
    applyObservation_admitted prims descriptor hfresh hadmission
  · cases failure with
    | none => exact absurd ⟨hrebuilds, hwindow, rfl⟩ hnotSafe
    | some e => exact ⟨e, ingest_applied prims descriptor (some e) hlog hbundle⟩
  · exact ⟨e, ingest_error prims descriptor failure hlog he⟩

/-- A log that does not get past the checks is answered without any change. -/
theorem ingest_not_admitted (failure : Option DomainError)
    (h : ∀ o, ¬ Admitted prims descriptor s.indexer log o) {e : DomainError} {s' : System H}
    (hrejected : ingest prims descriptor s log failure = (.error e, s')) :
    s' = s ∧ ∀ retry, (ingest prims descriptor s log retry).1 = .error e := by
  cases hlog : normalizeLog prims descriptor log with
  | error e' =>
    have hingest : ∀ retry, ingest prims descriptor s log retry = (.error e', s) := by
      intro retry
      rw [ingest, hlog]
    rw [hingest] at hrejected
    obtain ⟨he, rfl⟩ := Prod.mk.inj hrejected
    exact ⟨rfl, fun retry ↦ (congrArg Prod.fst (hingest retry)).trans he⟩
  | ok o =>
    have houtcome := applyObservation_outcome prims descriptor s.indexer o
    generalize happly : applyObservation prims descriptor s.indexer o = r at houtcome
    cases houtcome with
    | duplicate dup =>
      rw [ingest, hlog] at hrejected
      dsimp only at hrejected
      rw [happly] at hrejected
      cases hrejected
    | refused e' fresh admitted =>
      have hingest : ∀ retry, ingest prims descriptor s log retry = (.error e', s) := by
        intro retry
        rw [ingest_error prims descriptor retry hlog (congrArg Prod.fst happly), happly]
      rw [hingest] at hrejected
      obtain ⟨he, rfl⟩ := Prod.mk.inj hrejected
      exact ⟨rfl, fun retry ↦ (congrArg Prod.fst (hingest retry)).trans he⟩
    | unprojected e invalidations fresh admitted finalized =>
      exact absurd ⟨hlog, fresh, _, admitted⟩ (h o)
    | outOfWindow e invalidations projected effect fresh admitted finalized window =>
      exact absurd ⟨hlog, fresh, _, admitted⟩ (h o)
    | applied invalidations projected effect head cursor fresh admitted finalized window =>
      exact absurd ⟨hlog, fresh, _, admitted⟩ (h o)

variable {prims descriptor}

/-- **When a rejected ingestion leaves no trace.** -/
theorem ingestAtomic_iff (s : System H) (log : RawLog) (failure : Option DomainError) :
    IngestAtomic prims descriptor s log failure ↔
      ∀ o, Admitted prims descriptor s.indexer log o →
        Rebuilds descriptor s.indexer o ∧ InWindow descriptor s.indexer.head o ∧
          failure = none := by
  constructor
  · -- a rejection would leave the observation behind, which would then be its own duplicate
    intro hatomic o hadmitted
    by_contra hnotSafe
    obtain ⟨e, hrejected⟩ := ingest_rejected prims descriptor hadmitted hnotSafe
    obtain ⟨_, hfresh, hadmission⟩ := hadmitted
    have hrecorded := (applyObservation_admitted prims descriptor hfresh hadmission).1
    have hsame := (hatomic e _ hrejected).1
    dsimp only at hsame
    rw [hsame] at hrecorded
    rw [hrecorded, isDuplicate_self] at hfresh
    cases hfresh
  · intro hsafe e s' hrejected
    by_cases hex : ∃ o, Admitted prims descriptor s.indexer log o
    · -- what gets past the checks is not rejected at all
      obtain ⟨o, hadmitted⟩ := hex
      obtain ⟨hrebuilds, hwindow, rfl⟩ := hsafe o hadmitted
      obtain ⟨hlog, hfresh, hadmission⟩ := hadmitted
      obtain ⟨_, ⟨⟨bundle, hbundle⟩, _⟩ | ⟨_, hnotSafe⟩⟩ :=
        applyObservation_admitted prims descriptor hfresh hadmission
      · obtain ⟨r, hr⟩ := commitIngestion_none s.store bundle
        rw [ingest_applied prims descriptor none hlog hbundle, hr] at hrejected
        cases hrejected
      · exact absurd ⟨hrebuilds, hwindow⟩ hnotSafe
    · obtain ⟨rfl, hretry⟩ := ingest_not_admitted prims descriptor failure
        (fun o ho ↦ hex ⟨o, ho⟩) hrejected
      refine ⟨rfl, fun retry r s'' hr ↦ ?_⟩
      have herror := hretry retry
      rw [hr] at herror
      cases herror

end Ingest

section Observe

variable {H : Type} [LinearOrder H] {prims : Primitives H} {descriptor : Descriptor}
  {ix : PoolEventIndexer H}

/-- What a canonical block invalidates was valid before, and recorded under the same key. -/
theorem invalidationsOf_ok (hkeyed : Keyed ix) {blockNumber : Option ℕ}
    {blockHash : Option Bytes32} {observedAt : Option ℕ} {number : ℕ} {hash : Bytes32}
    {invalidations : List (Observation H)}
    (h : invalidationsOf prims ix blockNumber blockHash observedAt
      = .ok (number, hash, invalidations)) :
    ∀ i ∈ invalidations, IsInvalidation prims i ∧
      ∃ o, ix.latestByEventKey.get i.eventKey = some o ∧ o.observationStatus ≠ .invalidated ∧
        o.observationStatus ≠ .finalized := by
  simp only [invalidationsOf, bind_eq_ok, pure_eq_ok, Prod.mk.injEq] at h
  obtain ⟨number, _, hash, _, _, _, invalidations, hall, rfl, rfl, rfl⟩ := h
  intro i hi
  obtain ⟨o, ho, hinvalid⟩ := exists_of_mem_mapM hall hi
  obtain ⟨hfinal, hkey, hstatus⟩ := createInvalidation_ok hinvalid
  rw [contradicted, List.mem_filter, InsertionMap.mem_values_iff] at ho
  obtain ⟨⟨k, hk⟩, hcontradicted⟩ := ho
  rw [decide_eq_true_eq] at hcontradicted
  refine ⟨hstatus, o, ?_, hcontradicted.2.2, hfinal⟩
  rw [hkey, hkeyed k o hk]
  exact hk

/-- **When a rejected canonical block leaves no trace.** -/
theorem observeAtomic_iff {s : System H} (hkeyed : Keyed s.indexer) (blockNumber : Option ℕ)
    (blockHash : Option Bytes32) (observedAt : Option ℕ) (failure : Option DomainError) :
    ObserveAtomic prims descriptor s blockNumber blockHash observedAt failure ↔
      ∀ number hash invalidations,
        invalidationsOf prims s.indexer blockNumber blockHash observedAt
          = .ok (number, hash, invalidations) → invalidations ≠ [] → failure = none := by
  constructor
  · intro hatomic number hash invalidations hinvalidations hne
    by_contra hfailure
    obtain ⟨e, rfl⟩ := Option.ne_none_iff_exists'.1 hfailure
    have hrejected : observeCanonicalBlock prims descriptor s blockNumber blockHash observedAt
        (some e) = (.error e, { s with indexer := setLatest s.indexer invalidations }) := by
      rw [observeCanonicalBlock, hinvalidations]
      dsimp only
      rw [if_neg hne]
      rfl
    have hsame : setLatest s.indexer invalidations = s.indexer := hatomic e _ hrejected
    -- the last invalidation has replaced what it invalidates
    obtain ⟨earlier, i, rfl⟩ := (List.eq_nil_or_concat' invalidations).resolve_left hne
    obtain ⟨hstatus, o, ho, hvalid, _⟩ :=
      invalidationsOf_ok hkeyed hinvalidations i
        (List.mem_append_right _ (List.mem_singleton_self i))
    have hi := get_setLatest s.indexer earlier i
    rw [hsame, ho] at hi
    exact hvalid (Option.some.inj hi ▸ hstatus.status)
  · intro hsafe e s' hrejected
    rw [observeCanonicalBlock] at hrejected
    split at hrejected
    · rw [← (Prod.mk.inj hrejected).2]
    · rename_i number hash invalidations hinvalidations
      split at hrejected
      · cases hrejected
      · rename_i hne
        cases hsafe number hash invalidations hinvalidations hne
        dsimp only at hrejected
        split at hrejected
        · rename_i e' hcommit
          obtain ⟨r, hr⟩ := commitIngestion_none s.store _
          cases hcommit.symm.trans hr
        · cases hrejected

end Observe

/-- **When rejected calls leave no trace.**  In every reachable state, a rejected ingestion leaves
the indexer as it was, and its log to be taken up later, exactly if a log that gets past the checks
also rebuilds the projection, is inside the reorganization window, and does not meet a failing
database; a rejected canonical block does exactly if it invalidates nothing or does not meet a
failing database. -/
theorem rejection_atomic_iff {H : Type} [LinearOrder H] {prims : Primitives H}
    {descriptor : Descriptor} {s : System H} (h : s.Reachable prims descriptor) :
    (∀ log failure, IngestAtomic prims descriptor s log failure ↔
      ∀ o, Admitted prims descriptor s.indexer log o →
        Rebuilds descriptor s.indexer o ∧ InWindow descriptor s.indexer.head o ∧
          failure = none) ∧
    (∀ blockNumber blockHash observedAt failure,
      ObserveAtomic prims descriptor s blockNumber blockHash observedAt failure ↔
        ∀ number hash invalidations,
          invalidationsOf prims s.indexer blockNumber blockHash observedAt
            = .ok (number, hash, invalidations) → invalidations ≠ [] → failure = none) :=
  ⟨fun log failure ↦ ingestAtomic_iff s log failure,
    fun blockNumber blockHash observedAt failure ↦
      observeAtomic_iff h.keyed blockNumber blockHash observedAt failure⟩

namespace Sample

/-- A finalized log of the pause guardian. -/
def pauseLog : RawLog := rawLog 10 4 ⟨5, .newRiskPauseChanged true 20, 1000⟩

/-- The same log of a provider that has changed its mind. -/
def revisedLog : RawLog := rawLog 10 4 ⟨5, .newRiskPauseChanged false 20, 1000⟩

/-- What a database throws that has gone away. -/
def connectionFailure : DomainError where
  code := "08006"
  message := "connection failure"

end Sample

/-- A new indexer takes the guardian's log up if the database is there, and then refuses the revised
one before it writes anything, so that it does not matter that the database has gone. -/
theorem rejection_atomic_iff_pause :
    let s : System (List ℕ) := .new Sample.prims Sample.descriptor 0
    let s' := (ingest Sample.prims Sample.descriptor s Sample.pauseLog none).2
    IngestAtomic Sample.prims Sample.descriptor s Sample.pauseLog none ∧
    (ingest Sample.prims Sample.descriptor s' Sample.revisedLog (some Sample.connectionFailure)).1
      = .error { code := "finalized_pool_event_cannot_reorg"
                 message := "finalized Pool V1 history cannot change" } ∧
    IngestAtomic Sample.prims Sample.descriptor s' Sample.revisedLog
      (some Sample.connectionFailure) := by
  intro s s'
  have hnew := System.reachable_new Sample.prims Sample.descriptor 0
  have hreached : s'.Reachable Sample.prims Sample.descriptor :=
    ⟨0, Run.reachable_step (Run.reachable_refl _) (SystemInput.ingest Sample.pauseLog none)⟩
  refine ⟨((rejection_atomic_iff hnew).1 Sample.pauseLog none).2 ?_, by decide +kernel,
    ((rejection_atomic_iff hreached).1 Sample.revisedLog _).2 ?_⟩
  · rintro o ⟨hlog, _, _⟩
    have hevent : o.event = .newRiskPauseChanged true 20 := by
      have hsome : (normalizeLog Sample.prims Sample.descriptor Sample.pauseLog).toOption.map
          (·.event) = some (.newRiskPauseChanged true 20) := by decide +kernel
      rw [hlog] at hsome
      exact Option.some.inj hsome
    refine ⟨?_, fun h hh ↦ (Option.some_ne_none h hh.symm).elim, rfl⟩
    rintro ⟨hfinal, _⟩
    have happly : applyFinalizedEvent (initialState Sample.descriptor) o
        = .ok { initialState Sample.descriptor with newRiskPaused := true } := by
      rw [applyFinalizedEvent, throwIf, failIf, if_neg (not_not.2 hfinal), hevent]
      rfl
    exact ⟨_, rebuildProjection_first happly⟩
  · -- the revised log is not admitted
    rintro o ⟨hlog, _, invalidations, hadmission⟩
    have hrefused : (normalizeLog Sample.prims Sample.descriptor Sample.revisedLog).toOption.map
        (fun o ↦ (admission Sample.prims s'.indexer o).isOk) = some false := by decide +kernel
    rw [hlog] at hrefused
    have hfalse : (admission Sample.prims s'.indexer o).isOk = false := Option.some.inj hrefused
    rw [hadmission] at hfalse
    cases hfalse

/-- The database fails once.  The log is then recorded but not stored, and never will be: its next
delivery is answered as a duplicate. -/
theorem rejected_log_lost :
    let s : System (List ℕ) := .new Sample.prims Sample.descriptor 0
    let rejected := ingest Sample.prims Sample.descriptor s Sample.pauseLog
      (some Sample.connectionFailure)
    let retried := ingest Sample.prims Sample.descriptor rejected.2 Sample.pauseLog none
    s.Reachable Sample.prims Sample.descriptor ∧ rejected.1 = .error Sample.connectionFailure ∧
      rejected.2.indexer ≠ s.indexer ∧
      retried.1.toOption.map (·.disposition) = some .duplicate ∧
      retried.2.store.observations = [] ∧
      ¬ IngestAtomic Sample.prims Sample.descriptor s Sample.pauseLog
        (some Sample.connectionFailure) := by
  intro s rejected retried
  have hrejected : rejected.1 = .error Sample.connectionFailure := by decide +kernel
  have hchanged : rejected.2.indexer ≠ s.indexer := by decide +kernel
  refine ⟨System.reachable_new .., hrejected, hchanged, by decide +kernel, by decide +kernel, ?_⟩
  intro hatomic
  exact hchanged (hatomic _ _ (Prod.ext hrejected rfl)).1

end Indexer
end IpoOne
