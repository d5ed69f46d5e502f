import IpoOne.Domain.Validators
import IpoOne.Reconciliation.Accounting

/-!
# The reconciliation service

`HyperliquidTestnetReconciliationService.reconcile`: resolve the kernel, ask the guard, start or
find the record, and poll the venue until the record is over, its breaker is open or the attempts
are used up.  What the collaborators answer is given with the call (`Ports`).

The record of an idempotency key is found again by the hash of the whole request, and the request
has the hash of the whole first snapshot of the kernel.

* `reconcile_resumes_iff`: a later call goes on with the record exactly if its snapshot is the first
  one, with the time it was taken and the risk state.
* `reconcile_conflict` is a call that comes a second later.
-/

set_option autoImplicit false

namespace IpoOne
namespace Reconciliation

open Fallible Run

/-- The collaborators of one call: what the resolver and the adapter answer in turn, the guard, and
the clock. -/
structure Ports (H : Type) where
  resolve : ℕ → KernelSnapshot H
  authorize : H → String → GuardDecision H
  observe : ℕ → Option (Observation H)
  clock : ℕ → ClockReading
  maxPollAttempts : ℕ
  circuitBreakerFailureThreshold : ℕ

section Service

variable {H : Type} [DecidableEq H] (prims : Primitives H) (ports : Ports H)

/-- `assertRequest` -/
def assertRequest (value : Request H) : Domain Unit := do
  identifier "executionId" value.executionId
  invalidInput (utf16Length value.idempotencyKey < 8 ∨ 256 < utf16Length value.idempotencyKey)
    "idempotencyKey must be bounded"

/-- The hash of a request, before the guard has decided. -/
def preGuardRequestHash (input : Request H) (snapshot : KernelSnapshot H) : H :=
  prims.hashId (.preGuardRequest input.executionId input.executionHash snapshot.facilityId
    snapshot.facilityHash snapshot.actionHash snapshot.nonce)

/-- `reconcile`, up to the draft. -/
def draftOf (input : Request H) (firstSnapshot : KernelSnapshot H) : Domain (Draft H) := do
  assertRequest input
  assertKernelSnapshot firstSnapshot (some (input.executionId, input.executionHash))
  let guard := ports.authorize (preGuardRequestHash prims input firstSnapshot)
    firstSnapshot.facilityId
  assertGuardDecision guard
  pure (createDraft prims input firstSnapshot guard)

/-- `systemObservation` -/
def systemObservation (record : Record H) (kind : HyperliquidReconciliationObservationKind)
    (reasonCode : String) (clock : ClockReading) : Domain (Observation H) :=
  let core : UnknownState H :=
    { reconciliationHash := record.reconciliationHash
      recordVersion := record.version
      kind
      reasonCode }
  createSimulatedHyperliquidVenueObservation prims
    { record.command with
      kind
      venueStatus := .unknown
      cumulativeFilledSize := record.cumulativeFilledSize
      cumulativeFillNotionalMinor := record.cumulativeFillNotionalMinor
      venueOrderReferenceHash := none
      orderStateHash := prims.hashId (.unknownOrderState core)
      positionStateHash := prims.hashId (.unknownPositionState core)
      accountStateHash := prims.hashId (.unknownAccountState core)
      freshness := .unknown
      complete := false
      reasonCode }
    clock

/-- The observation of an attempt: an adapter that fails, or answers with something else, is
recorded as an outage. -/
def observeAttempt (record : Record H) (attempt : ℕ) : Domain (Observation H) :=
  match (ports.observe attempt).filter (fun o ↦ (assertObservation prims o).isOk) with
  | some observation => pure observation
  | none => systemObservation prims record .adapterOutage "adapter_outage"
      (ports.clock (2 * attempt))

/-- Take an observation in for the record, with the snapshot that the resolver answers. -/
def consumeAttempt (actorId : Identifier) (record : Record H) (observation : Observation H)
    (attempt : ℕ) (repo : ReconciliationRepository H) :
    Domain (Option (Record H)) × ReconciliationRepository H :=
  let currentSnapshot := ports.resolve attempt
  match assertKernelSnapshot currentSnapshot (some (record.executionId, record.executionHash)) with
  | .error e => (.error e, repo)
  | .ok () =>
    let consumed := consumeObservation prims repo
      { reconciliationId := record.reconciliationId
        observation
        kernelSnapshot := currentSnapshot
        circuitBreakerFailureThreshold := ports.circuitBreakerFailureThreshold
        actorId
        nowMs := (ports.clock (2 * attempt + 1)).val }
    (consumed.1.map ReconciliationResult.record, consumed.2)

/-- The record has to be there, and to pass its check. -/
def requireRecord : Option (Record H) → Domain (Record H)
  | none => .error
      { code := "invalid_hyperliquid_reconciliation_record"
        message := "input must be a plain object" }
  | some record => do
    assertRecord record
    pure record

/-- `TERMINAL_STATUSES.has(record.status) || record.circuitBreakerOpen` -/
def Record.isOver (record : Record H) : Prop :=
  record.status ∈ terminalStatuses ∨ record.circuitBreakerOpen = true

instance (record : Record H) : Decidable record.isOver := inferInstanceAs (Decidable (_ ∨ _))

/-- The polling of `reconcile`, with the attempts that are left. -/
def poll (actorId : Identifier) : ℕ → Record H → ReconciliationRepository H →
    Domain (Option (Record H)) × ReconciliationRepository H
  | 0, record, repo =>
    let attempt := ports.maxPollAttempts + 1
    match systemObservation prims record .pollBudgetExhausted "poll_budget_exhausted"
        (ports.clock (2 * attempt)) with
    | .error e => (.error e, repo)
    | .ok exhausted => consumeAttempt prims ports actorId record exhausted attempt repo
  | left + 1, record, repo =>
    let attempt := ports.maxPollAttempts - left
    match observeAttempt prims ports record attempt with
    | .error e => (.error e, repo)
    | .ok observation =>
      let consumed := consumeAttempt prims ports actorId record observation attempt repo
      match consumed.1.bind requireRecord with
      | .error e => (.error e, consumed.2)
      | .ok record =>
        if record.isOver then (.ok (some record), consumed.2)
        else poll actorId left record consumed.2

/-- `reconcile` -/
def reconcile (input : Request H) (repo : ReconciliationRepository H) :
    Domain (Option (Record H)) × ReconciliationRepository H :=
  match draftOf prims ports input (ports.resolve 0) with
  | .error e => (.error e, repo)
  | .ok draft =>
    let started := start prims repo draft (ports.clock 0).val
    match started.1.bind (fun result ↦ requireRecord result.record) with
    | .error e => (.error e, started.2)
    | .ok record =>
      if record.isOver then (.ok (some record), started.2)
      else poll prims ports draft.guard.actorId ports.maxPollAttempts record started.2

end Service

/-! ## The errors of polling -/

section Errors

variable {H : Type} [DecidableEq H] {prims : Primitives H} {ports : Ports H}

/-- An error that does not say that a key is bound to another request. -/
def NotConflict (e : DomainError) : Prop :=
  e.code ≠ "hyperliquid_reconciliation_idempotency_conflict"

theorem errorsIn_invalidInput (c : Prop) [Decidable c] (message : String) :
    ErrorsIn NotConflict (invalidInput c message) :=
  errorsIn_throwIf (by simp [NotConflict])

theorem errorsIn_iso (value : ℕ) : ErrorsIn NotConflict (iso value) :=
  errorsIn_bind (errorsIn_throwIf (by simp [NotConflict])) fun _ _ ↦ errorsIn_pure _

theorem errorsIn_assertKernelSnapshot (value : KernelSnapshot H) (expected : Option (String × H)) :
    ErrorsIn NotConflict (assertKernelSnapshot value expected) := by
  unfold assertKernelSnapshot
  repeat refine errorsIn_bind (errorsIn_throwIf (by simp [NotConflict])) fun _ _ ↦ ?_
  exact errorsIn_throwIf (by simp [NotConflict])

theorem errorsIn_assertObservation (value : Observation H) :
    ErrorsIn NotConflict (assertObservation prims value) := by
  unfold assertObservation
  repeat refine errorsIn_bind (errorsIn_throwIf (by simp [NotConflict])) fun _ _ ↦ ?_
  exact errorsIn_invalidInput _ _

theorem errorsIn_boundedCount (name : String) (value : ℕ) :
    ErrorsIn NotConflict (boundedCount name value) :=
  errorsIn_bind (errorsIn_invalidInput _ _) fun _ _ ↦ errorsIn_throwIf (by simp [NotConflict])

omit [DecidableEq H] in
theorem errorsIn_assertRecord (record : Record H) :
    ErrorsIn NotConflict (assertRecord record) := by
  unfold assertRecord
  repeat refine errorsIn_bind (errorsIn_invalidInput _ _) fun _ _ ↦ ?_
  repeat refine errorsIn_bind (errorsIn_boundedCount _ _) fun _ _ ↦ ?_
  refine errorsIn_bind (errorsIn_invalidInput _ _) fun _ _ ↦ ?_
  refine errorsIn_bind (errorsIn_throwIf (by simp [NotConflict])) fun _ _ ↦ ?_
  refine errorsIn_bind (errorsIn_forM fun _ _ ↦ errorsIn_invalidInput _ _) fun _ _ ↦ ?_
  exact errorsIn_throwIf (by simp [NotConflict])

theorem errorsIn_transition (record : Record H) (input : TransitionInput H) :
    ErrorsIn NotConflict (transitionHyperliquidReconciliationRecord prims record input) := by
  unfold transitionHyperliquidReconciliationRecord
  refine errorsIn_bind (errorsIn_assertRecord _) fun _ _ ↦ ?_
  refine errorsIn_bind (errorsIn_throwIf (by simp [NotConflict])) fun _ _ ↦ ?_
  refine errorsIn_bind (errorsIn_invalidInput _ _) fun _ _ ↦ ?_
  refine errorsIn_bind (errorsIn_invalidInput _ _) fun _ _ ↦ ?_
  refine errorsIn_bind (errorsIn_assertObservation _) fun _ _ ↦ ?_
  refine errorsIn_bind (errorsIn_assertKernelSnapshot _ _) fun _ _ ↦ ?_
  refine errorsIn_bind (errorsIn_iso _) fun _ _ ↦ ?_
  exact errorsIn_bind (errorsIn_assertRecord _) fun _ _ ↦ errorsIn_pure _

theorem errorsIn_consumeObservation (repo : ReconciliationRepository H) (input : ConsumeInput H) :
    ErrorsIn NotConflict (consumeObservation prims repo input).1 := by
  unfold consumeObservation
  split
  · rename_i e he
    exact errorsIn_error (errorsIn_assertObservation _ _ he)
  · dsimp only
    split
    · split_ifs
      · exact errorsIn_error (by simp [NotConflict])
      · exact errorsIn_ok _
    · split
      · exact errorsIn_error (by simp [NotConflict, reconciliationUnavailable])
      · split_ifs
        · exact errorsIn_ok _
        · split
          · rename_i e he
            exact errorsIn_error (errorsIn_transition _ _ _ he)
          · exact errorsIn_ok _

omit [DecidableEq H] in
theorem errorsIn_systemObservation (record : Record H)
    (kind : HyperliquidReconciliationObservationKind) (reasonCode : String) (clock : ClockReading) :
    ErrorsIn NotConflict (systemObservation prims record kind reasonCode clock) := by
  unfold systemObservation createSimulatedHyperliquidVenueObservation
  refine errorsIn_bind (errorsIn_invalidInput _ _) fun _ _ ↦ ?_
  refine errorsIn_bind (errorsIn_throwIf (by simp [NotConflict])) fun _ _ ↦ ?_
  exact errorsIn_bind (errorsIn_iso _) fun _ _ ↦ errorsIn_pure _

theorem errorsIn_observeAttempt (record : Record H) (attempt : ℕ) :
    ErrorsIn NotConflict (observeAttempt prims ports record attempt) := by
  unfold observeAttempt
  split
  · exact errorsIn_pure _
  · exact errorsIn_systemObservation _ _ _ _

theorem errorsIn_consumeAttempt (actorId : Identifier) (record : Record H)
    (observation : Observation H) (attempt : ℕ) (repo : ReconciliationRepository H) :
    ErrorsIn NotConflict (consumeAttempt prims ports actorId record observation attempt
      repo).1 := by
  unfold consumeAttempt
  dsimp only
  split
  · rename_i e he
    exact errorsIn_error (errorsIn_assertKernelSnapshot _ _ _ he)
  · exact errorsIn_map (errorsIn_consumeObservation _ _) _

omit [DecidableEq H] in
theorem errorsIn_requireRecord (record : Option (Record H)) :
    ErrorsIn NotConflict (requireRecord record) := by
  cases record with
  | none => exact errorsIn_error (by simp [NotConflict])
  | some record => exact errorsIn_bind (errorsIn_assertRecord _) fun _ _ ↦ errorsIn_pure _

/-- Polling never fails with a conflict of keys. -/
theorem errorsIn_poll (actorId : Identifier) (left : ℕ) (record : Record H)
    (repo : ReconciliationRepository H) :
    ErrorsIn NotConflict (poll prims ports actorId left record repo).1 := by
  induction left generalizing record repo with
  | zero =>
    unfold poll
    dsimp only
    split
    · rename_i e he
      exact errorsIn_error (errorsIn_systemObservation _ _ _ _ _ he)
    · exact errorsIn_consumeAttempt _ _ _ _ _
  | succ left ih =>
    unfold poll
    dsimp only
    split
    · rename_i e he
      exact errorsIn_error (errorsIn_observeAttempt _ _ _ he)
    · split
      · rename_i e he
        exact errorsIn_error (errorsIn_bind (errorsIn_consumeAttempt _ _ _ _ _)
          (fun _ _ ↦ errorsIn_requireRecord _) _ he)
      · split_ifs
        · exact errorsIn_ok _
        · exact ih _ _

end Errors

/-! ## Resuming -/

section Resuming

variable {H : Type} [DecidableEq H] {prims : Primitives H} {ports : Ports H}
  {repo : ReconciliationRepository H} {input : Request H} {first later : KernelSnapshot H}
  {draft : Draft H} {id : H} {record : Record H}

/-- A snapshot that differs from the first one in the time when it was taken, and by a risk state
that is not less restrictive. -/
structure LaterSnapshot (first later : KernelSnapshot H) : Prop where
  binding : later.toKernelBinding = first.toKernelBinding
  executionNonceState : later.executionNonceState = first.executionNonceState
  ledger : later.canonicalLedgerStateHash = first.canonicalLedgerStateHash ∧
    later.ledgerTransactionCount = first.ledgerTransactionCount
  risk : riskRank first.riskState ≤ riskRank later.riskState

omit [DecidableEq H] in
theorem LaterSnapshot.eq_iff (h : LaterSnapshot first later) : later = first ↔
    later.capturedAt = first.capturedAt ∧ later.riskState = first.riskState ∧
      later.riskSnapshotHash = first.riskSnapshotHash := by
  refine ⟨fun heq ↦ heq ▸ ⟨rfl, rfl, rfl⟩, fun ⟨hcaptured, hrisk, hhash⟩ ↦ ?_⟩
  obtain ⟨hbinding, hnonce, ⟨hledger, hcount⟩, -⟩ := h
  cases first
  cases later
  dsimp only at *
  subst hbinding hnonce hledger hcount hcaptured hrisk hhash
  rfl

theorem LaterSnapshot.assert_eq (h : LaterSnapshot first later) (expected : Option (String × H)) :
    assertKernelSnapshot later expected = assertKernelSnapshot first expected := by
  unfold assertKernelSnapshot
  rw [h.binding, h.ledger.2]

/-- The guard gives the same decision about a later snapshot. -/
theorem draftOf_later (h : LaterSnapshot first later)
    (hfirst : draftOf prims ports input first = .ok draft) :
    draftOf prims ports input later = .ok (createDraft prims input later draft.guard) := by
  have hhash : preGuardRequestHash prims input later = preGuardRequestHash prims input first := by
    unfold preGuardRequestHash
    rw [h.binding]
  unfold draftOf at hfirst ⊢
  rw [h.assert_eq, hhash, h.binding]
  simp only [bind_eq_ok, pure_eq_ok] at hfirst
  obtain ⟨_, hrequest, _, hsnapshot, _, hguard, rfl⟩ := hfirst
  rw [bind_of_ok hrequest, bind_of_ok hsnapshot, bind_of_ok hguard]
  rfl

theorem draftOf_eq (hfirst : draftOf prims ports input first = .ok draft) :
    draft = createDraft prims input first draft.guard := by
  simp only [draftOf, bind_eq_ok, pure_eq_ok] at hfirst
  obtain ⟨_, -, _, -, _, -, rfl⟩ := hfirst
  rfl

omit [DecidableEq H] in
/-- The hash of a request tells the snapshots apart. -/
theorem requestHash_eq_iff (hfree : CollisionFree prims) (guard : GuardDecision H) :
    (createDraft prims input first guard).requestHash =
      (createDraft prims input later guard).requestHash ↔ later = first := by
  constructor
  · intro h
    have hcore := hfree.request_eq _ _ (congrArg prims.slice h)
    exact (hfree.snapshot_eq _ _ (congrArg RequestCore.kernelSnapshotHash hcore)).symm
  · rintro rfl
    rfl

/-- The call goes on with the record: it polls from it, in the repository as it is, and does not
fail with a conflict of keys. -/
structure Resumes (prims : Primitives H) (ports : Ports H) (input : Request H) (record : Record H)
    (repo : ReconciliationRepository H) : Prop where
  continues : ∃ actorId, reconcile prims ports input repo =
    poll prims ports actorId ports.maxPollAttempts record repo
  noConflict : ErrorsIn NotConflict (reconcile prims ports input repo).1

/-- **When reconciliation resumes.**  A record that is not over is gone on with by a later call for
its key exactly if the snapshot of that call is the first one, the time when it was taken and the
risk state included. -/
theorem reconcile_resumes_iff (hfree : CollisionFree prims)
    (prior : List (ReconciliationInput H))
    (hget : (run (reconciliationStep prims) .new prior).records.get id = some record)
    (hwaiting : record.status ∉ terminalStatuses) (hclosed : record.circuitBreakerOpen = false)
    (hfirst : draftOf prims ports input first = .ok draft) (hfrom : FromDraft draft record)
    (hlater : LaterSnapshot first (ports.resolve 0)) :
    Resumes prims ports input record (run (reconciliationStep prims) .new prior) ↔
      (ports.resolve 0).capturedAt = first.capturedAt ∧
        (ports.resolve 0).riskState = first.riskState ∧
        (ports.resolve 0).riskSnapshotHash = first.riskSnapshotHash := by
  have hkept := (sound_run hfree prior).kept
  set repo := run (reconciliationStep prims) .new prior
  rw [← hlater.eq_iff]
  have hdraft := draftOf_later hlater hfirst
  have hkey : repo.idempotency.get
      (createDraft prims input (ports.resolve 0) draft.guard).idempotencyKeyHash = some id := by
    have hfiled := (hkept.filed id record hget).2
    rw [hfrom.idempotencyKeyHash, draftOf_eq hfirst] at hfiled
    exact hfiled
  have hhash : record.requestHash ≠
      (createDraft prims input (ports.resolve 0) draft.guard).requestHash ↔
        ports.resolve 0 ≠ first := by
    rw [hfrom.requestHash, draftOf_eq hfirst]
    exact not_congr (requestHash_eq_iff hfree draft.guard)
  by_cases hsame : ports.resolve 0 = first
  · refine iff_of_true ?_ hsame
    have hcontinues : reconcile prims ports input repo =
        poll prims ports draft.guard.actorId ports.maxPollAttempts record repo := by
      unfold reconcile start
      rw [hdraft]
      dsimp only
      rw [hkey]
      dsimp only
      rw [hget]
      dsimp only
      rw [if_neg fun h ↦ hhash.1 h hsame]
      have hrequire : requireRecord (some record) = .ok record := by
        rw [requireRecord, bind_of_ok (hkept.asserted id record hget)]
        rfl
      simp only [Except.bind, hrequire]
      rw [if_neg]
      · rfl
      · rintro (hmem | hopen)
        · exact hwaiting hmem
        · rw [hclosed] at hopen
          cases hopen
    exact ⟨⟨_, hcontinues⟩, hcontinues ▸ errorsIn_poll _ _ _ _⟩
  · refine iff_of_false (fun hresumes ↦ ?_) hsame
    have hconflict : (reconcile prims ports input repo).1 =
        .error (idempotencyConflict "idempotency key is bound to another reconciliation") := by
      unfold reconcile start
      rw [hdraft]
      dsimp only
      rw [hkey]
      dsimp only
      rw [hget]
      dsimp only
      rw [if_pos (hhash.2 hsame)]
      rfl
    exact hresumes.noConflict _ hconflict rfl

end Resuming

namespace Sample

/-- A call whose first snapshot is taken at `capturedAt`; the venue has filled the order. -/
def ports (capturedAt : ℕ) : Ports (List ℕ) where
  resolve attempt := if attempt = 0 then { snapshot with capturedAt } else snapshot
  authorize _ _ := guard
  observe _ := some filled.observation
  clock reading := ⟨min (reading + 300) 1000, (min_le_right _ _).trans (by decide), by omega⟩
  maxPollAttempts := 1
  circuitBreakerFailureThreshold := 2

/-- The repository once the reconciliation is started. -/
def startedRepository : ReconciliationRepository (List ℕ) :=
  run (reconciliationStep prims) .new [started]

/-- The draft of the request. -/
def draft : Draft (List ℕ) := createDraft prims request snapshot guard

/-- Its record. -/
def pending : Record (List ℕ) := pendingRecord prims draft 100

theorem get_pending : startedRepository.records.get reconciliationId = some pending := by
  decide +kernel

theorem draftOf_request (capturedAt : ℕ) :
    draftOf prims (ports capturedAt) request snapshot = .ok draft := by
  unfold draftOf
  rw [bind_of_ok (show assertRequest request = .ok () by decide +kernel),
    bind_of_ok (show assertKernelSnapshot snapshot _ = .ok () by decide +kernel)]
  rfl

theorem later (capturedAt : ℕ) : LaterSnapshot snapshot ((ports capturedAt).resolve 0) :=
  ⟨rfl, rfl, ⟨rfl, rfl⟩, le_rfl⟩

end Sample

/-- A call for the same key that comes a second later, with all else as it was, is refused. -/
theorem reconcile_conflict : ¬ ∀ (ports : Ports (List ℕ)) (input : Request (List ℕ))
    (first : KernelSnapshot (List ℕ)) (draft : Draft (List ℕ)) (record : Record (List ℕ)),
    Sample.startedRepository.records.get record.reconciliationId = some record →
    record.status ∉ terminalStatuses → record.circuitBreakerOpen = false →
    draftOf Sample.prims ports input first = .ok draft → FromDraft draft record →
    LaterSnapshot first (ports.resolve 0) →
    Resumes Sample.prims ports input record Sample.startedRepository := by
  intro h
  have hresumes := h (Sample.ports 1100) Sample.request Sample.snapshot Sample.draft Sample.pending
    Sample.get_pending (by decide) rfl (Sample.draftOf_request 1100)
    ⟨rfl, rfl, rfl, rfl, rfl, rfl⟩ (Sample.later 1100)
  have hcode : (match (reconcile Sample.prims (Sample.ports 1100) Sample.request
      Sample.startedRepository).1 with | .error e => e.code | .ok _ => "") =
        "hyperliquid_reconciliation_idempotency_conflict" := by decide +kernel
  split at hcode
  · rename_i e he
    exact hresumes.noConflict e he hcode
  · exact absurd hcode (by decide)

/-- A call with the first snapshot goes on with the record. -/
theorem reconcile_resumes_same : Resumes Sample.prims (Sample.ports 100) Sample.request
    Sample.pending Sample.startedRepository :=
  (reconcile_resumes_iff Sample.collisionFree [Sample.started] Sample.get_pending (by decide) rfl
    (Sample.draftOf_request 100) ⟨rfl, rfl, rfl, rfl, rfl, rfl⟩ (Sample.later 100)).2
      ⟨rfl, rfl, rfl⟩

end Reconciliation
end IpoOne
