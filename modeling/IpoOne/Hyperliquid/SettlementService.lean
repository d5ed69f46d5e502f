import IpoOne.Hyperliquid.Settlement
import IpoOne.Lib.InsertionMap
import IpoOne.Lib.Run

/-!
# The settlement service

`InMemoryHyperliquidSettlementRepository` and `HyperliquidTestnetSettlementService`.  A method of
the repository runs without interruption; what it has written when it throws stays written, so it
returns its outcome and the repository it leaves.

A method of the service reads a record, asks its collaborators (the clock, the kernel, the observer,
the fee policy and the command guard), and then calls the repository.  Other methods may run in
between, so a request has two steps: `request` does everything up to the call on the repository,
which is then under way, and `perform` makes one of the calls that are.
-/

set_option autoImplicit false

namespace IpoOne
namespace Hyperliquid
namespace Settlement

open Fallible

/-! ## The repository -/

/-- The types of the events. -/
inductive SettlementEventType where
  | prepared
  | incident
  | finalityReconciled
  | finalityPending
  | posted
  | performanceEvidenceIssued
  | performanceEvidenceRevoked
  deriving DecidableEq, Repr

/-- An event, with what `eventFor` takes from its record. -/
structure SettlementEvent (H : Type) where
  eventType : SettlementEventType
  settlementId : H
  settlementHash : H
  stateHash : H
  identity : RecordIdentity H
  finalSourceEvidenceHash : Option H
  status : HyperliquidTestnetSettlementStatus
  version : ℕ
  reasonCode : Option String
  finalEquityMinor : Option ℤ
  ledgerTransactionHash : Option H
  performanceEvidenceHash : Option H
  performanceEvidenceVersion : ℕ
  actorId : String
  occurredAt : ℕ
  deriving DecidableEq

/-- The prefix of a key of `#commands`. -/
inductive CommandKind where
  | prepare
  | settle
  | evidence
  deriving DecidableEq, Repr

/-- What is stored under an idempotency key. -/
structure CommandEntry (H : Type) where
  requestHash : Option H
  settlementId : H
  deriving DecidableEq

/-- The fields of the repository. -/
structure Repository (H : Type) where
  records : InsertionMap H (SettlementRecord H)
  commands : InsertionMap (CommandKind × H) (CommandEntry H)
  observations : InsertionMap H (Observation H)
  ledger : InsertionMap H (SettlementLedger H)
  facilities : InsertionMap H (Trading.TradingFacility H)
  events : List (SettlementEvent H)
  deriving DecidableEq

/-- A new repository. -/
def Repository.new {H : Type} : Repository H where
  records := .empty
  commands := .empty
  observations := .empty
  ledger := .empty
  facilities := .empty
  events := []

/-- What the methods of the repository return. -/
structure SettlementResult (H : Type) where
  record : Option (SettlementRecord H)
  facility : Option (Trading.TradingFacility H) := none
  ledger : Option (SettlementLedger H) := none
  replayed : Bool
  deriving DecidableEq

section Repository

variable {H : Type} [DecidableEq H] (hashId : SettlementPreimage H → H)

/-- The event of a record. -/
def eventFor (record : SettlementRecord H) (eventType : SettlementEventType) (actorId : String)
    (reasonCode : Option String) (nowMs : ℕ) : Domain (SettlementEvent H) := do
  assertRecord hashId record
  pure
    { eventType
      settlementId := record.settlementId
      settlementHash := record.settlementHash
      stateHash := record.stateHash
      identity := record.identity
      finalSourceEvidenceHash := record.finalSourceEvidenceHash
      status := record.status
      version := record.version
      reasonCode
      finalEquityMinor := record.finalEquityMinor
      ledgerTransactionHash := record.ledgerTransactionHash
      performanceEvidenceHash :=
        record.currentPerformanceEvidence.map (·.performanceEvidenceHash)
      performanceEvidenceVersion := record.performanceEvidenceVersion
      actorId
      occurredAt := nowMs }

/-- Append an event, which is the last thing a method does. -/
def pushEvent (repo : Repository H) (event : Domain (SettlementEvent H))
    (result : SettlementResult H) : Domain (SettlementResult H) × Repository H :=
  match event with
  | .error e => (.error e, repo)
  | .ok event => (.ok result, { repo with events := repo.events ++ [event] })

/-- A key was used for something else. -/
def idempotencyConflict (message : String) : DomainError where
  code := "testnet_settlement_idempotency_conflict"
  message

/-- There is no record of this name. -/
def recordUnavailable : DomainError where
  code := "testnet_settlement_unavailable"
  message := "record is unavailable"

/-- Stores a new record; the same request again gives the stored one. -/
def create (repo : Repository H) (snapshot : KernelSnapshot H) (feePolicy : FeePolicy H)
    (guard : GuardDecision H) (idempotencyKeyHash : H) (nowMs : ℕ) :
    Domain (SettlementResult H) × Repository H :=
  match createPendingRecord hashId snapshot feePolicy guard idempotencyKeyHash nowMs with
  | .error e => (.error e, repo)
  | .ok candidate =>
    match repo.commands.get (.prepare, idempotencyKeyHash) with
    | some replay =>
      if replay.requestHash ≠ some candidate.requestHash then
        (.error (idempotencyConflict "prepare identity was reused"), repo)
      else (.ok { record := repo.records.get replay.settlementId, replayed := true }, repo)
    | none =>
      if ∃ item ∈ repo.records.values,
          item.identity.facilityId = candidate.identity.facilityId then
        (.error { code := "testnet_settlement_unavailable"
                  message := "Facility already has a settlement control" }, repo)
      else
        pushEvent
          { repo with
            records := repo.records.set candidate.settlementId candidate
            commands := repo.commands.set (.prepare, idempotencyKeyHash)
              { requestHash := some candidate.requestHash
                settlementId := candidate.settlementId } }
          (eventFor hashId candidate .prepared guard.actorId (some "settlement_prepared") nowMs)
          { record := some candidate, replayed := false }

/-- The event type of an observation that led to `next`. -/
def observationEventType (next : SettlementRecord H) : SettlementEventType :=
  if next.status = .incident then .incident
  else if next.status = .readyToSettle then .finalityReconciled
  else .finalityPending

/-- The reason code of an observation that led to `next`. -/
def observationReasonCode (next : SettlementRecord H) : Option String :=
  if next.status = .readyToSettle then some "finality_reconciled"
  else if next.status = .incident then next.incidentReasonCodes.getLast?
  else some "finality_unknown"

/-- Takes an observation; one that was taken before is a replay. -/
def consumeObservation (repo : Repository H) (settlementId : H) (observation : Observation H)
    (snapshot : KernelSnapshot H) (actorId : String) (nowMs : ℕ) :
    Domain (SettlementResult H) × Repository H :=
  match assertObservation hashId observation with
  | .error e => (.error e, repo)
  | .ok () =>
    match repo.observations.get observation.observationId with
    | some existing =>
      if existing.observationHash ≠ observation.observationHash then
        (.error (idempotencyConflict "observation identity was reused"), repo)
      else (.ok { record := repo.records.get settlementId, replayed := true }, repo)
    | none =>
      match repo.records.get settlementId with
      | none => (.error recordUnavailable, repo)
      | some current =>
        match transitionObservation hashId current observation snapshot nowMs with
        | .error e => (.error e, repo)
        | .ok next =>
          pushEvent
            { repo with
              records := repo.records.set settlementId next
              observations := repo.observations.set observation.observationId observation }
            (eventFor hashId next (observationEventType next) actorId (observationReasonCode next)
              nowMs)
            { record := some next, replayed := false }

/-- Settles a record; under the same key it is a replay. -/
def settle (repo : Repository H) (settlementId : H) (snapshot : KernelSnapshot H)
    (guard : GuardDecision H) (feePolicy : FeePolicy H) (idempotencyKeyHash : H) (nowMs : ℕ) :
    Domain (SettlementResult H) × Repository H :=
  match repo.commands.get (.settle, idempotencyKeyHash) with
  | some replay =>
    if replay.settlementId ≠ settlementId then
      (.error (idempotencyConflict "settlement identity was reused"), repo)
    else
      (.ok
        { record := repo.records.get settlementId
          facility := repo.facilities.get settlementId
          ledger := repo.ledger.get settlementId
          replayed := true }, repo)
  | none =>
    match repo.records.get settlementId with
    | none => (.error recordUnavailable, repo)
    | some current =>
      match settleRecord hashId current snapshot guard feePolicy nowMs with
      | .error e => (.error e, repo)
      | .ok outcome =>
        pushEvent
          { repo with
            records := repo.records.set settlementId outcome.record
            facilities := match outcome.posted with
              | some (facility, _) => repo.facilities.set settlementId facility
              | none => repo.facilities
            ledger := match outcome.posted with
              | some (_, ledger) => repo.ledger.set settlementId ledger
              | none => repo.ledger
            commands := repo.commands.set (.settle, idempotencyKeyHash)
              { requestHash := none, settlementId } }
          (eventFor hashId outcome.record
            (if outcome.record.status = .incident then .incident else .posted) guard.actorId
            (if outcome.record.status = .incident then outcome.record.incidentReasonCodes.getLast?
              else some "canonical_ledger_posted") nowMs)
          { record := some outcome.record
            facility := outcome.posted.map (·.1)
            ledger := outcome.posted.map (·.2)
            replayed := false }

/-- Revises the evidence of a record; under a key that was used it is a replay. -/
def reviseEvidence (repo : Repository H) (settlementId actorHash : H)
    (status : PerformanceEvidenceStatus) (reasonCode : String) (idempotencyKeyHash : H)
    (nowMs : ℕ) : Domain (SettlementResult H) × Repository H :=
  match repo.commands.get (.evidence, idempotencyKeyHash) with
  | some replay =>
    if replay.settlementId ≠ settlementId then
      (.error (idempotencyConflict "Evidence identity was reused"), repo)
    else (.ok { record := repo.records.get settlementId, replayed := true }, repo)
  | none =>
    match repo.records.get settlementId with
    | none => (.error recordUnavailable, repo)
    | some current =>
      match revisePerformanceEvidence hashId current actorHash status reasonCode nowMs with
      | .error e => (.error e, repo)
      | .ok next =>
        pushEvent
          { repo with
            records := repo.records.set settlementId next
            commands := repo.commands.set (.evidence, idempotencyKeyHash)
              { requestHash := none, settlementId } }
          (eventFor hashId next
            (match status with
              | .active => .performanceEvidenceIssued
              | .revoked => .performanceEvidenceRevoked)
            "system_tc402_evidence_custodian" (some reasonCode) nowMs)
          { record := some next, replayed := false }

end Repository

/-! ## The service -/

/-- A call on the repository. -/
inductive Call (H : Type) where
  | create (snapshot : KernelSnapshot H) (feePolicy : FeePolicy H) (guard : GuardDecision H)
      (idempotencyKeyHash : H) (nowMs : ℕ)
  | consumeObservation (settlementId : H) (observation : Observation H)
      (snapshot : KernelSnapshot H) (actorId : String) (nowMs : ℕ)
  | settle (settlementId : H) (snapshot : KernelSnapshot H) (guard : GuardDecision H)
      (feePolicy : FeePolicy H) (idempotencyKeyHash : H) (nowMs : ℕ)
  | reviseEvidence (settlementId actorHash : H) (status : PerformanceEvidenceStatus)
      (reasonCode : String) (idempotencyKeyHash : H) (nowMs : ℕ)

/-- A request to the service. -/
inductive Request (H : Type) where
  | prepare (facilityId : String) (facilityHash : H) (idempotencyKey : String)
  | reconcileFinality (settlementId : H)
  | settle (settlementId : H) (idempotencyKey : String)
  | issuePerformanceEvidence (settlementId : H) (idempotencyKey : String)
  | revokePerformanceEvidence (settlementId : H) (idempotencyKey reasonCode : String)

/-- What the collaborators of the service answer while it handles a request. -/
structure Answers (H : Type) where
  nowMs : ℕ
  snapshot : Domain (KernelSnapshot H)
  observation : Domain (Observation H)
  feePolicy : Domain (FeePolicy H)
  guard : Domain (GuardDecision H)

/-- The service: its repository, and the calls on it that are under way. -/
structure Service (H : Type) where
  repository : Repository H
  calls : List (Call H)

/-- A request arrives, or a call that was planned is performed on the repository. -/
inductive ServiceInput (H : Type) where
  | request (request : Request H) (answers : Answers H)
  | perform (call : ℕ)

section Service

variable {H : Type} [DecidableEq H] (hashId : SettlementPreimage H → H)

/-- The guard approves this operation. -/
def assertSettlementGuardDecision (value : GuardDecision H) (operation : String) :
    Domain Unit := do
  let denied := "testnet_settlement_authorization_denied"
  throwIf (value.approved ≠ true ∨ value.operation ≠ operation ∨
      value.privilegedSettlement ≠ decide (operation = "settle") ∨
      value.tenantContextResolved ≠ true ∨ value.clientIdentityAccepted ≠ false)
    denied "closed server authorization is required"
  identifier "actorId" value.actorId
  throwIf (hashId (.trading (.actor value.actorId)) ≠ value.actorHash) denied
    "authorized actor binding changed"

/-- `findById`, and the check that there is a record. -/
def findRecord (repo : Repository H) (settlementId : H) : Domain (SettlementRecord H) :=
  match repo.records.get settlementId with
  | some record => .ok record
  | none => .error recordUnavailable

/-- `reasonCode` of `issuePerformanceEvidence` -/
def issueReasonCode (current : SettlementRecord H) : String :=
  if current.performanceEvidenceVersion = 0 then "initial_final_performance"
  else if current.status = .evidenceRevoked then "reissued_after_revocation"
  else "superseded_by_new_evidence"

/-- The methods of the service, up to the call on the repository. -/
def plan (repo : Repository H) (answers : Answers H) : Request H → Domain (Call H)
  | .prepare facilityId facilityHash idempotencyKey => do
    identifier "facilityId" facilityId
    identifier "idempotencyKey" idempotencyKey
    let snapshot ← answers.snapshot
    kernelUnavailable (snapshot.facilityHash ≠ facilityHash) "Facility hash changed"
    let feePolicy ← answers.feePolicy
    let guard ← answers.guard
    assertSettlementGuardDecision hashId guard "prepare"
    pure (.create snapshot feePolicy guard (hashId (.idempotencyKey idempotencyKey))
      answers.nowMs)
  | .reconcileFinality settlementId => do
    let _ ← findRecord repo settlementId
    let observation ← answers.observation
    assertObservation hashId observation
    let snapshot ← answers.snapshot
    let guard ← answers.guard
    assertSettlementGuardDecision hashId guard "observe_finality"
    pure (.consumeObservation settlementId observation snapshot guard.actorId answers.nowMs)
  | .settle settlementId idempotencyKey => do
    identifier "idempotencyKey" idempotencyKey
    let _ ← findRecord repo settlementId
    let snapshot ← answers.snapshot
    let feePolicy ← answers.feePolicy
    let guard ← answers.guard
    assertSettlementGuardDecision hashId guard "settle"
    pure (.settle settlementId snapshot guard feePolicy (hashId (.idempotencyKey idempotencyKey))
      answers.nowMs)
  | .issuePerformanceEvidence settlementId idempotencyKey => do
    identifier "idempotencyKey" idempotencyKey
    let current ← findRecord repo settlementId
    let guard ← answers.guard
    assertSettlementGuardDecision hashId guard "issue_evidence"
    pure (.reviseEvidence settlementId guard.actorHash .active (issueReasonCode current)
      (hashId (.idempotencyKey idempotencyKey)) answers.nowMs)
  | .revokePerformanceEvidence settlementId idempotencyKey reasonCode => do
    invalid (reasonCode ∉ ["source_evidence_invalidated", "settlement_correction_required",
      "privacy_revocation"]) "revocation input is invalid"
    identifier "idempotencyKey" idempotencyKey
    evidenceUnavailable
      ((repo.records.get settlementId).map (·.status) ≠ some .evidenceActive)
      "active Evidence is required"
    let guard ← answers.guard
    assertSettlementGuardDecision hashId guard "revoke_evidence"
    pure (.reviseEvidence settlementId guard.actorHash .revoked reasonCode
      (hashId (.idempotencyKey idempotencyKey)) answers.nowMs)

/-- A call on the repository is made. -/
def invoke (repo : Repository H) : Call H → Domain (SettlementResult H) × Repository H
  | .create snapshot feePolicy guard idempotencyKeyHash nowMs =>
    create hashId repo snapshot feePolicy guard idempotencyKeyHash nowMs
  | .consumeObservation settlementId observation snapshot actorId nowMs =>
    consumeObservation hashId repo settlementId observation snapshot actorId nowMs
  | .settle settlementId snapshot guard feePolicy idempotencyKeyHash nowMs =>
    settle hashId repo settlementId snapshot guard feePolicy idempotencyKeyHash nowMs
  | .reviseEvidence settlementId actorHash status reasonCode idempotencyKeyHash nowMs =>
    reviseEvidence hashId repo settlementId actorHash status reasonCode idempotencyKeyHash nowMs

/-- A new service. -/
def Service.new {H : Type} : Service H where
  repository := .new
  calls := []

/-- One step of the service: a request gets as far as its call, or one of the calls that are under
way is made. -/
def serviceStep (s : Service H) : ServiceInput H → Service H
  | .request request answers =>
    match plan hashId s.repository answers request with
    | .ok call => { s with calls := s.calls ++ [call] }
    | .error _ => s
  | .perform call =>
    match s.calls[call]? with
    | some next =>
      { repository := (invoke hashId s.repository next).2, calls := s.calls.eraseIdx call }
    | none => s

end Service

end Settlement
end Hyperliquid
end IpoOne
