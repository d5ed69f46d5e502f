import IpoOne.Credit.Ledger
import IpoOne.Hyperliquid.Waterfall

/-!
# Settlement records

`hyperliquid-settlement`: a record is prepared from a snapshot of a flattened facility and a fee
policy, waits for an observation of finality, is settled with one balanced ledger transaction, and
then carries performance evidence that may be revised and revoked.

Every transition builds the next record with `nextState`, which hashes its state anew and checks it
with `assertRecord`.  A hash is a value of the arbitrary type `H`, and so is an identifier that is a
prefix followed by a digest; times are milliseconds.  The flags that are the same in every record
are left out.
-/

set_option autoImplicit false

namespace IpoOne
namespace Hyperliquid
namespace Settlement

open Fallible

/-- The states of a settlement. -/
inductive HyperliquidTestnetSettlementStatus where
  | awaitingFinality
  | readyToSettle
  | settled
  | evidenceActive
  | evidenceRevoked
  | incident
  deriving DecidableEq, Repr

/-- Whether the venue's result is final. -/
inductive HyperliquidTestnetFinalityStatus where
  | final
  | unknown
  deriving DecidableEq, Repr

/-- Whether the venue's result is reconciled. -/
inductive HyperliquidTestnetReconciliationStatus where
  | reconciled
  | unknown
  deriving DecidableEq, Repr

/-- Where the funding of a facility stands. -/
inductive FundingStatus where
  | awaitingContributions
  | awaitingSubject
  | awaitingProvider
  | ready
  | active
  | incident
  deriving DecidableEq, Repr

/-- Whether evidence stands. -/
inductive PerformanceEvidenceStatus where
  | active
  | revoked
  deriving DecidableEq, Repr

/-- `PROOF_LIFETIME_MS` -/
def proofLifetimeMs : ℕ := 7 * 24 * 60 * 60 * 1000

/-- `MAX_FINALITY_AGE_MS` -/
def maxFinalityAgeMs : ℕ := 5 * 60 * 1000

/-! ## Records -/

/-- What is hashed of a fee policy. -/
structure FeePolicyCore (H : Type) where
  policyId : String
  approvalEvidenceHash : H
  approvedByActorHash : H
  ipoOneFeeBps : ℤ
  validFrom : ℕ
  validUntil : ℕ
  deriving DecidableEq

/-- A fee policy with its hash. -/
structure FeePolicy (H : Type) extends FeePolicyCore H where
  policyHash : H
  capturedAt : ℕ
  deriving DecidableEq

/-- What an observer says of the final state of a facility. -/
structure ObservationInput (H : Type) where
  settlementHash : H
  facilityHash : H
  fundingHash : H
  assetId : String
  sourceEvidenceHash : H
  finalityStatus : HyperliquidTestnetFinalityStatus
  reconciliationStatus : HyperliquidTestnetReconciliationStatus
  openOrderCount : ℤ
  exposureMinor : ℤ
  unknownExecutionCount : ℤ
  positionsFinal : Bool
  unrealizedPnlMinor : ℤ
  realizedPnlMinor : ℤ
  venueCostMinor : ℤ
  closingCostMinor : ℤ
  finalEquityMinor : ℤ
  complete : Bool
  economicValuesAuthoritative : Bool
  reasonCode : String
  deriving DecidableEq

/-- What is hashed of an observation. -/
structure ObservationCore (H : Type) extends ObservationInput H where
  observedAt : ℕ
  deriving DecidableEq

/-- An observation of the venue's final state. -/
structure Observation (H : Type) extends ObservationCore H where
  observationId : H
  observationHash : H
  deriving DecidableEq

/-- A snapshot of the kernel: the facility, its funding, its close request and its obligation. -/
structure KernelSnapshot (H : Type) where
  fundingStatus : FundingStatus
  facilityLifecycleStatus : Trading.TradingFacilityLifecycleStatus
  facilityRiskState : Trading.TradingFacilityRiskState
  openOrderCount : ℤ
  exposureMinor : ℤ
  newRiskAdmissionOpen : Bool
  closeAdmissionFrozen : Bool
  closeRequested : Bool
  obligationExecutionStatus : Credit.ObligationExecutionStatus
  obligationWithdrawable : Bool
  reconciliationStatus : HyperliquidTestnetReconciliationStatus
  unknownExecutionCount : ℤ
  facilityId : String
  fundingId : String
  closeRequestId : String
  obligationId : String
  subjectId : String
  assetId : String
  facilityHash : H
  facilityStateHash : H
  fundingHash : H
  closeRequestHash : H
  obligationHash : H
  termsHash : H
  finalReconciliationHash : H
  canonicalLedgerStateHash : H
  facilityVersion : ℕ
  ledgerTransactionCount : ℕ
  subjectContributionMinor : ℤ
  providerContributionMinor : ℤ
  templateType : TemplateType
  fixedReturnBps : ℤ
  performanceParticipationBps : ℤ
  durationDays : ℤ
  capturedAt : ℕ
  facility : Trading.TradingFacility H
  deriving DecidableEq

/-- `recordIdentityCore`: what never changes about a settlement. -/
structure RecordIdentity (H : Type) where
  facilityId : String
  facilityHash : H
  facilityStateHashBefore : H
  facilityVersionBefore : ℕ
  fundingId : String
  fundingHash : H
  closeRequestId : String
  closeRequestHash : H
  obligationId : String
  obligationHash : H
  subjectId : String
  assetId : String
  templateType : TemplateType
  termsHash : H
  fixedReturnBps : ℤ
  performanceParticipationBps : ℤ
  durationDays : ℤ
  subjectContributionMinor : ℤ
  providerContributionMinor : ℤ
  finalReconciliationHash : H
  feePolicyId : String
  feePolicyHash : H
  feeApprovalEvidenceHash : H
  ipoOneFeeBps : ℤ
  canonicalLedgerStateHashBefore : H
  ledgerTransactionCountBefore : ℕ
  createdAt : ℕ
  deriving DecidableEq

/-- `performanceClaims`, without its flags. -/
structure PerformanceClaims where
  finalEquityMinor : Option ℤ
  providerPrincipalReturnMinor : ℤ
  providerPrincipalShortfallMinor : ℤ
  subjectFirstLossMinor : ℤ
  providerNetIncomeMinor : ℤ
  subjectProfitMinor : ℤ
  ipoOneFeeMinor : ℤ
  deriving DecidableEq

/-- What is hashed of the evidence. -/
structure PerformanceEvidenceCore (H : Type) where
  settlementId : H
  settlementHash : H
  facilityId : String
  facilityHash : H
  obligationId : String
  obligationHash : H
  ledgerTransactionHash : Option H
  claims : PerformanceClaims
  status : PerformanceEvidenceStatus
  reasonCode : String
  previousEvidenceHash : Option H
  evidenceVersion : ℕ
  issuedByActorHash : H
  issuedAt : ℕ
  expiresAt : ℕ
  deriving DecidableEq

/-- One version of the evidence of how a facility performed. -/
structure PerformanceEvidence (H : Type) extends PerformanceEvidenceCore H where
  performanceEvidenceId : H
  performanceEvidenceHash : H
  deriving DecidableEq

/-- `recordStateCore` -/
structure RecordState (H : Type) where
  settlementHash : H
  processedObservationCount : ℕ
  finalObservationHash : Option H
  finalSourceEvidenceHash : Option H
  realizedPnlMinor : Option ℤ
  venueCostMinor : Option ℤ
  closingCostMinor : Option ℤ
  finalEquityMinor : Option ℤ
  waterfall : Option Waterfall
  ledgerTransactionId : Option H
  ledgerTransactionHash : Option H
  facilityStateHashAfter : Option H
  facilityVersionAfter : Option ℕ
  currentPerformanceEvidence : Option (PerformanceEvidence H)
  performanceEvidenceVersion : ℕ
  incidentReasonCodes : List String
  status : HyperliquidTestnetSettlementStatus
  version : ℕ
  updatedAt : ℕ
  settledAt : Option ℕ
  deriving DecidableEq

/-- A stored settlement. -/
structure SettlementRecord (H : Type) extends RecordState H where
  identity : RecordIdentity H
  settlementId : H
  requestHash : H
  idempotencyKeyHash : H
  authorizationDecisionHash : H
  admissionDecisionHash : H
  stateHash : H
  canonicalLedgerTransactionCreated : Bool
  deriving DecidableEq

/-! ## The ledger -/

/-- The accounts that a settlement posts to. -/
inductive SettlementAccountType where
  | tradingProviderContributedCapital
  | tradingSubjectContributedCapital
  | tradingRealizedGain
  | tradingRealizedLoss
  | tradingVenueCost
  | tradingClosingCost
  | tradingProviderPrincipalReturn
  | tradingSubjectContributionReturn
  | tradingProviderFixedIncome
  | tradingProviderPerformanceIncome
  | tradingSubjectProfit
  | tradingIpoOneFeeIncome
  deriving DecidableEq, Repr

/-- The side on which an account grows. -/
inductive LedgerNormalSide where
  | debit
  | credit
  deriving DecidableEq, Repr

/-- `SETTLEMENT_ACCOUNT_SPECS` -/
def settlementAccountSpecs : List (SettlementAccountType × LedgerNormalSide) :=
  [(.tradingProviderContributedCapital, .credit),
    (.tradingSubjectContributedCapital, .credit),
    (.tradingRealizedGain, .credit),
    (.tradingRealizedLoss, .debit),
    (.tradingVenueCost, .debit),
    (.tradingClosingCost, .debit),
    (.tradingProviderPrincipalReturn, .debit),
    (.tradingSubjectContributionReturn, .debit),
    (.tradingProviderFixedIncome, .debit),
    (.tradingProviderPerformanceIncome, .debit),
    (.tradingSubjectProfit, .debit),
    (.tradingIpoOneFeeIncome, .debit)]

/-- What is hashed of an account. -/
structure LedgerAccountCore where
  ownerId : String
  assetId : String
  accountType : SettlementAccountType
  deriving DecidableEq

/-- An account of the ledger. -/
structure LedgerAccount (H : Type) extends LedgerAccountCore where
  ledgerAccountId : H
  ledgerAccountHash : H
  normalSide : LedgerNormalSide
  openedAt : ℕ
  deriving DecidableEq

/-- A posted entry. -/
structure LedgerEntry (H : Type) extends Credit.LedgerEntry H where
  ledgerEntryId : H
  ledgerTransactionId : H
  postedAt : ℕ
  deriving DecidableEq

/-- What a transaction refers to. -/
structure LedgerMetadata (H : Type) where
  settlementHash : H
  facilityHash : H
  fundingHash : H
  closeRequestHash : H
  finalReconciliationHash : H
  finalSourceEvidenceHash : Option H
  feePolicyHash : H
  deriving DecidableEq

/-- What is hashed of a transaction.  Its idempotency key is `tc402:ledger:` and the hash of the
settlement. -/
structure LedgerTransactionCore (H : Type) where
  idempotencyKey : H
  assetId : String
  referenceId : H
  metadata : LedgerMetadata H
  entries : List (Credit.LedgerEntry H)
  deriving DecidableEq

/-- A posted transaction. -/
structure LedgerTransaction (H : Type) where
  ledgerTransactionId : H
  transactionHash : H
  idempotencyKey : H
  assetId : String
  referenceId : H
  metadata : LedgerMetadata H
  metadataHash : H
  debitTotalMinor : ℤ
  creditTotalMinor : ℤ
  entryCount : ℕ
  entries : List (LedgerEntry H)
  postedAt : ℕ
  deriving DecidableEq

/-- What `createSettlementLedger` returns. -/
structure SettlementLedger (H : Type) where
  accounts : List (LedgerAccount H)
  transaction : LedgerTransaction H
  deriving DecidableEq

/-- The payloads that are hashed about a settlement. -/
inductive SettlementPreimage (H : Type) where
  | trading (preimage : Trading.TradingPreimage H)
  | idempotencyKey (idempotencyKey : String)
  | feePolicy (core : FeePolicyCore H)
  | finalityObservationId (sourceEvidenceHash : H)
  | finalityObservation (core : ObservationCore H)
  | settlementIdentity (identity : RecordIdentity H)
  | settlementId (settlementHash : H)
  | settlementPrepareRequest (settlementHash idempotencyKeyHash authorizationDecisionHash
      admissionDecisionHash : H)
  | settlementState (state : RecordState H)
  | performanceEvidence (core : PerformanceEvidenceCore H)
  | performanceEvidenceId (performanceEvidenceHash : H)
  | ledgerAccountId (core : LedgerAccountCore)
  | ledgerAccount (core : LedgerAccountCore)
  | ledgerTransaction (core : LedgerTransactionCore H)
  | ledgerEntryId (ledgerTransactionId : H) (sequence : ℕ) (ledgerAccountId : H)
  | ledgerMetadata (metadata : LedgerMetadata H)

section Functions

variable {H : Type} [DecidableEq H] (hashId : SettlementPreimage H → H)

/-! ## Inputs -/

/-- The checks on a fee policy. -/
def assertFeePolicy (value : FeePolicy H) (nowMs : ℕ) : Domain Unit := do
  identifier "policyId" value.policyId
  boundedInteger "ipoOneFeeBps" value.ipoOneFeeBps 0 10000
  throwIf (hashId (.feePolicy value.toFeePolicyCore) ≠ value.policyHash ∨
      nowMs < value.validFrom ∨ value.validUntil ≤ nowMs)
    "testnet_fee_policy_unavailable" "fee policy binding or validity changed"

/-- The observation with its hashes. -/
def createSimulatedTestnetFinalityObservation (input : ObservationInput H) (clock : ℕ) :
    Domain (Observation H) := do
  identifier "assetId" input.assetId
  boundedInteger "openOrderCount" input.openOrderCount 0 1000000
  let _ ← minor "exposureMinor" (some input.exposureMinor)
  boundedInteger "unknownExecutionCount" input.unknownExecutionCount 0 1000000
  let _ ← signedMinor "unrealizedPnlMinor" (some input.unrealizedPnlMinor)
  let _ ← signedMinor "realizedPnlMinor" (some input.realizedPnlMinor)
  let _ ← minor "venueCostMinor" (some input.venueCostMinor)
  let _ ← minor "closingCostMinor" (some input.closingCostMinor)
  let _ ← minor "finalEquityMinor" (some input.finalEquityMinor)
  safeCode "reasonCode" input.reasonCode
  let core : ObservationCore H := { input with observedAt := clock }
  pure
    { core with
      observationId := hashId (.finalityObservationId input.sourceEvidenceHash)
      observationHash := hashId (.finalityObservation core) }

/-- The hashes of an observation are those of its fields. -/
def assertObservation (value : Observation H) : Domain Unit := do
  let rebuilt ← createSimulatedTestnetFinalityObservation hashId value.toObservationInput
    value.observedAt
  throwIf (rebuilt.observationId ≠ value.observationId ∨
      rebuilt.observationHash ≠ value.observationHash)
    "testnet_finality_observation_unavailable" "observation binding changed"

/-- `fail("testnet_settlement_kernel_unavailable", message)` -/
def kernelUnavailable (c : Prop) [Decidable c] (message : String) : Domain Unit :=
  throwIf c "testnet_settlement_kernel_unavailable" message

/-- The kernel has nothing open in the facility, and it is to be closed. -/
def assertKernelSnapshot (value : KernelSnapshot H) (nowMs : ℕ) : Domain Unit := do
  kernelUnavailable (value.fundingStatus ≠ .active ∨ value.facilityLifecycleStatus ≠ .flattened ∨
      value.facilityRiskState ≠ .flatten ∨ value.openOrderCount ≠ 0 ∨ value.exposureMinor ≠ 0 ∨
      value.newRiskAdmissionOpen ≠ false ∨ value.closeAdmissionFrozen ≠ true ∨
      value.closeRequested ≠ true ∨ value.obligationExecutionStatus ≠ .executed ∨
      value.obligationWithdrawable ≠ false ∨ value.reconciliationStatus ≠ .reconciled ∨
      value.unknownExecutionCount ≠ 0)
    "kernel snapshot is unavailable"
  identifier "facilityId" value.facilityId
  identifier "fundingId" value.fundingId
  identifier "closeRequestId" value.closeRequestId
  identifier "obligationId" value.obligationId
  identifier "subjectId" value.subjectId
  identifier "assetId" value.assetId
  boundedInteger "facilityVersion" value.facilityVersion 1 1000000
  boundedInteger "ledgerTransactionCount" value.ledgerTransactionCount 0 (2 ^ 53 - 1)
  let _ ← positiveMinor "subjectContributionMinor" (some value.subjectContributionMinor)
  let _ ← positiveMinor "providerContributionMinor" (some value.providerContributionMinor)
  boundedInteger "fixedReturnBps" value.fixedReturnBps 0 10000
  boundedInteger "performanceParticipationBps" value.performanceParticipationBps 0 10000
  boundedInteger "durationDays" value.durationDays 1 3650
  kernelUnavailable (maxFinalityAgeMs < nowMs - value.capturedAt ∨ nowMs < value.capturedAt)
    "kernel snapshot is stale"
  kernelUnavailable (value.facility.tradingFacilityId ≠ value.facilityId ∨
      value.facility.facilityHash ≠ value.facilityHash ∨
      value.facility.stateHash ≠ value.facilityStateHash ∨
      value.facility.version ≠ value.facilityVersion)
    "Facility binding changed"

/-! ## Records and their states -/

/-- `fail("testnet_settlement_unavailable", message)` -/
def settlementUnavailable (c : Prop) [Decidable c] (message : String) : Domain Unit :=
  throwIf c "testnet_settlement_unavailable" message

/-- `fail("testnet_performance_evidence_unavailable", message)` -/
def evidenceUnavailable (c : Prop) [Decidable c] (message : String) : Domain Unit :=
  throwIf c "testnet_performance_evidence_unavailable" message

/-- The checks on the evidence of a record. -/
def assertPerformanceEvidence (value : PerformanceEvidence H) (record : SettlementRecord H) :
    Domain Unit := do
  boundedInteger "evidenceVersion" value.evidenceVersion 1 100
  evidenceUnavailable (value.settlementId ≠ record.settlementId ∨
      value.settlementHash ≠ record.settlementHash ∨
      value.ledgerTransactionHash ≠ record.ledgerTransactionHash)
    "Performance Evidence binding changed"
  evidenceUnavailable
    (hashId (.performanceEvidence value.toPerformanceEvidenceCore) ≠ value.performanceEvidenceHash)
    "Performance Evidence hash changed"

/-- `preSettlement` of `assertRecord` -/
def HyperliquidTestnetSettlementStatus.preSettlement
    (status : HyperliquidTestnetSettlementStatus) : Prop :=
  status = .awaitingFinality ∨ status = .readyToSettle

/-- `settled` of `assertRecord` -/
def HyperliquidTestnetSettlementStatus.hasSettled
    (status : HyperliquidTestnetSettlementStatus) : Prop :=
  status = .settled ∨ status = .evidenceActive ∨ status = .evidenceRevoked

instance (status : HyperliquidTestnetSettlementStatus) : Decidable status.preSettlement :=
  inferInstanceAs (Decidable (_ ∨ _))

instance (status : HyperliquidTestnetSettlementStatus) : Decidable status.hasSettled :=
  inferInstanceAs (Decidable (_ ∨ _))

/-- The check of `assertRecord` on the lifecycle of a record. -/
def lifecycleConsistent (value : SettlementRecord H) : Prop :=
  (value.status.preSettlement →
    value.ledgerTransactionId = none ∧ value.ledgerTransactionHash = none ∧
      value.waterfall = none ∧ value.settledAt = none ∧
      value.canonicalLedgerTransactionCreated = false) ∧
  (value.status.hasSettled →
    value.ledgerTransactionId ≠ none ∧ value.ledgerTransactionHash ≠ none ∧
      value.waterfall.map (·.waterfallBalanced) = some true ∧ value.settledAt ≠ none ∧
      value.canonicalLedgerTransactionCreated = true)

instance (value : SettlementRecord H) : Decidable (lifecycleConsistent value) :=
  inferInstanceAs (Decidable ((_ → _) ∧ (_ → _)))

/-- The check of `assertRecord` on the evidence of a record. -/
def assertRecordEvidence (value : SettlementRecord H) : Domain Unit :=
  if value.status = .evidenceActive ∨ value.status = .evidenceRevoked then
    match value.currentPerformanceEvidence with
    | none => .error { code := "testnet_performance_evidence_unavailable"
                       message := "Performance Evidence is unavailable" }
    | some evidence => do
      assertPerformanceEvidence hashId evidence value
      settlementUnavailable (evidence.evidenceVersion ≠ value.performanceEvidenceVersion ∨
          evidence.status ≠ (if value.status = .evidenceActive then .active else .revoked))
        "Performance Evidence state changed"
  else
    settlementUnavailable
      (value.currentPerformanceEvidence ≠ none ∨ value.performanceEvidenceVersion ≠ 0)
      "unexpected Performance Evidence exists"

/-- The checks on a record. -/
def assertRecord (value : SettlementRecord H) : Domain Unit := do
  settlementUnavailable (20 < value.incidentReasonCodes.length ∨
      value.incidentReasonCodes.any (fun item ↦ !matchesSafeCodePattern item) = true)
    "settlement record is unavailable"
  identifier "facilityId" value.identity.facilityId
  identifier "fundingId" value.identity.fundingId
  identifier "closeRequestId" value.identity.closeRequestId
  identifier "obligationId" value.identity.obligationId
  identifier "subjectId" value.identity.subjectId
  identifier "assetId" value.identity.assetId
  identifier "feePolicyId" value.identity.feePolicyId
  let _ ← positiveMinor "subjectContributionMinor" (some value.identity.subjectContributionMinor)
  let _ ← positiveMinor "providerContributionMinor" (some value.identity.providerContributionMinor)
  boundedInteger "version" value.version 1 1000000
  boundedInteger "processedObservationCount" value.processedObservationCount 0 1000000
  boundedInteger "performanceEvidenceVersion" value.performanceEvidenceVersion 0 100
  settlementUnavailable (hashId (.settlementIdentity value.identity) ≠ value.settlementHash ∨
      hashId (.settlementState value.toRecordState) ≠ value.stateHash)
    "settlement identity or state changed"
  settlementUnavailable (¬ lifecycleConsistent value) "settlement lifecycle is inconsistent"
  settlementUnavailable (value.status = .awaitingFinality ∧ value.finalObservationHash ≠ none)
    "unknown finality became authoritative"
  settlementUnavailable (value.status = .readyToSettle ∧ (value.finalObservationHash = none ∨
      value.finalSourceEvidenceHash = none ∨ value.finalEquityMinor = none))
    "final settlement inputs are missing"
  assertRecordEvidence hashId value

/-- What the server decides about a command. -/
structure GuardDecision (H : Type) where
  approved : Bool
  operation : String
  actorId : String
  actorHash : H
  authorizationDecisionHash : H
  admissionDecisionHash : H
  privilegedSettlement : Bool
  tenantContextResolved : Bool
  clientIdentityAccepted : Bool
  deriving DecidableEq

/-- The identity of a settlement that is prepared. -/
def draft (snapshot : KernelSnapshot H) (feePolicy : FeePolicy H) (nowMs : ℕ) :
    RecordIdentity H where
  facilityId := snapshot.facilityId
  facilityHash := snapshot.facilityHash
  facilityStateHashBefore := snapshot.facilityStateHash
  facilityVersionBefore := snapshot.facilityVersion
  fundingId := snapshot.fundingId
  fundingHash := snapshot.fundingHash
  closeRequestId := snapshot.closeRequestId
  closeRequestHash := snapshot.closeRequestHash
  obligationId := snapshot.obligationId
  obligationHash := snapshot.obligationHash
  subjectId := snapshot.subjectId
  assetId := snapshot.assetId
  templateType := snapshot.templateType
  termsHash := snapshot.termsHash
  fixedReturnBps := snapshot.fixedReturnBps
  performanceParticipationBps := snapshot.performanceParticipationBps
  durationDays := snapshot.durationDays
  subjectContributionMinor := snapshot.subjectContributionMinor
  providerContributionMinor := snapshot.providerContributionMinor
  finalReconciliationHash := snapshot.finalReconciliationHash
  feePolicyId := feePolicy.policyId
  feePolicyHash := feePolicy.policyHash
  feeApprovalEvidenceHash := feePolicy.approvalEvidenceHash
  ipoOneFeeBps := feePolicy.ipoOneFeeBps
  canonicalLedgerStateHashBefore := snapshot.canonicalLedgerStateHash
  ledgerTransactionCountBefore := snapshot.ledgerTransactionCount
  createdAt := nowMs

/-- `settlementId` of an identity. -/
def settlementIdOf (identity : RecordIdentity H) : H :=
  hashId (.settlementId (hashId (.settlementIdentity identity)))

/-- The record that awaits finality. -/
def createPendingRecord (snapshot : KernelSnapshot H) (feePolicy : FeePolicy H)
    (guard : GuardDecision H) (idempotencyKeyHash : H) (nowMs : ℕ) :
    Domain (SettlementRecord H) := do
  let identity := draft snapshot feePolicy nowMs
  let settlementHash := hashId (.settlementIdentity identity)
  let state : RecordState H :=
    { settlementHash
      processedObservationCount := 0
      finalObservationHash := none
      finalSourceEvidenceHash := none
      realizedPnlMinor := none
      venueCostMinor := none
      closingCostMinor := none
      finalEquityMinor := none
      waterfall := none
      ledgerTransactionId := none
      ledgerTransactionHash := none
      facilityStateHashAfter := none
      facilityVersionAfter := none
      currentPerformanceEvidence := none
      performanceEvidenceVersion := 0
      incidentReasonCodes := []
      status := .awaitingFinality
      version := 1
      updatedAt := nowMs
      settledAt := none }
  let record : SettlementRecord H :=
    { state with
      identity
      settlementId := settlementIdOf hashId identity
      requestHash := hashId (.settlementPrepareRequest settlementHash idempotencyKeyHash
        guard.authorizationDecisionHash guard.admissionDecisionHash)
      idempotencyKeyHash
      authorizationDecisionHash := guard.authorizationDecisionHash
      admissionDecisionHash := guard.admissionDecisionHash
      stateHash := hashId (.settlementState state)
      canonicalLedgerTransactionCreated := false }
  assertRecord hashId record
  pure record

/-- `nextState`, with the record that the patch leads to. -/
def nextState (record patched : SettlementRecord H) (nowMs : ℕ) : Domain (SettlementRecord H) := do
  let state : RecordState H :=
    { patched.toRecordState with version := record.version + 1, updatedAt := nowMs }
  let next : SettlementRecord H :=
    { patched with toRecordState := state, stateHash := hashId (.settlementState state) }
  assertRecord hashId next
  pure next

/-- `incident` -/
def raiseIncident (record : SettlementRecord H) (reasonCode : String) (nowMs : ℕ) :
    Domain (SettlementRecord H) := do
  safeCode "reasonCode" reasonCode
  nextState hashId record
    { record with
      status := .incident
      incidentReasonCodes := record.incidentReasonCodes ++ [reasonCode] } nowMs

/-! ## Finality -/

/-- The terms of a record and the values of an observation, or its own once it is final. -/
def waterfallInput (identity : RecordIdentity H)
    (finalEquityMinor realizedPnlMinor venueCostMinor closingCostMinor : Option ℤ) :
    WaterfallInput where
  templateType := identity.templateType
  providerContributionMinor := some identity.providerContributionMinor
  subjectContributionMinor := some identity.subjectContributionMinor
  finalEquityMinor
  realizedPnlMinor
  venueCostMinor
  closingCostMinor
  fixedReturnBps := identity.fixedReturnBps
  performanceParticipationBps := identity.performanceParticipationBps
  durationDays := identity.durationDays
  ipoOneFeeBps := identity.ipoOneFeeBps

/-- The kernel is no longer what the record was prepared from. -/
def kernelBindingDrift (kernel : KernelSnapshot H) (identity : RecordIdentity H) : Prop :=
  kernel.facilityId ≠ identity.facilityId ∨ kernel.facilityHash ≠ identity.facilityHash ∨
    kernel.facilityStateHash ≠ identity.facilityStateHashBefore ∨
    kernel.facilityVersion ≠ identity.facilityVersionBefore ∨
    kernel.fundingId ≠ identity.fundingId ∨ kernel.fundingHash ≠ identity.fundingHash ∨
    kernel.closeRequestId ≠ identity.closeRequestId ∨
    kernel.closeRequestHash ≠ identity.closeRequestHash ∨
    kernel.obligationId ≠ identity.obligationId ∨
    kernel.obligationHash ≠ identity.obligationHash ∨ kernel.termsHash ≠ identity.termsHash ∨
    kernel.finalReconciliationHash ≠ identity.finalReconciliationHash ∨
    kernel.canonicalLedgerStateHash ≠ identity.canonicalLedgerStateHashBefore ∨
    kernel.ledgerTransactionCount ≠ identity.ledgerTransactionCountBefore

instance (kernel : KernelSnapshot H) (identity : RecordIdentity H) :
    Decidable (kernelBindingDrift kernel identity) :=
  inferInstanceAs (Decidable (_ ∨ _))

/-- The observation is final: nothing is open, unknown or unrealized. -/
def isFinal (source : Observation H) : Prop :=
  source.finalityStatus = .final ∧ source.reconciliationStatus = .reconciled ∧
    source.openOrderCount = 0 ∧ source.exposureMinor = 0 ∧ source.unknownExecutionCount = 0 ∧
    source.positionsFinal = true ∧ source.unrealizedPnlMinor = 0 ∧ source.complete = true ∧
    source.economicValuesAuthoritative = true

instance (source : Observation H) : Decidable (isFinal source) :=
  inferInstanceAs (Decidable (_ ∧ _))

/-- Takes an observation: a contradiction makes the record an incident. -/
def transitionObservation (record : SettlementRecord H) (observation : Observation H)
    (snapshot : KernelSnapshot H) (nowMs : ℕ) : Domain (SettlementRecord H) := do
  assertRecord hashId record
  assertObservation hashId observation
  assertKernelSnapshot snapshot nowMs
  let processed : SettlementRecord H :=
    { record with processedObservationCount := record.processedObservationCount + 1 }
  if record.status ≠ .awaitingFinality then pure record
  else if kernelBindingDrift snapshot record.identity then
    raiseIncident hashId record "kernel_binding_drift" nowMs
  else if observation.settlementHash ≠ record.settlementHash ∨
      observation.facilityHash ≠ record.identity.facilityHash ∨
      observation.fundingHash ≠ record.identity.fundingHash ∨
      observation.assetId ≠ record.identity.assetId then
    raiseIncident hashId record "finality_binding_drift" nowMs
  else if nowMs < observation.observedAt ∨ maxFinalityAgeMs < nowMs - observation.observedAt then
    nextState hashId record processed nowMs
  else if ¬ isFinal observation then nextState hashId record processed nowMs
  else
    match calculateTestnetSettlementWaterfall (waterfallInput record.identity
      (some observation.finalEquityMinor) (some observation.realizedPnlMinor)
      (some observation.venueCostMinor) (some observation.closingCostMinor)) with
    | .error _ => raiseIncident hashId record "economic_reconciliation_failed" nowMs
    | .ok _ =>
      nextState hashId record
        { processed with
          finalObservationHash := some observation.observationHash
          finalSourceEvidenceHash := some observation.sourceEvidenceHash
          realizedPnlMinor := some observation.realizedPnlMinor
          venueCostMinor := some observation.venueCostMinor
          closingCostMinor := some observation.closingCostMinor
          finalEquityMinor := some observation.finalEquityMinor
          status := .readyToSettle } nowMs

/-! ## Settling -/

/-- `deterministicLedgerAccount` -/
def deterministicLedgerAccount (facilityId assetId : String) (accountType : SettlementAccountType)
    (normalSide : LedgerNormalSide) (now : ℕ) : LedgerAccount H :=
  let core : LedgerAccountCore := { ownerId := facilityId, assetId, accountType }
  { core with
    ledgerAccountId := hashId (.ledgerAccountId core)
    ledgerAccountHash := hashId (.ledgerAccount core)
    normalSide
    openedAt := now }

/-- What is posted to which account, on which side. -/
def entrySpecs (record : SettlementRecord H) (waterfall : Waterfall)
    (realizedPnl venueCost closingCost : ℤ) :
    List (SettlementAccountType × Credit.LedgerEntryDirection × ℤ) :=
  [(.tradingProviderContributedCapital, .credit, record.identity.providerContributionMinor),
    (.tradingSubjectContributedCapital, .credit, record.identity.subjectContributionMinor),
    (.tradingRealizedGain, .credit, if 0 < realizedPnl then realizedPnl else 0),
    (.tradingRealizedLoss, .debit, if realizedPnl < 0 then -realizedPnl else 0),
    (.tradingVenueCost, .debit, venueCost),
    (.tradingClosingCost, .debit, closingCost),
    (.tradingProviderPrincipalReturn, .debit, waterfall.providerPrincipalReturnMinor),
    (.tradingSubjectContributionReturn, .debit, waterfall.subjectContributionReturnMinor),
    (.tradingProviderFixedIncome, .debit, waterfall.providerFixedReturnNetMinor),
    (.tradingProviderPerformanceIncome, .debit,
      waterfall.providerPerformanceParticipationNetMinor),
    (.tradingSubjectProfit, .debit, waterfall.subjectProfitMinor),
    (.tradingIpoOneFeeIncome, .debit, waterfall.ipoOneFeeMinor)]

/-- `BigInt(amount)` of an amount that should be there. -/
def toBigInt (value : Option ℤ) : Domain ℤ :=
  match value with
  | some value => .ok value
  | none => .error { code := "TypeError", message := "Cannot convert null to a BigInt" }

/-- The accounts, and the transaction that posts the waterfall. -/
def createSettlementLedger (record : SettlementRecord H) (waterfall : Waterfall) (now : ℕ) :
    Domain (SettlementLedger H) := do
  let accounts := settlementAccountSpecs.map fun (accountType, normalSide) ↦
    deterministicLedgerAccount hashId record.identity.facilityId record.identity.assetId
      accountType normalSide now
  let realizedPnl ← signedMinor "realizedPnlMinor" record.realizedPnlMinor
  let venueCost ← toBigInt record.venueCostMinor
  let closingCost ← toBigInt record.closingCostMinor
  let specs := (entrySpecs record waterfall realizedPnl venueCost closingCost).filter
    fun (_, _, amount) ↦ 0 < amount
  let normalizedEntries := specs.zipIdx.map fun ((accountType, direction, amountMinor), sequence) ↦
    ({ ledgerAccountId := hashId (.ledgerAccountId
        { ownerId := record.identity.facilityId, assetId := record.identity.assetId, accountType })
       direction
       amountMinor
       sequence } : Credit.LedgerEntry H)
  let debitTotal := Credit.sideTotal .debit normalizedEntries
  let creditTotal := Credit.sideTotal .credit normalizedEntries
  throwIf (debitTotal = 0 ∨ debitTotal ≠ creditTotal ∨ normalizedEntries.length < 2)
    "testnet_settlement_ledger_unbalanced" "canonical Ledger posting is unbalanced"
  let metadata : LedgerMetadata H :=
    { settlementHash := record.settlementHash
      facilityHash := record.identity.facilityHash
      fundingHash := record.identity.fundingHash
      closeRequestHash := record.identity.closeRequestHash
      finalReconciliationHash := record.identity.finalReconciliationHash
      finalSourceEvidenceHash := record.finalSourceEvidenceHash
      feePolicyHash := record.identity.feePolicyHash }
  let core : LedgerTransactionCore H :=
    { idempotencyKey := record.settlementHash
      assetId := record.identity.assetId
      referenceId := record.settlementId
      metadata
      entries := normalizedEntries }
  let transactionHash := hashId (.ledgerTransaction core)
  pure
    { accounts
      transaction :=
        { ledgerTransactionId := transactionHash
          transactionHash
          idempotencyKey := core.idempotencyKey
          assetId := core.assetId
          referenceId := core.referenceId
          metadata
          metadataHash := hashId (.ledgerMetadata metadata)
          debitTotalMinor := debitTotal
          creditTotalMinor := creditTotal
          entryCount := normalizedEntries.length
          entries := normalizedEntries.map fun entry ↦
            { entry with
              ledgerEntryId :=
                hashId (.ledgerEntryId transactionHash entry.sequence entry.ledgerAccountId)
              ledgerTransactionId := transactionHash
              postedAt := now }
          postedAt := now } }

/-- What `settleRecord` returns: the record, and the facility and the ledger if it settled. -/
structure SettleOutcome (H : Type) where
  record : SettlementRecord H
  posted : Option (Trading.TradingFacility H × SettlementLedger H)
  deriving DecidableEq

/-- The check of `settleRecord` on what it settles with. -/
def settlementBindingDrift (guard : GuardDecision H) (feePolicy : FeePolicy H)
    (kernel : KernelSnapshot H) (identity : RecordIdentity H) : Prop :=
  guard.privilegedSettlement ≠ true ∨ feePolicy.policyHash ≠ identity.feePolicyHash ∨
    kernel.facilityId ≠ identity.facilityId ∨ kernel.facilityHash ≠ identity.facilityHash ∨
    kernel.facilityStateHash ≠ identity.facilityStateHashBefore ∨
    kernel.facilityVersion ≠ identity.facilityVersionBefore ∨
    kernel.canonicalLedgerStateHash ≠ identity.canonicalLedgerStateHashBefore ∨
    kernel.ledgerTransactionCount ≠ identity.ledgerTransactionCountBefore ∨
    kernel.termsHash ≠ identity.termsHash

instance (guard : GuardDecision H) (feePolicy : FeePolicy H) (kernel : KernelSnapshot H)
    (identity : RecordIdentity H) :
    Decidable (settlementBindingDrift guard feePolicy kernel identity) :=
  inferInstanceAs (Decidable (_ ∨ _))

/-- Settles a record that is ready: divides the equity, posts it and settles the facility. -/
def settleRecord (record : SettlementRecord H) (snapshot : KernelSnapshot H)
    (guard : GuardDecision H) (feePolicy : FeePolicy H) (nowMs : ℕ) :
    Domain (SettleOutcome H) := do
  assertRecord hashId record
  assertKernelSnapshot snapshot nowMs
  assertFeePolicy hashId feePolicy nowMs
  throwIf (record.status ≠ .readyToSettle) "testnet_settlement_not_ready"
    "final reconciliation is incomplete"
  if settlementBindingDrift guard feePolicy snapshot record.identity then do
    let next ← raiseIncident hashId record "settlement_binding_drift" nowMs
    pure { record := next, posted := none }
  else do
    let waterfall ← calculateTestnetSettlementWaterfall (waterfallInput record.identity
      record.finalEquityMinor record.realizedPnlMinor record.venueCostMinor
      record.closingCostMinor)
    let ledger ← createSettlementLedger hashId record waterfall nowMs
    let facility ← Trading.settleTradingFacility (fun preimage ↦ hashId (.trading preimage))
      snapshot.facility
      { actorId := guard.actorId
        expectedStateHash := record.identity.facilityStateHashBefore
        expectedVersion := record.identity.facilityVersionBefore
        now := nowMs }
    let next ← nextState hashId record
      { record with
        waterfall := some waterfall
        ledgerTransactionId := some ledger.transaction.ledgerTransactionId
        ledgerTransactionHash := some ledger.transaction.transactionHash
        facilityStateHashAfter := some facility.stateHash
        facilityVersionAfter := some facility.version
        status := .settled
        settledAt := some nowMs
        canonicalLedgerTransactionCreated := true } nowMs
    pure { record := next, posted := some (facility, ledger) }

/-! ## Performance evidence -/

/-- What the evidence claims. -/
def performanceClaims (record : SettlementRecord H) (waterfall : Waterfall) :
    PerformanceClaims where
  finalEquityMinor := record.finalEquityMinor
  providerPrincipalReturnMinor := waterfall.providerPrincipalReturnMinor
  providerPrincipalShortfallMinor := waterfall.providerPrincipalShortfallMinor
  subjectFirstLossMinor := waterfall.subjectFirstLossMinor
  providerNetIncomeMinor := waterfall.providerNetIncomeMinor
  subjectProfitMinor := waterfall.subjectProfitMinor
  ipoOneFeeMinor := waterfall.ipoOneFeeMinor

/-- Appends a version of the evidence, active or revoked. -/
def revisePerformanceEvidence (record : SettlementRecord H) (actorHash : H)
    (status : PerformanceEvidenceStatus) (reasonCode : String) (nowMs : ℕ) :
    Domain (SettlementRecord H) := do
  assertRecord hashId record
  evidenceUnavailable (¬ record.status.hasSettled) "settlement is not eligible"
  safeCode "reasonCode" reasonCode
  let evidenceVersion := record.performanceEvidenceVersion + 1
  evidenceUnavailable (100 < evidenceVersion) "Evidence revision limit reached"
  let issuedAt ← toISOString nowMs
  let expiresAt ← toISOString (nowMs + proofLifetimeMs)
  match record.waterfall with
  | none => .error { code := "TypeError", message := "Cannot read properties of null" }
  | some waterfall =>
    let core : PerformanceEvidenceCore H :=
      { settlementId := record.settlementId
        settlementHash := record.settlementHash
        facilityId := record.identity.facilityId
        facilityHash := record.identity.facilityHash
        obligationId := record.identity.obligationId
        obligationHash := record.identity.obligationHash
        ledgerTransactionHash := record.ledgerTransactionHash
        claims := performanceClaims record waterfall
        status
        reasonCode
        previousEvidenceHash := record.currentPerformanceEvidence.map (·.performanceEvidenceHash)
        evidenceVersion
        issuedByActorHash := actorHash
        issuedAt
        expiresAt }
    let performanceEvidenceHash := hashId (.performanceEvidence core)
    let evidence : PerformanceEvidence H :=
      { core with
        performanceEvidenceId := hashId (.performanceEvidenceId performanceEvidenceHash)
        performanceEvidenceHash }
    nextState hashId record
      { record with
        currentPerformanceEvidence := some evidence
        performanceEvidenceVersion := evidenceVersion
        status := match status with
          | .active => .evidenceActive
          | .revoked => .evidenceRevoked } nowMs

end Functions

end Settlement
end Hyperliquid
end IpoOne
