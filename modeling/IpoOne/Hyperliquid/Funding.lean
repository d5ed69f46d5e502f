import IpoOne.Hyperliquid.Waterfall
import Mathlib

/-!
# Facility funding records

`hyperliquid-facility-funding`: a funding record waits for two contributions, the subject's first
loss and the provider's principal.  Receipts say that a contribution is final, or that one was lost
in a reorganization; a receipt that does not fit makes the record an incident.  With both
contributions final the record is ready, and may be activated together with its facility.

Every transition builds the next record and checks it with `assertRecord`.  A hash is a value of the
arbitrary type `H`; times are milliseconds.  The flags that are the same in every record are left
out.
-/

set_option autoImplicit false

namespace IpoOne
namespace Hyperliquid
namespace Funding

open Fallible

/-- The states of a funding. -/
inductive HyperliquidTestnetFacilityFundingStatus where
  | awaitingContributions
  | awaitingSubject
  | awaitingProvider
  | ready
  | active
  | incident
  deriving DecidableEq, Repr

/-- Who contributes. -/
inductive HyperliquidTestnetContributionRole where
  | subjectFirstLoss
  | providerPrincipal
  deriving DecidableEq, Repr

/-- A receipt shows a contribution, or that one was lost in a reorganisation. -/
inductive HyperliquidTestnetContributionReceiptKind where
  | finalizedContribution
  | reorgInvalidation
  deriving DecidableEq, Repr

/-- How current an observation is. -/
inductive Freshness where
  | fresh
  | stale
  | unknown
  deriving DecidableEq, Repr

/-- `TERMINAL_STATUSES` -/
def terminalStatuses : List HyperliquidTestnetFacilityFundingStatus := [.active, .incident]

/-- `MAX_RISK_AGE_MS` -/
def maxRiskAgeMs : ℕ := 5 * 60 * 1000

/-! ## Validators -/

/-- `fail("invalid_hyperliquid_facility_funding_input", message)` -/
def invalidInput (c : Prop) [Decidable c] (message : String) : Domain Unit :=
  throwIf c "invalid_hyperliquid_facility_funding_input" message

/-- The value is an identifier. -/
def identifier (name value : String) : Domain Unit :=
  invalidInput (Trading.matchesIdentifierPattern value = false) (name ++ " is invalid")

/-- `/^[1-9][0-9]{0,77}$/` -/
def positiveMinor (name : String) (value : ℤ) : Domain Unit :=
  invalidInput (value ≤ 0 ∨ 10 ^ 78 ≤ value) (name ++ " must be a positive minor-unit string")

/-- `/^(?:0|[1-9][0-9]{0,77})$/` -/
def nonNegativeMinor (name : String) (value : ℤ) : Domain Unit :=
  invalidInput (value < 0 ∨ 10 ^ 78 ≤ value)
    (name ++ " must be a non-negative minor-unit string")

/-- The value is a safe integer between 1 and `maximum`. -/
def positiveInteger (name : String) (value maximum : ℕ) : Domain Unit :=
  invalidInput (¬ isSafeInteger value ∨ value < 1 ∨ maximum < value)
    (name ++ " must be a bounded positive integer")

/-- The value is a safe integer up to `maximum`. -/
def nonNegativeInteger (name : String) (value maximum : ℕ) : Domain Unit :=
  invalidInput (¬ isSafeInteger value ∨ maximum < value)
    (name ++ " must be a bounded non-negative integer")

/-- The value is a machine-readable code. -/
def safeCode (name value : String) : Domain Unit :=
  invalidInput (Settlement.matchesSafeCodePattern value = false) (name ++ " is invalid")

/-- `Number.MAX_SAFE_INTEGER` -/
def maxSafeInteger : ℕ := 2 ^ 53 - 1

/-! ## Records -/

/-- `snapshotCore` -/
structure SnapshotCore (H : Type) where
  facilityId : String
  facilityHash : H
  facilityStateHash : H
  facilityVersion : ℕ
  facilityLifecycleStatus : Trading.TradingFacilityLifecycleStatus
  obligationId : String
  subjectId : String
  bilateralTermsHash : H
  assetId : String
  requiredSubjectContributionMinor : ℤ
  requiredProviderContributionMinor : ℤ
  maximumFacilityCapMinor : ℤ
  facilityDestinationHash : H
  accountBindingHash : H
  masterAccountHash : H
  withdrawalAuthorityHash : H
  executionSignerReferenceHash : H
  canonicalLedgerStateHash : H
  ledgerTransactionCount : ℕ
  riskSnapshotHash : H
  riskState : Trading.TradingFacilityRiskState
  riskFreshness : Freshness
  riskObservedAt : ℕ
  riskMaximumAgeMs : ℕ
  capturedAt : ℕ
  deriving DecidableEq

/-- A snapshot of the kernel, with the records it is about. -/
structure KernelSnapshot (H : Type) extends SnapshotCore H where
  facility : Trading.TradingFacility H
  matchProposal : Trading.MatchProposal H
  obligation : Trading.CanonicalObligation H
  subjectActorId : String

/-- The argument of `createSimulatedTestnetContributionReceipt`. -/
structure ReceiptInput (H : Type) where
  fundingHash : H
  facilityHash : H
  contributorRole : HyperliquidTestnetContributionRole
  kind : HyperliquidTestnetContributionReceiptKind
  assetId : String
  amountMinor : ℤ
  destinationHash : H
  transactionReferenceHash : H
  blockReferenceHash : H
  relatedReceiptHash : Option H
  freshness : Freshness
  complete : Bool
  finalized : Bool
  deriving DecidableEq

/-- `receiptCore` -/
structure ReceiptCore (H : Type) extends ReceiptInput H where
  observedAt : ℕ
  deriving DecidableEq

/-- A receipt with its hashes. -/
structure Receipt (H : Type) extends ReceiptCore H where
  receiptId : H
  receiptHash : H
  sourceEvidenceHash : H
  deriving DecidableEq

/-- What `createDraft` hashes of a request. -/
structure FundingRequest (H : Type) where
  facilityId : String
  facilityHash : H
  facilityStateHash : H
  bilateralTermsHash : H
  facilityDestinationHash : H
  requiredSubjectContributionMinor : ℤ
  requiredProviderContributionMinor : ℤ
  maximumFacilityCapMinor : ℤ
  initialKernelSnapshotHash : H
  authorizationDecisionHash : H
  admissionDecisionHash : H
  idempotencyKeyHash : H
  deriving DecidableEq

/-- `immutableFundingCore` -/
structure FundingCore (H : Type) where
  fundingId : H
  requestHash : H
  facilityId : String
  facilityHash : H
  facilityStateHash : H
  facilityVersion : ℕ
  obligationId : String
  subjectId : String
  bilateralTermsHash : H
  assetId : String
  requiredSubjectContributionMinor : ℤ
  requiredProviderContributionMinor : ℤ
  maximumFacilityCapMinor : ℤ
  facilityDestinationHash : H
  accountBindingHash : H
  masterAccountHash : H
  withdrawalAuthorityHash : H
  executionSignerReferenceHash : H
  canonicalLedgerStateHash : H
  ledgerTransactionCount : ℕ
  initialKernelSnapshotHash : H
  deriving DecidableEq

/-- `dynamicStateCore`, but for the identifier of the funding. -/
structure FundingState (H : Type) where
  fundingHash : H
  status : HyperliquidTestnetFacilityFundingStatus
  subjectContributionMinor : ℤ
  providerContributionMinor : ℤ
  reconciledTotalMinor : ℤ
  subjectReceiptHash : Option H
  providerReceiptHash : Option H
  subjectContributionFinalized : Bool
  providerContributionFinalized : Bool
  processedReceiptCount : ℕ
  latestSourceEvidenceHash : Option H
  latestKernelSnapshotHash : H
  riskSnapshotHash : H
  riskObservedAt : ℕ
  incidentReasonCodes : List String
  activationEvidenceHash : Option H
  activatedByActorHash : Option H
  activationIdempotencyKeyHash : Option H
  activationCommandHash : Option H
  canonicalFacilityMutationCreated : Bool
  version : ℕ
  updatedAt : ℕ
  activatedAt : Option ℕ
  deriving DecidableEq

/-- A stored funding. -/
structure FundingRecord (H : Type) extends FundingState H where
  core : FundingCore H
  stateHash : H
  idempotencyKeyHash : H
  facilityLifecycleStatus : Trading.TradingFacilityLifecycleStatus
  riskState : Trading.TradingFacilityRiskState
  riskFreshness : Freshness
  riskMaximumAgeMs : ℕ
  authorizationDecisionHash : H
  admissionDecisionHash : H
  authorizedActorHash : H
  resultHash : Option H
  createdAt : ℕ
  deriving DecidableEq

/-- What is hashed about an activation. -/
structure ActivationEvidence (H : Type) where
  fundingHash : H
  facilityHash : H
  previousFacilityStateHash : H
  activatedFacilityStateHash : H
  subjectReceiptHash : Option H
  providerReceiptHash : Option H
  reconciledTotalMinor : ℤ
  riskSnapshotHash : H
  authorizationDecisionHash : H
  admissionDecisionHash : H
  activationCommandHash : H
  activatedAt : ℕ

/-- The payloads that are hashed about a funding. -/
inductive FundingPreimage (H : Type) where
  | actor (actorId : String)
  | idempotency (idempotencyKey : String)
  | kernelSnapshot (core : SnapshotCore H)
  | request (request : FundingRequest H)
  | funding (core : FundingCore H)
  | state (fundingId : H) (state : FundingState H)
  | sourceEvidence (core : ReceiptCore H)
  | receipt (core : ReceiptCore H) (sourceEvidenceHash : H)
  | inboxPayload (receipt : Receipt H)
  | incident (fundingHash : H) (reasonCode : String) (receiptHash : Option H) (recordVersion : ℕ)
      (kernelSnapshotHash : H)
  | activationEvidence (evidence : ActivationEvidence H)
  | result (fundingHash activationEvidenceHash activatedFacilityStateHash : H)

/-- What the module gets from outside: the hash, and the part of it that goes into an identifier
(`slice(2, 34)`). -/
structure Primitives (H : Type) where
  hashId : FundingPreimage H → H
  slice : H → H

section Functions

variable {H : Type} [DecidableEq H] (prims : Primitives H)

/-! ## Inputs -/

/-- `snapshotHash` -/
def snapshotHash (snapshot : KernelSnapshot H) : H :=
  prims.hashId (.kernelSnapshot snapshot.toSnapshotCore)

/-- `assertDistinctAuthorities` -/
def assertDistinctAuthorities (snapshot : KernelSnapshot H) : Domain Unit :=
  throwIf (¬ [snapshot.facilityDestinationHash, snapshot.masterAccountHash,
      snapshot.withdrawalAuthorityHash, snapshot.executionSignerReferenceHash].Nodup)
    "hyperliquid_facility_funding_authority_collision"
    "Facility destination, master, withdrawal, and execution authorities must remain separated"

/-- The snapshot is no longer that of its own records. -/
def kernelMismatch (value : KernelSnapshot H) : Prop :=
  value.facility.tradingFacilityId ≠ value.facilityId ∨
    value.facility.facilityHash ≠ value.facilityHash ∨
    value.facility.stateHash ≠ value.facilityStateHash ∨
    value.facility.version ≠ value.facilityVersion ∨
    value.facility.lifecycleStatus ≠ value.facilityLifecycleStatus ∨
    value.facility.core.obligationId ≠ value.obligationId ∨
    value.facility.core.subjectId ≠ value.subjectId ∨
    value.facility.core.termsHash ≠ value.bilateralTermsHash ∨
    value.facility.core.assetId ≠ value.assetId ∨
    value.facility.core.requiredSubjectCollateralMinor ≠ value.requiredSubjectContributionMinor ∨
    value.facility.core.requiredProviderFundingMinor ≠ value.requiredProviderContributionMinor ∨
    value.matchProposal.tradingMatchProposalId ≠ value.facility.core.matchProposalId ∨
    value.matchProposal.proposalHash ≠ value.facility.core.proposalHash ∨
    value.matchProposal.terms.termsHash ≠ value.bilateralTermsHash ∨
    value.matchProposal.status ≠ .bilaterallyAccepted ∨
    value.obligation.obligationId ≠ value.obligationId ∨
    value.obligation.obligationHash ≠ value.facility.core.obligationHash ∨
    value.obligation.subjectId ≠ value.subjectId ∨
    value.obligation.executionStatus ≠ .executed ∨ value.obligation.status ≠ .active ∨
    value.obligation.withdrawable ≠ some false ∨ value.obligation.productionFundsMoved ≠ false ∨
    prims.hashId (.actor value.subjectActorId) ≠ value.facility.core.subjectActorHash

instance (value : KernelSnapshot H) : Decidable (kernelMismatch prims value) :=
  inferInstanceAs (Decidable (_ ∨ _))

/-- `assertKernelSnapshot`; `expected` is the facility that was asked for. -/
def assertKernelSnapshot (value : KernelSnapshot H) (expected : Option (String × H)) :
    Domain Unit := do
  identifier "facilityId" value.facilityId
  positiveInteger "facilityVersion" value.facilityVersion maxSafeInteger
  identifier "obligationId" value.obligationId
  identifier "subjectId" value.subjectId
  identifier "assetId" value.assetId
  positiveMinor "requiredSubjectContributionMinor" value.requiredSubjectContributionMinor
  positiveMinor "requiredProviderContributionMinor" value.requiredProviderContributionMinor
  positiveMinor "maximumFacilityCapMinor" value.maximumFacilityCapMinor
  nonNegativeInteger "ledgerTransactionCount" value.ledgerTransactionCount maxSafeInteger
  positiveInteger "riskMaximumAgeMs" value.riskMaximumAgeMs maxRiskAgeMs
  throwIf (value.facilityLifecycleStatus ≠ .readyForActivation ∨ value.riskState ≠ .normal ∨
      value.riskFreshness ≠ .fresh)
    "invalid_hyperliquid_facility_funding_snapshot"
    "kernel snapshot is outside the protected Testnet simulation boundary"
  identifier "actorId" value.subjectActorId
  throwIf (kernelMismatch prims value) "hyperliquid_facility_funding_kernel_mismatch"
    "canonical Facility, bilateral terms, or Obligation binding changed"
  throwIf (value.maximumFacilityCapMinor <
      value.requiredSubjectContributionMinor + value.requiredProviderContributionMinor)
    "hyperliquid_facility_funding_cap_exceeded"
    "required Testnet contributions exceed the server-owned Facility cap"
  assertDistinctAuthorities value
  throwIf (expected.any (· ≠ (value.facilityId, value.facilityHash)) = true)
    "hyperliquid_facility_funding_kernel_mismatch"
    "requested Facility does not match the server-owned snapshot"

/-- `fail("invalid_hyperliquid_facility_funding_receipt", message)` -/
def invalidReceipt (c : Prop) [Decidable c] (message : String) : Domain Unit :=
  throwIf c "invalid_hyperliquid_facility_funding_receipt" message

/-- The receipt of an observation. -/
def createSimulatedTestnetContributionReceipt (input : ReceiptInput H) (clock : ℕ) :
    Domain (Receipt H) := do
  identifier "assetId" input.assetId
  positiveMinor "amountMinor" input.amountMinor
  invalidReceipt (input.freshness ≠ .fresh ∨ input.complete ≠ true ∨
      input.kind = .finalizedContribution ∧
        (input.finalized ≠ true ∨ input.relatedReceiptHash ≠ none) ∨
      input.kind = .reorgInvalidation ∧
        (input.finalized ≠ false ∨ input.relatedReceiptHash = none))
    "receipt finality or completeness is invalid"
  positiveInteger "clock" clock maxSafeInteger
  let core : ReceiptCore H := { input with observedAt := clock }
  let sourceEvidenceHash := prims.hashId (.sourceEvidence core)
  pure
    { core with
      receiptId := prims.slice sourceEvidenceHash
      receiptHash := prims.hashId (.receipt core sourceEvidenceHash)
      sourceEvidenceHash }

/-- The hashes of a receipt are those of its fields. -/
def assertReceipt (value : Receipt H) : Domain Unit := do
  let rebuilt ← createSimulatedTestnetContributionReceipt prims value.toReceiptInput
    value.observedAt
  invalidReceipt (rebuilt ≠ value) "receipt hash or safety evidence changed"

/-! ## Records and their states -/

/-- The status by which contributions are final. -/
def stateFromContributions (subjectFinalized providerFinalized : Bool) :
    HyperliquidTestnetFacilityFundingStatus :=
  match subjectFinalized, providerFinalized with
  | true, true => .ready
  | true, false => .awaitingProvider
  | false, true => .awaitingSubject
  | false, false => .awaitingContributions

/-- `fail("invalid_hyperliquid_facility_funding_record", message)` -/
def invalidRecord (c : Prop) [Decidable c] (message : String) : Domain Unit :=
  throwIf c "invalid_hyperliquid_facility_funding_record" message

/-- The check of `assertRecord` on the contributions. -/
def contributionsConsistent (value : FundingRecord H) : Prop :=
  value.core.requiredSubjectContributionMinor + value.core.requiredProviderContributionMinor
      ≤ value.core.maximumFacilityCapMinor ∧
    value.subjectContributionMinor + value.providerContributionMinor
      = value.reconciledTotalMinor ∧
    value.subjectContributionFinalized = value.subjectReceiptHash.isSome ∧
    value.providerContributionFinalized = value.providerReceiptHash.isSome ∧
    (value.subjectContributionFinalized = true →
      value.subjectContributionMinor = value.core.requiredSubjectContributionMinor) ∧
    (value.providerContributionFinalized = true →
      value.providerContributionMinor = value.core.requiredProviderContributionMinor) ∧
    (value.subjectContributionFinalized = false → value.subjectContributionMinor = 0) ∧
    (value.providerContributionFinalized = false → value.providerContributionMinor = 0)

instance (value : FundingRecord H) : Decidable (contributionsConsistent value) :=
  inferInstanceAs (Decidable (_ ∧ _))

/-- `expectedNonTerminal` of `assertRecord` -/
def expectedNonTerminal (value : FundingRecord H) : HyperliquidTestnetFacilityFundingStatus :=
  stateFromContributions value.subjectContributionFinalized value.providerContributionFinalized

/-- The check of `assertRecord` on the lifecycle. -/
def lifecycleConsistent (value : FundingRecord H) : Prop :=
  (value.status = .active →
    expectedNonTerminal value = .ready ∧ value.activationEvidenceHash ≠ none ∧
      value.activationIdempotencyKeyHash ≠ none ∧ value.activationCommandHash ≠ none ∧
      value.resultHash ≠ none ∧ value.activatedAt ≠ none ∧
      value.canonicalFacilityMutationCreated = true) ∧
  (value.status = .incident →
    value.incidentReasonCodes ≠ [] ∧ value.resultHash ≠ none ∧ value.activatedAt = none ∧
      value.canonicalFacilityMutationCreated = false) ∧
  (value.status ∉ terminalStatuses →
    value.status = expectedNonTerminal value ∧ value.resultHash = none ∧
      value.activatedAt = none ∧ value.activationEvidenceHash = none ∧
      value.activationIdempotencyKeyHash = none ∧ value.activationCommandHash = none ∧
      value.canonicalFacilityMutationCreated = false)

instance (value : FundingRecord H) : Decidable (lifecycleConsistent value) :=
  inferInstanceAs (Decidable ((_ → _) ∧ (_ → _) ∧ (_ → _)))

/-- The checks on a record. -/
def assertRecord (value : FundingRecord H) : Domain Unit := do
  identifier "facilityId" value.core.facilityId
  identifier "obligationId" value.core.obligationId
  identifier "subjectId" value.core.subjectId
  identifier "assetId" value.core.assetId
  positiveInteger "facilityVersion" value.core.facilityVersion maxSafeInteger
  nonNegativeInteger "ledgerTransactionCount" value.core.ledgerTransactionCount maxSafeInteger
  positiveInteger "riskMaximumAgeMs" value.riskMaximumAgeMs maxRiskAgeMs
  positiveInteger "version" value.version 1000000
  nonNegativeInteger "processedReceiptCount" value.processedReceiptCount 1000000
  positiveMinor "requiredSubjectContributionMinor" value.core.requiredSubjectContributionMinor
  positiveMinor "requiredProviderContributionMinor" value.core.requiredProviderContributionMinor
  positiveMinor "maximumFacilityCapMinor" value.core.maximumFacilityCapMinor
  nonNegativeMinor "subjectContributionMinor" value.subjectContributionMinor
  nonNegativeMinor "providerContributionMinor" value.providerContributionMinor
  nonNegativeMinor "reconciledTotalMinor" value.reconciledTotalMinor
  invalidRecord (value.riskState ≠ .normal ∨ value.riskFreshness ≠ .fresh ∨
      value.facilityLifecycleStatus ≠ .readyForActivation ∨
      16 < value.incidentReasonCodes.length ∨ ¬ value.incidentReasonCodes.Nodup ∨
      value.incidentReasonCodes.any (fun reason ↦ !Settlement.matchesSafeCodePattern reason)
        = true ∨
      prims.hashId (.funding value.core) ≠ value.fundingHash ∨
      prims.hashId (.state value.core.fundingId value.toFundingState) ≠ value.stateHash)
    "funding record bindings are inconsistent"
  invalidRecord (¬ contributionsConsistent value) "contribution balance evidence is inconsistent"
  invalidRecord (¬ lifecycleConsistent value) "funding lifecycle evidence is inconsistent"

/-- `withStateHash`, and then `assertRecord`: how every record is finished. -/
def finishRecord (record : FundingRecord H) : Domain (FundingRecord H) := do
  let next : FundingRecord H :=
    { record with
      stateHash := prims.hashId (.state record.core.fundingId record.toFundingState) }
  assertRecord prims next
  pure next

/-- What the server decides about a command. -/
structure FundingGuard (H : Type) where
  actorId : String
  authorizedActorHash : H
  authorizationDecisionHash : H
  admissionDecisionHash : H

/-- What a record is created from. -/
structure Draft (H : Type) where
  fundingId : H
  requestHash : H
  idempotencyKeyHash : H
  initialKernelSnapshotHash : H
  snapshot : KernelSnapshot H
  guard : FundingGuard H

/-- What a draft asks for. -/
def fundingRequest (idempotencyKey : String) (snapshot : KernelSnapshot H)
    (guard : FundingGuard H) : FundingRequest H where
  facilityId := snapshot.facilityId
  facilityHash := snapshot.facilityHash
  facilityStateHash := snapshot.facilityStateHash
  bilateralTermsHash := snapshot.bilateralTermsHash
  facilityDestinationHash := snapshot.facilityDestinationHash
  requiredSubjectContributionMinor := snapshot.requiredSubjectContributionMinor
  requiredProviderContributionMinor := snapshot.requiredProviderContributionMinor
  maximumFacilityCapMinor := snapshot.maximumFacilityCapMinor
  initialKernelSnapshotHash := snapshotHash prims snapshot
  authorizationDecisionHash := guard.authorizationDecisionHash
  admissionDecisionHash := guard.admissionDecisionHash
  idempotencyKeyHash := prims.hashId (.idempotency idempotencyKey)

/-- The draft of a request. -/
def createDraft (idempotencyKey : String) (snapshot : KernelSnapshot H) (guard : FundingGuard H) :
    Draft H :=
  let request := fundingRequest prims idempotencyKey snapshot guard
  let requestHash := prims.hashId (.request request)
  { fundingId := prims.slice requestHash
    requestHash
    idempotencyKeyHash := request.idempotencyKeyHash
    initialKernelSnapshotHash := request.initialKernelSnapshotHash
    snapshot
    guard }

/-- The record that awaits both contributions. -/
def createPendingTestnetFacilityFundingRecord (draft : Draft H) (nowMs : ℕ) :
    Domain (FundingRecord H) := do
  positiveInteger "nowMs" nowMs maxSafeInteger
  assertKernelSnapshot prims draft.snapshot none
  let snapshot := draft.snapshot
  let core : FundingCore H :=
    { fundingId := draft.fundingId
      requestHash := draft.requestHash
      facilityId := snapshot.facilityId
      facilityHash := snapshot.facilityHash
      facilityStateHash := snapshot.facilityStateHash
      facilityVersion := snapshot.facilityVersion
      obligationId := snapshot.obligationId
      subjectId := snapshot.subjectId
      bilateralTermsHash := snapshot.bilateralTermsHash
      assetId := snapshot.assetId
      requiredSubjectContributionMinor := snapshot.requiredSubjectContributionMinor
      requiredProviderContributionMinor := snapshot.requiredProviderContributionMinor
      maximumFacilityCapMinor := snapshot.maximumFacilityCapMinor
      facilityDestinationHash := snapshot.facilityDestinationHash
      accountBindingHash := snapshot.accountBindingHash
      masterAccountHash := snapshot.masterAccountHash
      withdrawalAuthorityHash := snapshot.withdrawalAuthorityHash
      executionSignerReferenceHash := snapshot.executionSignerReferenceHash
      canonicalLedgerStateHash := snapshot.canonicalLedgerStateHash
      ledgerTransactionCount := snapshot.ledgerTransactionCount
      initialKernelSnapshotHash := draft.initialKernelSnapshotHash }
  let fundingHash := prims.hashId (.funding core)
  finishRecord prims
    { fundingHash
      status := .awaitingContributions
      subjectContributionMinor := 0
      providerContributionMinor := 0
      reconciledTotalMinor := 0
      subjectReceiptHash := none
      providerReceiptHash := none
      subjectContributionFinalized := false
      providerContributionFinalized := false
      processedReceiptCount := 0
      latestSourceEvidenceHash := none
      latestKernelSnapshotHash := draft.initialKernelSnapshotHash
      riskSnapshotHash := snapshot.riskSnapshotHash
      riskObservedAt := snapshot.riskObservedAt
      incidentReasonCodes := []
      activationEvidenceHash := none
      activatedByActorHash := none
      activationIdempotencyKeyHash := none
      activationCommandHash := none
      canonicalFacilityMutationCreated := false
      version := 1
      updatedAt := nowMs
      activatedAt := none
      core
      -- replaced when the record is finished
      stateHash := fundingHash
      idempotencyKeyHash := draft.idempotencyKeyHash
      facilityLifecycleStatus := snapshot.facilityLifecycleStatus
      riskState := snapshot.riskState
      riskFreshness := snapshot.riskFreshness
      riskMaximumAgeMs := snapshot.riskMaximumAgeMs
      authorizationDecisionHash := draft.guard.authorizationDecisionHash
      admissionDecisionHash := draft.guard.admissionDecisionHash
      authorizedActorHash := draft.guard.authorizedActorHash
      resultHash := none
      createdAt := nowMs }

/-! ## Receipts -/

/-- The reason code where the snapshot is about something else than the record. -/
def kernelContradiction (record : FundingRecord H) (snapshot : KernelSnapshot H) :
    Option String :=
  if snapshot.facilityId ≠ record.core.facilityId ∨
      snapshot.facilityHash ≠ record.core.facilityHash ∨
      snapshot.facilityStateHash ≠ record.core.facilityStateHash ∨
      snapshot.facilityVersion ≠ record.core.facilityVersion ∨
      snapshot.facilityLifecycleStatus ≠ record.facilityLifecycleStatus ∨
      snapshot.obligationId ≠ record.core.obligationId ∨
      snapshot.subjectId ≠ record.core.subjectId ∨
      snapshot.bilateralTermsHash ≠ record.core.bilateralTermsHash ∨
      snapshot.assetId ≠ record.core.assetId ∨
      snapshot.requiredSubjectContributionMinor ≠
        record.core.requiredSubjectContributionMinor ∨
      snapshot.requiredProviderContributionMinor ≠
        record.core.requiredProviderContributionMinor ∨
      snapshot.maximumFacilityCapMinor ≠ record.core.maximumFacilityCapMinor ∨
      snapshot.facilityDestinationHash ≠ record.core.facilityDestinationHash ∨
      snapshot.accountBindingHash ≠ record.core.accountBindingHash ∨
      snapshot.masterAccountHash ≠ record.core.masterAccountHash ∨
      snapshot.withdrawalAuthorityHash ≠ record.core.withdrawalAuthorityHash ∨
      snapshot.executionSignerReferenceHash ≠ record.core.executionSignerReferenceHash then
    some "kernel_binding_changed"
  else if snapshot.canonicalLedgerStateHash ≠ record.core.canonicalLedgerStateHash ∨
      snapshot.ledgerTransactionCount ≠ record.core.ledgerTransactionCount then
    some "canonical_ledger_changed"
  else none

/-- `incident` -/
def raiseIncident (record : FundingRecord H) (reasonCode : String) (receipt : Option (Receipt H))
    (snapshot : KernelSnapshot H) (nowMs : ℕ) : Domain (FundingRecord H) := do
  safeCode "reasonCode" reasonCode
  finishRecord prims
    { record with
      status := .incident
      processedReceiptCount := record.processedReceiptCount + (if receipt.isSome then 1 else 0)
      latestSourceEvidenceHash :=
        (receipt.map (·.sourceEvidenceHash)).or record.latestSourceEvidenceHash
      latestKernelSnapshotHash := snapshotHash prims snapshot
      riskSnapshotHash := snapshot.riskSnapshotHash
      riskObservedAt := snapshot.riskObservedAt
      incidentReasonCodes :=
        (record.incidentReasonCodes ++ [reasonCode]).dedup.insertionSort (· ≤ ·)
      resultHash := some (prims.hashId (.incident record.fundingHash reasonCode
        (receipt.map (·.receiptHash)) (record.version + 1) (snapshotHash prims snapshot)))
      version := record.version + 1
      updatedAt := nowMs }

/-- What a receipt does not have in common with its record. -/
def receiptContradiction (record : FundingRecord H) (receipt : Receipt H) (nowMs : ℕ) :
    Option String :=
  let expectedAmount :=
    match receipt.contributorRole with
    | .subjectFirstLoss => record.core.requiredSubjectContributionMinor
    | .providerPrincipal => record.core.requiredProviderContributionMinor
  if receipt.fundingHash ≠ record.fundingHash then some "funding_binding_changed"
  else if receipt.facilityHash ≠ record.core.facilityHash then some "facility_binding_changed"
  else if receipt.assetId ≠ record.core.assetId then some "wrong_asset"
  else if receipt.destinationHash ≠ record.core.facilityDestinationHash then
    some "wrong_destination"
  else if receipt.amountMinor ≠ expectedAmount then some "wrong_amount"
  else if receipt.freshness ≠ .fresh ∨ receipt.complete ≠ true then
    some "incomplete_or_stale_receipt"
  else if nowMs < receipt.observedAt then some "future_receipt"
  else none

/-- The receipt that is recorded for a role. -/
def FundingRecord.receiptHashOf (record : FundingRecord H) :
    HyperliquidTestnetContributionRole → Option H
  | .subjectFirstLoss => record.subjectReceiptHash
  | .providerPrincipal => record.providerReceiptHash

/-- The record with what is recorded for a role replaced, and the contributions computed anew. -/
def FundingRecord.withReceipt (record : FundingRecord H)
    (role : HyperliquidTestnetContributionRole) (receiptHash : Option H) : FundingRecord H :=
  let subjectReceiptHash :=
    match role with
    | .subjectFirstLoss => receiptHash
    | .providerPrincipal => record.subjectReceiptHash
  let providerReceiptHash :=
    match role with
    | .subjectFirstLoss => record.providerReceiptHash
    | .providerPrincipal => receiptHash
  let subjectContributionFinalized := subjectReceiptHash.isSome
  let providerContributionFinalized := providerReceiptHash.isSome
  let subjectContributionMinor :=
    if subjectContributionFinalized then record.core.requiredSubjectContributionMinor else 0
  let providerContributionMinor :=
    if providerContributionFinalized then record.core.requiredProviderContributionMinor else 0
  { record with
    status := stateFromContributions subjectContributionFinalized providerContributionFinalized
    subjectContributionMinor
    providerContributionMinor
    reconciledTotalMinor := subjectContributionMinor + providerContributionMinor
    subjectReceiptHash
    providerReceiptHash
    subjectContributionFinalized
    providerContributionFinalized }

/-- Takes a receipt: a contradiction makes the record an incident, and a record that is over stays
as it is. -/
def transitionTestnetFacilityFundingRecord (record : FundingRecord H) (receipt : Receipt H)
    (kernelSnapshot : KernelSnapshot H) (nowMs : ℕ) : Domain (FundingRecord H) := do
  assertRecord prims record
  assertReceipt prims receipt
  assertKernelSnapshot prims kernelSnapshot
    (some (record.core.facilityId, record.core.facilityHash))
  positiveInteger "nowMs" nowMs maxSafeInteger
  if record.status ∈ terminalStatuses then pure record
  else
    let raise := fun reasonCode ↦
      raiseIncident prims record reasonCode (some receipt) kernelSnapshot nowMs
    match kernelContradiction record kernelSnapshot with
    | some contradiction => raise contradiction
    | none =>
      match receiptContradiction record receipt nowMs with
      | some reasonCode => raise reasonCode
      | none =>
        let existing := record.receiptHashOf receipt.contributorRole
        if receipt.kind = .finalizedContribution ∧ existing ≠ none then
          raise "duplicate_economic_contribution"
        else if receipt.kind = .reorgInvalidation ∧
            (existing = none ∨ receipt.relatedReceiptHash ≠ existing) then
          raise "reorg_receipt_mismatch"
        else
          let receiptHash :=
            match receipt.kind with
            | .finalizedContribution => some receipt.receiptHash
            | .reorgInvalidation => none
          finishRecord prims
            { record.withReceipt receipt.contributorRole receiptHash with
              processedReceiptCount := record.processedReceiptCount + 1
              latestSourceEvidenceHash := some receipt.sourceEvidenceHash
              latestKernelSnapshotHash := snapshotHash prims kernelSnapshot
              riskSnapshotHash := kernelSnapshot.riskSnapshotHash
              riskObservedAt := kernelSnapshot.riskObservedAt
              version := record.version + 1
              updatedAt := nowMs }

/-! ## Activation -/

/-- Activation needs a fresh and normal risk snapshot. -/
def assertActivationFreshness (snapshot : KernelSnapshot H) (nowMs : ℕ) : Domain Unit :=
  throwIf (snapshot.riskState ≠ .normal ∨ snapshot.riskFreshness ≠ .fresh ∨
      nowMs < snapshot.riskObservedAt ∨
      snapshot.riskMaximumAgeMs < nowMs - snapshot.riskObservedAt)
    "hyperliquid_facility_funding_risk_stale"
    "activation requires a fresh server-owned NORMAL risk snapshot"

/-- The argument of `activateTestnetFacilityFundingRecord`. -/
structure ActivationInput (H : Type) where
  kernelSnapshot : KernelSnapshot H
  activationIdempotencyKeyHash : H
  activationCommandHash : H
  activatedByActorHash : H
  activatedFacility : Trading.TradingFacility H
  nowMs : ℕ

/-- Activates a funding that is ready; the same command again gives the record. -/
def activateTestnetFacilityFundingRecord (record : FundingRecord H) (input : ActivationInput H) :
    Domain (FundingRecord H) := do
  assertRecord prims record
  assertKernelSnapshot prims input.kernelSnapshot
    (some (record.core.facilityId, record.core.facilityHash))
  positiveInteger "nowMs" input.nowMs maxSafeInteger
  if record.status = .active then do
    throwIf (record.activationIdempotencyKeyHash ≠ some input.activationIdempotencyKeyHash ∨
        record.activationCommandHash ≠ some input.activationCommandHash)
      "hyperliquid_facility_funding_idempotency_conflict"
      "activation idempotency key is bound to another command"
    pure record
  else do
    throwIf (record.status ≠ .ready) "hyperliquid_facility_funding_not_ready"
      "both exact finalized contributions are required before activation"
    match kernelContradiction record input.kernelSnapshot with
    | some contradiction =>
      raiseIncident prims record contradiction none input.kernelSnapshot input.nowMs
    | none => do
      assertActivationFreshness input.kernelSnapshot input.nowMs
      throwIf (input.activatedFacility.tradingFacilityId ≠ record.core.facilityId ∨
          input.activatedFacility.facilityHash ≠ record.core.facilityHash ∨
          input.activatedFacility.lifecycleStatus ≠ .active ∨
          input.activatedFacility.version ≠ record.core.facilityVersion + 1)
        "hyperliquid_facility_funding_activation_invalid"
        "canonical Facility activation result is invalid"
      let activationEvidenceHash := prims.hashId (.activationEvidence
        { fundingHash := record.fundingHash
          facilityHash := record.core.facilityHash
          previousFacilityStateHash := record.core.facilityStateHash
          activatedFacilityStateHash := input.activatedFacility.stateHash
          subjectReceiptHash := record.subjectReceiptHash
          providerReceiptHash := record.providerReceiptHash
          reconciledTotalMinor := record.reconciledTotalMinor
          riskSnapshotHash := input.kernelSnapshot.riskSnapshotHash
          authorizationDecisionHash := record.authorizationDecisionHash
          admissionDecisionHash := record.admissionDecisionHash
          activationCommandHash := input.activationCommandHash
          activatedAt := input.nowMs })
      finishRecord prims
        { record with
          status := .active
          latestKernelSnapshotHash := snapshotHash prims input.kernelSnapshot
          riskSnapshotHash := input.kernelSnapshot.riskSnapshotHash
          riskObservedAt := input.kernelSnapshot.riskObservedAt
          activatedByActorHash := some input.activatedByActorHash
          activationEvidenceHash := some activationEvidenceHash
          activationIdempotencyKeyHash := some input.activationIdempotencyKeyHash
          activationCommandHash := some input.activationCommandHash
          canonicalFacilityMutationCreated := true
          resultHash := some (prims.hashId (.result record.fundingHash activationEvidenceHash
            input.activatedFacility.stateHash))
          version := record.version + 1
          updatedAt := input.nowMs
          activatedAt := some input.nowMs }

end Functions

end Funding
end Hyperliquid
end IpoOne
