import IpoOne.Hyperliquid.Waterfall

/-!
# Reconciliation records

`hyperliquid-reconciliation`: a record is started from a snapshot of the kernel, takes in
observations of the venue and is resolved by one of them, or stopped by hand.  An observation may
move the two fill cursors, the status, the failure counter and the circuit breaker
(`derivedState`); a snapshot that contradicts the record makes it an incident
(`kernelContradiction`).

A hash is a value of the arbitrary type `H`, and so is an identifier that is a prefix followed by a
part of a digest; times are milliseconds.  The flags that are the same in every record are left out.
-/

set_option autoImplicit false

namespace IpoOne
namespace Reconciliation

open Fallible

/-- The states of a reconciliation. -/
inductive HyperliquidReconciliationStatus where
  | pending
  | partially
  | unknown
  | reconciled
  | rejected
  | incident
  | safeStopped
  deriving DecidableEq, Repr

/-- What a reconciliation says of the order. -/
inductive HyperliquidReconciledOrderState where
  | pending
  | opened
  | partiallyFilled
  | filled
  | canceled
  | rejected
  | unknown
  | incident
  | safeStopped
  deriving DecidableEq, Repr

/-- What the venue says of the order. -/
inductive HyperliquidVenueOrderStatus where
  | opened
  | partiallyFilled
  | filled
  | canceled
  | rejected
  | notFound
  | unknown
  deriving DecidableEq, Repr

/-- What an observation shows. -/
inductive HyperliquidReconciliationObservationKind where
  | normalizedState
  | adapterOutage
  | pollBudgetExhausted
  | kernelContradiction
  deriving DecidableEq, Repr

/-- `record.outcome` -/
inductive Outcome where
  | partially
  | confirmed
  | canceled
  | rejected
  | unknown
  | incident
  | safeStopped
  deriving DecidableEq, Repr

/-- `ACTION_KINDS` -/
inductive ActionKind where
  | order
  | reduceOnlyOrder
  | cancel
  | cancelByCloid
  | modify
  deriving DecidableEq, Repr

/-- `EXECUTION_NONCE_STATES` -/
inductive ExecutionNonceState where
  | submitted
  | confirmed
  | rejected
  | unknown
  deriving DecidableEq, Repr

/-- How current an observation is. -/
inductive Freshness where
  | fresh
  | stale
  | unknown
  deriving DecidableEq, Repr

/-- `RISK_STATES` -/
abbrev RiskState := Trading.TradingFacilityRiskState

/-- `TERMINAL_STATUSES` -/
def terminalStatuses : List HyperliquidReconciliationStatus :=
  [.reconciled, .rejected, .incident, .safeStopped]

/-- `MAXIMUM_OBSERVATIONS` -/
def maximumObservations : ℕ := 1000000

/-- `riskRank` -/
def riskRank : RiskState → ℕ
  | .normal => 0
  | .warning => 1
  | .reduceOnly => 2
  | .flatten => 3
  | .settlement => 4

/-- `["cancel", "cancelByCloid"].includes(actionKind)` -/
def ActionKind.isCancel (kind : ActionKind) : Bool := kind ∈ [ActionKind.cancel, .cancelByCloid]

/-! ## Values -/

/-- A text that `NON_NEGATIVE_DECIMAL` matches: no leading zeros, and at most 18 digits after the
point.  Two texts may stand for one number. -/
structure Decimal where
  whole : ℕ
  fraction : List (Fin 10)
  whole_lt : whole < 10 ^ 31
  fraction_length_le : fraction.length ≤ 18
  deriving DecidableEq

/-- `"0"` -/
def Decimal.zero : Decimal where
  whole := 0
  fraction := []
  whole_lt := by decide
  fraction_length_le := by decide

/-- `decimalAtoms`: the digits, with the fraction padded to 18 of them. -/
def Decimal.atoms (value : Decimal) : ℕ :=
  (value.fraction ++ List.replicate (18 - value.fraction.length) 0).foldl
    (fun n (digit : Fin 10) ↦ 10 * n + digit.val) value.whole

@[simp] theorem Decimal.atoms_zero : Decimal.zero.atoms = 0 := by decide +kernel

/-- A number that `NON_NEGATIVE_MINOR` matches. -/
abbrev Minor := {n : ℕ // n < 10 ^ 78}

/-- A text that `IDENTIFIER` matches. -/
abbrev Identifier := {value : String // Trading.matchesIdentifierPattern value = true}

/-- `"0"` -/
def Minor.zero : Minor := ⟨0, by decide⟩

/-- `fail("invalid_hyperliquid_reconciliation_input", message)` -/
def invalidInput (c : Prop) [Decidable c] (message : String) : Domain Unit :=
  throwIf c "invalid_hyperliquid_reconciliation_input" message

/-- The value is an identifier. -/
def identifier (name value : String) : Domain Unit :=
  invalidInput (Trading.matchesIdentifierPattern value = false) (name ++ " is invalid")

/-- The value is a machine-readable code. -/
def safeCode (name value : String) : Domain Unit :=
  invalidInput (Hyperliquid.Settlement.matchesSafeCodePattern value = false) (name ++ " is invalid")

/-- The value is a safe integer above 0. -/
def positiveInteger (name : String) (value : ℕ) : Domain Unit :=
  invalidInput (¬ isSafeInteger value ∨ value < 1) (name ++ " must be a positive safe integer")

/-- The value is a safe integer. -/
def nonNegativeInteger (name : String) (value : ℕ) : Domain Unit :=
  invalidInput (¬ isSafeInteger value) (name ++ " must be a non-negative safe integer")

/-- The value is an amount. -/
def minor (name : String) (value : ℤ) : Domain Unit :=
  invalidInput (value < 0 ∨ 10 ^ 78 ≤ value) (name ++ " must be a non-negative minor-unit string")

/-- `iso`: `toISOString` throws for a time that no date has. -/
def iso (value : ℕ) : Domain ℕ := do
  throwIf (8640000000000000 < value) "RangeError" "Invalid time value"
  pure value

/-- A reading of the clock that `clockMs` takes. -/
abbrev ClockReading := {value : ℕ // isSafeInteger value ∧ 1 ≤ value}

/-! ## Snapshots and observations -/

/-- What a record keeps of the snapshot that it was started from, and compares with every later
one. -/
structure KernelBinding (H : Type) where
  executionId : String
  executionHash : H
  nonce : ℕ
  actionKind : ActionKind
  actionHash : H
  cloid : Option H
  facilityId : String
  facilityHash : H
  facilityStateHash : H
  facilityVersion : ℕ
  orderIntentId : String
  orderIntentHash : H
  orderIntentStateHash : H
  orderIntentVersion : ℕ
  subjectId : String
  obligationId : String
  accountBindingHash : H
  signerReferenceHash : H
  requestedSize : Decimal
  requestedNotionalMinor : Minor
  deriving DecidableEq

/-- What the kernel knows of the execution and its facility. -/
structure KernelSnapshot (H : Type) extends KernelBinding H where
  executionNonceState : ExecutionNonceState
  canonicalLedgerStateHash : H
  ledgerTransactionCount : ℕ
  riskSnapshotHash : H
  riskState : RiskState
  capturedAt : ℕ
  deriving DecidableEq

/-- The command that an observation is bound to. -/
structure CommandBinding (H : Type) where
  executionHash : H
  facilityHash : H
  actionHash : H
  cloid : Option H
  deriving DecidableEq

/-- What `createSimulatedHyperliquidVenueObservation` takes. -/
structure ObservationInput (H : Type) extends CommandBinding H where
  kind : HyperliquidReconciliationObservationKind
  venueStatus : HyperliquidVenueOrderStatus
  cumulativeFilledSize : Decimal
  cumulativeFillNotionalMinor : Minor
  venueOrderReferenceHash : Option H
  orderStateHash : H
  positionStateHash : H
  accountStateHash : H
  freshness : Freshness
  complete : Bool
  reasonCode : String
  deriving DecidableEq

/-- `recreatedCore` -/
structure ObservationCore (H : Type) extends ObservationInput H where
  observedAt : ℕ
  deriving DecidableEq

/-- An observation with its hashes. -/
structure Observation (H : Type) extends ObservationCore H where
  observationId : H
  sourceEvidenceHash : H
  deriving DecidableEq

/-- The decision of the command guard, with its actor checked. -/
structure GuardDecision (H : Type) where
  approved : Bool
  authorizationDecisionHash : H
  admissionDecisionHash : H
  authorizedActorHash : H
  actorId : Identifier
  deriving DecidableEq

/-- What `reconcile` is called with. -/
structure Request (H : Type) where
  executionId : String
  executionHash : H
  idempotencyKey : String
  deriving DecidableEq

/-- `requestCore` -/
structure RequestCore (H : Type) where
  executionId : String
  executionHash : H
  facilityId : String
  facilityHash : H
  orderIntentId : String
  orderIntentHash : H
  actionHash : H
  nonce : ℕ
  kernelSnapshotHash : H
  authorizationDecisionHash : H
  admissionDecisionHash : H
  idempotencyKeyHash : H
  deriving DecidableEq

/-- What a record is created from. -/
structure Draft (H : Type) where
  reconciliationId : H
  requestHash : H
  idempotencyKeyHash : H
  snapshot : KernelSnapshot H
  guard : GuardDecision H

/-- A stored reconciliation. -/
structure Record (H : Type) extends KernelBinding H where
  reconciliationId : H
  reconciliationHash : H
  requestHash : H
  idempotencyKeyHash : H
  executionNonceState : ExecutionNonceState
  canonicalLedgerStateHash : H
  ledgerTransactionCount : ℕ
  riskSnapshotHash : H
  effectiveRiskState : RiskState
  initialKernelSnapshotHash : H
  latestKernelSnapshotHash : H
  authorizationDecisionHash : H
  admissionDecisionHash : H
  authorizedActorHash : H
  status : HyperliquidReconciliationStatus
  outcome : Option Outcome
  reconciledOrderState : HyperliquidReconciledOrderState
  cumulativeFilledSize : Decimal
  cumulativeFillNotionalMinor : Minor
  latestEconomicDeltaNotionalMinor : ℤ
  processedObservationCount : ℕ
  latestSourceEvidenceHash : Option H
  adapterFailureCount : ℕ
  pollAttemptCount : ℕ
  circuitBreakerOpen : Bool
  manualSafeStop : Bool
  newRiskBlocked : Bool
  reconciled : Bool
  incidentReasonCodes : List String
  resultHash : Option H
  version : ℕ
  createdAt : ℕ
  updatedAt : ℕ
  resolvedAt : Option ℕ
  deriving DecidableEq

/-- What is hashed of the resolution of a record. -/
structure ResultCore (H : Type) where
  reconciliationHash : H
  status : HyperliquidReconciliationStatus
  outcome : Outcome
  sourceEvidenceHash : H
  cumulativeFilledSize : Decimal
  cumulativeFillNotionalMinor : Minor
  ledgerStateHash : H
  facilityStateHash : H
  riskSnapshotHash : H
  nonce : ℕ
  incidentReason : Option String

/-- What is hashed of a system observation, in place of a state of the venue. -/
structure UnknownState (H : Type) where
  reconciliationHash : H
  recordVersion : ℕ
  kind : HyperliquidReconciliationObservationKind
  reasonCode : String

/-- The payloads that are hashed about a reconciliation. -/
inductive Preimage (H : Type) where
  | idempotency (idempotencyKey : String)
  | kernelSnapshot (snapshot : KernelSnapshot H)
  | request (core : RequestCore H)
  | reconciliation (reconciliationId requestHash executionHash facilityHash orderIntentHash
      actionHash : H) (nonce : ℕ)
  | sourceEvidence (core : ObservationCore H)
  | inboxPayload (observation : Observation H)
  | result (core : ResultCore H)
  | safeStop (reconciliationHash : H) (reasonCode : String) (version : ℕ)
      (ledgerStateHash facilityStateHash : H)
  | unknownOrderState (core : UnknownState H)
  | unknownPositionState (core : UnknownState H)
  | unknownAccountState (core : UnknownState H)
  | preGuardRequest (executionId : String) (executionHash : H) (facilityId : String)
      (facilityHash actionHash : H) (nonce : ℕ)
  | safeStopRequest (reconciliationHash : H) (reasonCode : String)
  | safeStopIdempotency (idempotencyKey : String)
  | safeStopCommand (reconciliationHash requestHash authorizationDecisionHash
      admissionDecisionHash : H) (reasonCode : String)

/-- What the module gets from outside: the hash, and the part of it that goes into an identifier
(`slice(2, 34)`). -/
structure Primitives (H : Type) where
  hashId : Preimage H → H
  slice : H → H

/-- The command that a record waits for. -/
def KernelBinding.command {H : Type} (binding : KernelBinding H) : CommandBinding H where
  executionHash := binding.executionHash
  facilityHash := binding.facilityHash
  actionHash := binding.actionHash
  cloid := binding.cloid

section Functions

variable {H : Type} [DecidableEq H] (prims : Primitives H)

/-- `assertKernelSnapshot`, with the execution that is expected. -/
def assertKernelSnapshot (value : KernelSnapshot H) (expected : Option (String × H)) :
    Domain Unit := do
  identifier "executionId" value.executionId
  positiveInteger "nonce" value.nonce
  identifier "facilityId" value.facilityId
  positiveInteger "facilityVersion" value.facilityVersion
  identifier "orderIntentId" value.orderIntentId
  positiveInteger "orderIntentVersion" value.orderIntentVersion
  identifier "subjectId" value.subjectId
  identifier "obligationId" value.obligationId
  nonNegativeInteger "ledgerTransactionCount" value.ledgerTransactionCount
  throwIf (value.actionKind.isCancel ∧
      (value.requestedSize ≠ .zero ∨ value.requestedNotionalMinor ≠ .zero))
    "invalid_hyperliquid_reconciliation_snapshot"
    "cancel reconciliation cannot invent fill authority"
  throwIf (¬ value.actionKind.isCancel ∧
      (value.requestedSize.atoms = 0 ∨ value.requestedNotionalMinor.val = 0))
    "invalid_hyperliquid_reconciliation_snapshot"
    "order reconciliation requires bounded server-owned request economics"
  throwIf (∃ execution ∈ expected, (value.executionId, value.executionHash) ≠ execution)
    "hyperliquid_reconciliation_snapshot_binding_mismatch"
    "snapshot is bound to another execution"

/-- The hash of a kernel snapshot. -/
def kernelSnapshotHash (value : KernelSnapshot H) : H := prims.hashId (.kernelSnapshot value)

/-- `assertGuardDecision` -/
def assertGuardDecision (value : GuardDecision H) : Domain Unit :=
  throwIf (value.approved ≠ true) "hyperliquid_reconciliation_guard_denied"
    "authorization or admission denied reconciliation"

/-- `createSimulatedHyperliquidVenueObservation` -/
def createSimulatedHyperliquidVenueObservation (input : ObservationInput H)
    (clock : ClockReading) : Domain (Observation H) := do
  safeCode "reasonCode" input.reasonCode
  throwIf (input.kind ≠ .normalizedState ∧
      (input.venueStatus ≠ .unknown ∨ input.freshness ≠ .unknown ∨ input.complete ≠ false))
    "invalid_hyperliquid_reconciliation_observation"
    "system failure observation cannot claim venue truth"
  let observedAt ← iso clock.val
  let core : ObservationCore H := { input with observedAt }
  let sourceEvidenceHash := prims.hashId (.sourceEvidence core)
  pure { core with
    observationId := prims.slice sourceEvidenceHash
    sourceEvidenceHash }

/-- `assertObservation` -/
def assertObservation (value : Observation H) : Domain Unit := do
  throwIf (value.observationId ≠ prims.slice value.sourceEvidenceHash)
    "invalid_hyperliquid_reconciliation_observation"
    "observation identity is not source deterministic"
  throwIf (value.sourceEvidenceHash ≠ prims.hashId (.sourceEvidence value.toObservationCore))
    "invalid_hyperliquid_reconciliation_observation"
    "observation source Evidence hash is invalid"
  safeCode "reasonCode" value.reasonCode

/-- The state of a record does not fit its evidence. -/
def inconsistent (record : Record H) : Prop :=
  (decide (record.status ∈ terminalStatuses) ≠
      (record.resultHash.isSome && record.resolvedAt.isSome)) ∨
    (record.status = .unknown ∧
      (record.outcome ≠ some .unknown ∨ record.reconciled ≠ false ∨
        record.newRiskBlocked ≠ true)) ∨
    (record.status = .pending ∧
      (record.version ≠ 1 ∨ record.outcome ≠ none ∨ record.reconciledOrderState ≠ .pending ∨
        record.processedObservationCount ≠ 0 ∨ record.latestSourceEvidenceHash ≠ none)) ∨
    (record.status = .safeStopped ∧
      (record.manualSafeStop ≠ true ∨ record.circuitBreakerOpen ≠ true ∨
        record.outcome ≠ some .safeStopped))

instance (record : Record H) : Decidable (inconsistent record) :=
  inferInstanceAs (Decidable (_ ∨ _))

/-- The check of one of the counters of a record. -/
def boundedCount (name : String) (value : ℕ) : Domain Unit := do
  nonNegativeInteger name value
  throwIf (maximumObservations < value) "invalid_hyperliquid_reconciliation_record"
    (name ++ " exceeds the closed bound")

/-- `assertRecord` -/
def assertRecord (record : Record H) : Domain Unit := do
  identifier "executionId" record.executionId
  identifier "facilityId" record.facilityId
  identifier "orderIntentId" record.orderIntentId
  identifier "subjectId" record.subjectId
  identifier "obligationId" record.obligationId
  positiveInteger "nonce" record.nonce
  positiveInteger "facilityVersion" record.facilityVersion
  positiveInteger "orderIntentVersion" record.orderIntentVersion
  nonNegativeInteger "ledgerTransactionCount" record.ledgerTransactionCount
  minor "latestEconomicDeltaNotionalMinor" record.latestEconomicDeltaNotionalMinor
  boundedCount "processedObservationCount" record.processedObservationCount
  boundedCount "adapterFailureCount" record.adapterFailureCount
  boundedCount "pollAttemptCount" record.pollAttemptCount
  positiveInteger "version" record.version
  throwIf (16 < record.incidentReasonCodes.length ∨ ¬ record.incidentReasonCodes.Nodup)
    "invalid_hyperliquid_reconciliation_record" "incident reason codes are invalid"
  record.incidentReasonCodes.forM (safeCode "reasonCode")
  throwIf (inconsistent record) "invalid_hyperliquid_reconciliation_record"
    "record state evidence is inconsistent"

/-! ## Starting -/

/-- `requestCore` of `createDraft` -/
def requestCore (input : Request H) (snapshot : KernelSnapshot H) (guard : GuardDecision H) :
    RequestCore H where
  executionId := input.executionId
  executionHash := input.executionHash
  facilityId := snapshot.facilityId
  facilityHash := snapshot.facilityHash
  orderIntentId := snapshot.orderIntentId
  orderIntentHash := snapshot.orderIntentHash
  actionHash := snapshot.actionHash
  nonce := snapshot.nonce
  kernelSnapshotHash := kernelSnapshotHash prims snapshot
  authorizationDecisionHash := guard.authorizationDecisionHash
  admissionDecisionHash := guard.admissionDecisionHash
  idempotencyKeyHash := prims.hashId (.idempotency input.idempotencyKey)

/-- `createDraft` -/
def createDraft (input : Request H) (snapshot : KernelSnapshot H) (guard : GuardDecision H) :
    Draft H :=
  let requestHash := prims.hashId (.request (requestCore prims input snapshot guard))
  { reconciliationId := prims.slice requestHash
    requestHash
    idempotencyKeyHash := prims.hashId (.idempotency input.idempotencyKey)
    snapshot
    guard }

/-- The record that `createPendingHyperliquidReconciliationRecord` builds. -/
def pendingRecord (draft : Draft H) (createdAt : ℕ) : Record H where
  toKernelBinding := draft.snapshot.toKernelBinding
  reconciliationId := draft.reconciliationId
  reconciliationHash := prims.hashId (.reconciliation draft.reconciliationId draft.requestHash
    draft.snapshot.executionHash draft.snapshot.facilityHash draft.snapshot.orderIntentHash
    draft.snapshot.actionHash draft.snapshot.nonce)
  requestHash := draft.requestHash
  idempotencyKeyHash := draft.idempotencyKeyHash
  executionNonceState := draft.snapshot.executionNonceState
  canonicalLedgerStateHash := draft.snapshot.canonicalLedgerStateHash
  ledgerTransactionCount := draft.snapshot.ledgerTransactionCount
  riskSnapshotHash := draft.snapshot.riskSnapshotHash
  effectiveRiskState := draft.snapshot.riskState
  initialKernelSnapshotHash := kernelSnapshotHash prims draft.snapshot
  latestKernelSnapshotHash := kernelSnapshotHash prims draft.snapshot
  authorizationDecisionHash := draft.guard.authorizationDecisionHash
  admissionDecisionHash := draft.guard.admissionDecisionHash
  authorizedActorHash := draft.guard.authorizedActorHash
  status := .pending
  outcome := none
  reconciledOrderState := .pending
  cumulativeFilledSize := .zero
  cumulativeFillNotionalMinor := .zero
  latestEconomicDeltaNotionalMinor := 0
  processedObservationCount := 0
  latestSourceEvidenceHash := none
  adapterFailureCount := 0
  pollAttemptCount := 0
  circuitBreakerOpen := false
  manualSafeStop := false
  newRiskBlocked := true
  reconciled := false
  incidentReasonCodes := []
  resultHash := none
  version := 1
  createdAt
  updatedAt := createdAt
  resolvedAt := none

/-- The record that nothing was observed for. -/
def createPendingHyperliquidReconciliationRecord (draft : Draft H) (nowMs : ℕ) :
    Domain (Record H) := do
  positiveInteger "nowMs" nowMs
  let createdAt ← iso nowMs
  assertKernelSnapshot draft.snapshot none
  let record := pendingRecord prims draft createdAt
  assertRecord record
  pure record

end Functions

end Reconciliation
end IpoOne
