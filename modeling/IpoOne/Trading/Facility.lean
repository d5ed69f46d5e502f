import IpoOne.Credit.Record
import IpoOne.Domain.Validators

/-!
# Trading facilities

`trading-capital-facility.js`: a subject and a provider put synthetic capital into a facility, the
subject opens orders against it, and the facility is watched, paused and flattened.

The facility and its orders are separate records, each bound to its own hashes.  A facility is
written by `updateFacilityState` only, which counts its versions, observes it anew and checks the
result with `assertFacility`.

Amounts are decimal texts in the source and integers here; a hash is a value of the arbitrary type
`H`.  The flags that are the same in every record, and the evaluation that
`evaluateTradingFacilityRisk` returns beside the facility, are left out.
-/

set_option autoImplicit false

namespace IpoOne
namespace Trading

open Fallible

/-- How far a facility has come. -/
inductive TradingFacilityLifecycleStatus where
  | awaitingContributions
  | awaitingSubjectCollateral
  | awaitingProviderFunding
  | readyForActivation
  | active
  | flattened
  deriving DecidableEq, Repr

/-- How much a facility may still do. -/
inductive TradingFacilityRiskState where
  | normal
  | warning
  | reduceOnly
  | flatten
  | settlement
  deriving DecidableEq, Repr

/-- The states of an order. -/
inductive TradingOrderIntentStatus where
  | opened
  | canceled
  | flattened
  deriving DecidableEq, Repr

/-- The direction of an order. -/
inductive TradingOrderDirection where
  | long
  | short
  deriving DecidableEq, Repr

/-- The states of a match proposal. -/
inductive TradingMatchProposalStatus where
  | proposed
  | providerAccepted
  | subjectAccepted
  | bilaterallyAccepted
  deriving DecidableEq, Repr

/-- `LOCAL_OBSERVATION_MAX_AGE_MS` -/
def localObservationMaxAgeMs : ℕ := 5 * 60 * 1000

/-- `SUBJECT_COLLATERAL_BPS` -/
def subjectCollateralBps : ℤ := 1000

/-- `BPS_DENOMINATOR` -/
def bpsDenominator : ℤ := 10000

/-- `MAX_OPEN_ORDERS` -/
def maxOpenOrders : ℕ := 20

/-! ## Records -/

/-- The terms of a match proposal. -/
structure ProposalTerms (H : Type) where
  templateType : String
  termsHash : H
  assetId : String
  syntheticPrincipalMinor : ℤ

/-- What a facility reads of a match proposal. -/
structure MatchProposal (H : Type) where
  tradingMatchProposalId : String
  proposalHash : H
  status : TradingMatchProposalStatus
  version : ℕ
  providerAccepted : Bool
  subjectAccepted : Bool
  subjectId : String
  principalId : String
  providerId : String
  subjectActorHash : H
  providerActorHash : H
  terms : ProposalTerms H
  expiresAt : ℕ

/-- What a facility reads of the obligation behind it. -/
structure CanonicalObligation (H : Type) where
  obligationId : String
  obligationHash : H
  subjectId : String
  principalId : String
  assetId : String
  originalPrincipalMinor : ℤ
  outstandingPrincipalMinor : ℤ
  totalRepaidMinor : ℤ
  executionStatus : Credit.ObligationExecutionStatus
  status : Credit.ObligationStatus
  withdrawable : Option Bool
  maturityAt : ℕ
  sandboxOnly : Bool
  productionFundsMoved : Bool

/-- `facilityCore`: what never changes about a facility. -/
structure FacilityCore (H : Type) where
  matchProposalId : String
  proposalHash : H
  obligationId : String
  obligationHash : H
  subjectId : String
  principalId : String
  providerId : String
  subjectActorHash : H
  providerActorHash : H
  templateType : String
  termsHash : H
  assetId : String
  syntheticPrincipalMinor : ℤ
  requiredSubjectCollateralMinor : ℤ
  requiredProviderFundingMinor : ℤ
  activationDeadlineAt : ℕ
  maturityAt : ℕ
  deriving DecidableEq

/-- `facilityStateCore`, without the hash of the observation. -/
structure FacilityStateCore (H : Type) where
  tradingFacilityId : String
  facilityHash : H
  lifecycleStatus : TradingFacilityLifecycleStatus
  riskState : TradingFacilityRiskState
  riskReasonCodes : List String
  subjectCollateralMinor : ℤ
  providerFundingMinor : ℤ
  syntheticCapitalMinor : ℤ
  syntheticExposureMinor : ℤ
  syntheticEquityMinor : ℤ
  openOrderCount : ℤ
  subjectCollateralRecorded : Bool
  providerFundingRecorded : Bool
  latestRiskEvaluation : Option (String × H)
  version : ℕ
  activatedAt : Option ℕ
  flattenedAt : Option ℕ
  updatedAt : ℕ
  deriving DecidableEq

/-- The fields of an observation that are hashed. -/
structure RiskObservationCore where
  facilityId : String
  facilityVersion : ℕ
  syntheticCapitalMinor : ℤ
  syntheticExposureMinor : ℤ
  syntheticEquityMinor : ℤ
  openOrderCount : ℤ
  observedAt : ℕ
  deriving DecidableEq

/-- An observation of a facility with its hash. -/
structure RiskObservation (H : Type) extends RiskObservationCore where
  observationHash : H
  deriving DecidableEq

/-- A facility with the hash of its state. -/
structure TradingFacility (H : Type) extends FacilityStateCore H where
  core : FacilityCore H
  stateHash : H
  riskObservation : RiskObservation H
  deriving DecidableEq

/-- What never changes about an order. -/
structure OrderIntentCore (H : Type) where
  facilityId : String
  facilityHash : H
  subjectId : String
  principalId : String
  submittedByActorHash : H
  direction : TradingOrderDirection
  syntheticNotionalMinor : ℤ
  createdAt : ℕ
  deriving DecidableEq

/-- What is hashed of the state of an order. -/
structure OrderIntentStateCore (H : Type) where
  tradingOrderIntentId : String
  orderIntentHash : H
  status : TradingOrderIntentStatus
  version : ℕ
  cancelReasonCode : Option String
  canceledAt : Option ℕ
  flattenedAt : Option ℕ
  updatedAt : ℕ
  deriving DecidableEq

/-- An order with the hash of its state. -/
structure TradingOrderIntent (H : Type) extends OrderIntentStateCore H where
  core : OrderIntentCore H
  orderStateHash : H
  deriving DecidableEq

/-- What `evaluateTradingFacilityRisk` hashes. -/
structure RiskEvaluationCore (H : Type) where
  facilityId : String
  facilityHash : H
  facilityVersionBefore : ℕ
  facilityStateHashBefore : H
  observationHash : H
  previousRiskState : TradingFacilityRiskState
  evaluatedRiskState : TradingFacilityRiskState
  freshness : String
  reasonCodes : List String
  syntheticCapitalMinor : ℤ
  syntheticExposureMinor : ℤ
  syntheticEquityMinor : ℤ
  utilizationBps : ℤ
  evaluatorActorHash : H
  evaluatedAt : ℕ

/-- What is hashed of a close request. -/
structure CloseRequestCore (H : Type) where
  facilityId : String
  facilityHash : H
  facilityStateHash : H
  facilityVersion : ℕ
  obligationId : String
  obligationHash : H
  subjectId : String
  principalId : String
  providerId : String
  subjectActorHash : H
  providerActorHash : H
  requestedByActorHash : H
  requestedAt : ℕ
  deriving DecidableEq

/-- What is hashed of a settlement. -/
structure SettlementCore (H : Type) where
  closeRequestId : String
  closeRequestHash : H
  facilityId : String
  facilityHash : H
  facilityStateHashBefore : H
  facilityVersionBefore : ℕ
  facilityStateHashAfter : H
  facilityVersionAfter : ℕ
  obligationId : String
  obligationHash : H
  subjectId : String
  principalId : String
  providerId : String
  assetId : String
  finalSyntheticEquityMinor : ℤ
  subjectContributionMinor : ℤ
  providerContributionMinor : ℤ
  subjectReturnMinor : ℤ
  providerPrincipalReturnMinor : ℤ
  realizedPnlMinor : ℤ
  venueCostMinor : ℤ
  closingCostMinor : ℤ
  fixedReturnMinor : ℤ
  performanceParticipationMinor : ℤ
  ipoOneFeeMinor : ℤ
  totalAllocatedMinor : ℤ
  settledByActorHash : H
  settledAt : ℕ
  deriving DecidableEq

/-- The payloads that are hashed about a facility. -/
inductive TradingPreimage (H : Type) where
  | actor (actorId : String)
  | tradingFacility (core : FacilityCore H)
  | tradingFacilityState (core : FacilityStateCore H) (riskObservationHash : H)
  | tradingFacilityRiskObservation (core : RiskObservationCore)
  | tradingOrderIntent (core : OrderIntentCore H)
  | tradingOrderIntentState (core : OrderIntentStateCore H)
  | tradingFacilityRiskEvaluation (core : RiskEvaluationCore H)
  | tradingFacilityCloseRequest (core : CloseRequestCore H)
  | tradingSettlement (core : SettlementCore H)

/-! ## Validators -/

/-- Refuses an input that meets the condition. -/
def invalid (c : Prop) [Decidable c] (message : String) : Domain Unit :=
  throwIf c "invalid_trading_facility" message

/-- `if (c) unavailable(message)` -/
def unavailable (c : Prop) [Decidable c]
    (message : String := "Trading Facility is unavailable") : Domain Unit :=
  throwIf c "trading_facility_unavailable" message

@[simp] theorem invalid_eq_ok {c : Prop} [Decidable c] {message : String} {u : Unit} :
    invalid c message = .ok u ↔ ¬ c :=
  throwIf_eq_ok

@[simp] theorem unavailable_eq_ok {c : Prop} [Decidable c] {message : String} {u : Unit} :
    unavailable c message = .ok u ↔ ¬ c :=
  throwIf_eq_ok

/-- `/^[A-Za-z0-9][A-Za-z0-9._:-]{0,255}$/` -/
def matchesIdentifierPattern (value : String) : Bool :=
  match value.toList with
  | [] => false
  | first :: rest =>
    first.isAlphanum && rest.all (fun c ↦ c.isAlphanum || c ∈ ['.', '_', ':', '-'])
      && rest.length ≤ 255

/-- The value is an identifier. -/
def identifier (name value : String) : Domain Unit :=
  invalid (matchesIdentifierPattern value = false) (name ++ " is invalid")

/-- The value is an amount above 0. -/
def positiveMinor (name : String) (value : ℤ) : Domain Unit :=
  invalid (value ≤ 0 ∨ 10 ^ 78 ≤ value)
    (name ++ " must be a positive decimal minor-unit string")

/-- The value is an amount. -/
def nonNegativeMinor (name : String) (value : ℤ) : Domain Unit :=
  invalid (value < 0 ∨ 10 ^ 78 ≤ value)
    (name ++ " must be a non-negative decimal minor-unit string")

/-- `exactVersion` -/
def exactVersion (name : String) (actual expected : ℕ) : Domain Unit :=
  unavailable (¬ isSafeInteger expected ∨ expected < 1 ∨ actual ≠ expected)
    (name ++ " version changed")

/-- The risk states in the order of how much they forbid. -/
def riskStateRank : TradingFacilityRiskState → ℕ
  | .normal => 0
  | .warning => 1
  | .reduceOnly => 2
  | .flatten => 3
  | .settlement => 4

/-- The one of two risk states that forbids more. -/
def mostRestrictiveRiskState (left right : TradingFacilityRiskState) : TradingFacilityRiskState :=
  if riskStateRank right ≤ riskStateRank left then left else right

/-- The status by which contributions were recorded. -/
def facilityLifecycle (subjectCollateralRecorded providerFundingRecorded : Bool) :
    TradingFacilityLifecycleStatus :=
  match subjectCollateralRecorded, providerFundingRecorded with
  | true, true => .readyForActivation
  | true, false => .awaitingProviderFunding
  | false, true => .awaitingSubjectCollateral
  | false, false => .awaitingContributions

section Facility

variable {H : Type} [DecidableEq H] (hashId : TradingPreimage H → H)

/-- The hash that stands for an actor. -/
def actorHash (actorId : String) : Domain H := do
  identifier "actorId" actorId
  pure (hashId (.actor actorId))

/-! ## Writing a facility -/

/-- The observation of a facility as it is. -/
def observationCore (facility : FacilityStateCore H) (observedAt : ℕ) : RiskObservationCore where
  facilityId := facility.tradingFacilityId
  facilityVersion := facility.version
  syntheticCapitalMinor := facility.syntheticCapitalMinor
  syntheticExposureMinor := facility.syntheticExposureMinor
  syntheticEquityMinor := facility.syntheticEquityMinor
  openOrderCount := facility.openOrderCount
  observedAt

/-- `riskObservation` -/
def observe (facility : FacilityStateCore H) (now : ℕ) : RiskObservation H :=
  { observationCore facility now with
    observationHash := hashId (.tradingFacilityRiskObservation (observationCore facility now)) }

/-- `refreshRiskObservation`, and then `withFacilityStateHash`. -/
def sealFacility (core : FacilityCore H) (state : FacilityStateCore H) (now : ℕ) :
    TradingFacility H :=
  { state with
    core
    riskObservation := observe hashId state now
    stateHash := hashId (.tradingFacilityState state (observe hashId state now).observationHash) }

/-- The checks on a facility, its hashes included. -/
def assertFacility (facility : TradingFacility H) : Domain Unit := do
  unavailable (¬ isSafeInteger facility.version ∨ facility.version < 1 ∨
    facility.openOrderCount < 0 ∨ maxOpenOrders < facility.openOrderCount)
  identifier "tradingFacilityId" facility.tradingFacilityId
  nonNegativeMinor "subjectCollateralMinor" facility.subjectCollateralMinor
  nonNegativeMinor "providerFundingMinor" facility.providerFundingMinor
  nonNegativeMinor "syntheticCapitalMinor" facility.syntheticCapitalMinor
  nonNegativeMinor "syntheticExposureMinor" facility.syntheticExposureMinor
  nonNegativeMinor "syntheticEquityMinor" facility.syntheticEquityMinor
  unavailable (hashId (.tradingFacility facility.core) ≠ facility.facilityHash)
    "Facility immutable binding changed"
  unavailable (hashId (.tradingFacilityState facility.toFacilityStateCore
      facility.riskObservation.observationHash) ≠ facility.stateHash)
    "Facility state hash changed"
  let observation := facility.riskObservation
  unavailable (observation.toRiskObservationCore
        ≠ observationCore facility.toFacilityStateCore observation.observedAt ∨
      hashId (.tradingFacilityRiskObservation observation.toRiskObservationCore)
        ≠ observation.observationHash)
    "Facility risk observation is incomplete"

/-- The facility is the one that the caller has seen. -/
def assertExpectedFacility (facility : TradingFacility H) (expectedStateHash : H)
    (expectedVersion : ℕ) : Domain Unit := do
  assertFacility hashId facility
  exactVersion "Facility" facility.version expectedVersion
  unavailable (facility.stateHash ≠ expectedStateHash) "Facility state changed"

/-- `updateFacilityState`, with the state that the changes lead to. -/
def updateFacilityState (facility : TradingFacility H) (changed : FacilityStateCore H) (now : ℕ) :
    Domain (TradingFacility H) := do
  let next := sealFacility hashId facility.core
    { changed with version := facility.version + 1, updatedAt := now } now
  assertFacility hashId next
  pure next

/-- `assertFacilityDeadline` -/
def assertFacilityDeadline (deadline now : ℕ) : Domain Unit :=
  unavailable (deadline ≤ now) "Facility deadline elapsed"

/-! ## Opening a facility -/

/-- `assertBilateralProposal` -/
def assertBilateralProposal (proposal : MatchProposal H) (now : ℕ) (enforceDeadline : Bool) :
    Domain Unit := do
  unavailable (proposal.status ≠ .bilaterallyAccepted ∨ proposal.version ≠ 3 ∨
      proposal.providerAccepted = false ∨ proposal.subjectAccepted = false)
    "A bilaterally accepted no-funds Match Proposal is required"
  unavailable (enforceDeadline = true ∧ proposal.expiresAt ≤ now)
    "Match Proposal activation window expired"

/-- `assertCanonicalObligation` -/
def assertCanonicalObligation (obligation : CanonicalObligation H) (proposal : MatchProposal H)
    (requireExecuted : Bool) : Domain Unit := do
  unavailable (obligation.subjectId ≠ proposal.subjectId ∨
      obligation.principalId ≠ proposal.principalId ∨
      obligation.assetId ≠ proposal.terms.assetId ∨
      obligation.originalPrincipalMinor ≠ proposal.terms.syntheticPrincipalMinor ∨
      obligation.sandboxOnly ≠ true ∨ obligation.productionFundsMoved ≠ false)
    "Canonical Obligation does not match the accepted proposal"
  identifier "obligationId" obligation.obligationId
  unavailable (requireExecuted = true ∧ (obligation.executionStatus ≠ .executed ∨
      obligation.status ≠ .active ∨ obligation.withdrawable ≠ some false ∨
      obligation.totalRepaidMinor ≠ 0 ∨
      obligation.outstandingPrincipalMinor ≠ obligation.originalPrincipalMinor))
    "Canonical Obligation must be active, unrepaid, and non-withdrawable"

/-- A tenth of the principal, and at least `1`. -/
def requiredSubjectCollateral (principal : ℤ) : ℤ :=
  let required := principal * subjectCollateralBps / bpsDenominator
  if 0 < required then required else 1

/-- `createTradingFacility`; `tradingFacilityId` is what `createOperationalId` returns. -/
def createTradingFacility (tradingFacilityId : String) (matchProposal : MatchProposal H)
    (obligation : CanonicalObligation H) (createdByActorId : String) (now : ℕ) :
    Domain (TradingFacility H) := do
  assertBilateralProposal matchProposal now true
  assertCanonicalObligation obligation matchProposal false
  let creatorHash ← actorHash hashId createdByActorId
  unavailable (creatorHash ≠ matchProposal.subjectActorHash)
  let principal := matchProposal.terms.syntheticPrincipalMinor
  positiveMinor "syntheticPrincipalMinor" principal
  let core : FacilityCore H :=
    { matchProposalId := matchProposal.tradingMatchProposalId
      proposalHash := matchProposal.proposalHash
      obligationId := obligation.obligationId
      obligationHash := obligation.obligationHash
      subjectId := matchProposal.subjectId
      principalId := matchProposal.principalId
      providerId := matchProposal.providerId
      subjectActorHash := matchProposal.subjectActorHash
      providerActorHash := matchProposal.providerActorHash
      templateType := matchProposal.terms.templateType
      termsHash := matchProposal.terms.termsHash
      assetId := matchProposal.terms.assetId
      syntheticPrincipalMinor := principal
      requiredSubjectCollateralMinor := requiredSubjectCollateral principal
      requiredProviderFundingMinor := principal
      activationDeadlineAt := matchProposal.expiresAt
      maturityAt := obligation.maturityAt }
  let facility := sealFacility hashId core
    { tradingFacilityId
      facilityHash := hashId (.tradingFacility core)
      lifecycleStatus := .awaitingContributions
      riskState := .normal
      riskReasonCodes := ["synthetic_facility_created"]
      subjectCollateralMinor := 0
      providerFundingMinor := 0
      syntheticCapitalMinor := 0
      syntheticExposureMinor := 0
      syntheticEquityMinor := 0
      openOrderCount := 0
      subjectCollateralRecorded := false
      providerFundingRecorded := false
      latestRiskEvaluation := none
      version := 1
      activatedAt := none
      flattenedAt := none
      updatedAt := now } now
  assertFacility hashId facility
  pure facility

/-- What every operation on a facility is given. -/
structure Expected (H : Type) where
  actorId : String
  expectedStateHash : H
  expectedVersion : ℕ
  now : ℕ

/-- The subject puts its collateral in, the exact amount. -/
def contributeTradingSubjectCollateral (facility : TradingFacility H) (amountMinor : ℤ)
    (input : Expected H) : Domain (TradingFacility H) := do
  assertExpectedFacility hashId facility input.expectedStateHash input.expectedVersion
  assertFacilityDeadline facility.core.activationDeadlineAt input.now
  let contributor ← actorHash hashId input.actorId
  unavailable (contributor ≠ facility.core.subjectActorHash ∨
    facility.subjectCollateralRecorded = true ∨ facility.lifecycleStatus = .active ∨
    facility.lifecycleStatus = .flattened)
  positiveMinor "amountMinor" amountMinor
  unavailable (amountMinor ≠ facility.core.requiredSubjectCollateralMinor)
    "Subject collateral must match the exact synthetic requirement"
  let syntheticCapitalMinor := amountMinor + facility.providerFundingMinor
  updateFacilityState hashId facility
    { facility.toFacilityStateCore with
      subjectCollateralMinor := amountMinor
      subjectCollateralRecorded := true
      syntheticCapitalMinor
      syntheticEquityMinor := syntheticCapitalMinor
      lifecycleStatus := facilityLifecycle true facility.providerFundingRecorded
      riskReasonCodes := ["synthetic_subject_collateral_recorded"] } input.now

/-- The provider puts its funding in, the exact amount. -/
def recordTradingProviderFunding (facility : TradingFacility H) (amountMinor : ℤ)
    (input : Expected H) : Domain (TradingFacility H) := do
  assertExpectedFacility hashId facility input.expectedStateHash input.expectedVersion
  assertFacilityDeadline facility.core.activationDeadlineAt input.now
  let funder ← actorHash hashId input.actorId
  unavailable (funder ≠ facility.core.providerActorHash ∨
    facility.providerFundingRecorded = true ∨ facility.lifecycleStatus = .active ∨
    facility.lifecycleStatus = .flattened)
  positiveMinor "amountMinor" amountMinor
  unavailable (amountMinor ≠ facility.core.requiredProviderFundingMinor)
    "Provider funding must match the exact synthetic requirement"
  let syntheticCapitalMinor := amountMinor + facility.subjectCollateralMinor
  updateFacilityState hashId facility
    { facility.toFacilityStateCore with
      providerFundingMinor := amountMinor
      providerFundingRecorded := true
      syntheticCapitalMinor
      syntheticEquityMinor := syntheticCapitalMinor
      lifecycleStatus := facilityLifecycle facility.subjectCollateralRecorded true
      riskReasonCodes := ["synthetic_provider_funding_recorded"] } input.now

/-- The subject activates a facility that has both contributions. -/
def activateTradingFacility (facility : TradingFacility H) (matchProposal : MatchProposal H)
    (obligation : CanonicalObligation H) (input : Expected H) : Domain (TradingFacility H) := do
  assertExpectedFacility hashId facility input.expectedStateHash input.expectedVersion
  assertFacilityDeadline facility.core.activationDeadlineAt input.now
  assertBilateralProposal matchProposal input.now false
  assertCanonicalObligation obligation matchProposal true
  let activator ← actorHash hashId input.actorId
  unavailable (facility.lifecycleStatus ≠ .readyForActivation ∨
      facility.subjectCollateralMinor ≠ facility.core.requiredSubjectCollateralMinor ∨
      facility.providerFundingMinor ≠ facility.core.requiredProviderFundingMinor ∨
      facility.core.matchProposalId ≠ matchProposal.tradingMatchProposalId ∨
      facility.core.proposalHash ≠ matchProposal.proposalHash ∨
      facility.core.obligationId ≠ obligation.obligationId ∨
      facility.core.obligationHash ≠ obligation.obligationHash ∨
      activator ≠ facility.core.subjectActorHash)
    "Facility activation prerequisites are not current"
  updateFacilityState hashId facility
    { facility.toFacilityStateCore with
      lifecycleStatus := .active
      riskState := .normal
      riskReasonCodes := ["synthetic_facility_activated"]
      activatedAt := some input.now } input.now

/-! ## Orders -/

/-- The order with the hash of its state. -/
def sealOrder (core : OrderIntentCore H) (state : OrderIntentStateCore H) : TradingOrderIntent H :=
  { state with core, orderStateHash := hashId (.tradingOrderIntentState state) }

/-- The checks on an order, its hashes included. -/
def assertOrderIntent (order : TradingOrderIntent H) : Domain Unit := do
  unavailable (¬ isSafeInteger order.version ∨ order.version < 1) "Order Intent is unavailable"
  identifier "tradingOrderIntentId" order.tradingOrderIntentId
  positiveMinor "syntheticNotionalMinor" order.core.syntheticNotionalMinor
  unavailable (hashId (.tradingOrderIntent order.core) ≠ order.orderIntentHash ∨
      hashId (.tradingOrderIntentState order.toOrderIntentStateCore) ≠ order.orderStateHash)
    "Order Intent binding changed"

/-- `updateOrderState`, with the state that the changes lead to. -/
def updateOrderState (order : TradingOrderIntent H) (changed : OrderIntentStateCore H) (now : ℕ) :
    Domain (TradingOrderIntent H) := do
  let next := sealOrder hashId order.core
    { changed with version := order.version + 1, updatedAt := now }
  assertOrderIntent hashId next
  pure next

/-- `submitTradingOrderIntent`; `tradingOrderIntentId` is what `createOperationalId` returns. -/
def submitTradingOrderIntent (facility : TradingFacility H) (tradingOrderIntentId : String)
    (direction : TradingOrderDirection) (syntheticNotionalMinor : ℤ) (input : Expected H) :
    Domain (TradingFacility H × TradingOrderIntent H) := do
  assertExpectedFacility hashId facility input.expectedStateHash input.expectedVersion
  assertFacilityDeadline facility.core.maturityAt input.now
  let submittedByActorHash ← actorHash hashId input.actorId
  unavailable (facility.lifecycleStatus ≠ .active ∨
      facility.riskState ∉ [.normal, .warning] ∨
      submittedByActorHash ≠ facility.core.subjectActorHash ∨
      maxOpenOrders ≤ facility.openOrderCount)
    "Facility does not admit new synthetic risk"
  positiveMinor "syntheticNotionalMinor" syntheticNotionalMinor
  unavailable (facility.syntheticEquityMinor < syntheticNotionalMinor)
    "Synthetic notional exceeds Facility equity"
  let core : OrderIntentCore H :=
    { facilityId := facility.tradingFacilityId
      facilityHash := facility.facilityHash
      subjectId := facility.core.subjectId
      principalId := facility.core.principalId
      submittedByActorHash
      direction
      syntheticNotionalMinor
      createdAt := input.now }
  let order := sealOrder hashId core
    { tradingOrderIntentId
      orderIntentHash := hashId (.tradingOrderIntent core)
      status := .opened
      version := 1
      cancelReasonCode := none
      canceledAt := none
      flattenedAt := none
      updatedAt := input.now }
  assertOrderIntent hashId order
  let syntheticExposureMinor := facility.syntheticExposureMinor + syntheticNotionalMinor
  let updated ← updateFacilityState hashId facility
    { facility.toFacilityStateCore with
      syntheticExposureMinor
      syntheticEquityMinor := facility.syntheticCapitalMinor - syntheticExposureMinor
      openOrderCount := facility.openOrderCount + 1
      riskReasonCodes := ["synthetic_order_intent_open"] } input.now
  pure (updated, order)

/-- The subject cancels the order that is passed, and takes its notional off the exposure. -/
def cancelTradingOrderIntent (facility : TradingFacility H) (order : TradingOrderIntent H)
    (expectedOrderIntentHash : H) (expectedOrderVersion : ℕ) (input : Expected H) :
    Domain (TradingFacility H × TradingOrderIntent H) := do
  assertExpectedFacility hashId facility input.expectedStateHash input.expectedVersion
  assertOrderIntent hashId order
  exactVersion "Order Intent" order.version expectedOrderVersion
  let canceler ← actorHash hashId input.actorId
  unavailable (expectedOrderIntentHash ≠ order.orderIntentHash ∨ order.status ≠ .opened ∨
    order.core.facilityId ≠ facility.tradingFacilityId ∨
    canceler ≠ facility.core.subjectActorHash)
  let syntheticExposureMinor :=
    facility.syntheticExposureMinor - order.core.syntheticNotionalMinor
  unavailable (syntheticExposureMinor < 0) "Order exposure exceeds Facility exposure"
  let updatedOrder ← updateOrderState hashId order
    { order.toOrderIntentStateCore with
      status := .canceled
      cancelReasonCode := some "subject_canceled_synthetic_intent"
      canceledAt := some input.now } input.now
  let updated ← updateFacilityState hashId facility
    { facility.toFacilityStateCore with
      syntheticExposureMinor
      syntheticEquityMinor := facility.syntheticCapitalMinor - syntheticExposureMinor
      openOrderCount := facility.openOrderCount - 1
      riskReasonCodes := ["synthetic_order_intent_canceled"] } input.now
  pure (updated, updatedOrder)

/-! ## Risk -/

/-- What `riskTarget` returns. -/
structure RiskTarget where
  targetState : TradingFacilityRiskState
  freshness : String
  reasonCodes : List String

/-- How much of the capital is exposed. -/
def utilizationBps (facility : FacilityStateCore H) : ℤ :=
  (facility.syntheticExposureMinor * bpsDenominator).tdiv facility.syntheticCapitalMinor

/-- The risk state that the observation of a facility calls for at `now`. -/
def riskTarget (facility : TradingFacility H) (now : ℕ) : RiskTarget :=
  let observedAt := facility.riskObservation.observedAt
  if now < observedAt ∨ localObservationMaxAgeMs < now - observedAt then
    { targetState := .reduceOnly, freshness := "stale", reasonCodes := ["risk_observation_stale"] }
  else if facility.syntheticCapitalMinor ≤ 0 then
    { targetState := .reduceOnly, freshness := "unknown"
      reasonCodes := ["synthetic_capital_unavailable"] }
  else if 10000 ≤ utilizationBps facility.toFacilityStateCore then
    { targetState := .flatten, freshness := "fresh", reasonCodes := ["synthetic_exposure_at_cap"] }
  else if 7500 < utilizationBps facility.toFacilityStateCore then
    { targetState := .reduceOnly, freshness := "fresh", reasonCodes := ["synthetic_exposure_high"] }
  else if 5000 < utilizationBps facility.toFacilityStateCore then
    { targetState := .warning, freshness := "fresh"
      reasonCodes := ["synthetic_exposure_elevated"] }
  else
    { targetState := .normal, freshness := "fresh"
      reasonCodes := ["synthetic_exposure_within_envelope"] }

/-- `evaluateTradingFacilityRisk`, without the evaluation it returns beside the facility. -/
def evaluateTradingFacilityRisk (facility : TradingFacility H) (riskEvaluationId : String)
    (input : Expected H) : Domain (TradingFacility H) := do
  assertExpectedFacility hashId facility input.expectedStateHash input.expectedVersion
  unavailable (facility.lifecycleStatus ≠ .active) "Only an active Facility can be risk-evaluated"
  let evaluatorActorHash ← actorHash hashId input.actorId
  let target := riskTarget facility input.now
  let nextRiskState := mostRestrictiveRiskState facility.riskState target.targetState
  let evaluationHash := hashId (.tradingFacilityRiskEvaluation
    { facilityId := facility.tradingFacilityId
      facilityHash := facility.facilityHash
      facilityVersionBefore := facility.version
      facilityStateHashBefore := facility.stateHash
      observationHash := facility.riskObservation.observationHash
      previousRiskState := facility.riskState
      evaluatedRiskState := nextRiskState
      freshness := target.freshness
      reasonCodes := target.reasonCodes
      syntheticCapitalMinor := facility.syntheticCapitalMinor
      syntheticExposureMinor := facility.syntheticExposureMinor
      syntheticEquityMinor := facility.syntheticEquityMinor
      utilizationBps := if facility.syntheticCapitalMinor = 0 then 0
        else utilizationBps facility.toFacilityStateCore
      evaluatorActorHash
      evaluatedAt := input.now })
  updateFacilityState hashId facility
    { facility.toFacilityStateCore with
      riskState := nextRiskState
      riskReasonCodes := target.reasonCodes
      latestRiskEvaluation := some (riskEvaluationId, evaluationHash) } input.now

/-- No new orders from now on. -/
def pauseTradingFacilityNewRisk (facility : TradingFacility H) (reasonCode : String)
    (input : Expected H) : Domain (TradingFacility H) := do
  assertExpectedFacility hashId facility input.expectedStateHash input.expectedVersion
  identifier "reasonCode" reasonCode
  let _ ← actorHash hashId input.actorId
  unavailable (facility.lifecycleStatus ≠ .active ∨ facility.riskState ∈ [.flatten, .settlement])
  updateFacilityState hashId facility
    { facility.toFacilityStateCore with
      riskState := mostRestrictiveRiskState facility.riskState .reduceOnly
      riskReasonCodes := ["protective_pause:" ++ reasonCode] } input.now

/-- The body of the loop of `flattenTradingFacility`, with what it has seen. -/
def flattenOrder (facility : TradingFacility H) (reasonCode : String) (now : ℕ)
    (seen : List String) (order : TradingOrderIntent H) : Domain (TradingOrderIntent H) := do
  assertOrderIntent hashId order
  unavailable (order.core.facilityId ≠ facility.tradingFacilityId ∨ order.status ≠ .opened ∨
      order.tradingOrderIntentId ∈ seen)
    "Open Order Intent set is inconsistent"
  updateOrderState hashId order
    { order.toOrderIntentStateCore with
      status := .flattened
      cancelReasonCode := some ("protective_flatten:" ++ reasonCode)
      flattenedAt := some now } now

/-- The loop of `flattenTradingFacility`. -/
def flattenOrders (facility : TradingFacility H) (reasonCode : String) (now : ℕ) :
    List String → List (TradingOrderIntent H) → Domain (List (TradingOrderIntent H))
  | _, [] => pure []
  | seen, order :: rest => do
    let flattened ← flattenOrder hashId facility reasonCode now seen order
    let others ← flattenOrders facility reasonCode now (order.tradingOrderIntentId :: seen) rest
    pure (flattened :: others)

/-- Flattens the open orders that are passed, which have to make up the exposure. -/
def flattenTradingFacility (facility : TradingFacility H)
    (openOrderIntents : List (TradingOrderIntent H)) (reasonCode : String) (input : Expected H) :
    Domain (TradingFacility H × List (TradingOrderIntent H)) := do
  assertExpectedFacility hashId facility input.expectedStateHash input.expectedVersion
  identifier "reasonCode" reasonCode
  let _ ← actorHash hashId input.actorId
  unavailable (facility.lifecycleStatus ≠ .active ∨ facility.riskState ∈ [.flatten, .settlement] ∨
    (openOrderIntents.length : ℤ) ≠ facility.openOrderCount ∨
    maxOpenOrders < openOrderIntents.length)
  let flattenedOrders ← flattenOrders hashId facility reasonCode input.now [] openOrderIntents
  let totalOpenExposure := (openOrderIntents.map (·.core.syntheticNotionalMinor)).sum
  unavailable (totalOpenExposure ≠ facility.syntheticExposureMinor)
    "Open Order Intent exposure does not reconcile"
  let updated ← updateFacilityState hashId facility
    { facility.toFacilityStateCore with
      lifecycleStatus := .flattened
      riskState := .flatten
      riskReasonCodes := ["protective_flatten:" ++ reasonCode]
      syntheticExposureMinor := 0
      syntheticEquityMinor := facility.syntheticCapitalMinor
      openOrderCount := 0
      flattenedAt := some input.now } input.now
  pure (updated, flattenedOrders)

/-! ## Settlement -/

/-- Settles a flattened facility that holds what was contributed. -/
def settleTradingFacility (facility : TradingFacility H) (input : Expected H) :
    Domain (TradingFacility H) := do
  assertExpectedFacility hashId facility input.expectedStateHash input.expectedVersion
  let _ ← actorHash hashId input.actorId
  unavailable (facility.lifecycleStatus ≠ .flattened ∨ facility.riskState ≠ .flatten ∨
      facility.openOrderCount ≠ 0 ∨ facility.syntheticExposureMinor ≠ 0 ∨
      facility.syntheticEquityMinor ≠ facility.syntheticCapitalMinor ∨
      facility.subjectCollateralRecorded = false ∨ facility.providerFundingRecorded = false ∨
      facility.subjectCollateralMinor + facility.providerFundingMinor
        ≠ facility.syntheticCapitalMinor)
    "Facility is not ready for deterministic settlement"
  updateFacilityState hashId facility
    { facility.toFacilityStateCore with
      riskState := .settlement
      riskReasonCodes := ["synthetic_settlement_finalized"] } input.now

end Facility

end Trading
end IpoOne
