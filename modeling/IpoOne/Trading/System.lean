import IpoOne.Trading.Facility
import IpoOne.Lib.Run

/-!
# A facility, its orders and its settlement

`trading-capital-settlement.js`, and the commands of the gateway that act on a facility.  The
gateway reads the records an operation is about from its store and writes what the operation returns
in one transaction, so an operation always sees the current facility and the current orders; an
operation that throws changes nothing.

`cancelTradingOrderIntent` and `flattenTradingFacility` take whatever snapshot of an order they are
handed (`cancelSnapshot`, `flattenSnapshots`); the gateway hands them the records it has just read,
and so does `operate`.  The orders a facility is flattened with are named by the caller, and a
facility may be asked to close any number of times.  The gateway names the orders that are open, and
admits one close request.
-/

set_option autoImplicit false

namespace IpoOne
namespace Trading

open Fallible

/-- A close request with its hash. -/
structure CloseRequest (H : Type) extends CloseRequestCore H where
  tradingFacilityCloseRequestId : String
  requestHash : H
  deriving DecidableEq

/-- A settlement with its hash. -/
structure Settlement (H : Type) extends SettlementCore H where
  tradingSettlementId : String
  settlementHash : H
  deriving DecidableEq

section Settlement

variable {H : Type} [DecidableEq H] (hashId : TradingPreimage H → H)

/-- `if (c) unavailable(message)` of `trading-capital-settlement.js` -/
def settlementUnavailable (c : Prop) [Decidable c] (message : String) : Domain Unit :=
  throwIf c "trading_settlement_unavailable" message

@[simp] theorem settlementUnavailable_eq_ok {c : Prop} [Decidable c] {message : String} {u : Unit} :
    settlementUnavailable c message = .ok u ↔ ¬ c :=
  throwIf_eq_ok

/-- `identifier` of `trading-capital-settlement.js` -/
def settlementIdentifier (name value : String) : Domain Unit :=
  throwIf (matchesIdentifierPattern value = false) "invalid_trading_settlement"
    (name ++ " is invalid")

/-- `actorHash` of `trading-capital-settlement.js` -/
def settlementActorHash (actorId : String) : Domain H := do
  settlementIdentifier "actorId" actorId
  pure (hashId (.actor actorId))

/-- The hash of a close request is that of its fields. -/
def assertCloseRequest (value : CloseRequest H) : Domain Unit := do
  settlementIdentifier "tradingFacilityCloseRequestId" value.tradingFacilityCloseRequestId
  settlementUnavailable
    (hashId (.tradingFacilityCloseRequest value.toCloseRequestCore) ≠ value.requestHash)
    "Facility close request binding changed"

/-- The checks on a settlement: who gets what adds up, and the hash is that of the fields. -/
def assertSettlement (value : Settlement H) : Domain Unit := do
  settlementUnavailable (value.realizedPnlMinor ≠ 0 ∨ value.venueCostMinor ≠ 0 ∨
      value.closingCostMinor ≠ 0 ∨ value.fixedReturnMinor ≠ 0 ∨
      value.performanceParticipationMinor ≠ 0 ∨ value.ipoOneFeeMinor ≠ 0 ∨
      value.subjectReturnMinor + value.providerPrincipalReturnMinor ≠ value.totalAllocatedMinor ∨
      value.totalAllocatedMinor ≠ value.finalSyntheticEquityMinor ∨
      value.subjectReturnMinor ≠ value.subjectContributionMinor ∨
      value.providerPrincipalReturnMinor ≠ value.providerContributionMinor)
    "Settlement conservation proof is unavailable"
  settlementIdentifier "tradingSettlementId" value.tradingSettlementId
  settlementUnavailable (hashId (.tradingSettlement value.toSettlementCore) ≠ value.settlementHash)
    "Settlement binding changed"

/-- `assertCanonicalObligation` of `trading-capital-settlement.js` -/
def assertObligationBinding (obligation : CanonicalObligation H) (facility : TradingFacility H) :
    Domain Unit :=
  settlementUnavailable (obligation.obligationId ≠ facility.core.obligationId ∨
      obligation.obligationHash ≠ facility.core.obligationHash ∨
      obligation.subjectId ≠ facility.core.subjectId ∨
      obligation.principalId ≠ facility.core.principalId ∨
      obligation.assetId ≠ facility.core.assetId ∨ obligation.sandboxOnly ≠ true ∨
      obligation.productionFundsMoved ≠ false)
    "Canonical Obligation binding changed"

/-- `requestTradingFacilityClose`; the identifier is what `createOperationalId` returns. -/
def requestTradingFacilityClose (facility : TradingFacility H)
    (tradingFacilityCloseRequestId : String) (input : Expected H) : Domain (CloseRequest H) := do
  assertFacility hashId facility
  let requestedByActorHash ← settlementActorHash hashId input.actorId
  settlementUnavailable (facility.stateHash ≠ input.expectedStateHash ∨
      facility.version ≠ input.expectedVersion ∨ facility.lifecycleStatus ≠ .flattened ∨
      facility.riskState ≠ .flatten ∨ facility.openOrderCount ≠ 0 ∨
      facility.syntheticExposureMinor ≠ 0 ∨
      facility.syntheticEquityMinor ≠ facility.syntheticCapitalMinor ∨
      requestedByActorHash ≠ facility.core.subjectActorHash)
    "Facility cannot accept a close request"
  let core : CloseRequestCore H :=
    { facilityId := facility.tradingFacilityId
      facilityHash := facility.facilityHash
      facilityStateHash := facility.stateHash
      facilityVersion := facility.version
      obligationId := facility.core.obligationId
      obligationHash := facility.core.obligationHash
      subjectId := facility.core.subjectId
      principalId := facility.core.principalId
      providerId := facility.core.providerId
      subjectActorHash := facility.core.subjectActorHash
      providerActorHash := facility.core.providerActorHash
      requestedByActorHash
      requestedAt := input.now }
  let request : CloseRequest H :=
    { core with
      tradingFacilityCloseRequestId
      requestHash := hashId (.tradingFacilityCloseRequest core) }
  assertCloseRequest hashId request
  pure request

/-- What a settlement allocates: to each what they put in. -/
def settlementOf (facility next : TradingFacility H) (closeRequest : CloseRequest H)
    (settledByActorHash : H) (settledAt : ℕ) : SettlementCore H where
  closeRequestId := closeRequest.tradingFacilityCloseRequestId
  closeRequestHash := closeRequest.requestHash
  facilityId := facility.tradingFacilityId
  facilityHash := facility.facilityHash
  facilityStateHashBefore := facility.stateHash
  facilityVersionBefore := facility.version
  facilityStateHashAfter := next.stateHash
  facilityVersionAfter := next.version
  obligationId := facility.core.obligationId
  obligationHash := facility.core.obligationHash
  subjectId := facility.core.subjectId
  principalId := facility.core.principalId
  providerId := facility.core.providerId
  assetId := facility.core.assetId
  finalSyntheticEquityMinor := facility.syntheticEquityMinor
  subjectContributionMinor := facility.subjectCollateralMinor
  providerContributionMinor := facility.providerFundingMinor
  subjectReturnMinor := facility.subjectCollateralMinor
  providerPrincipalReturnMinor := facility.providerFundingMinor
  realizedPnlMinor := 0
  venueCostMinor := 0
  closingCostMinor := 0
  fixedReturnMinor := 0
  performanceParticipationMinor := 0
  ipoOneFeeMinor := 0
  totalAllocatedMinor := facility.subjectCollateralMinor + facility.providerFundingMinor
  settledByActorHash
  settledAt

/-- `runTradingSettlement`; the identifier is what `createOperationalId` returns. -/
def runTradingSettlement (facility : TradingFacility H) (closeRequest : CloseRequest H)
    (obligation : CanonicalObligation H) (expectedCloseRequestHash : H)
    (tradingSettlementId : String) (input : Expected H) :
    Domain (TradingFacility H × Settlement H) := do
  assertFacility hashId facility
  assertCloseRequest hashId closeRequest
  assertObligationBinding obligation facility
  settlementUnavailable (closeRequest.requestHash ≠ expectedCloseRequestHash ∨
      closeRequest.facilityId ≠ facility.tradingFacilityId ∨
      closeRequest.facilityHash ≠ facility.facilityHash ∨
      closeRequest.facilityStateHash ≠ facility.stateHash ∨
      closeRequest.facilityVersion ≠ facility.version ∨
      closeRequest.obligationId ≠ obligation.obligationId)
    "Close request or Facility changed before settlement"
  let next ← settleTradingFacility hashId facility input
  settlementUnavailable (facility.subjectCollateralMinor + facility.providerFundingMinor
        ≠ facility.syntheticEquityMinor ∨
      facility.syntheticEquityMinor ≠ facility.syntheticCapitalMinor)
    "Synthetic settlement does not conserve Facility equity"
  let settledByActorHash ← settlementActorHash hashId input.actorId
  let core := settlementOf facility next closeRequest settledByActorHash input.now
  let settlement : Settlement H :=
    { core with tradingSettlementId, settlementHash := hashId (.tradingSettlement core) }
  assertSettlement hashId settlement
  pure (next, settlement)

end Settlement

/-! ## The store -/

/-- What the core repository holds about a facility. -/
structure TradingState (H : Type) where
  facility : TradingFacility H
  orders : List (TradingOrderIntent H)
  closeRequests : List (CloseRequest H)
  settlements : List (Settlement H)

/-- The operations on a facility.  A new record comes with the identifier it is given. -/
inductive TradingCommand (H : Type) where
  | contribute (amountMinor : ℤ)
  | fund (amountMinor : ℤ)
  | activate (matchProposal : MatchProposal H) (obligation : CanonicalObligation H)
  | submit (tradingOrderIntentId : String) (direction : TradingOrderDirection)
      (syntheticNotionalMinor : ℤ)
  | cancel (tradingOrderIntentId : String) (expectedOrderIntentHash : H)
      (expectedOrderVersion : ℕ)
  | evaluate (riskEvaluationId : String)
  | pause (reasonCode : String)
  | flatten (orderIds : List String) (reasonCode : String)
  | close (closeRequestId : String)
  | settle (closeRequestId : String) (obligation : CanonicalObligation H)
      (expectedCloseRequestHash : H) (tradingSettlementId : String)

/-- A command, and the facility that its caller has seen. -/
structure TradingInput (H : Type) where
  expected : Expected H
  command : TradingCommand H

/-- A record the store does not have. -/
def notFound : DomainError where
  code := "tenant_resource_unavailable"
  message := "The requested resource is not available."

section Store

variable {H : Type} [DecidableEq H] (hashId : TradingPreimage H → H)

/-- The stored order of this name. -/
def findOrder (orders : List (TradingOrderIntent H)) (id : String) :
    Domain (TradingOrderIntent H) :=
  match orders.find? fun order ↦ order.tradingOrderIntentId = id with
  | some order => .ok order
  | none => .error notFound

/-- The stored close request of this name. -/
def findCloseRequest (requests : List (CloseRequest H)) (id : String) :
    Domain (CloseRequest H) :=
  match requests.find? fun request ↦ request.tradingFacilityCloseRequestId = id with
  | some request => .ok request
  | none => .error notFound

/-- Write an order over the one with its identifier. -/
def writeOrder (orders : List (TradingOrderIntent H)) (order : TradingOrderIntent H) :
    List (TradingOrderIntent H) :=
  orders.map fun other ↦
    if other.tradingOrderIntentId = order.tradingOrderIntentId then order else other

/-- Cancel `order`, the snapshot of an order that the caller passes.  Nothing compares it with the
record of the store. -/
def cancelSnapshot (s : TradingState H) (order : TradingOrderIntent H) (expectedOrderIntentHash : H)
    (expectedOrderVersion : ℕ) (input : Expected H) : Domain (TradingState H) := do
  let (facility, order) ← cancelTradingOrderIntent hashId s.facility order expectedOrderIntentHash
    expectedOrderVersion input
  pure { s with facility, orders := writeOrder s.orders order }

/-- Flatten with `openOrderIntents`, the snapshots of the open orders that the caller passes. -/
def flattenSnapshots (s : TradingState H) (openOrderIntents : List (TradingOrderIntent H))
    (reasonCode : String) (input : Expected H) : Domain (TradingState H) := do
  let (facility, flattened) ← flattenTradingFacility hashId s.facility openOrderIntents reasonCode
    input
  pure { s with facility, orders := flattened.foldl writeOrder s.orders }

/-- The state after an operation that is accepted.  The orders are passed as the store has them. -/
def operate (s : TradingState H) (input : Expected H) : TradingCommand H → Domain (TradingState H)
  | .contribute amountMinor => do
    let facility ← contributeTradingSubjectCollateral hashId s.facility amountMinor input
    pure { s with facility }
  | .fund amountMinor => do
    let facility ← recordTradingProviderFunding hashId s.facility amountMinor input
    pure { s with facility }
  | .activate matchProposal obligation => do
    let facility ← activateTradingFacility hashId s.facility matchProposal obligation input
    pure { s with facility }
  | .submit tradingOrderIntentId direction syntheticNotionalMinor => do
    -- the store has no second record with one identifier
    failIf (s.orders.any (fun order ↦ order.tradingOrderIntentId = tradingOrderIntentId) = true)
      notFound
    let (facility, order) ← submitTradingOrderIntent hashId s.facility tradingOrderIntentId
      direction syntheticNotionalMinor input
    pure { s with facility, orders := s.orders ++ [order] }
  | .cancel tradingOrderIntentId expectedOrderIntentHash expectedOrderVersion => do
    let order ← findOrder s.orders tradingOrderIntentId
    cancelSnapshot hashId s order expectedOrderIntentHash expectedOrderVersion input
  | .evaluate riskEvaluationId => do
    let facility ← evaluateTradingFacilityRisk hashId s.facility riskEvaluationId input
    pure { s with facility }
  | .pause reasonCode => do
    let facility ← pauseTradingFacilityNewRisk hashId s.facility reasonCode input
    pure { s with facility }
  | .flatten orderIds reasonCode => do
    let openOrderIntents ← orderIds.mapM (findOrder s.orders)
    flattenSnapshots hashId s openOrderIntents reasonCode input
  | .close closeRequestId => do
    failIf (s.closeRequests.any (fun request ↦
      request.tradingFacilityCloseRequestId = closeRequestId) = true) notFound
    let request ← requestTradingFacilityClose hashId s.facility closeRequestId input
    pure { s with closeRequests := s.closeRequests ++ [request] }
  | .settle closeRequestId obligation expectedCloseRequestHash tradingSettlementId => do
    let request ← findCloseRequest s.closeRequests closeRequestId
    let (facility, settlement) ← runTradingSettlement hashId s.facility request obligation
      expectedCloseRequestHash tradingSettlementId input
    pure { s with facility, settlements := s.settlements ++ [settlement] }

/-- An operation is carried out, or refused and nothing changes. -/
def tradingStep (s : TradingState H) (input : TradingInput H) : TradingState H :=
  match operate hashId s input.expected input.command with
  | .ok s' => s'
  | .error _ => s

end Store

end Trading
end IpoOne
