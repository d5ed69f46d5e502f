import IpoOne.Reconciliation.Record
import Mathlib

/-!
# Risk snapshots and the protective plan

`hyperliquid-risk-guardian`, up to the draft of a protective control: a venue state says how fresh
its observation was at the receipt, a risk snapshot restricts the evaluated state by it, and the
admission and the protective plan read the snapshot.

* `createVenueState_ok` and `createRiskSnapshot_ok` — what was checked of the inputs, and the record
  that they give.
* `assertRiskSnapshot_created` — a created snapshot is only refused for the number of its reasons.

A hash is a value of the arbitrary type `H`, and so is the digest inside an `actionId`; times are
milliseconds.  The flags that are the same in every record are left out.
-/

set_option autoImplicit false

namespace IpoOne
namespace RiskGuardian

open Fallible
open Reconciliation (ActionKind RiskState riskRank iso)

/-- How current an observation is. -/
inductive HyperliquidRiskFreshness where
  | fresh
  | stale
  | unknown
  deriving DecidableEq, Repr

/-- Whether writes to the venue are accounted for. -/
inductive HyperliquidExternalWriteState where
  | reconciled
  | unknown
  deriving DecidableEq, Repr

/-- The side of a position. -/
inductive PositionSide where
  | long
  | short
  deriving DecidableEq, Repr

/-- The side of an order. -/
inductive OrderSide where
  | buy
  | sell
  deriving DecidableEq, Repr

/-- `HYPERLIQUID_TESTNET_RISK_POLICY_VERSION` -/
def riskPolicyVersionFixture : String := "hyperliquid_testnet_risk_simulation_fixture.v1"

/-- `MAX_OPEN_ORDERS` -/
def maxOpenOrders : ℕ := 50

/-- `MAX_POSITIONS` -/
def maxPositions : ℕ := 20

/-- `MAX_PROTECTIVE_ACTIONS` -/
def maxProtectiveActions : ℕ := maxOpenOrders + maxPositions + 1

/-- `MAX_SIMULATION_FIXTURE_AGE_MS` -/
def maxSimulationFixtureAgeMs : ℕ := 10 * 60 * 1000

/-! ## Values -/

/-- `fail("invalid_hyperliquid_risk_guardian_input", message)` -/
def invalidInput (c : Prop) [Decidable c] (message : String) : Domain Unit :=
  throwIf c "invalid_hyperliquid_risk_guardian_input" message

/-- `fail("invalid_hyperliquid_venue_state", message)` -/
def invalidVenueState (c : Prop) [Decidable c] (message : String) : Domain Unit :=
  throwIf c "invalid_hyperliquid_venue_state" message

/-- The value is an identifier. -/
def identifier (name value : String) : Domain Unit :=
  invalidInput (Trading.matchesIdentifierPattern value = false) (name ++ " is invalid")

/-- The value is a safe integer above 0. -/
def positiveInteger (name : String) (value : ℕ) : Domain Unit :=
  invalidInput (¬ isSafeInteger value ∨ value < 1) (name ++ " must be a positive safe integer")

/-- The value is a safe integer. -/
def nonNegativeInteger (name : String) (value : ℕ) : Domain Unit :=
  invalidInput (¬ isSafeInteger value) (name ++ " must be a non-negative safe integer")

/-- The texts that `CLOID` matches. -/
def matchesCloidPattern (value : String) : Bool :=
  match value.toList with
  | '0' :: 'x' :: digits =>
    digits.length = 32 && digits.all (fun c ↦ c.isDigit || c ∈ ['a', 'b', 'c', 'd', 'e', 'f'])
  | _ => false

/-- A point and 1 to 18 digits, or nothing. -/
def matchesFractionPattern : List Char → Bool
  | [] => true
  | point :: digits =>
    point = '.' && digits.all Char.isDigit && 1 ≤ digits.length && digits.length ≤ 18

/-- The texts that `DECIMAL` matches: `0.` and digits that are not all zeros, or 1 to 31 digits that
do not begin with a zero, with a fraction. -/
def matchesDecimalPattern (value : String) : Bool :=
  match value.toList with
  | '0' :: '.' :: digits => digits.all Char.isDigit && digits.any (· ≠ '0')
  | first :: rest =>
    first.isDigit && first ≠ '0' && (rest.takeWhile Char.isDigit).length ≤ 30
      && matchesFractionPattern (rest.dropWhile Char.isDigit)
  | [] => false

/-- The value is the text of a positive decimal. -/
def decimal (name value : String) : Domain Unit :=
  invalidInput (matchesDecimalPattern value = false)
    (name ++ " must be a bounded positive decimal string")

/-- The texts that `REASON_CODE` matches. -/
def matchesReasonCodePattern (value : String) : Bool :=
  match value.toList with
  | [] => false
  | first :: rest =>
    (first.isLower || first.isDigit)
      && rest.all (fun c ↦ c.isLower || c.isDigit || c ∈ [':', '_', '-'])
      && rest.length ≤ 127

/-- `timestamp` -/
def timestamp (clock : ℕ) : Domain ℕ := do
  throwIf (¬ isSafeInteger clock ∨ clock < 1) "invalid_hyperliquid_risk_guardian_clock"
    "clock returned an invalid time"
  pure clock

/-- `mostRestrictive` -/
def mostRestrictive (left right : RiskState) : RiskState :=
  if riskRank right ≤ riskRank left then left else right

/-- `normalizeReasonCodes` -/
def normalizeReasonCodes (value : List String) : Domain Unit :=
  invalidInput (value.length < 1 ∨ 5 < value.length ∨ ¬ value.Nodup ∨
      value.any (fun reason ↦ !matchesReasonCodePattern reason) = true)
    "reasonCodes must be a closed unique set"

/-! ## Records -/

/-- An order that stands at the venue. -/
structure OpenOrder where
  assetIndex : ℕ
  orderId : ℕ
  cloid : Option String
  riskIncreasing : Bool
  deriving DecidableEq

/-- A position at the venue, and the price at which it may be closed. -/
structure Position where
  assetIndex : ℕ
  side : PositionSide
  size : String
  protectiveLimitPx : String
  deriving DecidableEq

/-- What `createHyperliquidTestnetVenueState` takes. -/
structure VenueInput (H : Type) where
  facilityId : String
  facilityHash : H
  sourceInfoSnapshotHash : H
  observedAtMs : ℕ
  maximumAgeMs : ℕ
  openOrders : List OpenOrder
  positions : List Position

/-- What is hashed of a venue state. -/
structure VenueCore (H : Type) where
  facilityId : String
  facilityHash : H
  sourceInfoSnapshotHash : H
  observedAt : ℕ
  serverReceivedAt : ℕ
  maximumAgeMs : ℕ
  freshness : HyperliquidRiskFreshness
  openOrders : List OpenOrder
  positions : List Position
  deriving DecidableEq

/-- The state of the venue with its hash. -/
structure VenueState (H : Type) extends VenueCore H where
  venueStateHash : H
  deriving DecidableEq

/-- What `createHyperliquidTestnetRiskSnapshot` takes. -/
structure RiskInput (H : Type) where
  facilityId : String
  facilityHash : H
  facilityVersion : ℕ
  venueState : VenueState H
  evaluatedRiskState : RiskState
  riskPolicyVersion : String
  riskPolicyHash : H
  reasonCodes : List String
  riskIncreasingKillSwitchOpen : Bool
  externalWriteState : HyperliquidExternalWriteState

/-- What is hashed of a risk snapshot. -/
structure RiskCore (H : Type) where
  facilityId : String
  facilityHash : H
  facilityVersion : ℕ
  venueStateHash : H
  sourceInfoSnapshotHash : H
  venueObservedAt : ℕ
  venueMaximumAgeMs : ℕ
  freshness : HyperliquidRiskFreshness
  evaluatedRiskState : RiskState
  effectiveRiskState : RiskState
  reasonCodes : List String
  riskIncreasingKillSwitchOpen : Bool
  externalWriteState : HyperliquidExternalWriteState
  riskPolicyVersion : String
  riskPolicyHash : H
  serverEvaluatedAt : ℕ
  deriving DecidableEq

/-- A risk snapshot with its hash. -/
structure RiskSnapshot (H : Type) extends RiskCore H where
  riskSnapshotHash : H
  deriving DecidableEq

/-- An action of the gateway: its body, and `action?.replacement?.reduceOnly`. -/
structure Action (A : Type) where
  body : A
  replacementReduceOnly : Option Bool
  deriving DecidableEq

/-- What is hashed of an admission. -/
structure AdmissionCore (H : Type) where
  riskSnapshotHash : H
  actionKind : ActionKind
  actionHash : H
  serverEvaluatedAt : ℕ
  currentFreshness : HyperliquidRiskFreshness
  approved : Bool
  reasonCode : String
  deriving DecidableEq

/-- What the guardian answers about an action. -/
structure Admission (H : Type) where
  approved : Bool
  reasonCode : String
  actionKind : ActionKind
  serverReduceOnlyProven : Bool
  effectiveRiskState : RiskState
  riskSnapshotHash : H
  policyDecisionHash : H
  deriving DecidableEq

/-- An action of the plan.  Every close is reduce-only and `Ioc`. -/
inductive RawAction where
  | warningNotification (reasonCodes : List String)
  | cancel (assetIndex orderId : ℕ) (cloid : Option String)
  | reduceOnlyClose (assetIndex : ℕ) (side : OrderSide) (size limitPx : String)
  deriving DecidableEq

/-- An action of the plan with its place in it. -/
structure ProtectiveAction (H : Type) where
  actionId : H
  ordinal : ℕ
  action : RawAction
  actionHash : H
  deriving DecidableEq

/-- `requestCore` -/
structure ControlRequest (H : Type) where
  facilityId : String
  facilityHash : H
  facilityVersion : ℕ
  riskSnapshotHash : H
  beforeVenueStateHash : H
  targetRiskState : RiskState
  idempotencyKeyHash : H
  deriving DecidableEq

/-- A control with its plan, before it is carried out. -/
structure ControlDraft (H : Type) extends ControlRequest H where
  requestHash : H
  riskSnapshot : RiskSnapshot H
  beforeVenueState : VenueState H
  actions : List (ProtectiveAction H)
  deriving DecidableEq

/-- The payloads that are hashed. -/
inductive Preimage (H A : Type) where
  | venueState (core : VenueCore H)
  | riskSnapshot (core : RiskCore H)
  | executionAction (action : Action A)
  | riskAdmission (core : AdmissionCore H)
  | protectiveActionId (requestHash : H) (ordinal : ℕ)
  | protectiveAction (actionId : H) (ordinal : ℕ) (action : RawAction)
  | idempotency (idempotencyKey : String)
  | request (core : ControlRequest H)

/-- What the module gets from outside: the hash, and the part of it that goes into an identifier
(`slice(2, 26)`). -/
structure Primitives (H A : Type) where
  hashId : Preimage H A → H
  slice : H → H

/-! ## Venue states -/

/-- The freshness of an observation at the time of its receipt. -/
def receiptFreshness (observedAtMs serverReceivedAtMs maximumAgeMs : ℕ) :
    HyperliquidRiskFreshness :=
  if serverReceivedAtMs < observedAtMs then .unknown
  else if maximumAgeMs < serverReceivedAtMs - observedAtMs then .stale
  else .fresh

/-- `normalizeOpenOrder` -/
def normalizeOpenOrder (value : OpenOrder) : Domain Unit := do
  nonNegativeInteger "assetIndex" value.assetIndex
  positiveInteger "orderId" value.orderId
  invalidVenueState (∃ cloid ∈ value.cloid, matchesCloidPattern cloid = false) "cloid is invalid"

/-- `normalizePosition` -/
def normalizePosition (value : Position) : Domain Unit := do
  nonNegativeInteger "assetIndex" value.assetIndex
  decimal "size" value.size
  decimal "protectiveLimitPx" value.protectiveLimitPx

section Functions

variable {H A : Type} [DecidableEq H] (prims : Primitives H A)

/-- `core` of a venue state -/
def VenueInput.core (input : VenueInput H) (observedAt serverReceivedAt : ℕ) : VenueCore H where
  facilityId := input.facilityId
  facilityHash := input.facilityHash
  sourceInfoSnapshotHash := input.sourceInfoSnapshotHash
  observedAt := observedAt
  serverReceivedAt := serverReceivedAt
  maximumAgeMs := input.maximumAgeMs
  freshness := receiptFreshness input.observedAtMs serverReceivedAt input.maximumAgeMs
  openOrders := input.openOrders
  positions := input.positions

/-- `createHyperliquidTestnetVenueState` -/
def createHyperliquidTestnetVenueState (input : VenueInput H) (clock : ℕ) :
    Domain (VenueState H) := do
  identifier "facilityId" input.facilityId
  positiveInteger "observedAtMs" input.observedAtMs
  positiveInteger "maximumAgeMs" input.maximumAgeMs
  invalidVenueState (maxSimulationFixtureAgeMs < input.maximumAgeMs)
    "simulation fixture age exceeds the closed test bound"
  invalidVenueState
    (maxOpenOrders < input.openOrders.length ∨ maxPositions < input.positions.length)
    "venue state exceeds the closed protective bound"
  input.openOrders.forM normalizeOpenOrder
  input.positions.forM normalizePosition
  invalidVenueState (¬ (input.openOrders.map OpenOrder.orderId).Nodup ∨
      ¬ (input.positions.map Position.assetIndex).Nodup)
    "venue state contains duplicate order or position identities"
  let serverReceivedAtMs ← timestamp clock
  let observedAt ← iso input.observedAtMs
  let serverReceivedAt ← iso serverReceivedAtMs
  let core := input.core observedAt serverReceivedAt
  pure { core with venueStateHash := prims.hashId (.venueState core) }

/-- `assertVenueState` -/
def assertVenueState (value : VenueState H) : Domain Unit := do
  identifier "facilityId" value.facilityId
  positiveInteger "maximumAgeMs" value.maximumAgeMs
  value.openOrders.forM normalizeOpenOrder
  value.positions.forM normalizePosition
  invalidVenueState
    (value.freshness ≠
        receiptFreshness value.observedAt value.serverReceivedAt value.maximumAgeMs ∨
      value.venueStateHash ≠ prims.hashId (.venueState value.toVenueCore))
    "venue state hash is invalid"

/-! ## Risk snapshots -/

/-- The state that the restrictions leave of the evaluated one, as both `createRiskSnapshot` and
`assertRiskSnapshot` compute it. -/
def requiredEffectiveState (freshness : HyperliquidRiskFreshness)
    (riskIncreasingKillSwitchOpen : Bool) (externalWriteState : HyperliquidExternalWriteState)
    (evaluatedRiskState : RiskState) : RiskState :=
  let state := evaluatedRiskState
  let state := if freshness ≠ .fresh then mostRestrictive state .reduceOnly else state
  let state :=
    if ¬ riskIncreasingKillSwitchOpen then mostRestrictive state .reduceOnly else state
  if externalWriteState = .unknown then mostRestrictive state .reduceOnly else state

/-- The reasons that the restrictions push. -/
def requiredReasons (freshness : HyperliquidRiskFreshness) (riskIncreasingKillSwitchOpen : Bool)
    (externalWriteState : HyperliquidExternalWriteState) : List String :=
  (if freshness ≠ .fresh then
      [if freshness = .stale then "venue_snapshot_stale" else "venue_snapshot_unknown"]
    else []) ++
  (if ¬ riskIncreasingKillSwitchOpen then ["risk_increasing_kill_switch_closed"] else []) ++
  (if externalWriteState = .unknown then ["external_write_outcome_unknown"] else [])

/-- `core` of a risk snapshot.  Its reasons are `[...new Set(restrictiveReasons)]`. -/
def RiskInput.core (input : RiskInput H) (serverEvaluatedAt : ℕ) : RiskCore H where
  facilityId := input.facilityId
  facilityHash := input.facilityHash
  facilityVersion := input.facilityVersion
  venueStateHash := input.venueState.venueStateHash
  sourceInfoSnapshotHash := input.venueState.sourceInfoSnapshotHash
  venueObservedAt := input.venueState.observedAt
  venueMaximumAgeMs := input.venueState.maximumAgeMs
  freshness := input.venueState.freshness
  evaluatedRiskState := input.evaluatedRiskState
  effectiveRiskState := requiredEffectiveState input.venueState.freshness
    input.riskIncreasingKillSwitchOpen input.externalWriteState input.evaluatedRiskState
  reasonCodes := (input.reasonCodes ++ requiredReasons input.venueState.freshness
    input.riskIncreasingKillSwitchOpen input.externalWriteState).eraseDups
  riskIncreasingKillSwitchOpen := input.riskIncreasingKillSwitchOpen
  externalWriteState := input.externalWriteState
  riskPolicyVersion := input.riskPolicyVersion
  riskPolicyHash := input.riskPolicyHash
  serverEvaluatedAt := serverEvaluatedAt

/-- `createHyperliquidTestnetRiskSnapshot` -/
def createHyperliquidTestnetRiskSnapshot (input : RiskInput H) (clock : ℕ) :
    Domain (RiskSnapshot H) := do
  let venue := input.venueState
  assertVenueState prims venue
  identifier "facilityId" input.facilityId
  positiveInteger "facilityVersion" input.facilityVersion
  throwIf (venue.facilityId ≠ input.facilityId ∨ venue.facilityHash ≠ input.facilityHash)
    "hyperliquid_risk_snapshot_binding_mismatch" "venue state is bound to another Facility"
  throwIf (input.riskPolicyVersion ≠ riskPolicyVersionFixture)
    "hyperliquid_risk_policy_unapproved"
    "risk policy version is not the closed simulation fixture"
  normalizeReasonCodes input.reasonCodes
  let evaluatedAtMs ← timestamp clock
  throwIf (evaluatedAtMs < venue.serverReceivedAt) "invalid_hyperliquid_risk_guardian_clock"
    "risk evaluation clock moved behind the venue receipt"
  let serverEvaluatedAt ← iso evaluatedAtMs
  let core := input.core serverEvaluatedAt
  pure { core with riskSnapshotHash := prims.hashId (.riskSnapshot core) }

/-- `assertRiskSnapshot` -/
def assertRiskSnapshot (value : RiskSnapshot H) : Domain Unit := do
  throwIf (value.riskPolicyVersion ≠ riskPolicyVersionFixture)
    "invalid_hyperliquid_risk_snapshot" "risk snapshot is unavailable"
  identifier "facilityId" value.facilityId
  positiveInteger "facilityVersion" value.facilityVersion
  positiveInteger "venueMaximumAgeMs" value.venueMaximumAgeMs
  normalizeReasonCodes value.reasonCodes
  throwIf
    (value.effectiveRiskState ≠ requiredEffectiveState value.freshness
        value.riskIncreasingKillSwitchOpen value.externalWriteState value.evaluatedRiskState ∨
      (requiredReasons value.freshness value.riskIncreasingKillSwitchOpen
        value.externalWriteState).any (fun reason ↦ reason ∉ value.reasonCodes) = true ∨
      value.riskSnapshotHash ≠ prims.hashId (.riskSnapshot value.toRiskCore))
    "invalid_hyperliquid_risk_snapshot" "risk snapshot hash is invalid"

/-! ## Admission -/

/-- `isServerProvenReducing` -/
def isServerProvenReducing (actionKind : ActionKind) (action : Action A) : Bool :=
  actionKind = .reduceOnlyOrder || (actionKind = .modify && action.replacementReduceOnly
    = some true)

/-- The freshness that the admission computes. -/
def currentFreshness (snapshot : RiskCore H) (evaluatedAtMs : ℕ) : HyperliquidRiskFreshness :=
  if evaluatedAtMs < snapshot.venueObservedAt then .unknown
  else if snapshot.venueMaximumAgeMs < evaluatedAtMs - snapshot.venueObservedAt then .stale
  else snapshot.freshness

/-- `approved` and `reasonCode` of an admission in the state. -/
def admissionDecision (state : RiskState) (actionKind : ActionKind) (reducing : Bool) :
    Bool × String :=
  match state with
  | .settlement => (false, "settlement_trading_closed")
  | .flatten =>
    if actionKind.isCancel || actionKind = .reduceOnlyOrder then (true, "flatten_protective_action")
    else (false, "flatten_blocks_non_protective_action")
  | .reduceOnly =>
    if actionKind.isCancel || reducing then (true, "reduce_only_protective_action")
    else (false, "reduce_only_blocks_risk_increase")
  | .warning => (true, "warning_bounded_existing_policy")
  | .normal => (true, "normal_bounded_existing_policy")

/-- `evaluateHyperliquidExecutionRiskAdmission` -/
def evaluateHyperliquidExecutionRiskAdmission (snapshot : RiskSnapshot H) (actionKind : ActionKind)
    (action : Action A) (serverNowMs : Option ℕ) : Domain (Admission H) := do
  assertRiskSnapshot prims snapshot
  serverNowMs.forM (positiveInteger "serverNowMs")
  let evaluatedAtMs := serverNowMs.getD snapshot.serverEvaluatedAt
  let reducing := isServerProvenReducing actionKind action
  let freshness := currentFreshness snapshot.toRiskCore evaluatedAtMs
  let state :=
    if freshness = .fresh then snapshot.effectiveRiskState
    else mostRestrictive snapshot.effectiveRiskState .reduceOnly
  let (approved, reasonCode) := admissionDecision state actionKind reducing
  let serverEvaluatedAt ← iso evaluatedAtMs
  pure
    { approved
      reasonCode
      actionKind
      serverReduceOnlyProven := reducing
      effectiveRiskState := state
      riskSnapshotHash := snapshot.riskSnapshotHash
      policyDecisionHash := prims.hashId (.riskAdmission
        { riskSnapshotHash := snapshot.riskSnapshotHash
          actionKind
          actionHash := prims.hashId (.executionAction action)
          serverEvaluatedAt
          currentFreshness := freshness
          approved
          reasonCode }) }

/-! ## The protective plan -/

/-- The cancellation of an open order. -/
def OpenOrder.cancel (order : OpenOrder) : RawAction :=
  .cancel order.assetIndex order.orderId order.cloid

/-- The close of a position. -/
def Position.close (position : Position) : RawAction :=
  .reduceOnlyClose position.assetIndex (if position.side = .long then .sell else .buy)
    position.size position.protectiveLimitPx

/-- `plannedRawActions` -/
def plannedRawActions (risk : RiskCore H) (venue : VenueCore H) : List RawAction :=
  match risk.effectiveRiskState with
  | .warning => [.warningNotification risk.reasonCodes]
  | .reduceOnly =>
    (venue.openOrders.filter fun order ↦
      order.riskIncreasing || venue.freshness ≠ .fresh).map OpenOrder.cancel
  | .flatten => venue.openOrders.map OpenOrder.cancel ++ venue.positions.map Position.close
  | _ => []

/-- `actionEvidence` -/
def actionEvidence (requestHash : H) (ordinal : ℕ) (action : RawAction) : ProtectiveAction H :=
  let actionId := prims.slice (prims.hashId (.protectiveActionId requestHash ordinal))
  { actionId
    ordinal
    action
    actionHash := prims.hashId (.protectiveAction actionId ordinal action) }

/-- `createHyperliquidProtectiveControlDraft` -/
def createHyperliquidProtectiveControlDraft (risk : RiskSnapshot H) (venue : VenueState H)
    (idempotencyKey : String) : Domain (ControlDraft H) := do
  assertRiskSnapshot prims risk
  assertVenueState prims venue
  throwIf (risk.facilityId ≠ venue.facilityId ∨ risk.facilityHash ≠ venue.facilityHash ∨
      risk.venueStateHash ≠ venue.venueStateHash)
    "hyperliquid_risk_snapshot_binding_mismatch"
    "protective control inputs do not share one venue snapshot"
  throwIf (utf16Length idempotencyKey < 8 ∨ 256 < utf16Length idempotencyKey)
    "invalid_hyperliquid_protective_control" "idempotencyKey must be bounded"
  let request : ControlRequest H :=
    { facilityId := risk.facilityId
      facilityHash := risk.facilityHash
      facilityVersion := risk.facilityVersion
      riskSnapshotHash := risk.riskSnapshotHash
      beforeVenueStateHash := venue.venueStateHash
      targetRiskState := risk.effectiveRiskState
      idempotencyKeyHash := prims.hashId (.idempotency idempotencyKey) }
  let requestHash := prims.hashId (.request request)
  let rawActions := plannedRawActions risk.toRiskCore venue.toVenueCore
  throwIf (maxProtectiveActions < rawActions.length) "hyperliquid_protective_action_bound_exceeded"
    "protective plan exceeded the closed action bound"
  pure { request with
    requestHash
    riskSnapshot := risk
    beforeVenueState := venue
    actions := rawActions.mapIdx fun index action ↦
      actionEvidence prims requestHash (index + 1) action }

/-! ## What is created -/

theorem iso_ok {value result : ℕ} (h : iso value = .ok result) :
    result = value ∧ value ≤ 8640000000000000 := by
  simp only [iso, bind_eq_ok, throwIf_eq_ok, pure_eq_ok, not_lt] at h
  obtain ⟨-, hvalue, rfl⟩ := h
  exact ⟨rfl, hvalue⟩

theorem timestamp_ok {clock result : ℕ} (h : timestamp clock = .ok result) :
    result = clock ∧ isSafeInteger clock ∧ 1 ≤ clock := by
  simp only [timestamp, bind_eq_ok, throwIf_eq_ok, pure_eq_ok, not_or, not_not, not_lt] at h
  obtain ⟨-, hclock, rfl⟩ := h
  exact ⟨rfl, hclock⟩

theorem createVenueState_ok {input : VenueInput H} {clock : ℕ} {venue : VenueState H}
    (h : createHyperliquidTestnetVenueState prims input clock = .ok venue) :
    (input.openOrders.map OpenOrder.orderId).Nodup ∧
      input.openOrders.length ≤ maxOpenOrders ∧ input.positions.length ≤ maxPositions ∧
      venue.toVenueCore = input.core input.observedAtMs clock ∧
      assertVenueState prims venue = .ok () := by
  simp only [createHyperliquidTestnetVenueState, bind_eq_ok, pure_eq_ok, invalidVenueState,
    throwIf_eq_ok, not_or, not_not, not_lt] at h
  obtain ⟨_, hid, _, -, _, hage, _, -, _, hbound, _, horders, _, hpositions, _, hnodup, received,
    hreceived, observedAt, hobserved, receivedAt, hiso, rfl⟩ := h
  obtain rfl := (timestamp_ok hreceived).1
  obtain rfl := (iso_ok hobserved).1
  obtain rfl := (iso_ok hiso).1
  refine ⟨hnodup.1, hbound.1, hbound.2, rfl, ?_⟩
  simp only [assertVenueState, bind_eq_ok, invalidVenueState, throwIf_eq_ok, not_or, not_not]
  exact ⟨(), hid, (), hage, (), horders, (), hpositions, rfl, trivial⟩

theorem createRiskSnapshot_ok {input : RiskInput H} {clock : ℕ} {snapshot : RiskSnapshot H}
    (h : createHyperliquidTestnetRiskSnapshot prims input clock = .ok snapshot) :
    identifier "facilityId" input.facilityId = .ok () ∧
      positiveInteger "facilityVersion" input.facilityVersion = .ok () ∧
      positiveInteger "venueMaximumAgeMs" input.venueState.maximumAgeMs = .ok () ∧
      input.venueState.facilityId = input.facilityId ∧
      input.venueState.facilityHash = input.facilityHash ∧
      input.riskPolicyVersion = riskPolicyVersionFixture ∧
      normalizeReasonCodes input.reasonCodes = .ok () ∧
      input.venueState.serverReceivedAt ≤ clock ∧ clock ≤ 8640000000000000 ∧
      snapshot = { input.core clock with
        riskSnapshotHash := prims.hashId (.riskSnapshot (input.core clock)) } := by
  simp only [createHyperliquidTestnetRiskSnapshot, bind_eq_ok, pure_eq_ok, throwIf_eq_ok, not_or,
    not_not, not_lt] at h
  obtain ⟨_, hvenue, _, hid, _, hversion, _, ⟨hfacility, hhash⟩, _, hpolicy, _, hreasons, evaluated,
    hevaluated, _, hreceived, evaluatedAt, hiso, rfl⟩ := h
  obtain rfl := (timestamp_ok hevaluated).1
  obtain ⟨rfl, hmax⟩ := iso_ok hiso
  simp only [assertVenueState, bind_eq_ok] at hvenue
  obtain ⟨_, -, _, hage, -⟩ := hvenue
  refine ⟨hid, hversion, ?_, hfacility, hhash, hpolicy, hreasons, hreceived, hmax, rfl⟩
  simp only [positiveInteger, invalidInput, throwIf_eq_ok] at hage ⊢
  exact hage

theorem normalizeReasonCodes_eq_ok {value : List String} :
    normalizeReasonCodes value = .ok () ↔
      1 ≤ value.length ∧ value.length ≤ 5 ∧ value.Nodup ∧
        ∀ reason ∈ value, matchesReasonCodePattern reason = true := by
  simp only [normalizeReasonCodes, invalidInput, throwIf_eq_ok, not_or, not_lt, not_not,
    List.any_eq_true, not_exists, not_and, Bool.not_eq_true', Bool.not_eq_false]

theorem requiredReasons_match {freshness : HyperliquidRiskFreshness} {switchOpen : Bool}
    {write : HyperliquidExternalWriteState} {reason : String}
    (h : reason ∈ requiredReasons freshness switchOpen write) :
    matchesReasonCodePattern reason = true := by
  have hall : ∀ reason ∈ requiredReasons freshness switchOpen write,
      matchesReasonCodePattern reason = true := by
    cases freshness <;> cases switchOpen <;> cases write <;> decide
  exact hall reason h

theorem nodup_eraseDups (reasons : List String) : reasons.eraseDups.Nodup := by
  induction hn : reasons.length using Nat.strong_induction_on generalizing reasons with
  | _ n ih =>
    cases reasons with
    | nil => simp
    | cons reason reasons =>
      rw [List.eraseDups_cons, List.nodup_cons, List.mem_eraseDups]
      refine ⟨by simp, ih _ ?_ _ rfl⟩
      have := List.length_filter_le (fun other ↦ !other == reason) reasons
      rw [List.length_cons] at hn
      omega

theorem length_eraseDups (reasons : List String) :
    reasons.eraseDups.length = reasons.toFinset.card := by
  rw [← List.toFinset_card_of_nodup (nodup_eraseDups reasons)]
  congr 1
  ext reason
  simp

theorem assertRiskSnapshot_created {input : RiskInput H} {clock : ℕ} {snapshot : RiskSnapshot H}
    (h : createHyperliquidTestnetRiskSnapshot prims input clock = .ok snapshot) :
    assertRiskSnapshot prims snapshot = .ok () ↔
      (input.reasonCodes ++ requiredReasons input.venueState.freshness
        input.riskIncreasingKillSwitchOpen input.externalWriteState).toFinset.card ≤ 5 := by
  obtain ⟨hid, hversion, hage, -, -, hpolicy, hreasons, -, -, rfl⟩ := createRiskSnapshot_ok prims h
  obtain ⟨hpos, -, -, hmatch⟩ := normalizeReasonCodes_eq_ok.1 hreasons
  simp only [assertRiskSnapshot, bind_eq_ok, throwIf_eq_ok, not_or, not_not]
  rw [← length_eraseDups]
  constructor
  · rintro ⟨_, -, _, -, _, -, _, -, _, hcodes, -⟩
    exact (normalizeReasonCodes_eq_ok.1 hcodes).2.1
  · intro hcard
    refine ⟨(), hpolicy, (), hid, (), hversion, (), hage, (),
      normalizeReasonCodes_eq_ok.2 ⟨?_, hcard, nodup_eraseDups _, ?_⟩, rfl, ?_, trivial⟩
    · obtain ⟨reason, hreason⟩ := List.exists_mem_of_length_pos hpos
      exact List.length_pos_of_mem (List.mem_eraseDups.2 (List.mem_append_left _ hreason))
    · intro reason hreason
      rcases List.mem_append.1 (List.mem_eraseDups.1 hreason) with hreason | hreason
      · exact hmatch reason hreason
      · exact requiredReasons_match hreason
    · simp only [List.any_eq_true, decide_eq_true_eq, not_exists, not_and, not_not]
      intro reason hreason
      exact List.mem_eraseDups.2 (List.mem_append_right _ hreason)

end Functions

end RiskGuardian
end IpoOne
