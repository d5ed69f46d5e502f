import IpoOne.Lib.InsertionMap
import IpoOne.Lib.Run
import IpoOne.RiskGuardian.Snapshot

/-!
# Execution records

`hyperliquid-execution`, without its gateway: the allowlist of actions, the draft of a request, the
record that reserves a nonce for it, its transitions, and `InMemoryHyperliquidExecutionRepository`.

A method of the repository runs without interruption, since its queue runs one operation at a time,
and changes nothing when it throws.  A hash is a value of the arbitrary type `H`, an execution's
operational identifier is a number that is drawn, and times are milliseconds.  The flags that are
the same in every record are left out.
-/

set_option autoImplicit false

namespace IpoOne
namespace Execution

open Fallible
open Reconciliation (ActionKind iso)
open RiskGuardian (OrderSide matchesDecimalPattern matchesCloidPattern)

/-- The states of an execution, and of its nonce. -/
inductive HyperliquidExecutionNonceState where
  | reserved
  | submitted
  | confirmed
  | rejected
  | unknown
  deriving DecidableEq, Repr

/-- How long an order stands. -/
inductive TimeInForce where
  | alo
  | gtc
  | ioc
  deriving DecidableEq, Repr

/-- How a simulated execution ends. -/
inductive ExecutionOutcome where
  | simulatedConfirmed
  | simulatedRejected
  | simulatedUnknown
  deriving DecidableEq, Repr

/-- `MAXIMUM_ASSET_INDEX` -/
def maximumAssetIndex : ℕ := 1000000

/-- `MAXIMUM_NONCE_AGE_MS` -/
def maximumNonceAgeMs : ℕ := 2 * 24 * 60 * 60 * 1000

/-- `MAXIMUM_NONCE_FUTURE_MS` -/
def maximumNonceFutureMs : ℕ := 24 * 60 * 60 * 1000

/-- `HYPERLIQUID_TESTNET_EXCHANGE_PROFILE.expiresAfterMs` -/
def expiresAfterMs : ℕ := 30000

/-! ## Values -/

/-- `fail("invalid_hyperliquid_execution_input", message)` -/
def invalidInput (c : Prop) [Decidable c] (message : String) : Domain Unit :=
  throwIf c "invalid_hyperliquid_execution_input" message

/-- `fail("invalid_hyperliquid_execution_action", message)` -/
def invalidAction (c : Prop) [Decidable c] (message : String) : Domain Unit :=
  throwIf c "invalid_hyperliquid_execution_action" message

/-- The value is an identifier. -/
def identifier (name value : String) : Domain Unit :=
  invalidInput (Trading.matchesIdentifierPattern value = false) (name ++ " is invalid")

/-- The value is a safe integer above 0. -/
def safePositiveInteger (name : String) (value : ℕ) : Domain Unit :=
  invalidInput (¬ isSafeInteger value ∨ value < 1) (name ++ " must be a positive safe integer")

/-- The value is the index of an asset. -/
def assetIndex (value : ℕ) : Domain Unit :=
  invalidAction (maximumAssetIndex < value) "assetIndex is outside the closed bound"

/-- The value is the text of a positive decimal. -/
def decimal (name value : String) : Domain Unit :=
  invalidAction (matchesDecimalPattern value = false)
    (name ++ " must be a bounded positive decimal string")

/-- `timestamp`, of a reading of the clock. -/
def timestamp (clock : ℕ) : Domain ℕ := do
  throwIf (¬ isSafeInteger clock ∨ clock < 1) "invalid_hyperliquid_execution_clock"
    "clock returned an invalid time"
  pure clock

/-! ## Actions -/

/-- The fields of an order. -/
structure OrderFields where
  assetIndex : ℕ
  side : OrderSide
  limitPx : String
  size : String
  timeInForce : TimeInForce
  deriving DecidableEq

/-- The action of a request. -/
inductive ActionInput where
  | order (fields : OrderFields)
  | reduceOnlyOrder (fields : OrderFields)
  | cancel (assetIndex orderId : ℕ)
  | cancelByCloid (assetIndex : ℕ) (cloid : String)
  | modify (orderId : ℕ) (replacement : OrderFields) (reduceOnly : Bool)
  deriving DecidableEq

/-- `kind` -/
def ActionInput.kind : ActionInput → ActionKind
  | .order _ => .order
  | .reduceOnlyOrder _ => .reduceOnlyOrder
  | .cancel _ _ => .cancel
  | .cancelByCloid _ _ => .cancelByCloid
  | .modify _ _ _ => .modify

/-- A `cloid`: one that was computed from a digest, or one that was given. -/
inductive Cloid (H : Type) where
  | generated (digest : H)
  | given (text : String)
  deriving DecidableEq

/-- `action` of a normalized action. -/
inductive NormalizedAction (H : Type) where
  | order (fields : OrderFields) (reduceOnly : Bool) (cloid : Cloid H)
  | cancel (assetIndex orderId : ℕ)
  | cancelByCloid (assetIndex : ℕ) (cloid : Cloid H)
  | modify (orderId : ℕ) (replacement : OrderFields) (reduceOnly : Bool) (cloid : Cloid H)
  deriving DecidableEq

/-- What `normalizeAction` returns. -/
structure Normalized (H : Type) where
  actionKind : ActionKind
  action : NormalizedAction H
  cloid : Option (Cloid H)
  deriving DecidableEq

/-- The checks on an order. -/
def assertOrderFields (value : OrderFields) : Domain Unit := do
  assetIndex value.assetIndex
  decimal "limitPx" value.limitPx
  decimal "size" value.size

/-! ## Records -/

/-- The parts of a signature. -/
structure Signature (H : Type) where
  r : H
  s : H
  v : ℕ
  deriving DecidableEq

/-- `requestCore` of `createDraft` -/
structure RequestCore (H : Type) where
  facilityId : String
  facilityHash : H
  facilityVersion : ℕ
  orderIntentId : String
  orderIntentHash : H
  orderIntentVersion : ℕ
  accountBindingHash : H
  signerReferenceHash : H
  idempotencyKeyHash : H
  policyDecisionHash : H
  actionKind : ActionKind
  actionHash : H
  action : NormalizedAction H
  cloid : Option (Cloid H)
  deriving DecidableEq

/-- A request with its hash, before it has a nonce. -/
structure ExecutionDraft (H : Type) extends RequestCore H where
  requestHash : H
  deriving DecidableEq

/-- `immutable` of `createReservedExecutionRecord` -/
structure ExecutionCore (H : Type) where
  executionId : ℕ
  requestHash : H
  facilityId : String
  facilityHash : H
  orderIntentId : String
  orderIntentHash : H
  signerReferenceHash : H
  actionHash : H
  nonce : ℕ
  deriving DecidableEq

/-- A stored execution. -/
structure ExecutionRecord (H : Type) extends ExecutionDraft H where
  executionId : ℕ
  executionHash : H
  expiresAfter : ℕ
  nonce : ℕ
  nonceState : HyperliquidExecutionNonceState
  outcome : Option ExecutionOutcome
  resultHash : Option H
  createdAt : ℕ
  reservedAt : ℕ
  submittedAt : Option ℕ
  resolvedAt : Option ℕ
  updatedAt : ℕ
  deriving DecidableEq

/-- What is hashed of a transition; the first one has neither a previous state nor a result. -/
structure TransitionCore (H : Type) where
  executionHash : H
  previousState : Option HyperliquidExecutionNonceState
  state : HyperliquidExecutionNonceState
  resultHash : Option H
  changedAt : ℕ
  deriving DecidableEq

/-- An entry of a record's history. -/
structure ExecutionTransition (H : Type) where
  sequence : ℕ
  state : HyperliquidExecutionNonceState
  transitionHash : H
  changedAt : ℕ
  deriving DecidableEq

/-- The payloads that are hashed. -/
inductive ExecutionPreimage (H : Type) where
  | cloid (facilityHash orderIntentHash idempotencyKeyHash : H) (actionKind : ActionKind)
  | idempotency (idempotencyKey : String)
  | action (action : NormalizedAction H)
  | request (core : RequestCore H)
  | execution (core : ExecutionCore H)
  | transition (core : TransitionCore H)
  | signingDigest (action : NormalizedAction H) (nonce expiresAfter : ℕ) (signerReferenceHash : H)
  | simulatedSignature (digestHash : H) (signature : Signature H)
  | localRejection (executionHash : H) (reasonCode : String)
  | unknownResponse (executionHash : H)
  | executionResult (executionHash signatureHash responseHash : H) (outcome : ExecutionOutcome)

section Functions

variable {H : Type} [DecidableEq H] (hashId : ExecutionPreimage H → H)

/-- `normalizeAction` -/
def normalizeAction (input : ActionInput) (facilityHash orderIntentHash idempotencyKeyHash : H) :
    Domain (Normalized H) := do
  let generated : Cloid H :=
    .generated (hashId (.cloid facilityHash orderIntentHash idempotencyKeyHash input.kind))
  match input with
  | .order fields =>
    assertOrderFields fields
    pure { actionKind := .order, action := .order fields false generated, cloid := some generated }
  | .reduceOnlyOrder fields =>
    assertOrderFields fields
    pure { actionKind := .reduceOnlyOrder, action := .order fields true generated
           cloid := some generated }
  | .cancel asset orderId =>
    assetIndex asset
    safePositiveInteger "orderId" orderId
    pure { actionKind := .cancel, action := .cancel asset orderId, cloid := none }
  | .cancelByCloid asset cloid =>
    assetIndex asset
    invalidAction (matchesCloidPattern cloid = false) "cloid is invalid"
    pure { actionKind := .cancelByCloid, action := .cancelByCloid asset (.given cloid)
           cloid := some (.given cloid) }
  | .modify orderId replacement reduceOnly =>
    assertOrderFields replacement
    safePositiveInteger "orderId" orderId
    pure { actionKind := .modify, action := .modify orderId replacement reduceOnly generated
           cloid := some generated }

/-- `createReservedExecutionRecord`, with the identifier that was drawn. -/
def createReservedExecutionRecord (executionId : ℕ) (draft : ExecutionDraft H)
    (nonce nowMs expiresAfter : ℕ) : Domain (ExecutionRecord H) := do
  safePositiveInteger "nonce" nonce
  safePositiveInteger "nowMs" nowMs
  safePositiveInteger "expiresAfter" expiresAfter
  throwIf (nonce + maximumNonceAgeMs < nowMs ∨ nowMs + maximumNonceFutureMs < nonce ∨
      expiresAfter ≤ nowMs)
    "hyperliquid_execution_nonce_out_of_window"
    "nonce or expiration is outside the fixed Testnet window"
  let createdAt ← iso nowMs
  pure { draft with
    executionId
    executionHash := hashId (.execution
      { executionId
        requestHash := draft.requestHash
        facilityId := draft.facilityId
        facilityHash := draft.facilityHash
        orderIntentId := draft.orderIntentId
        orderIntentHash := draft.orderIntentHash
        signerReferenceHash := draft.signerReferenceHash
        actionHash := draft.actionHash
        nonce })
    expiresAfter
    nonce
    nonceState := .reserved
    outcome := none
    resultHash := none
    createdAt
    reservedAt := createdAt
    submittedAt := none
    resolvedAt := none
    updatedAt := createdAt }

/-- `TERMINAL_NONCE_STATES.has` -/
def HyperliquidExecutionNonceState.isTerminal (state : HyperliquidExecutionNonceState) : Bool :=
  state = .confirmed || state = .rejected || state = .unknown

/-- `legal` of `transitionExecutionRecord` -/
def Legal (previous nextState : HyperliquidExecutionNonceState) : Prop :=
  previous = .reserved ∧ nextState ∈ [.submitted, .rejected] ∨
    previous = .submitted ∧ nextState.isTerminal = true

instance (previous nextState : HyperliquidExecutionNonceState) :
    Decidable (Legal previous nextState) :=
  inferInstanceAs (Decidable (_ ∨ _))

/-- `expectedOutcome` -/
def expectedOutcome : HyperliquidExecutionNonceState → Option ExecutionOutcome
  | .confirmed => some .simulatedConfirmed
  | .rejected => some .simulatedRejected
  | .unknown => some .simulatedUnknown
  | _ => none

/-- A terminal state comes with a result and its outcome, and the others with neither. -/
def assertResult (nextState : HyperliquidExecutionNonceState) (resultHash : Option H)
    (outcome : Option ExecutionOutcome) : Domain Unit :=
  if nextState.isTerminal then do
    invalidInput (resultHash = none) "resultHash is invalid"
    throwIf (outcome ≠ expectedOutcome nextState) "invalid_hyperliquid_execution_outcome"
      "outcome does not match terminal nonce state"
  else
    throwIf (resultHash ≠ none ∨ outcome ≠ none) "invalid_hyperliquid_execution_outcome"
      "non-terminal execution cannot have a result"

/-- The record in its next state, if the state machine allows it. -/
def transitionExecutionRecord (record : ExecutionRecord H)
    (nextState : HyperliquidExecutionNonceState) (resultHash : Option H)
    (outcome : Option ExecutionOutcome) (nowMs : ℕ) : Domain (ExecutionRecord H) := do
  safePositiveInteger "nowMs" nowMs
  throwIf (¬ Legal record.nonceState nextState) "hyperliquid_execution_transition_denied"
    "nonce state transition is terminal or out of order"
  assertResult nextState resultHash outcome
  let changedAt ← iso nowMs
  pure { record with
    nonceState := nextState
    outcome
    resultHash
    submittedAt := if nextState = .submitted then some changedAt else record.submittedAt
    resolvedAt := if nextState.isTerminal then some changedAt else none
    updatedAt := changedAt }

end Functions

/-! ## The repository -/

/-- The maps of the repository. -/
structure ExecutionRepository (H : Type) where
  records : InsertionMap ℕ (ExecutionRecord H)
  idempotency : InsertionMap H ℕ
  nonceHeads : InsertionMap H ℕ
  transitions : InsertionMap ℕ (List (ExecutionTransition H))
  /-- How many operational identifiers were drawn. -/
  drawn : ℕ
  deriving DecidableEq

/-- A new repository. -/
def ExecutionRepository.new {H : Type} : ExecutionRepository H where
  records := .empty
  idempotency := .empty
  nonceHeads := .empty
  transitions := .empty
  drawn := 0

/-- What `reserve` returns. -/
structure Reservation (H : Type) where
  record : ExecutionRecord H
  replayed : Bool
  deriving DecidableEq

namespace ExecutionRepository

variable {H : Type} [DecidableEq H] (hashId : ExecutionPreimage H → H)

/-- The key was used for another request. -/
def idempotencyConflict : DomainError where
  code := "hyperliquid_execution_idempotency_conflict"
  message := "idempotency key is bound to another request"

/-- The nonce that `reserve` would take. -/
def nextNonce (repo : ExecutionRepository H) (signerReferenceHash : H) (nowMs : ℕ) : ℕ :=
  max nowMs ((repo.nonceHeads.get signerReferenceHash).getD 0 + 1)

/-- The repository with a record that has just been reserved. -/
def insert (repo : ExecutionRepository H) (record : ExecutionRecord H) : ExecutionRepository H where
  records := repo.records.set record.executionId record
  idempotency := repo.idempotency.set record.idempotencyKeyHash record.executionId
  nonceHeads := repo.nonceHeads.set record.signerReferenceHash record.nonce
  transitions := repo.transitions.set record.executionId
    [{ sequence := 1
       state := record.nonceState
       transitionHash := hashId (.transition
         { executionHash := record.executionHash
           previousState := none
           state := record.nonceState
           resultHash := none
           changedAt := record.updatedAt })
       changedAt := record.updatedAt }]
  drawn := repo.drawn + 1

/-- Stores a record for the draft under a fresh nonce; the same request again gives the stored
one. -/
def reserve (repo : ExecutionRepository H) (draft : ExecutionDraft H) (nowMs expiresAfter : ℕ) :
    Domain (Reservation H) × ExecutionRepository H :=
  match repo.idempotency.get draft.idempotencyKeyHash with
  | some existingId =>
    match repo.records.get existingId with
    | none =>
      (.error { code := "TypeError", message := "Cannot read properties of undefined" }, repo)
    | some existing =>
      if existing.requestHash ≠ draft.requestHash then (.error idempotencyConflict, repo)
      else (.ok { record := existing, replayed := true }, repo)
  | none =>
    match createReservedExecutionRecord hashId repo.drawn draft
        (repo.nextNonce draft.signerReferenceHash nowMs) nowMs expiresAfter with
    | .error e => (.error e, repo)
    | .ok record => (.ok { record, replayed := false }, repo.insert hashId record)

/-- The record is not in the state that was expected. -/
def concurrencyConflict : DomainError where
  code := "hyperliquid_execution_concurrency_conflict"
  message := "execution state changed or is unavailable"

/-- The entry that `transition` appends to the history of a record. -/
def transitionEntry (current next : ExecutionRecord H) : ExecutionTransition H where
  sequence := if current.nonceState = .reserved then 2 else 3
  state := next.nonceState
  transitionHash := hashId (.transition
    { executionHash := next.executionHash
      previousState := some current.nonceState
      state := next.nonceState
      resultHash := next.resultHash
      changedAt := next.updatedAt })
  changedAt := next.updatedAt

/-- The repository after a record has moved on. -/
def update (repo : ExecutionRepository H) (current next : ExecutionRecord H) :
    ExecutionRepository H :=
  { repo with
    records := repo.records.set current.executionId next
    transitions := repo.transitions.set current.executionId
      ((repo.transitions.get current.executionId).getD [] ++
        [transitionEntry hashId current next]) }

/-- Moves a record on, if it is in the state that is expected. -/
def transition (repo : ExecutionRepository H) (executionId : ℕ)
    (expectedState nextState : HyperliquidExecutionNonceState) (resultHash : Option H)
    (outcome : Option ExecutionOutcome) (nowMs : ℕ) :
    Domain (ExecutionRecord H) × ExecutionRepository H :=
  match repo.records.get executionId with
  | none => (.error concurrencyConflict, repo)
  | some current =>
    if current.nonceState ≠ expectedState then (.error concurrencyConflict, repo)
    else
      match transitionExecutionRecord current nextState resultHash outcome nowMs with
      | .error e => (.error e, repo)
      | .ok next => (.ok next, repo.update hashId current next)

end ExecutionRepository

/-! ## What the repository keeps -/

section Kept

variable {H : Type} {hashId : ExecutionPreimage H → H} {draft : ExecutionDraft H}
  {record next : ExecutionRecord H} {executionId nonce nowMs : ℕ}

/-- The history of a record in `state`: from its reservation on, by legal moves, and numbered. -/
inductive HistoryOf : HyperliquidExecutionNonceState → List (ExecutionTransition H) → Prop
  | reserved {entry : ExecutionTransition H} (sequence : entry.sequence = 1)
      (state : entry.state = .reserved) : HistoryOf .reserved [entry]
  | move {state : HyperliquidExecutionNonceState} {history : List (ExecutionTransition H)}
      {entry : ExecutionTransition H} (past : HistoryOf state history)
      (legal : Legal state entry.state) (sequence : entry.sequence = history.length + 1) :
      HistoryOf entry.state (history ++ [entry])

theorem Legal.ne_reserved {previous state : HyperliquidExecutionNonceState}
    (h : Legal previous state) : state ≠ .reserved := by
  rintro rfl
  rcases h with ⟨-, hmem⟩ | ⟨-, hterminal⟩
  · simp at hmem
  · exact absurd hterminal (by decide)

theorem Legal.of_submitted {previous : HyperliquidExecutionNonceState}
    (h : Legal previous .submitted) : previous = .reserved := by
  rcases h with ⟨h, -⟩ | ⟨-, hterminal⟩
  · exact h
  · exact absurd hterminal (by decide)

theorem HistoryOf.length_of_reserved {history : List (ExecutionTransition H)}
    (h : HistoryOf .reserved history) : history.length = 1 := by
  generalize hstate : HyperliquidExecutionNonceState.reserved = state at h
  cases h with
  | reserved _ _ => rfl
  | move _ hlegal _ => exact absurd hstate.symm hlegal.ne_reserved

theorem HistoryOf.length_of_submitted {history : List (ExecutionTransition H)}
    (h : HistoryOf .submitted history) : history.length = 2 := by
  generalize hstate : HyperliquidExecutionNonceState.submitted = state at h
  cases h with
  | reserved _ _ => cases hstate
  | move hpast hlegal _ =>
    rw [← hstate] at hlegal
    rw [hlegal.of_submitted] at hpast
    rw [List.length_append, hpast.length_of_reserved]
    rfl

/-- What is checked of a record, and what it is. -/
theorem createReservedExecutionRecord_ok {expiresAfter : ℕ}
    (h : createReservedExecutionRecord hashId executionId draft nonce nowMs expiresAfter
      = .ok record) :
    record.toExecutionDraft = draft ∧ record.executionId = executionId ∧ record.nonce = nonce ∧
      record.nonceState = .reserved ∧ record.reservedAt = nowMs ∧
      nonce ≤ nowMs + maximumNonceFutureMs ∧ nowMs ≤ nonce + maximumNonceAgeMs := by
  simp only [createReservedExecutionRecord, bind_eq_ok, throwIf_eq_ok, pure_eq_ok, not_or,
    not_lt] at h
  obtain ⟨_, -, _, -, _, -, _, ⟨hage, hfuture, -⟩, createdAt, hiso, rfl⟩ := h
  exact ⟨rfl, rfl, rfl, rfl, (RiskGuardian.iso_ok hiso).1, hfuture, hage⟩

/-- A transition leaves everything but the progress of a record. -/
theorem transitionExecutionRecord_ok {nextState : HyperliquidExecutionNonceState}
    {resultHash : Option H} {outcome : Option ExecutionOutcome}
    (h : transitionExecutionRecord record nextState resultHash outcome nowMs = .ok next) :
    Legal record.nonceState nextState ∧ next.nonceState = nextState ∧
      next.toExecutionDraft = record.toExecutionDraft ∧ next.executionId = record.executionId ∧
      next.executionHash = record.executionHash ∧ next.nonce = record.nonce ∧
      next.reservedAt = record.reservedAt := by
  simp only [transitionExecutionRecord, bind_eq_ok, throwIf_eq_ok, not_not, pure_eq_ok] at h
  obtain ⟨_, -, _, hlegal, _, -, _, -, rfl⟩ := h
  exact ⟨hlegal, rfl, rfl, rfl, rfl, rfl, rfl⟩

/-- A time that the clock may return and a date may have. -/
def ValidClock (nowMs : ℕ) : Prop := 1 ≤ nowMs ∧ nowMs ≤ 8640000000000000

/-- A legal move with a matching result only fails for its time. -/
theorem transitionExecutionRecord_isOk {nextState : HyperliquidExecutionNonceState}
    {resultHash : Option H} {outcome : Option ExecutionOutcome}
    (hlegal : Legal record.nonceState nextState)
    (hresult : assertResult nextState resultHash outcome = .ok ()) :
    (∃ next, transitionExecutionRecord record nextState resultHash outcome nowMs = .ok next) ↔
      ValidClock nowMs := by
  simp only [transitionExecutionRecord, safePositiveInteger, invalidInput, bind_eq_ok,
    throwIf_eq_ok, not_or, not_not, not_lt, pure_eq_ok, iso, hresult, ValidClock]
  have hsafe (hmax : nowMs ≤ 8640000000000000) : isSafeInteger nowMs := hmax.trans (by decide)
  constructor
  · rintro ⟨_, _, ⟨-, hpos⟩, _, -, _, -, _, ⟨_, hmax, -⟩, -⟩
    exact ⟨hpos, hmax⟩
  · rintro ⟨hpos, hmax⟩
    exact ⟨_, (), ⟨hsafe hmax, hpos⟩, (), hlegal, (), trivial, _, ⟨(), hmax, rfl⟩, rfl⟩

end Kept

end Execution
end IpoOne
