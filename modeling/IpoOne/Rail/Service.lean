import IpoOne.Rail.EventRepository
import IpoOne.SpendPolicy.Service

/-!
# The rail service

`RailService` over one event store, with the spend policy service and the mandate service it asks.

A command is an asynchronous function: it runs from one `await` to the next, and other calls run in
between.  A call in flight is a `CallState`, which holds what the function has read so far, and
`resume` runs it up to its next `await`.  A read of the event store takes place when the repository
is called, so that it belongs to the segment before the `await`; an append takes place later, in its
turn.

The checks of an object's shape, and those for raw personal data, are left out.
-/

set_option autoImplicit false

namespace IpoOne
namespace Rail

open Fallible
open Throwing (get modify lift zoom)
open Authorization (MandateInput MandatePreimage mandateStep)
open SpendPolicy (SpendState SpendRequest Provider RequestSpendInput CreateSpendPolicyInput)

/-! ## Adapters -/

/-- The methods of a rail adapter that the service calls; the last number is an identifier to
use. -/
structure RailAdapter (H : Type) where
  createQuote : TransferIntent H → String → ℕ → ℕ → Domain (TransferQuote H)
  submit : TransferIntent H → String → ℕ → Domain (TransferSubmission H)
  createReceipt : TransferIntent H → Option H → String → SettlementOutcome → SettlementFinality →
    String → ℕ → ℕ → Domain (SettlementReceipt H)

/-- What `SandboxRailAdapter` is built from. -/
structure SandboxRailConfig where
  railId : String
  directions : List TransferDirection
  sourceAssets : List Asset
  destinationAssets : List Asset
  rates : List ((Asset × Asset) × Rate)
  feeBps : ℕ
  quoteTtlMs : ℕ

section Sandbox

variable {H : Type} (hashId : RailPreimage H → H) (config : SandboxRailConfig)

/-- `#assertIntentSupported` -/
def assertIntentSupported (intent : TransferIntent H) : Domain Unit := do
  throwIf (intent.railId ≠ config.railId) "rail_adapter_mismatch"
    "transfer intent is assigned to a different rail"
  throwIf (intent.direction ∉ config.directions) "rail_direction_not_supported"
    "rail does not support the requested direction"
  throwIf (intent.sourceMoney.toAsset ∉ config.sourceAssets) "rail_source_asset_not_supported"
    "rail does not support the source asset"
  throwIf (intent.destinationAsset ∉ config.destinationAssets)
    "rail_destination_asset_not_supported" "rail does not support the destination asset"

/-- `#rateFor` -/
def rateFor (sourceAsset destinationAsset : Asset) : Domain Rate :=
  match config.rates.lookup (sourceAsset, destinationAsset) with
  | some configured => pure configured
  | none =>
    if sourceAsset = destinationAsset then pure { sourceUnits := 1, destinationUnits := 1 }
    else
      .error
        { code := "rail_rate_not_supported"
          message := "sandbox rail has no exact rate for this asset pair" }

/-- `SandboxRailAdapter` -/
def sandboxRailAdapter : RailAdapter H where
  createQuote transferIntent idempotencyKey now transferQuoteId := do
    assertIntentSupported config transferIntent
    let sourceAmount := transferIntent.sourceMoney.amountMinor
    let feeMinor := sourceAmount * config.feeBps / 10000
    let rate ← rateFor config transferIntent.sourceMoney.toAsset transferIntent.destinationAsset
    let convertedNumerator := (sourceAmount - feeMinor) * rate.destinationUnits
    throwIf (convertedNumerator % rate.sourceUnits ≠ 0) "sandbox_rate_requires_rounding"
      "configured sandbox rate cannot represent this transfer exactly in destination minor units"
    createTransferQuote hashId transferIntent
      { transferIntent.sourceMoney with amountMinor := feeMinor }
      { transferIntent.destinationAsset with amountMinor := convertedNumerator / rate.sourceUnits }
      rate idempotencyKey (now + config.quoteTtlMs) now transferQuoteId
  submit transferIntent idempotencyKey now := do
    assertIntentSupported config transferIntent
    pure
      { railReferenceHash :=
          hashId (.sandboxRailReference config.railId transferIntent.transferIntentId
            idempotencyKey)
        submittedAt := now
        sandboxOnly := true
        productionFundsMoved := false }
  createReceipt transferIntent railReferenceHash providerEventId outcome finality idempotencyKey now
      settlementReceiptId := do
    assertIntentSupported config transferIntent
    match transferIntent.quote with
    | none => .error { code := "TypeError", message := "Cannot read properties of undefined" }
    | some quote =>
      let settled (money : Money) : Money :=
        if outcome = .failed then { money with amountMinor := 0 } else money
      createSettlementReceipt hashId transferIntent quote railReferenceHash
        (hashId (.sandboxProviderEvent config.railId providerEventId)) outcome finality
        (settled quote.sourceMoney) (settled quote.feeMoney) (settled quote.destinationMoney)
        idempotencyKey now settlementReceiptId

end Sandbox

/-! ## Commands and calls -/

/-- The input of `createProviderSpendIntent`. -/
structure CreateIntentInput (H : Type) where
  spendRequestId : String
  railId : Option String
  direction : Option TransferDirection
  sourceAccountRefHash : H
  destinationAsset : Option Asset
  scale : Option ℕ
  idempotencyKey : String
  now : ℕ

/-- What is done to an intent that exists. -/
inductive TransferAction where
  | quoteTransfer
  | authorizeTransfer (actorRef : String)
  | submitTransfer
  | simulateSettlement (providerEventId : String) (outcome : SettlementOutcome)
      (finality : SettlementFinality)
  | expireTransfer (actorRef reason : String)
  deriving DecidableEq

/-- A command on an intent that exists. -/
structure TransferCommand where
  transferIntentId : ℕ
  idempotencyKey : String
  expectedVersion : ℤ
  now : ℕ
  action : TransferAction
  deriving DecidableEq

/-- The commands that are recorded under an idempotency key. -/
inductive RailCommand (H : Type) where
  | createProviderSpendIntent (input : CreateIntentInput H)
  | transfer (command : TransferCommand)

/-- The key of a command. -/
def RailCommand.idempotencyKey {H : Type} : RailCommand H → String
  | .createProviderSpendIntent input => input.idempotencyKey
  | .transfer command => command.idempotencyKey

/-- The text of a command on an intent. -/
def TransferCommand.text {H : Type} (command : TransferCommand) : CommandText H :=
  match command.action with
  | .quoteTransfer => .quote command.transferIntentId
  | .authorizeTransfer actorRef => .authorize command.transferIntentId actorRef
  | .submitTransfer => .submit command.transferIntentId
  | .simulateSettlement providerEventId outcome finality =>
    .settlementReceipt command.transferIntentId providerEventId outcome finality
  | .expireTransfer actorRef reason => .expire command.transferIntentId actorRef reason

/-- What `createProviderSpendIntent` has read before its search. -/
structure Prepared (H : Type) where
  intent : TransferIntent H
  spendRequest : SpendRequest
  provider : Provider
  commandHash : H
  now : ℕ

/-- Where a call waits. -/
inductive CallState (H : Type) where
  /-- `createProviderSpendIntent`, after its search for the command. -/
  | prepared (prepared : Prepared H)
  /-- A command on an intent, after its search. -/
  | searched (command : TransferCommand)
  /-- The stream of the intent was read. -/
  | loaded (command : TransferCommand) (intent : TransferIntent H)
  /-- The receipts that are recorded were read. -/
  | listed (command : TransferCommand) (intent : TransferIntent H) (receipt : SettlementReceipt H)
      (recorded : List (SettlementReceipt H))
  /-- The event waits in the queue. -/
  | appending (request : EventStore.AppendRequest H)
  /-- The command is recorded, and the intent is to be read for the answer. -/
  | recorded (transferIntentId : ℕ)
  | done (result : Domain (TransferIntent H))

/-- A call, by where it waits. -/
structure Call (H : Type) where
  command : RailCommand H
  /-- The hash of the command, once it could be computed. -/
  commandHash : Option H
  state : CallState H

/-- A call of `getReplayProof`: it waits with the events it has read, or has answered. -/
inductive ReplayProofCall (H : Type) where
  | reading (transferIntentId : ℕ) (events : List (CreditEvent H))
  | done (result : Domain ReplayProof)

/-- The event store, the spend service, and the calls in the order in which they were made. -/
structure RailState (H : Type) where
  store : EventStore H
  spend : SpendState H
  calls : List (Call H)
  replayProofs : List (ReplayProofCall H)
  /-- How many identifiers were drawn. -/
  drawn : ℕ

/-- A new service. -/
def RailState.new {H : Type} : RailState H where
  store := .new
  spend := .new
  calls := []
  replayProofs := []
  drawn := 0

/-! ## The segments of a call -/

section Segments

variable {H : Type}

/-- A part of a call: it may throw, and leaves a state. -/
abbrev Segment (H α : Type) : Type := Throwing DomainError (RailState H) α

/-- `createOperationalId` -/
def draw : Segment H ℕ := do
  let state ← get
  modify fun state ↦ { state with drawn := state.drawn + 1 }
  pure state.drawn

variable (adapters : InsertionMap String (RailAdapter H))

/-- `#requireAdapter` -/
def requireAdapter (railId : String) : Domain (RailAdapter H) :=
  match adapters.get railId with
  | none => .error { code := "rail_not_found", message := "rail adapter not found" }
  | some adapter => pure adapter

/-- `defaultRailId`; the constructor asks for at least one adapter. -/
def defaultRailId : String := adapters.keys.headD ""

/-- `#assertExpectedVersion` -/
def assertExpectedVersion (intent : TransferIntent H) (expectedVersion : ℤ) : Domain Unit := do
  throwIf (expectedVersion < 1 ∨ 2 ^ 53 - 1 < expectedVersion) "expected_version_required"
    "expectedVersion must be a positive safe integer"
  throwIf ((intent.version : ℤ) ≠ expectedVersion) "stale_transfer_version"
    "transfer intent changed since it was read"

/-- `#assertQuoteCurrent` -/
def assertQuoteCurrent (intent : TransferIntent H) (now : ℕ) : Domain Unit :=
  match intent.quote with
  | none =>
    .error
      { code := "transfer_quote_missing", message := "transfer intent has no accepted quote" }
  | some quote =>
    throwIf (quote.expiresAt ≤ now) "transfer_quote_expired" "transfer quote has expired"

/-- `statusForReceipt` -/
def statusForReceipt (receipt : SettlementReceipt H) : TransferIntentStatus :=
  match receipt.outcome with
  | .failed => .failed
  | .reversed => .reversed
  | .succeeded => if receipt.finality = .finalized then .settled else .pending

/-- `sourceFinalityForReceipt` -/
def sourceFinalityForReceipt (receipt : SettlementReceipt H) : FinalityStatus :=
  match receipt.finality with
  | .pending => .pending
  | .confirmed => .confirmed
  | .finalized => .finalized

variable [DecidableEq H] (hashId : RailPreimage H → H)

/-- The conditions of `#assertLivePolicyAndMandate` on the decision and its provider. -/
def decisionMismatch (intent : TransferIntent H) (decision : SpendRequest) (provider : Provider) :
    Prop :=
  decision.status ≠ .approved ∨ provider.status ≠ .allowlisted ∨
    decision.subjectId ≠ intent.subjectId ∨ decision.mandateId ≠ intent.mandateId ∨
    decision.providerId ≠ intent.providerId ∨ decision.assetId ≠ intent.sourceMoney.assetId ∨
    decision.amountMinor ≠ intent.sourceMoney.amountMinor ∨
    decision.purposeCode ≠ intent.purposeCode ∨
    hashId (.account provider.settlementAccountIdRef) ≠ intent.destinationAccountRefHash

instance (intent : TransferIntent H) (decision : SpendRequest) (provider : Provider) :
    Decidable (decisionMismatch hashId intent decision provider) :=
  inferInstanceAs (Decidable (_ ∨ _))

/-- `#assertLivePolicyAndMandate` -/
def assertLivePolicyAndMandate (intent : TransferIntent H) (now : ℕ) : Segment H Unit := do
  let state ← get
  let decision ← lift (SpendPolicy.requireSpendRequest state.spend intent.policyDecisionRef)
  let provider ← lift (SpendPolicy.requireProvider state.spend intent.providerId)
  lift (throwIf (decisionMismatch hashId intent decision provider) "rail_policy_decision_mismatch"
    "current policy decision does not match the transfer intent")
  let _ ← zoom RailState.spend (fun state spend ↦ { state with spend })
    (SpendPolicy.withAuthorization (Authorization.assertAuthorized
      { mandateId := intent.mandateId
        subjectId := intent.subjectId
        capability := .providerSpend
        providerId := some intent.providerId
        category := some intent.purposeCode
        assetId := intent.sourceMoney.assetId
        amountMinor := some intent.sourceMoney.amountMinor
        enforceAggregateLimit := false
        now }))

/-- `#findCommandReplay` -/
def findCommandReplay (store : EventStore H) (idempotencyKey : String) (commandHash : H) :
    Domain (Option (CreditEvent H)) := do
  assertNonEmptyString "idempotencyKey" idempotencyKey
  match store.findCommand idempotencyKey commandHash with
  | .ok found => pure found
  | .error error =>
    if error.code = "event_idempotency_conflict" then
      .error
        { code := "rail_idempotency_conflict"
          message := "rail command idempotency key was reused with different input" }
    else .error error

/-- What `#append` passes to the repository, with an identifier for the event. -/
def appendRequest (intent : TransferIntent H) (idempotencyKey : String) (commandHash : H)
    (actorRef : Option String) (body : EventBody H) (resultingStatus : Option TransferIntentStatus)
    (finalityStatus : Option FinalityStatus) (now eventId : ℕ) : EventStore.AppendRequest H :=
  let intentVersion :=
    if body.eventType = .transferIntentCreated then 1 else intent.version + 1
  let payload : EventPayload H :=
    { transferIntentId := intent.transferIntentId
      intentVersion
      idempotencyKey
      commandHash
      actorId := actorRef.getD "system:rail-sandbox"
      body
      resultingStatus }
  { aggregateId := intent.transferIntentId
    expectedVersion := intentVersion - 1
    idempotencyKey
    commandHash
    event := createCreditEvent hashId intent.subjectId finalityStatus payload now eventId }

/-- `#append`, up to the call of the repository. -/
def append (intent : TransferIntent H) (idempotencyKey : String) (commandHash : H)
    (actorRef : Option String) (body : EventBody H) (resultingStatus : Option TransferIntentStatus)
    (finalityStatus : Option FinalityStatus) (now : ℕ) : Segment H (CallState H) := do
  lift (assertNonEmptyString "idempotencyKey" idempotencyKey)
  pure (.appending (appendRequest hashId intent idempotencyKey commandHash actorRef body
    resultingStatus finalityStatus now (← draw)))

/-- An event of a command on an intent, which leads to a status. -/
def appendTransfer (command : TransferCommand) (intent : TransferIntent H)
    (actorRef : Option String) (body : EventBody H) (resultingStatus : TransferIntentStatus)
    (finalityStatus : Option FinalityStatus) : Segment H (CallState H) :=
  append hashId intent command.idempotencyKey (hashId (.railCommand command.text)) actorRef body
    (some resultingStatus) finalityStatus command.now

/-- `assertTransition("transfer_intent", …)` -/
def assertTransferTransition (intent : TransferIntent H) (status : TransferIntentStatus) :
    Domain Unit :=
  assertTransition "transfer_intent" transferIntentTransitions TransferIntentStatus.text
    intent.status status

/-- What is checked of a command on an intent before anything is read. -/
def checkAction : TransferAction → Domain Unit
  | .quoteTransfer => pure ()
  | .authorizeTransfer actorRef => assertNonEmptyString "actorRef" actorRef
  | .submitTransfer => pure ()
  | .simulateSettlement providerEventId _ _ =>
    assertNonEmptyString "providerEventId" providerEventId
  | .expireTransfer actorRef reason => do
    assertNonEmptyString "actorRef" actorRef
    assertNonEmptyString "reason" reason

/-- The segment that has the intent, with its version checked, for each of the commands. -/
def perform (command : TransferCommand) (intent : TransferIntent H) : Segment H (CallState H) :=
  match command.action with
  | .quoteTransfer => do
    lift (assertTransferTransition intent .quoted)
    let adapter ← lift (requireAdapter adapters intent.railId)
    let quote ← lift (adapter.createQuote intent command.idempotencyKey command.now (← draw))
    appendTransfer hashId command intent none (.quote quote) .quoted none
  | .authorizeTransfer actorRef => do
    lift (assertTransferTransition intent .authorized)
    lift (assertQuoteCurrent intent command.now)
    assertLivePolicyAndMandate hashId intent command.now
    appendTransfer hashId command intent (some actorRef)
      (.authorization
        { mandateId := intent.mandateId
          policyDecisionRef := intent.policyDecisionRef
          actorRef
          authorizedAt := command.now })
      .authorized none
  | .submitTransfer => do
    lift (assertTransferTransition intent .submitted)
    lift (assertQuoteCurrent intent command.now)
    assertLivePolicyAndMandate hashId intent command.now
    let adapter ← lift (requireAdapter adapters intent.railId)
    let submission ← lift (adapter.submit intent command.idempotencyKey command.now)
    lift (throwIf (submission.productionFundsMoved = true ∨ submission.sandboxOnly = false)
      "unsafe_sandbox_submission" "sandbox adapter returned an unsafe transfer claim")
    appendTransfer hashId command intent none (.submission submission) .submitted none
  | .simulateSettlement providerEventId outcome finality => do
    let adapter ← lift (requireAdapter adapters intent.railId)
    let receipt ← lift (adapter.createReceipt intent
      (intent.submission.map TransferSubmission.railReferenceHash) providerEventId outcome finality
      command.idempotencyKey command.now (← draw))
    let state ← get
    pure (.listed command intent receipt (listSettlementReceipts state.store))
  | .expireTransfer actorRef reason => do
    lift (throwIf (∀ quote ∈ intent.quote, command.now < quote.expiresAt) "quote_not_expired"
      "transfer can only expire after its quote validity window")
    lift (assertTransferTransition intent .expired)
    appendTransfer hashId command intent (some actorRef) (.reason reason) .expired none

/-- The rest of `simulateSettlement`, with the receipts that were recorded when it looked. -/
def settle (command : TransferCommand) (intent : TransferIntent H) (receipt : SettlementReceipt H)
    (recorded : List (SettlementReceipt H)) : Segment H (CallState H) := do
  lift (throwIf
    (∃ candidate ∈ recorded, candidate.providerEventIdHash = receipt.providerEventIdHash)
    "provider_event_conflict" "provider event id was already recorded under another command")
  lift (assertTransferTransition intent (statusForReceipt receipt))
  appendTransfer hashId command intent none (.receipt receipt) (statusForReceipt receipt)
    (some (sourceFinalityForReceipt receipt))

/-- How `#append` maps what the repository throws. -/
def appendError (error : DomainError) : DomainError :=
  if error.code = "event_idempotency_conflict" then
    { code := "rail_idempotency_conflict"
      message := "rail command idempotency key was reused with different input" }
  else if error.code = "stale_aggregate_version" then
    { code := "stale_transfer_version", message := "transfer intent changed since it was read" }
  else error

/-- The append of an event, when its turn has come. -/
def appendQueued (request : EventStore.AppendRequest H) (recordedAt : ℕ) :
    Segment H (CallState H) := do
  let state ← get
  match state.store.appendCommand hashId request recordedAt with
  | .error error => lift (.error (appendError error))
  | .ok (event, store) => do
    modify fun state ↦ { state with store }
    pure (.recorded event.payload.transferIntentId)

/-- A call from where it waits up to its next `await`. -/
def resume (recordedAt : ℕ) : CallState H → Segment H (CallState H)
  | .prepared prepared => do
    lift (throwIf (prepared.spendRequest.status ≠ .approved) "rail_policy_decision_not_approved"
      "transfer intent requires an approved spend decision")
    lift (throwIf (prepared.provider.status ≠ .allowlisted) "rail_provider_not_allowlisted"
      "transfer destination provider is not allowlisted")
    append hashId prepared.intent prepared.intent.idempotencyKey prepared.commandHash none
      (.intent prepared.intent) none none prepared.now
  | .searched command => do
    let state ← get
    pure (.loaded command (← lift (getTransferIntent state.store command.transferIntentId)))
  | .loaded command intent => do
    lift (assertExpectedVersion intent command.expectedVersion)
    perform adapters hashId command intent
  | .listed command intent receipt recorded => settle hashId command intent receipt recorded
  | .appending request => appendQueued hashId request recordedAt
  | .recorded transferIntentId => do
    let state ← get
    pure (.done (getTransferIntent state.store transferIntentId))
  | .done result => pure (.done result)

/-- Where a call goes on after its search: it has its answer, or the command is new. -/
def afterSearch (found : Option (CreditEvent H)) (next : CallState H) : CallState H :=
  match found with
  | some event => .recorded event.payload.transferIntentId
  | none => next

/-- `createProviderSpendIntent`, up to the hash of the command. -/
def prepareIntent (input : CreateIntentInput H) : Segment H (Prepared H) := do
  let railId := input.railId.getD (defaultRailId adapters)
  lift (assertNonEmptyString "spendRequestId" input.spendRequestId)
  lift (assertNonEmptyString "railId" railId)
  lift (assertNonEmptyString "idempotencyKey" input.idempotencyKey)
  let state ← get
  let spendRequest ← lift (SpendPolicy.requireSpendRequest state.spend input.spendRequestId)
  let provider ← lift (SpendPolicy.requireProvider state.spend spendRequest.providerId)
  let _ ← lift (requireAdapter adapters railId)
  let sourceAsset : Asset := { assetId := spendRequest.assetId, scale := input.scale.getD 2 }
  let intent ← lift (createTransferIntent hashId
    { subjectId := spendRequest.subjectId
      mandateId := spendRequest.mandateId
      policyDecisionRef := spendRequest.spendRequestId
      providerId := spendRequest.providerId
      purposeCode := spendRequest.purposeCode
      railId
      direction := input.direction.getD .native
      sourceMoney := { sourceAsset with amountMinor := spendRequest.amountMinor }
      destinationAsset := input.destinationAsset.getD sourceAsset
      sourceAccountRefHash := input.sourceAccountRefHash
      destinationAccountRefHash := hashId (.account provider.settlementAccountIdRef) }
    input.idempotencyKey input.now (← draw))
  pure
    { intent
      spendRequest
      provider
      commandHash := hashId (.railCommand (.create intent.requestHash))
      now := input.now }

/-- A call up to its first `await`: the hash of the command, if it comes to that, and where the call
waits. -/
def begin (command : RailCommand H) : Segment H (Option H × Domain (CallState H)) :=
  match command with
  | .createProviderSpendIntent input => do
    match ← Throwing.attempt (prepareIntent adapters hashId input) with
    | .error error => pure (none, .error error)
    | .ok prepared => do
      let state ← get
      let found := findCommandReplay state.store input.idempotencyKey prepared.commandHash
      pure (some prepared.commandHash,
        (fun found ↦ afterSearch found (.prepared prepared)) <$> found)
  | .transfer command => do
    let state ← get
    let commandHash := hashId (.railCommand command.text)
    let found := do
      checkAction command.action
      findCommandReplay state.store command.idempotencyKey commandHash
    pure (some commandHash, (fun found ↦ afterSearch found (.searched command)) <$> found)

/-- A call that throws is done. -/
def ended : Domain (CallState H) → CallState H
  | .ok state => state
  | .error error => .done (.error error)

end Segments

/-! ## The system -/

/-- What happens to the service. -/
inductive RailInput (H : Type) where
  /-- A command is called. -/
  | call (command : RailCommand H)
  /-- A call goes on; the clock is read if it appends. -/
  | resume (index recordedAt : ℕ)
  | getReplayProof (transferIntentId : ℕ)
  | resumeReplayProof (index : ℕ)
  | allowProvider (providerId settlementAccountId : String)
  | createSpendPolicy (input : CreateSpendPolicyInput)
  | requestSpend (input : RequestSpendInput)
  | settleSpend (spendRequestId : String) (now : ℕ)
  | mandate (input : MandateInput)

section System

variable {H : Type} [DecidableEq H] (adapters : InsertionMap String (RailAdapter H))
  (hashId : RailPreimage H → H) (mandateHashId : MandatePreimage → H)

/-- A call of a command is made. -/
def callCommand (state : RailState H) (command : RailCommand H) : RailState H :=
  match begin adapters hashId command state with
  | (.error _, left) => left
  | (.ok (commandHash, next), left) =>
    { left with calls := left.calls ++ [{ command, commandHash, state := ended next }] }

/-- One of the calls goes on. -/
def resumeCall (state : RailState H) (index recordedAt : ℕ) : RailState H :=
  match state.calls[index]? with
  | none => state
  | some call =>
    let (next, left) := resume adapters hashId recordedAt call.state state
    { left with calls := left.calls.set index { call with state := ended next } }

/-- `getReplayProof` reads the events of the intent. -/
def callReplayProof (state : RailState H) (transferIntentId : ℕ) : RailState H :=
  { state with
    replayProofs :=
      state.replayProofs ++ [.reading transferIntentId
        (eventsForIntent state.store transferIntentId)] }

/-- `getReplayProof` reads the evidence, and answers. -/
def resumeReplayProof (state : RailState H) (index : ℕ) : RailState H :=
  match state.replayProofs[index]? with
  | some (.reading transferIntentId events) =>
    let evidence := state.store.listEvidence transferIntentId
    { state with
      replayProofs := state.replayProofs.set index
        (.done (replayProof hashId transferIntentId events evidence)) }
  | _ => state

/-- An identifier of a spend request that was not drawn before. -/
def freshSpendRequestId (state : RailState H) (spendRequestId : String) : Prop :=
  state.spend.spendRequests.get spendRequestId = none ∧
    state.spend.authorization.reservations.get spendRequestId = none

instance (state : RailState H) (spendRequestId : String) :
    Decidable (freshSpendRequestId state spendRequestId) :=
  inferInstanceAs (Decidable (_ ∧ _))

/-- A program of the spend policy service. -/
def runSpend {α : Type} (state : RailState H) (x : Throwing DomainError (SpendState H) α) :
    RailState H :=
  { state with spend := (x state.spend).2 }

/-- What the system does with an input.  A random identifier is not one that was drawn before. -/
def step (state : RailState H) : RailInput H → RailState H
  | .call command => callCommand adapters hashId state command
  | .resume index recordedAt => resumeCall adapters hashId state index recordedAt
  | .getReplayProof transferIntentId => callReplayProof state transferIntentId
  | .resumeReplayProof index => resumeReplayProof hashId state index
  | .allowProvider providerId settlementAccountId =>
    if state.spend.providers.get providerId = none then
      runSpend state (SpendPolicy.allowProvider providerId settlementAccountId)
    else state
  | .createSpendPolicy input =>
    if state.spend.policies.get input.spendPolicyId = none then
      runSpend state (SpendPolicy.createSpendPolicy input)
    else state
  | .requestSpend input =>
    if freshSpendRequestId state input.spendRequestId then
      runSpend state (SpendPolicy.requestSpend mandateHashId input)
    else state
  | .settleSpend spendRequestId now => runSpend state (SpendPolicy.settleSpend spendRequestId now)
  | .mandate input =>
    { state with
      spend :=
        { state.spend with
          authorization := mandateStep mandateHashId state.spend.authorization input } }

end System

end Rail
end IpoOne
