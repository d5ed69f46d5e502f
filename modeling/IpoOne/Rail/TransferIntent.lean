import IpoOne.Domain.Validators

/-!
# Transfer intents

`packages/domain/src/rail.js`: a transfer intent, the quote that is accepted for it, and the
receipts of its settlement, with the constructors that check them, and the events and evidence
envelopes that are recorded about it.

Identifiers that the constructors draw at random are numbers here, given to them by the caller, who
counts how many were drawn.  A digest is a value of a type `H`, and what is hashed a `RailPreimage`.
Times are milliseconds.
-/

set_option autoImplicit false

namespace IpoOne
namespace Rail

open Fallible

/-- Which way a transfer goes. -/
inductive TransferDirection where
  | native
  | onRamp
  | offRamp
  deriving DecidableEq, Repr

/-- The states of a transfer. -/
inductive TransferIntentStatus where
  | created
  | quoted
  | authorized
  | submitted
  | pending
  | settled
  | failed
  | reversed
  | expired
  deriving DecidableEq, Repr

/-- The names of the states. -/
def TransferIntentStatus.text : TransferIntentStatus → String
  | .created => "created"
  | .quoted => "quoted"
  | .authorized => "authorized"
  | .submitted => "submitted"
  | .pending => "pending"
  | .settled => "settled"
  | .failed => "failed"
  | .reversed => "reversed"
  | .expired => "expired"

/-- `TransferIntentTransitions` -/
def transferIntentTransitions : TransferIntentStatus → List TransferIntentStatus
  | .created => [.quoted, .expired]
  | .quoted => [.authorized, .failed, .expired]
  | .authorized => [.submitted, .failed, .expired]
  | .submitted => [.pending, .settled, .failed]
  | .pending => [.pending, .settled, .failed]
  | .settled => [.reversed]
  | .failed => []
  | .reversed => []
  | .expired => []

/-- How a settlement ends. -/
inductive SettlementOutcome where
  | succeeded
  | failed
  | reversed
  deriving DecidableEq, Repr

/-- How final a settlement is. -/
inductive SettlementFinality where
  | pending
  | confirmed
  | finalized
  deriving DecidableEq, Repr

/-- An asset, and its decimals. -/
structure Asset where
  assetId : String
  scale : ℕ
  deriving DecidableEq, Repr

/-- An amount of an asset. -/
structure Money extends Asset where
  amountMinor : ℤ
  deriving DecidableEq, Repr

/-- An exchange rate, as a fraction. -/
structure Rate where
  sourceUnits : ℤ
  destinationUnits : ℤ
  deriving DecidableEq, Repr

/-- `requestCore` of `createTransferIntent`. -/
structure TransferRequest (H : Type) where
  subjectId : String
  mandateId : ℕ
  policyDecisionRef : String
  providerId : String
  purposeCode : String
  railId : String
  direction : TransferDirection
  sourceMoney : Money
  destinationAsset : Asset
  sourceAccountRefHash : H
  destinationAccountRefHash : H
  deriving DecidableEq

/-- `quoteCore` of `createTransferQuote`. -/
structure TransferQuoteCore where
  transferIntentId : ℕ
  railId : String
  sourceMoney : Money
  feeMoney : Money
  destinationMoney : Money
  rate : Rate
  expiresAt : ℕ
  idempotencyKey : String
  deriving DecidableEq

/-- A quote with its hash. -/
structure TransferQuote (H : Type) extends TransferQuoteCore where
  transferQuoteId : ℕ
  transferQuoteHash : H
  createdAt : ℕ
  deriving DecidableEq

/-- `receiptCore` of `createSettlementReceipt`. -/
structure SettlementReceiptCore (H : Type) where
  transferIntentId : ℕ
  transferQuoteId : ℕ
  railId : String
  railReferenceHash : H
  providerEventIdHash : H
  outcome : SettlementOutcome
  finality : SettlementFinality
  sourceMoney : Money
  feeMoney : Money
  destinationMoney : Money
  idempotencyKey : String
  occurredAt : ℕ
  deriving DecidableEq

/-- A receipt with its hash. -/
structure SettlementReceipt (H : Type) extends SettlementReceiptCore H where
  settlementReceiptId : ℕ
  settlementReceiptHash : H
  deriving DecidableEq

/-- What `authorizeTransfer` records. -/
structure TransferAuthorization where
  mandateId : ℕ
  policyDecisionRef : String
  actorRef : String
  authorizedAt : ℕ
  deriving DecidableEq

/-- What an adapter answers to `submit`. -/
structure TransferSubmission (H : Type) where
  railReferenceHash : H
  submittedAt : ℕ
  sandboxOnly : Bool
  productionFundsMoved : Bool
  deriving DecidableEq

/-- A transfer, as its events make it. -/
structure TransferIntent (H : Type) extends TransferRequest H where
  transferIntentId : ℕ
  transferIntentHash : H
  requestHash : H
  idempotencyKey : String
  status : TransferIntentStatus
  quote : Option (TransferQuote H)
  authorization : Option TransferAuthorization
  submission : Option (TransferSubmission H)
  settlementReceipts : List (SettlementReceipt H)
  version : ℕ
  createdAt : ℕ
  updatedAt : ℕ
  deriving DecidableEq

/-- The text of a command of the rail service, as it is hashed. -/
inductive CommandText (H : Type) where
  | create (requestHash : H)
  | quote (transferIntentId : ℕ)
  | authorize (transferIntentId : ℕ) (actorRef : String)
  | submit (transferIntentId : ℕ)
  | settlementReceipt (transferIntentId : ℕ) (providerEventId : String)
      (outcome : SettlementOutcome) (finality : SettlementFinality)
  | expire (transferIntentId : ℕ) (actorRef reason : String)
  deriving DecidableEq

/-! ## Events -/

/-- The types of events in `RAIL_EVENT_TYPES`. -/
inductive RailEventType where
  | transferIntentCreated
  | transferQuoted
  | transferAuthorized
  | transferSubmitted
  | transferExpired
  | settlementReceiptRecorded
  deriving DecidableEq, Repr

/-- The finality that an event is recorded with. -/
inductive FinalityStatus where
  | pending
  | confirmed
  | finalized
  | reorged
  | invalidated
  deriving DecidableEq, Repr

/-- What an event adds to the payload that all rail events have. -/
inductive EventBody (H : Type) where
  | intent (intent : TransferIntent H)
  | quote (quote : TransferQuote H)
  | authorization (authorization : TransferAuthorization)
  | submission (submission : TransferSubmission H)
  | receipt (receipt : SettlementReceipt H)
  | reason (reason : String)
  deriving DecidableEq

/-- Each type of event has a body of its own. -/
def EventBody.eventType {H : Type} : EventBody H → RailEventType
  | .intent _ => .transferIntentCreated
  | .quote _ => .transferQuoted
  | .authorization _ => .transferAuthorized
  | .submission _ => .transferSubmitted
  | .receipt _ => .settlementReceiptRecorded
  | .reason _ => .transferExpired

/-- The payload of an event. -/
structure EventPayload (H : Type) where
  transferIntentId : ℕ
  intentVersion : ℕ
  idempotencyKey : String
  commandHash : H
  actorId : String
  body : EventBody H
  /-- Every event but the first records the status it leads to. -/
  resultingStatus : Option TransferIntentStatus
  deriving DecidableEq

/-- An event of the store. -/
structure CreditEvent (H : Type) where
  eventId : ℕ
  subjectId : String
  finalityStatus : FinalityStatus
  payloadHash : H
  payload : EventPayload H
  occurredAt : ℕ
  deriving DecidableEq

/-- The type of an event, by its payload. -/
def CreditEvent.eventType {H : Type} (event : CreditEvent H) : RailEventType :=
  event.payload.body.eventType

/-- `core` of `createEvidenceEnvelope`, for an aggregate of the type `transfer_intent`. -/
structure EvidenceCore (H : Type) where
  eventId : ℕ
  eventType : RailEventType
  aggregateId : ℕ
  aggregateVersion : ℕ
  correlationId : String
  idempotencyKey : String
  actorRef : String
  sourceFinality : FinalityStatus
  payloadHash : H
  subjectId : String
  occurredAt : ℕ
  recordedAt : ℕ
  deriving DecidableEq

/-- The evidence of an event, with its hash. -/
structure EvidenceEnvelope (H : Type) extends EvidenceCore H where
  evidenceHash : H
  payload : EventPayload H
  deriving DecidableEq

/-! ## Hashes -/

/-- What is hashed about transfers, each kind under a namespace of its own. -/
inductive RailPreimage (H : Type) where
  | account (accountId : String)
  | transferIntentRequest (request : TransferRequest H)
  | transferIntent (request : TransferRequest H) (idempotencyKey : String)
  | transferQuote (core : TransferQuoteCore)
  | settlementReceipt (core : SettlementReceiptCore H)
  | railCommand (command : CommandText H)
  | sandboxRailReference (railId : String) (transferIntentId : ℕ) (idempotencyKey : String)
  | sandboxProviderEvent (railId providerEventId : String)
  | eventPayload (payload : EventPayload H)
  | evidencePayload (payload : EventPayload H)
  | evidenceEnvelope (core : EvidenceCore H)
  deriving DecidableEq

/-! ## Constructors -/

section Constructors

/-- `normalizeAsset` -/
def normalizeAsset (name : String) (value : Asset) : Domain Asset := do
  assertNonEmptyString (name ++ ".assetId") value.assetId
  throwIf (30 < value.scale) "invalid_asset_scale"
    (name ++ ".scale must be an integer from 0 through 30")
  pure value

/-- `normalizeMoney` -/
def normalizeMoney (name : String) (value : Money) (allowZero : Bool) : Domain Money := do
  let asset ← normalizeAsset name value.toAsset
  let amountMinor ←
    if allowZero then toMinorUnitBigInt value.amountMinor (name ++ ".amountMinor")
    else assertPositiveMinorUnits value.amountMinor (name ++ ".amountMinor")
  pure { asset with amountMinor }

variable {H : Type} (hashId : RailPreimage H → H)

/-- A new transfer. -/
def createTransferIntent (input : TransferRequest H) (idempotencyKey : String) (now : ℕ)
    (transferIntentId : ℕ) : Domain (TransferIntent H) := do
  assertNonEmptyString "subjectId" input.subjectId
  assertNonEmptyString "policyDecisionRef" input.policyDecisionRef
  assertNonEmptyString "providerId" input.providerId
  assertNonEmptyString "purposeCode" input.purposeCode
  assertNonEmptyString "railId" input.railId
  assertNonEmptyString "idempotencyKey" idempotencyKey
  let sourceMoney ← normalizeMoney "sourceMoney" input.sourceMoney false
  let destinationAsset ← normalizeAsset "destinationAsset" input.destinationAsset
  let requestCore := { input with sourceMoney, destinationAsset }
  pure
    { requestCore with
      transferIntentId
      transferIntentHash := hashId (.transferIntent requestCore idempotencyKey)
      requestHash := hashId (.transferIntentRequest requestCore)
      idempotencyKey
      status := .created
      quote := none
      authorization := none
      submission := none
      settlementReceipts := []
      version := 1
      createdAt := now
      updatedAt := now }

/-- The quote of a transfer, whose conversion has to be exact. -/
def createTransferQuote (transferIntent : TransferIntent H) (feeMoney destinationMoney : Money)
    (rate : Rate) (idempotencyKey : String) (expiresAt now transferQuoteId : ℕ) :
    Domain (TransferQuote H) := do
  assertNonEmptyString "idempotencyKey" idempotencyKey
  let normalizedFee ← normalizeMoney "feeMoney" feeMoney true
  let normalizedDestination ← normalizeMoney "destinationMoney" destinationMoney false
  throwIf (normalizedFee.toAsset ≠ transferIntent.sourceMoney.toAsset) "quote_fee_asset_mismatch"
    "quote fees must use the source asset and scale"
  throwIf (normalizedDestination.toAsset ≠ transferIntent.destinationAsset)
    "quote_destination_asset_mismatch" "quote destination does not match the intent"
  let sourceUnits ← assertPositiveMinorUnits rate.sourceUnits "rate.sourceUnits"
  let destinationUnits ← assertPositiveMinorUnits rate.destinationUnits "rate.destinationUnits"
  let sourceAmount := transferIntent.sourceMoney.amountMinor
  let feeAmount := normalizedFee.amountMinor
  throwIf (sourceAmount ≤ feeAmount) "quote_fee_exhausts_source"
    "quote fee must be less than the source amount"
  let convertedNumerator := (sourceAmount - feeAmount) * destinationUnits
  throwIf (convertedNumerator % sourceUnits ≠ 0) "inexact_quote_conversion"
    "quote conversion must resolve exactly in destination minor units"
  throwIf (convertedNumerator / sourceUnits ≠ normalizedDestination.amountMinor)
    "quote_amount_mismatch" "quote destination amount does not match its fee and rational rate"
  throwIf (expiresAt ≤ now) "invalid_quote_expiry" "quote expiresAt must be after createdAt"
  let quoteCore : TransferQuoteCore :=
    { transferIntentId := transferIntent.transferIntentId
      railId := transferIntent.railId
      sourceMoney := transferIntent.sourceMoney
      feeMoney := normalizedFee
      destinationMoney := normalizedDestination
      rate := { sourceUnits, destinationUnits }
      expiresAt
      idempotencyKey }
  pure
    { quoteCore with
      transferQuoteId
      transferQuoteHash := hashId (.transferQuote quoteCore)
      createdAt := now }

/-- The receipt of a settlement: of the amounts of the quote, or of none where it failed. -/
def createSettlementReceipt (transferIntent : TransferIntent H) (quote : TransferQuote H)
    (railReferenceHash : Option H) (providerEventIdHash : H) (outcome : SettlementOutcome)
    (finality : SettlementFinality) (sourceMoney feeMoney destinationMoney : Money)
    (idempotencyKey : String) (now settlementReceiptId : ℕ) : Domain (SettlementReceipt H) := do
  match railReferenceHash with
  | none =>
    .error
      { code := "invalid_string", message := "railReferenceHash must be a non-empty string" }
  | some railReferenceHash => do
    assertNonEmptyString "idempotencyKey" idempotencyKey
    let normalizedSource ← normalizeMoney "sourceMoney" sourceMoney true
    let normalizedFee ← normalizeMoney "feeMoney" feeMoney true
    let normalizedDestination ← normalizeMoney "destinationMoney" destinationMoney true
    let amounts := [normalizedSource, normalizedFee, normalizedDestination]
    let quoteAmounts := [quote.sourceMoney, quote.feeMoney, quote.destinationMoney]
    if outcome = .failed then
      throwIf (finality ≠ .finalized ∨ ∃ money ∈ amounts, money.amountMinor ≠ 0)
        "invalid_failed_receipt" "failed receipts must be finalized with zero settled amounts"
    else do
      throwIf (amounts ≠ quoteAmounts) "settlement_amount_mismatch"
        "settlement receipt amounts must match the accepted quote"
      throwIf (outcome = .reversed ∧ finality ≠ .finalized) "invalid_reversal_finality"
        "reversal receipts must be finalized"
    let receiptCore : SettlementReceiptCore H :=
      { transferIntentId := transferIntent.transferIntentId
        transferQuoteId := quote.transferQuoteId
        railId := transferIntent.railId
        railReferenceHash
        providerEventIdHash
        outcome
        finality
        sourceMoney := normalizedSource
        feeMoney := normalizedFee
        destinationMoney := normalizedDestination
        idempotencyKey
        occurredAt := now }
    pure
      { receiptCore with
        settlementReceiptId
        settlementReceiptHash := hashId (.settlementReceipt receiptCore) }

end Constructors

end Rail
end IpoOne
