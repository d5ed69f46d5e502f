import IpoOne.Lib.InsertionMap
import IpoOne.Rail.TransferIntent
import Mathlib

/-!
# The event store and the event repository of the rail

`EventStore` and `EventStoreEventRepository`, for the events of transfer intents.  The store keeps
credit events and, in step with them, evidence envelopes that number the events of each aggregate.
The repository appends an event if its aggregate has the version the caller expects, and answers a
command it has recorded with the event of that command.

The other services append to the same store, but none of their events has a `transferIntentId` or an
`idempotencyKey` in its payload, so that no function below would find one.  `#appendCommand` runs
alone: the repositories of one store put their appends in one queue.
-/

set_option autoImplicit false

namespace IpoOne
namespace Rail

open Fallible

variable {H : Type}

/-- `createCreditEvent` -/
def createCreditEvent (hashId : RailPreimage H → H) (subjectId : String)
    (finalityStatus : Option FinalityStatus) (payload : EventPayload H) (now eventId : ℕ) :
    CreditEvent H where
  eventId
  subjectId
  finalityStatus := finalityStatus.getD .finalized
  payloadHash := hashId (.eventPayload payload)
  payload
  occurredAt := now

/-- `createEvidenceEnvelope`, with what `appendCreditEvent` passes to it. -/
def createEvidenceEnvelope (hashId : RailPreimage H → H) (event : CreditEvent H)
    (aggregateVersion recordedAt : ℕ) : Domain (EvidenceEnvelope H) := do
  assertNonEmptyString "actorRef" event.payload.actorId
  throwIf (¬ isSafeInteger aggregateVersion ∨ aggregateVersion < 1) "invalid_aggregate_version"
    "aggregateVersion must be a positive safe integer"
  assertNonEmptyString "correlationId" event.subjectId
  assertNonEmptyString "idempotencyKey" event.payload.idempotencyKey
  assertNonEmptyString "subjectId" event.subjectId
  let core : EvidenceCore H :=
    { eventId := event.eventId
      eventType := event.eventType
      aggregateId := event.payload.transferIntentId
      aggregateVersion
      correlationId := event.subjectId
      idempotencyKey := event.payload.idempotencyKey
      actorRef := event.payload.actorId
      sourceFinality := event.finalityStatus
      payloadHash := hashId (.evidencePayload event.payload)
      subjectId := event.subjectId
      occurredAt := event.occurredAt
      recordedAt }
  pure { core with evidenceHash := hashId (.evidenceEnvelope core), payload := event.payload }

/-- The fields of `EventStore`. -/
structure EventStore (H : Type) where
  creditEvents : List (CreditEvent H)
  evidenceEnvelopes : List (EvidenceEnvelope H)
  aggregateVersions : InsertionMap ℕ ℕ

/-- A new store. -/
def EventStore.new : EventStore H where
  creditEvents := []
  evidenceEnvelopes := []
  aggregateVersions := .empty

namespace EventStore

/-- `appendCreditEvent`; nothing is written unless the envelope could be built. -/
def appendCreditEvent (hashId : RailPreimage H → H) (store : EventStore H) (event : CreditEvent H)
    (recordedAt : ℕ) : Domain (EventStore H) := do
  throwIf (∃ recorded ∈ store.creditEvents, recorded.eventId = event.eventId)
    "duplicate_credit_event" "credit event ids are append-only and unique"
  let aggregateId := event.payload.transferIntentId
  let aggregateVersion := (store.aggregateVersions.get aggregateId).getD 0 + 1
  let envelope ← createEvidenceEnvelope hashId event aggregateVersion recordedAt
  pure
    { creditEvents := store.creditEvents ++ [event]
      evidenceEnvelopes := store.evidenceEnvelopes ++ [envelope]
      aggregateVersions := store.aggregateVersions.set aggregateId aggregateVersion }

/-! ## The repository -/

/-- `listEvents({ aggregateType, aggregateId })` -/
def listEventsOf (store : EventStore H) (aggregateId : ℕ) : List (CreditEvent H) :=
  store.creditEvents.filter fun event ↦ event.payload.transferIntentId = aggregateId

/-- `listEvents({ aggregateType })`, by the evidence about each event. -/
def listEvents (store : EventStore H) : List (CreditEvent H) :=
  store.creditEvents.filter fun event ↦
    store.evidenceEnvelopes.any fun candidate ↦ candidate.eventId = event.eventId

/-- `listEvidence({ aggregateType, aggregateId })` -/
def listEvidence (store : EventStore H) (aggregateId : ℕ) : List (EvidenceEnvelope H) :=
  store.evidenceEnvelopes.filter fun envelope ↦ envelope.aggregateId = aggregateId

/-- The version of an intent's stream: how much evidence it has. -/
def getStreamVersion (store : EventStore H) (aggregateId : ℕ) : ℕ :=
  (store.listEvidence aggregateId).length

variable [DecidableEq H]

/-- The event that was recorded under the key; another command there is a conflict. -/
def findCommand (store : EventStore H) (idempotencyKey : String) (commandHash : H) :
    Domain (Option (CreditEvent H)) :=
  match store.creditEvents.find? fun candidate ↦
    candidate.payload.idempotencyKey = idempotencyKey with
  | none => pure none
  | some event => do
    throwIf (event.payload.commandHash ≠ commandHash) "event_idempotency_conflict"
      "idempotency key was reused with a different command"
    pure (some event)

/-- The input of `appendCommand`. -/
structure AppendRequest (H : Type) where
  aggregateId : ℕ
  expectedVersion : ℕ
  idempotencyKey : String
  commandHash : H
  event : CreditEvent H

/-- `#appendCommand`: the event that is recorded for the command, and the store it leaves. -/
def appendCommand (hashId : RailPreimage H → H) (store : EventStore H) (request : AppendRequest H)
    (recordedAt : ℕ) : Domain (CreditEvent H × EventStore H) := do
  throwIf (request.idempotencyKey = "") "invalid_repository_input"
    "idempotencyKey must be a non-empty string"
  match ← store.findCommand request.idempotencyKey request.commandHash with
  | some event => pure (event, store)
  | none => do
    throwIf (request.event.payloadHash ≠ hashId (.eventPayload request.event.payload))
      "invalid_event_payload_hash" "event payload hash does not match its payload"
    throwIf (store.getStreamVersion request.aggregateId ≠ request.expectedVersion)
      "stale_aggregate_version" "aggregate changed since it was read"
    let appended ← store.appendCreditEvent hashId request.event recordedAt
    pure (request.event, appended)

end EventStore

/-! ## Streams -/

/-- Events in the order of their versions. -/
def sortEvents (events : List (CreditEvent H)) : List (CreditEvent H) :=
  events.insertionSort fun left right ↦ left.payload.intentVersion ≤ right.payload.intentVersion

/-- `#eventsForIntent` -/
def eventsForIntent (store : EventStore H) (transferIntentId : ℕ) : List (CreditEvent H) :=
  sortEvents (store.listEventsOf transferIntentId)

/-- What the body of an event changes of the intent. -/
def applyBody (intent : TransferIntent H) : EventBody H → TransferIntent H
  | .intent _ => intent
  | .quote quote => { intent with quote := some quote }
  | .authorization authorization => { intent with authorization := some authorization }
  | .submission submission => { intent with submission := some submission }
  | .receipt receipt =>
    { intent with settlementReceipts := intent.settlementReceipts ++ [receipt] }
  | .reason _ => intent

/-- The loop body of `#reduce`. -/
def applyEvent (intent : TransferIntent H) (event : CreditEvent H) : Domain (TransferIntent H) := do
  throwIf (event.payload.intentVersion ≠ intent.version + 1) "transfer_event_version_gap"
    "transfer event versions must be contiguous"
  match event.payload.resultingStatus with
  | none =>
    .error
      { code := "invalid_state_transition"
        message := "transfer_intent_replay cannot transition from " ++ intent.status.text ++
          " to undefined" }
  | some nextStatus => do
    assertTransition "transfer_intent_replay" transferIntentTransitions TransferIntentStatus.text
      intent.status nextStatus
    pure
      { applyBody intent event.payload.body with
        status := nextStatus
        version := event.payload.intentVersion
        updatedAt := event.occurredAt }

/-- `#reduce` -/
def reduce (events : List (CreditEvent H)) : Domain (TransferIntent H) :=
  match events with
  | [] =>
    .error { code := "TypeError", message := "Cannot read properties of undefined" }
  | first :: rest =>
    match first.payload.body with
    | .intent intent => do
      throwIf (first.payload.intentVersion ≠ 1) "invalid_transfer_stream"
        "transfer event stream must begin at version one"
      rest.foldlM applyEvent intent
    | _ =>
      .error
        { code := "invalid_transfer_stream"
          message := "transfer event stream must begin at version one" }

/-- `getTransferIntent` -/
def getTransferIntent (store : EventStore H) (transferIntentId : ℕ) : Domain (TransferIntent H) :=
  let events := eventsForIntent store transferIntentId
  if events = [] then
    .error { code := "transfer_intent_not_found", message := "transfer intent not found" }
  else reduce events

/-- The receipts of `listSettlementReceipts`, which are read with no filter. -/
def listSettlementReceipts (store : EventStore H) : List (SettlementReceipt H) :=
  store.listEvents.filterMap fun event ↦
    match event.payload.body with
    | .receipt receipt => some receipt
    | _ => none

/-! ## The replay proof -/

/-- What `getReplayProof` answers. -/
structure ReplayProof where
  transferIntentId : ℕ
  eventCount : ℕ
  evidenceEnvelopeCount : ℕ
  latestVersion : ℕ
  resultingStatus : TransferIntentStatus
  contiguousEvents : Bool
  contiguousEvidence : Bool
  payloadHashesValid : Bool
  evidenceHashesValid : Bool
  envelopeHashesValid : Bool
  eventEnvelopeLinksValid : Bool
  replayable : Bool
  deriving DecidableEq, Repr

variable [DecidableEq H]

/-- The versions of a list are `1, 2, …`. -/
def contiguous {α : Type} (version : α → ℕ) (values : List α) : Bool :=
  values.zipIdx.all fun entry ↦ version entry.1 = entry.2 + 1

/-- An event is linked to the envelope at its index. -/
def linked (envelopes : List (EvidenceEnvelope H)) (event : CreditEvent H) (index : ℕ) : Bool :=
  match envelopes[index]? with
  | none => false
  | some envelope =>
    envelope.eventId = event.eventId && envelope.eventType = event.eventType &&
      envelope.aggregateVersion = event.payload.intentVersion

/-- What `getReplayProof` makes of the events and of the envelopes that it has read. -/
def replayProof (hashId : RailPreimage H → H) (transferIntentId : ℕ) (events : List (CreditEvent H))
    (evidence : List (EvidenceEnvelope H)) : Domain ReplayProof := do
  let intent ← reduce events
  let envelopes :=
    evidence.insertionSort fun left right ↦ left.aggregateVersion ≤ right.aggregateVersion
  let contiguousEvents := contiguous (fun event ↦ event.payload.intentVersion) events
  let contiguousEvidence := contiguous (fun envelope ↦ envelope.aggregateVersion) envelopes
  let payloadHashesValid :=
    events.all fun event ↦ event.payloadHash = hashId (.eventPayload event.payload)
  let evidenceHashesValid :=
    envelopes.all fun envelope ↦ envelope.payloadHash = hashId (.evidencePayload envelope.payload)
  let envelopeHashesValid :=
    envelopes.all fun envelope ↦
      envelope.evidenceHash = hashId (.evidenceEnvelope envelope.toEvidenceCore)
  let eventEnvelopeLinksValid :=
    events.zipIdx.all fun entry ↦ linked envelopes entry.1 entry.2
  pure
    { transferIntentId
      eventCount := events.length
      evidenceEnvelopeCount := envelopes.length
      latestVersion := intent.version
      resultingStatus := intent.status
      contiguousEvents
      contiguousEvidence
      payloadHashesValid
      evidenceHashesValid
      envelopeHashesValid
      eventEnvelopeLinksValid
      replayable :=
        decide (events.length = envelopes.length) && contiguousEvents && contiguousEvidence &&
          payloadHashesValid && evidenceHashesValid && envelopeHashesValid &&
          eventEnvelopeLinksValid }

end Rail
end IpoOne
