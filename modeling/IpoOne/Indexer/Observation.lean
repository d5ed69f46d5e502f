import IpoOne.Indexer.Payload

/-!
# Observations of the pool's logs

`secured-pool-v1-adapter.js`: how a raw log becomes an observation, and how an observation of a
block that was replaced becomes an invalidation.  `Normalized` is what the first of the two
establishes.
-/

set_option autoImplicit false

namespace IpoOne
namespace Indexer

open Fallible

/-- A log as a provider hands it over.  A field is `none` where it is not of the form the adapter
asks for: a hex address, a 32-byte hex value, a non-negative safe integer, a decimal, hex data, an
ISO timestamp. -/
structure RawLog where
  chainId : String
  contractAddress : Option Address
  transactionHash : Option Bytes32
  transactionIndex : Option ℕ
  logIndex : Option ℕ
  blockNumber : Option ℕ
  blockHash : Option Bytes32
  blockTimestamp : Option ℕ
  confirmations : Option ℕ
  topics : List (Option Bytes32)
  data : Option (List UInt8)
  observedAt : Option ℕ
  deriving DecidableEq

/-- The value of a field, or the adapter's complaint about it. -/
def required {α : Type} (value : Option α) (message : String) : Domain α :=
  match value with
  | some a => .ok a
  | none => .error { code := "invalid_pool_log", message }

@[simp] theorem required_eq_ok {α : Type} {value : Option α} {message : String} {a : α} :
    required value message = .ok a ↔ value = some a := by
  cases value <;> simp [required]

/-- The CAIP-2 identifier of an EVM chain. -/
def caip (chainId : ℕ) : String := "eip155:" ++ toString chainId

/-- The status that a number of confirmations gives. -/
def statusFor (confirmations : ℕ) (policy : FinalityPolicy) : Domain ObservationStatus :=
  if policy.finalizedConfirmations ≤ confirmations then pure .finalized
  else if policy.safeConfirmations ≤ confirmations then pure .safe
  else if policy.includedConfirmations ≤ confirmations then pure .included
  else .error { code := "pool_log_not_included"
                message := "pool log has not reached the inclusion threshold" }

section Adapter

variable {H : Type} (prims : Primitives H) (descriptor : Descriptor)

/-- The topics as `decodeEventLog` gets them: one to four, all of them 32-byte values. -/
def topicsOf (topics : List (Option Bytes32)) : Domain (List Bytes32) := do
  let known := topics.reduceOption
  throwIf (topics.length < 1 ∨ 4 < topics.length ∨ known.length ≠ topics.length)
    "invalid_pool_log" "topics must be one to four 32-byte hex values"
  pure known

/-- `decodeEventLog`, and the checks on what it returns. -/
def decodeLog (topics : List Bytes32) (data : List UInt8) : Domain PoolEvent := do
  let (marketId, event) ←
    (match prims.decodeEventLog topics data with
    | some decoded => .ok decoded
    | none => .error { code := "unknown_or_malformed_pool_event"
                       message := "pool log does not match the closed Pool V1 event ABI" })
  throwIf (marketId ≠ descriptor.marketId) "pool_market_mismatch"
    "decoded pool event belongs to a different market"
  (match event with
    | .marketInitialized chainId .. =>
      throwIf (chainId ≠ descriptor.chainId) "pool_market_chain_mismatch"
        "market initialization chain binding does not match CAIP-2"
    | _ => pure ())
  pure event

/-- The observation of a log, if it is one of the market's events. -/
def normalizeLog (input : RawLog) : Domain (Observation H) := do
  throwIf (input.chainId ≠ caip descriptor.chainId) "pool_chain_mismatch"
    "pool log chain does not match the adapter"
  let contractAddress ← required input.contractAddress "contractAddress must be an EVM address"
  throwIf (contractAddress ≠ descriptor.contractAddress) "pool_emitter_mismatch"
    "pool log emitter does not match the configured contract"
  let logIndex ← required input.logIndex "logIndex must be a non-negative safe integer"
  let transactionIndex ←
    required input.transactionIndex "transactionIndex must be a non-negative safe integer"
  let confirmations ←
    required input.confirmations "confirmations must be a non-negative safe integer"
  let topics ← topicsOf input.topics
  let data ← required input.data "data must be canonical byte-aligned hex"
  let event ← decodeLog prims descriptor topics data
  let transactionHash ←
    required input.transactionHash "transactionHash must be a 32-byte hex value"
  let blockNumber ← required input.blockNumber "blockNumber must be an unsigned decimal value"
  let blockHash ← required input.blockHash "blockHash must be a 32-byte hex value"
  let blockTimestamp ←
    required input.blockTimestamp "blockTimestamp must be an unsigned decimal value"
  let observationStatus ← statusFor confirmations descriptor.finalityPolicy
  let eventKey := prims.hashId
    (.eventKey descriptor.chainId descriptor.contractAddress transactionHash logIndex)
  let eventContentHash := prims.hashId
    (.eventContent eventKey transactionIndex blockNumber blockHash blockTimestamp
      descriptor.marketId event)
  let observedAt ← required input.observedAt "observedAt must be an ISO timestamp"
  let core : ObservationCore H :=
    { eventKey, eventContentHash, chainId := descriptor.chainId
      contractAddress := descriptor.contractAddress, transactionHash, transactionIndex, logIndex
      blockNumber, blockHash, blockTimestamp, marketId := descriptor.marketId, event
      observationStatus, confirmations, observedAt, invalidation := none }
  pure { core with
    observationId := prims.hashId (.observationId eventKey blockHash observationStatus)
    observationHash := prims.hashId (.observation core) }

/-- `createInvalidation`, with the one reason code there is.  `canonicalBlockHash` and `observedAt`
are the caller's, and may not be well formed. -/
def createInvalidation (observation : Observation H) (canonicalBlockHash : Option Bytes32)
    (observedAt : Option ℕ) : Domain (Observation H) := do
  throwIf (observation.observationStatus = .finalized) "finalized_pool_event_cannot_reorg"
    "a finalized Pool V1 event cannot be invalidated"
  let replacementHash ←
    required canonicalBlockHash "canonicalBlockHash must be a 32-byte hex value"
  throwIf (replacementHash = observation.blockHash) "pool_reorg_not_observed"
    "canonical block hash must differ before invalidation"
  let observedAt ← required observedAt "observedAt must be an ISO timestamp"
  let core : ObservationCore H :=
    { observation.toObservationCore with
      observationStatus := .invalidated
      observedAt
      invalidation := some
        { replacedBlockHash := replacementHash
          priorObservationHash := observation.observationHash } }
  pure { core with
    observationId := prims.hashId (.invalidationId observation.observationHash replacementHash)
    observationHash := prims.hashId (.invalidation core) }

end Adapter

/-- `applyFinalizedEvent` -/
def applyFinalizedEvent {H : Type} (current : ProjectionState) (observation : Observation H) :
    Domain ProjectionState := do
  throwIf (observation.observationStatus ≠ .finalized) "pool_event_not_finalized"
    "only finalized Pool V1 events can mutate the canonical projection"
  applyEvent current observation.blockTimestamp observation.event

/-- A snapshot of the projection. -/
structure Snapshot (H : Type) extends SnapshotCore H where
  snapshotHash : H
  deriving DecidableEq

/-- The projection with its hashes. -/
def projectionSnapshot {H : Type} (prims : Primitives H) (state : ProjectionState)
    (finalizedEventKeys : List H) : Snapshot H :=
  let canonical := canonicalState state
  let core : SnapshotCore H :=
    { finalizedEventKeys, state := canonical
      stateHash := prims.hashId (.economicState canonical) }
  { core with snapshotHash := prims.hashId (.projectionSnapshot core) }

/-! ## What a normalized log says -/

section Normalized

variable {H : Type} {prims : Primitives H} {descriptor : Descriptor} {input : RawLog}
  {o : Observation H}

/-- What `normalizeLog` establishes about the observation it returns. -/
structure Normalized (prims : Primitives H) (descriptor : Descriptor) (o : Observation H) :
    Prop where
  eventKey : o.eventKey = prims.hashId
    (.eventKey descriptor.chainId descriptor.contractAddress o.transactionHash o.logIndex)
  eventContentHash : o.eventContentHash = prims.hashId
    (.eventContent o.eventKey o.transactionIndex o.blockNumber o.blockHash o.blockTimestamp
      descriptor.marketId o.event)
  observationHash : o.observationHash = prims.hashId (.observation o.toObservationCore)
  not_invalidated : o.observationStatus ≠ .invalidated

/-- What `createInvalidation` establishes about the invalidation it returns. -/
structure IsInvalidation (prims : Primitives H) (o : Observation H) : Prop where
  status : o.observationStatus = .invalidated
  observationHash : o.observationHash = prims.hashId (.invalidation o.toObservationCore)

theorem statusFor_ne_invalidated {confirmations : ℕ} {policy : FinalityPolicy}
    {status : ObservationStatus} (h : statusFor confirmations policy = .ok status) :
    status ≠ .invalidated := by
  rw [statusFor] at h
  split at h
  · cases pure_eq_ok.1 h
    decide
  · split at h
    · cases pure_eq_ok.1 h
      decide
    · split at h
      · cases pure_eq_ok.1 h
        decide
      · cases h

theorem normalizeLog_normalized (h : normalizeLog prims descriptor input = .ok o) :
    Normalized prims descriptor o := by
  simp only [normalizeLog, bind_eq_ok, pure_eq_ok] at h
  obtain ⟨_, _, _, _, _, _, logIndex, _, transactionIndex, _, confirmations, _, topics, _, data, _,
    event, _, transactionHash, _, blockNumber, _, blockHash, _, blockTimestamp, _, status, hstatus,
    observedAt, _, rfl⟩ := h
  exact ⟨rfl, rfl, rfl, statusFor_ne_invalidated hstatus⟩

end Normalized

end Indexer
end IpoOne
