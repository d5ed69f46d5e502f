import IpoOne.Indexer.Abi
import IpoOne.Indexer.Projection

/-!
# What the indexer hashes

Every record of the indexer carries hashes of other records: an event is bound by its key and its
content, an observation by its own hash, a projection, a cursor, an effect, a reconciliation and a
risk control by theirs.  `hashId(namespace, payload)` is SHA3-256 of a serialized payload; here a
payload together with its namespace is a `Preimage`, and the digests are an arbitrary linearly
ordered type `H`, ordered as their hex strings compare.

The record without its hash is called its core, as in the source.  Fields that are the same constant
in every record are left out.

`Primitives` is what the indexer takes from outside the repository: the hash, and the ABI decoder of
the `viem` package.
-/

set_option autoImplicit false

namespace IpoOne
namespace Indexer

open Fallible

/-- How far an observation is confirmed. -/
inductive ObservationStatus where
  | included
  | safe
  | finalized
  | invalidated
  deriving DecidableEq, Repr

/-- The order in which the statuses are passed. -/
def finalityRank : ObservationStatus → ℕ
  | .included => 1
  | .safe => 2
  | .finalized => 3
  | .invalidated => 4

/-- What an invalidation says beyond the observation it invalidates. -/
structure Invalidation (H : Type) where
  replacedBlockHash : Bytes32
  priorObservationHash : H
  deriving DecidableEq

/-- An observation without its two identifiers: the payload of its hash.  The constant fields of
the source are left out. -/
structure ObservationCore (H : Type) where
  eventKey : H
  eventContentHash : H
  chainId : ℕ
  contractAddress : Address
  transactionHash : Bytes32
  transactionIndex : ℕ
  logIndex : ℕ
  blockNumber : ℕ
  blockHash : Bytes32
  blockTimestamp : ℕ
  marketId : Bytes32
  event : PoolEvent
  observationStatus : ObservationStatus
  confirmations : ℕ
  observedAt : ℕ
  invalidation : Option (Invalidation H)
  deriving DecidableEq

/-- An observation with its hash. -/
structure Observation (H : Type) extends ObservationCore H where
  observationId : H
  observationHash : H
  deriving DecidableEq

/-- What `projectionSnapshot` hashes. -/
structure SnapshotCore (H : Type) where
  finalizedEventKeys : List H
  state : CanonicalState
  stateHash : H
  deriving DecidableEq

/-- What is hashed of a cursor. -/
structure CursorCore (H : Type) where
  chainId : ℕ
  contractAddress : Address
  marketId : Bytes32
  blockNumber : ℕ
  blockHash : Bytes32
  eventKey : Option H
  observationHash : H
  recordedAt : ℕ
  deriving DecidableEq

/-- What is hashed of an effect. -/
structure EffectCore (H : Type) where
  eventKey : H
  observationHash : H
  projectionHash : H
  stateHash : H
  eventType : Abi.EventName
  recordedAt : ℕ
  deriving DecidableEq

/-- What is hashed of a message. -/
structure OutboxCore (H : Type) where
  eventKey : H
  effectHash : H
  stateHash : H
  marketId : Bytes32
  deriving DecidableEq

/-- Why a reconciliation came out as it did, or a risk control was changed. -/
inductive ReasonCode where
  | initialLocalNoFundsState
  | restoredLocalNoFundsState
  | reconciled
  | providerReadIncomplete
  | providerDisagreement
  | projectionMismatch
  | approvedZeroDiscrepancyRecovery
  deriving DecidableEq, Repr

/-- Which of the two providers a read comes from. -/
inductive ProviderSlot where
  | primary
  | secondary
  deriving DecidableEq, Repr

/-- What is hashed of a risk control. -/
structure RiskControlCore (H : Type) where
  chainId : ℕ
  contractAddress : Address
  marketId : Bytes32
  newRiskFrozen : Bool
  reasonCode : ReasonCode
  version : ℕ
  previousControlHash : Option H
  changedAt : ℕ
  deriving DecidableEq

/-- A direct read of the pool.  `state` is there, with its hash, when the read is complete. -/
structure DirectSnapshotCore (H : Type) where
  providerSlot : ProviderSlot
  chainId : ℕ
  contractAddress : Address
  marketId : Bytes32
  blockNumber : ℕ
  blockHash : Bytes32
  complete : Bool
  state : Option (CanonicalState × H)
  observedAt : ℕ
  deriving DecidableEq

/-- What is hashed of a reconciliation. -/
structure ReconciliationCore (H : Type) where
  chainId : ℕ
  contractAddress : Address
  marketId : Bytes32
  projectionHash : H
  projectionStateHash : H
  riskControlHash : H
  directReadHashes : List H
  directStateHashes : List (Option H)
  reasonCode : ReasonCode
  consistent : Bool
  checkedAt : ℕ
  deriving DecidableEq

/-- The payloads the indexer hashes, one constructor for each namespace. -/
inductive Preimage (H : Type) where
  | eventKey (chainId : ℕ) (contractAddress : Address) (transactionHash : Bytes32) (logIndex : ℕ)
  | eventContent (eventKey : H) (transactionIndex blockNumber : ℕ) (blockHash : Bytes32)
      (blockTimestamp : ℕ) (marketId : Bytes32) (event : PoolEvent)
  | observationId (eventKey : H) (blockHash : Bytes32) (observationStatus : ObservationStatus)
  | observation (core : ObservationCore H)
  | invalidationId (priorObservationHash : H) (replacementHash : Bytes32)
  | invalidation (core : ObservationCore H)
  | economicState (state : CanonicalState)
  | projectionSnapshot (core : SnapshotCore H)
  | chainCursor (core : CursorCore H)
  | emptyCanonicalBlock (blockNumber : ℕ) (blockHash : Bytes32)
  | finalizedEffect (core : EffectCore H)
  | finalizedOutbox (eventKey : H)
  | finalizedOutboxPayload (core : OutboxCore H)
  | riskControl (core : RiskControlCore H)
  | directStateSnapshot (core : DirectSnapshotCore H)
  | reconciliationId (core : ReconciliationCore H)
  | reconciliation (core : ReconciliationCore H)
  | riskTransition (source target : H)

/-- The hash, and the decoder of event logs. -/
structure Primitives (H : Type) where
  hashId : Preimage H → H
  decodeEventLog : List Bytes32 → List UInt8 → Option (Bytes32 × PoolEvent)

end Indexer
end IpoOne
