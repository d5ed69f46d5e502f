import IpoOne.Indexer.Payload
import IpoOne.Lib.PrefixCode

/-!
# A hash without collisions

The results about the indexer assume that the hash has no collisions, which no function into 32
bytes can have.  `digest` is one that has none: it writes a payload out as a list of numbers, field
by field, after a number for its namespace.  It is what the examples run on.
-/

set_option autoImplicit false

namespace IpoOne
namespace Indexer

section Codes

variable {H : Type} [Coded H]

theorem eventName_ctorIdx : Function.Injective Abi.EventName.ctorIdx := fun a b h ↦ by
  cases a <;> cases b <;> first | rfl | cases h

instance : Coded Abi.EventName := .of Abi.EventName.ctorIdx eventName_ctorIdx

instance : Coded ObservationStatus := .of finalityRank fun a b h ↦ by
  cases a <;> cases b <;> first | rfl | cases h

theorem reasonCode_ctorIdx : Function.Injective ReasonCode.ctorIdx := fun a b h ↦ by
  cases a <;> cases b <;> first | rfl | cases h

instance : Coded ReasonCode := .of ReasonCode.ctorIdx reasonCode_ctorIdx

theorem providerSlot_ctorIdx : Function.Injective ProviderSlot.ctorIdx := fun a b h ↦ by
  cases a <;> cases b <;> first | rfl | cases h

instance : Coded ProviderSlot := .of ProviderSlot.ctorIdx providerSlot_ctorIdx

instance : Coded PoolEvent := .of Abi.shape fun a b h ↦ by
  have ha := Abi.ofShape_shape a
  rw [h, Abi.ofShape_shape] at ha
  exact (Option.some.inj ha).symm

instance : Coded (Invalidation H) :=
  .of (fun x ↦ (x.replacedBlockHash, x.priorObservationHash)) fun a b h ↦ by
    cases a; cases b; simpa using h

instance : Coded (ObservationCore H) :=
  .of (fun x ↦ (x.eventKey, x.eventContentHash, x.chainId, x.contractAddress, x.transactionHash,
    x.transactionIndex, x.logIndex, x.blockNumber, x.blockHash, x.blockTimestamp, x.marketId,
    x.event, x.observationStatus, x.confirmations, x.observedAt, x.invalidation)) fun a b h ↦ by
    cases a; cases b; simpa using h

instance : Coded Configuration :=
  .of (fun x ↦ (x.chainId, x.debtAsset, x.collateralAsset, x.priceOracle, x.oracleSourceId,
    x.marketDebtCapAssets, x.borrowerDebtCapAssets, x.loanToValueBps, x.liquidationThresholdBps,
    x.pauseGuardian, x.recoveryAuthority)) fun a b h ↦ by
    cases a; cases b; simpa using h

instance : Coded Account :=
  .of (fun x ↦ (x.account, x.supplyShares, x.collateralAssets, x.debtShares, x.debtAssets,
    x.badDebtAssets)) fun a b h ↦ by
    cases a; cases b; simpa using h

instance : Coded CanonicalState :=
  .of (fun x ↦ (x.chainId, x.contractAddress, x.marketId, x.initialized, x.configuration,
    x.cashAssets, x.grossDebtAssets, x.reservesAssets, x.badDebtAssets, x.totalSupplyShares,
    x.totalDebtShares, x.lastAccruedAt, x.acceptedPriceUsdWad, x.acceptedOracleObservedAt,
    x.acceptedOracleRoundId, x.oracleDeviationHalted, x.newRiskPaused, x.accounts)) fun a b h ↦ by
    cases a; cases b; simpa using h

instance : Coded (SnapshotCore H) :=
  .of (fun x ↦ (x.finalizedEventKeys, x.state, x.stateHash)) fun a b h ↦ by
    cases a; cases b; simpa using h

instance : Coded (CursorCore H) :=
  .of (fun x ↦ (x.chainId, x.contractAddress, x.marketId, x.blockNumber, x.blockHash, x.eventKey,
    x.observationHash, x.recordedAt)) fun a b h ↦ by
    cases a; cases b; simpa using h

instance : Coded (EffectCore H) :=
  .of (fun x ↦ (x.eventKey, x.observationHash, x.projectionHash, x.stateHash, x.eventType,
    x.recordedAt)) fun a b h ↦ by
    cases a; cases b; simpa using h

instance : Coded (OutboxCore H) :=
  .of (fun x ↦ (x.eventKey, x.effectHash, x.stateHash, x.marketId)) fun a b h ↦ by
    cases a; cases b; simpa using h

instance : Coded (RiskControlCore H) :=
  .of (fun x ↦ (x.chainId, x.contractAddress, x.marketId, x.newRiskFrozen, x.reasonCode, x.version,
    x.previousControlHash, x.changedAt)) fun a b h ↦ by
    cases a; cases b; simpa using h

instance : Coded (DirectSnapshotCore H) :=
  .of (fun x ↦ (x.providerSlot, x.chainId, x.contractAddress, x.marketId, x.blockNumber,
    x.blockHash, x.complete, x.state, x.observedAt)) fun a b h ↦ by
    cases a; cases b; simpa using h

instance : Coded (ReconciliationCore H) :=
  .of (fun x ↦ (x.chainId, x.contractAddress, x.marketId, x.projectionHash, x.projectionStateHash,
    x.riskControlHash, x.directReadHashes, x.directStateHashes, x.reasonCode, x.consistent,
    x.checkedAt)) fun a b h ↦ by
    cases a; cases b; simpa using h

end Codes

/-- A payload written out, after a number for its namespace. -/
def digest : Preimage (List ℕ) → List ℕ
  | .eventKey chainId contractAddress transactionHash logIndex =>
    0 :: Coded.encode (chainId, contractAddress, transactionHash, logIndex)
  | .eventContent eventKey transactionIndex blockNumber blockHash blockTimestamp marketId event =>
    1 :: Coded.encode
      (eventKey, transactionIndex, blockNumber, blockHash, blockTimestamp, marketId, event)
  | .observationId eventKey blockHash observationStatus =>
    2 :: Coded.encode (eventKey, blockHash, observationStatus)
  | .observation core => 3 :: Coded.encode core
  | .invalidationId priorObservationHash replacementHash =>
    4 :: Coded.encode (priorObservationHash, replacementHash)
  | .invalidation core => 5 :: Coded.encode core
  | .economicState state => 6 :: Coded.encode state
  | .projectionSnapshot core => 7 :: Coded.encode core
  | .chainCursor core => 8 :: Coded.encode core
  | .emptyCanonicalBlock blockNumber blockHash => 9 :: Coded.encode (blockNumber, blockHash)
  | .finalizedEffect core => 10 :: Coded.encode core
  | .finalizedOutbox eventKey => 11 :: Coded.encode eventKey
  | .finalizedOutboxPayload core => 12 :: Coded.encode core
  | .riskControl core => 13 :: Coded.encode core
  | .directStateSnapshot core => 14 :: Coded.encode core
  | .reconciliationId core => 15 :: Coded.encode core
  | .reconciliation core => 16 :: Coded.encode core
  | .riskTransition source target => 17 :: Coded.encode (source, target)

/-- **`digest` has no collisions.** -/
theorem digest_injective : Function.Injective digest := by
  intro p q h
  cases p <;> cases q <;>
    first
    | exact absurd (List.cons.inj h).1 (by decide)
    | have hpayload := Coded.encode_injective (List.cons.inj h).2
      simpa using hpayload

/-- The primitives that the examples run on. -/
def Sample.prims : Primitives (List ℕ) where
  hashId := digest
  decodeEventLog := Abi.decodeEventLog

end Indexer
end IpoOne
