import IpoOne.Indexer.Engine

/-!
# Reconciliation

`reconcile` compares the projection with two direct reads of the pool and freezes new risk when they
differ; `approveRecovery` lifts the freeze after a reconciliation that found no difference.

A direct read arrives as a typed record here; what `normalizePoolDirectStateSnapshot` checks beyond
the types is kept.  The evidence records that the source also writes are read by nothing and are
left out.
-/

set_option autoImplicit false

namespace IpoOne
namespace Indexer

open Fallible

/-- A direct read as a provider hands it over.  A field is `none` where it is not of the form asked
for.  `state` matters only if the read is complete. -/
structure DirectRead where
  providerSlot : Option ProviderSlot
  chainId : ℕ
  contractAddress : Address
  marketId : Bytes32
  blockNumber : Option ℕ
  blockHash : Option Bytes32
  state : CanonicalState
  complete : Bool
  observedAt : Option ℕ
  readOnly : Bool
  rawProviderPayloadPersisted : Bool
  schemaVersion : String
  deriving DecidableEq

/-- A direct read with its hash. -/
structure DirectSnapshot (H : Type) extends DirectSnapshotCore H where
  snapshotHash : H
  deriving DecidableEq

/-- The operations of `PROTECTIVE_OPERATIONS` and of `NEW_RISK_OPERATIONS`. -/
inductive Operation where
  | repay
  | addCollateral
  | liquidate
  | supply
  | withdraw
  | releaseCollateral
  | borrow
  deriving DecidableEq, Repr

/-- `PROTECTIVE_OPERATIONS`; the other operations are those of `NEW_RISK_OPERATIONS`. -/
def protectiveOperations : List Operation := [.repay, .addCollateral, .liquidate]

section Methods

variable {H : Type} [LinearOrder H] (prims : Primitives H) (descriptor : Descriptor)

/-- A field of a direct read, or the complaint about it. -/
def readField {α : Type} (value : Option α) (code message : String) : Domain α :=
  match value with
  | some a => .ok a
  | none => .error { code, message }

@[simp] theorem readField_eq_ok {α : Type} {value : Option α} {code message : String} {a : α} :
    readField value code message = .ok a ↔ value = some a := by
  cases value <;> simp [readField]

/-- `validateStateShape` -/
def validateStateShape (input : CanonicalState) : Domain CanonicalState := do
  throwIf (input.chainId ≠ descriptor.chainId ∨
      input.contractAddress ≠ descriptor.contractAddress ∨ input.marketId ≠ descriptor.marketId)
    "pool_direct_state_binding_mismatch"
    "direct-read state binding does not match the configured pool"
  throwIf (input.initialized = true ∧ input.configuration = none) "invalid_pool_direct_state"
    "direct-read market configuration is not closed"
  throwIf (input.initialized = false ∧ input.configuration ≠ none) "invalid_pool_direct_state"
    "an uninitialized direct-read state cannot claim configuration"
  let accounts := sortAccounts input.accounts
  throwIf (¬ (accounts.map (·.account)).Nodup) "invalid_pool_direct_state"
    "direct-read accounts must be unique"
  pure { input with accounts }

/-- The checks on a direct read. -/
def normalizePoolDirectStateSnapshot (input : DirectRead) : Domain (DirectSnapshot H) := do
  let providerSlot ← readField input.providerSlot "invalid_pool_direct_snapshot"
    "providerSlot must be primary or secondary"
  throwIf (input.chainId ≠ descriptor.chainId ∨
      input.contractAddress ≠ descriptor.contractAddress ∨ input.marketId ≠ descriptor.marketId)
    "pool_direct_snapshot_binding_mismatch"
    "direct-read snapshot does not match the configured pool"
  throwIf (input.readOnly ≠ true ∨ input.rawProviderPayloadPersisted ≠ false ∨
      input.schemaVersion ≠ "pool_direct_state_snapshot.v1")
    "invalid_pool_direct_snapshot" "direct reads must be normalized, read-only and raw-free"
  let blockNumber ← readField input.blockNumber "invalid_pool_projection"
    "blockNumber must be an unsigned decimal string"
  let blockHash ← readField input.blockHash "invalid_pool_direct_snapshot"
    "direct-read block hash is invalid"
  let observedAt ← readField input.observedAt "invalid_pool_direct_snapshot"
    "direct-read timestamp is invalid"
  let state ←
    (if input.complete = true then do
      let state ← validateStateShape descriptor input.state
      pure (some (state, prims.hashId (.economicState state)))
    else pure none)
  let core : DirectSnapshotCore H :=
    { providerSlot, chainId := input.chainId, contractAddress := input.contractAddress
      marketId := input.marketId, blockNumber, blockHash, complete := input.complete, state
      observedAt }
  pure { core with snapshotHash := prims.hashId (.directStateSnapshot core) }

/-- `reads[i].stateHash`, which an incomplete read does not have. -/
def DirectSnapshot.stateHash {H : Type} (read : DirectSnapshot H) : Option H := read.state.map (·.2)

/-- The verdict of `reconcile` on two reads and the hash of the projected state. -/
def reconciliationReason (first second : DirectSnapshot H) (stateHash : H) : ReasonCode :=
  if first.complete = false ∨ second.complete = false then .providerReadIncomplete
  else if first.blockNumber ≠ second.blockNumber ∨ first.blockHash ≠ second.blockHash ∨
      first.stateHash ≠ second.stateHash then .providerDisagreement
  else if first.stateHash ≠ some stateHash then .projectionMismatch
  else .reconciled

/-- Hashes in the order of JavaScript's `sort()`, a missing one last. -/
def sortHashes (hashes : List (Option H)) : List (Option H) :=
  hashes.mergeSort fun left right ↦
    right.elim true fun r ↦ left.elim false fun l ↦ decide (l ≤ r)

/-- `operationAllowed` on the closed list of operations. -/
def PoolEventIndexer.operationAllowed (ix : PoolEventIndexer H) (operation : Operation) : Bool :=
  ix.riskControl.newRiskFrozen = false ∨ operation ∈ protectiveOperations

/-- `appendReconciliation` -/
def appendReconciliation (store : Store H) (run : Reconciliation H)
    (change : Option (RiskControl H × RiskTransition H)) (failure : Option DomainError) :
    Domain (Store H) :=
  match failure with
  | some e => .error e
  | none => pure { store with
      reconciliations := store.reconciliations ++ [run]
      riskControl := (change.map (·.1)).or store.riskControl
      riskTransitions := store.riskTransitions ++ change.toList.map (·.2) }

/-- What `reconcile` computes before it writes: the reads and the record of the comparison. -/
def reconciliationRun (ix : PoolEventIndexer H) (directReads : List DirectRead) (now : ℕ) :
    Domain (Reconciliation H) :=
  match directReads with
  | [one, other] => do
    let first ← normalizePoolDirectStateSnapshot prims descriptor one
    let second ← normalizePoolDirectStateSnapshot prims descriptor other
    throwIf (first.providerSlot = second.providerSlot) "pool_two_provider_reads_required"
      "Pool V1 reconciliation requires primary and secondary slots"
    let projection := ix.snapshot prims
    let reasonCode := reconciliationReason first second projection.stateHash
    let core : ReconciliationCore H :=
      { chainId := descriptor.chainId, contractAddress := descriptor.contractAddress
        marketId := descriptor.marketId, projectionHash := projection.snapshotHash
        projectionStateHash := projection.stateHash, riskControlHash := ix.riskControl.controlHash
        directReadHashes := [first.snapshotHash, second.snapshotHash].mergeSort
        directStateHashes := sortHashes [first.stateHash, second.stateHash]
        reasonCode, consistent := decide (reasonCode = .reconciled), checkedAt := now }
    pure { core with
      reconciliationId := prims.hashId (.reconciliationId core)
      reconciliationHash := prims.hashId (.reconciliation core) }
  | _ => .error { code := "pool_two_provider_reads_required"
                  message := "Pool V1 reconciliation requires exactly two direct reads" }

/-- The freeze that a reconciliation calls for. -/
def freezeFor (ix : PoolEventIndexer H) (run : Reconciliation H) (now : ℕ) :
    Option (RiskControl H × RiskTransition H) :=
  if run.consistent = false ∧ ix.riskControl.newRiskFrozen = false then
    let control := newRiskControl prims descriptor true run.reasonCode (some ix.riskControl) now
    some (control,
      { transitionId := prims.hashId
          (.riskTransition ix.riskControl.controlHash control.controlHash)
        previousControlHash := ix.riskControl.controlHash
        nextControlHash := control.controlHash, reconciliationId := run.reconciliationId
        approval := none, reasonCode := run.reasonCode, recordedAt := now })
  else none

/-- Compares the projection with the direct reads, and freezes new risk where they differ. -/
def reconcile (s : System H) (directReads : List DirectRead) (now : ℕ)
    (failure : Option DomainError) : Domain (Reconciliation H) × System H :=
  match reconciliationRun prims descriptor s.indexer directReads now with
  | .error e => (.error e, s)
  | .ok run =>
    let change := freezeFor prims descriptor s.indexer run now
    let indexer := { s.indexer with
      riskControl := (change.map (·.1)).getD s.indexer.riskControl }
    match appendReconciliation s.store run change failure with
    | .error e => (.error e, { s with indexer })
    | .ok store => (.ok run, { indexer, store })

/-- What `approveRecovery` checks and creates before it writes. -/
def recoveryFor (s : System H) (reconciliationId : H) (approvalHash approvedByHash : Option Bytes32)
    (now : ℕ) : Domain (Reconciliation H × RiskControl H × RiskTransition H) := do
  throwIf (s.indexer.riskControl.newRiskFrozen = false) "pool_new_risk_not_frozen"
    "Pool V1 new risk is already active"
  let approval ← readField approvalHash "invalid_pool_recovery_approval"
    "recovery requires hash-only approval and reviewer bindings"
  let approvedBy ← readField approvedByHash "invalid_pool_recovery_approval"
    "recovery requires hash-only approval and reviewer bindings"
  let latest ← readField
    (s.store.reconciliations.getLast?.filter fun run ↦
      run.reconciliationId = reconciliationId ∧ run.consistent = true)
    "pool_recovery_reconciliation_required"
    "recovery requires the latest zero-discrepancy reconciliation"
  let control := newRiskControl prims descriptor false .approvedZeroDiscrepancyRecovery
    (some s.indexer.riskControl) now
  pure (latest, control,
    { transitionId := prims.hashId
        (.riskTransition s.indexer.riskControl.controlHash control.controlHash)
      previousControlHash := s.indexer.riskControl.controlHash
      nextControlHash := control.controlHash, reconciliationId
      approval := some (approval, approvedBy)
      reasonCode := .approvedZeroDiscrepancyRecovery, recordedAt := now })

/-- Lifts the freeze on the approval of a reconciliation. -/
def approveRecovery (s : System H) (reconciliationId : H)
    (approvalHash approvedByHash : Option Bytes32) (now : ℕ) (failure : Option DomainError) :
    Domain (RiskControl H) × System H :=
  match recoveryFor prims descriptor s reconciliationId approvalHash approvedByHash now with
  | .error e => (.error e, s)
  | .ok (latest, control, transition) =>
    let indexer := { s.indexer with riskControl := control }
    match appendReconciliation s.store latest (some (control, transition)) failure with
    | .error e => (.error e, { s with indexer })
    | .ok store => (.ok control, { indexer, store })

end Methods

end Indexer
end IpoOne
