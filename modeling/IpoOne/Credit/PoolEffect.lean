import IpoOne.Credit.Schedule
import IpoOne.Indexer.Engine

/-!
# Importing the pool's effects into an obligation

`pool-obligation-integration.js`: a position of the pool is bound to one obligation, and every
finalized effect about that position becomes a plan of writes to the obligation, to its ledger and
to a projection of its own.

The observation and the effect are the indexer's.  The receipt and the credit event that the plan
also returns repeat what is in its other parts, nothing here reads them, and they are left out.
-/

set_option autoImplicit false

namespace IpoOne
namespace Credit

open Fallible Indexer

/-! ## Records -/

/-- A `pool_obligation_binding.v1`. -/
structure PoolObligationBinding (H : Type) where
  poolObligationBindingId : H
  subjectId : String
  principalId : String
  obligationId : String
  chainId : ℕ
  contractAddress : Address
  marketId : Bytes32
  positionAccountHash : H
  active : Bool
  deriving DecidableEq

/-- Where an obligation stands that the pool serves. -/
inductive LifecycleStatus where
  | bound
  | active
  | settled
  | lossRecorded
  deriving DecidableEq, Repr

/-- What `createPoolObligationEffectPlan` hashes of the projection. -/
structure PoolObligationProjectionCore (H : Type) where
  poolObligationBindingId : H
  projectionVersion : ℕ
  finalizedEffectCount : ℕ
  sourceFinalizedEventCount : ℕ
  collateralAssets : ℕ
  debtAssets : ℕ
  badDebtAssets : ℕ
  totalRepaidAssets : ℕ
  lifecycleStatus : LifecycleStatus
  lastEventKey : Option H
  lastEffectHash : Option H
  updatedAt : ℕ
  deriving DecidableEq

/-- What is stored of the pool's view of an obligation. -/
structure PoolObligationProjection (H : Type) extends PoolObligationProjectionCore H where
  projectionHash : H
  deriving DecidableEq

/-- What identifies the execution of an obligation. -/
structure ExecutionCore (H : Type) where
  obligationId : String
  effectHash : H
  eventKey : H
  observationHash : H
  amountMinor : ℕ
  debtAfterMinor : ℕ
  finalizedAt : ℕ
  deriving DecidableEq

/-- The receipt of the pool's loan. -/
structure PoolExecutionReceipt (H : Type) extends ExecutionCore H where
  poolExecutionReceiptId : H
  poolObligationBindingId : H
  deriving DecidableEq

/-- The payloads that are hashed here, one constructor for each namespace. -/
inductive CreditPreimage (H : Type) where
  | poolPositionAccount (chainId : ℕ) (account : Address)
  | poolObligationProjection (core : PoolObligationProjectionCore H)
  | poolObligationExecutionReceipt (core : ExecutionCore H)
  | poolObligationLedgerIdempotency (effectHash : H) (suffix : String)
  | ledgerTransaction (core : LedgerTransactionCore H)
  | poolLedgerEntry (transactionHash : H) (sequence : ℕ)
  | sandboxLedgerAccount (ownerId assetId : String) (accountType : LedgerAccountType)

/-- What `createPoolObligationEffectPlan` returns. -/
structure PoolObligationEffectPlan (H : Type) where
  projection : PoolObligationProjection H
  executionReceipt : Option (PoolExecutionReceipt H)
  obligation : Option (Obligation H)
  ledgerTransactions : List (LedgerTransaction H)
  deriving DecidableEq

/-! ## Names -/

/-- `observation.eventName` -/
def eventName : PoolEvent → String
  | .marketInitialized .. => "MarketInitialized"
  | .oracleObservationAccepted .. => "OracleObservationAccepted"
  | .oracleDeviationHaltChanged .. => "OracleDeviationHaltChanged"
  | .interestAccrued .. => "InterestAccrued"
  | .assetsSupplied .. => "AssetsSupplied"
  | .assetsWithdrawn .. => "AssetsWithdrawn"
  | .collateralAdded .. => "CollateralAdded"
  | .collateralReleased .. => "CollateralReleased"
  | .assetsBorrowed .. => "AssetsBorrowed"
  | .assetsRepaid .. => "AssetsRepaid"
  | .positionLiquidated .. => "PositionLiquidated"
  | .badDebtRecovered .. => "BadDebtRecovered"
  | .newRiskPauseChanged .. => "NewRiskPauseChanged"

/-- An underscore before every capital letter but the first character, and all of them small. -/
def snakeChars : Bool → List Char → List Char
  | _, [] => []
  | first, c :: rest =>
    (if c.isUpper then (if first then [c.toLower] else [ '_', c.toLower]) else [c]) ++
      snakeChars false rest

/-- A name in snake case. -/
def snakeCase (name : String) : String := String.ofList (snakeChars true name.toList)

/-- An address as the adapter writes it: `0x` and forty lower-case hex digits. -/
def hexAddress (address : Address) : String :=
  "0x" ++ String.ofList ((Nat.toDigits 16 address.val).leftpad 40 '0')

/-- `${binding.chainId}/erc20:${debtAsset}` -/
def erc20AssetId (chainId : ℕ) (debtAsset : Address) : String :=
  caip chainId ++ "/erc20:" ++ hexAddress debtAsset

/-- `positionAddress`, `none` for an event that is not in `POSITION_EVENTS`. -/
def positionAddress : PoolEvent → Option Address
  | .collateralAdded account .. => some account
  | .collateralReleased account .. => some account
  | .assetsBorrowed account .. => some account
  | .assetsRepaid account .. => some account
  | .positionLiquidated borrower .. => some borrower
  | .badDebtRecovered account .. => some account
  | _ => none

section Plan

variable {H : Type} [DecidableEq H] (hashId : CreditPreimage H → H)

/-- `validateEffect` -/
def validateEffect (binding : PoolObligationBinding H) (observation : Observation H)
    (effect : FinalizedEffect H) : Domain Unit := do
  throwIf (observation.observationStatus ≠ .finalized ∨
      effect.eventKey ≠ observation.eventKey ∨
      effect.observationHash ≠ observation.observationHash ∨
      effect.eventType ≠ (Abi.shape observation.event).1 ∨
      effect.projection.snapshotHash ≠ effect.projectionHash ∨
      effect.projection.stateHash ≠ effect.stateHash ∨
      effect.projection.state.chainId ≠ binding.chainId ∨
      effect.projection.state.contractAddress ≠ binding.contractAddress ∨
      effect.projection.state.marketId ≠ binding.marketId ∨
      observation.chainId ≠ binding.chainId ∨
      observation.contractAddress ≠ binding.contractAddress ∨
      observation.marketId ≠ binding.marketId)
    "pool_effect_not_finalized" "only the exact finalized Pool V1 effect can enter the kernel"
  let address ←
    (match positionAddress observation.event with
    | some address => .ok address
    | none => .error
      { code := "pool_effect_not_position_attributable"
        message := "Pool event is not attributable to an Obligation position" })
  throwIf (hashId (.poolPositionAccount binding.chainId address) ≠ binding.positionAccountHash)
    "pool_position_account_mismatch" "finalized effect belongs to a different position account"

/-! ## The ledger -/

/-- `accounts[accountType].ledgerAccountId` of `createSandboxLedgerAccounts` -/
def ledgerAccountId (obligation : Obligation H) (accountType : LedgerAccountType) : H :=
  hashId (.sandboxLedgerAccount obligation.obligationId obligation.assetId accountType)

/-- `ledgerTransaction`: nothing is posted for an amount of zero. -/
def ledgerTransaction (obligation : Obligation H) (effect : FinalizedEffect H) (name : String)
    (amount : ℤ) (debit credit : LedgerAccountType) (suffix : String) :
    Option (LedgerTransaction H) :=
  if amount ≤ 0 then none
  else
    let core : LedgerTransactionCore H :=
      { idempotencyKey := hashId (.poolObligationLedgerIdempotency effect.effectHash suffix)
        transactionType := "pool_" ++ snakeCase name, assetId := obligation.assetId
        reference := .poolFinalizedEffect effect.effectHash
        obligationId := obligation.obligationId
        entries :=
          [{ ledgerAccountId := ledgerAccountId hashId obligation debit, direction := .debit
             amountMinor := amount, sequence := 0 },
            { ledgerAccountId := ledgerAccountId hashId obligation credit, direction := .credit
              amountMinor := amount, sequence := 1 }] }
    let transactionHash := hashId (.ledgerTransaction core)
    some { core with
      transactionHash
      ledgerEntryIds := core.entries.map fun entry ↦
        hashId (.poolLedgerEntry transactionHash entry.sequence)
      debitTotalMinor := amount
      creditTotalMinor := amount }

/-! ## Repayments -/

/-- What `repaymentAllocation` returns. -/
structure Allocation where
  debtAfter : ℤ
  debtReduced : ℤ
  interestAccrued : ℤ
  interestPaid : ℤ
  principalPaid : ℤ
  principalAfter : ℤ
  interestAfter : ℤ
  deriving DecidableEq

/-- Splits a repayment in the pool: the interest since the last record, what pays interest, what
pays principal. -/
def repaymentAllocation (obligation : Obligation H) (debtAfter debtReduced : ℤ) :
    Domain Allocation := do
  let outstandingPrincipal := obligation.outstandingPrincipalMinor
  let outstandingInterest := obligation.outstandingInterestMinor
  let debtBefore := debtAfter + debtReduced
  let recordedBefore := outstandingPrincipal + outstandingInterest
  throwIf (debtBefore < recordedBefore) "pool_debt_reconciliation_mismatch"
    "finalized Pool debt is behind the canonical Obligation balance"
  let interestAccrued := debtBefore - recordedBefore
  let interestBeforePayment := outstandingInterest + interestAccrued
  let interestPaid := min debtReduced interestBeforePayment
  let principalPaid := debtReduced - interestPaid
  throwIf (outstandingPrincipal < principalPaid) "pool_debt_reconciliation_mismatch"
    "finalized Pool repayment exceeds the canonical Obligation balance"
  let principalAfter := outstandingPrincipal - principalPaid
  let interestAfter := interestBeforePayment - interestPaid
  throwIf (principalAfter + interestAfter ≠ debtAfter) "pool_debt_reconciliation_mismatch"
    "finalized Pool repayment does not reconcile to debtAfter"
  pure { debtAfter, debtReduced, interestAccrued, interestPaid, principalPaid, principalAfter
         interestAfter }

/-- Pays the rows in order; all of the amount has to find a row. -/
def allocateAcrossInstallments (installments : List (Installment H)) (component : Component)
    (amount : ℤ) : Domain (List (Installment H)) := do
  let (rows, remaining) := allocateRows component installments amount
  throwIf (remaining ≠ 0) "pool_schedule_allocation_mismatch"
    "Pool repayment cannot reconcile to the Obligation schedule"
  pure rows

/-- Interest cannot be added to a schedule without rows: `target` is then `undefined`. -/
def updateInstallmentsForRepayment (obligation : Obligation H) (allocation : Allocation) :
    Domain (List (Installment H)) := do
  throwIf (0 < allocation.interestAccrued ∧ obligation.installments = []) "TypeError"
    "Cannot read properties of undefined (reading 'scheduledInterestMinor')"
  let installments :=
    if 0 < allocation.interestAccrued
    then addInterest allocation.interestAccrued obligation.installments
    else obligation.installments
  let installments ←
    allocateAcrossInstallments installments .interest allocation.interestPaid
  let installments ←
    allocateAcrossInstallments installments .principal allocation.principalPaid
  pure (updateStatuses installments)

/-! ## The obligation -/

/-- The identity of an execution, as `updatedObligation` and the plan both compute it. -/
def executionCore (obligationId : String) (observation : Observation H)
    (effect : FinalizedEffect H) (assets debtAfter : ℕ) : ExecutionCore H where
  obligationId
  effectHash := effect.effectHash
  eventKey := effect.eventKey
  observationHash := effect.observationHash
  amountMinor := assets
  debtAfterMinor := debtAfter
  finalizedAt := observation.observedAt

/-- What `updatedObligation` stamps on every obligation it changes. -/
def stamp (observation : Observation H) (obligation : Obligation H) : Obligation H :=
  { obligation with
    updatedAt := observation.observedAt
    servicingEffectiveAt := observation.observedAt
    servicingReasonCode := "finalized_pool_" ++ snakeCase (eventName observation.event) }

/-- The branch of `updatedObligation` for the borrow that executes the obligation. -/
def executed (obligation : Obligation H) (observation : Observation H)
    (effect : FinalizedEffect H) (assets debtAfter : ℕ) : Domain (Obligation H) := do
  throwIf (obligation.executionStatus ≠ .pending ∨ obligation.status ≠ .created ∨
      (assets : ℤ) ≠ obligation.originalPrincipalMinor ∨ debtAfter ≠ assets)
    "pool_borrow_obligation_mismatch"
    "initial finalized borrow must exactly execute the accepted Obligation"
  pure { obligation with
    poolExecutionReceiptId := some (hashId (.poolObligationExecutionReceipt
      (executionCore obligation.obligationId observation effect assets debtAfter)))
    executionStatus := .executed
    executedAt := some observation.observedAt
    lastAccruedAt := some observation.observedAt
    status := .active }

/-- The branch of `updatedObligation` for a repayment. -/
def repaid (obligation : Obligation H) (observation : Observation H)
    (debtReducedAssets debtAfter : ℕ) : Domain (Obligation H) := do
  throwIf (obligation.executionStatus ≠ .executed) "pool_repayment_before_borrow"
    "repayment cannot precede finalized Obligation execution"
  let allocation ← repaymentAllocation obligation debtAfter debtReducedAssets
  let installments ← updateInstallmentsForRepayment
    { obligation with
      outstandingPrincipalMinor := allocation.principalAfter
      outstandingInterestMinor := allocation.interestAfter
      accruedInterestMinor := obligation.accruedInterestMinor + allocation.interestAccrued
      totalRepaidMinor := obligation.totalRepaidMinor + allocation.debtReduced } allocation
  pure { obligation with
    outstandingPrincipalMinor := allocation.principalAfter
    outstandingInterestMinor := allocation.interestAfter
    accruedInterestMinor := obligation.accruedInterestMinor + allocation.interestAccrued
    totalRepaidMinor := obligation.totalRepaidMinor + allocation.debtReduced
    installments
    lastAccruedAt := some observation.observedAt
    status := if allocation.debtAfter = 0 then .fullyRepaid else .partiallyRepaid }

/-- The branch of `updatedObligation` for a liquidation. -/
def liquidated (obligation : Obligation H) (observation : Observation H)
    (repaidAssets badDebtRecognizedAssets : ℕ) : Domain (Obligation H) := do
  throwIf (obligation.executionStatus ≠ .executed) "pool_liquidation_before_borrow"
    "liquidation cannot precede finalized Obligation execution"
  let loss : ℤ := badDebtRecognizedAssets
  let cleared := { obligation with
    totalRepaidMinor := obligation.totalRepaidMinor + repaidAssets
    outstandingPrincipalMinor := 0
    outstandingInterestMinor := 0
    outstandingFeesMinor := 0 }
  if 0 < loss then
    let writtenPrincipal := min loss obligation.originalPrincipalMinor
    pure { cleared with
      writtenOffPrincipalMinor := writtenPrincipal
      writtenOffInterestMinor := loss - writtenPrincipal
      status := .writtenOff
      servicingClassification := .writtenOff
      resolution := some
        { resolutionType := .writeOff
          resolutionReasonCode := "finalized_pool_liquidation_bad_debt"
          resolutionAt := observation.observedAt } }
  else pure { cleared with status := .fullyRepaid, servicingClassification := .current }

/-- `updatedObligation`: `none` where the event leaves the obligation alone. -/
def updatedObligation (obligation : Obligation H) (observation : Observation H)
    (effect : FinalizedEffect H) : Domain (Option (Obligation H)) :=
  match observation.event with
  | .assetsBorrowed _ assets _ debtAfter _ => do
    let value ← executed hashId obligation observation effect assets debtAfter
    pure (some (stamp observation value))
  | .assetsRepaid _ _ _ debtReducedAssets _ _ debtAfter _ => do
    let value ← repaid obligation observation debtReducedAssets debtAfter
    pure (some (stamp observation value))
  | .positionLiquidated _ _ repaidAssets _ badDebtRecognizedAssets => do
    let value ← liquidated obligation observation repaidAssets badDebtRecognizedAssets
    pure (some (stamp observation value))
  | _ => pure none

/-! ## The plan -/

/-- `Number.MAX_SAFE_INTEGER` -/
def maxSafeInteger : ℕ := 2 ^ 53 - 1

/-- What an event adds to the projection's `totalRepaidAssets`. -/
def repaidAssetsOf : PoolEvent → ℕ
  | .assetsRepaid _ _ _ debtReducedAssets .. => debtReducedAssets
  | .positionLiquidated _ _ repaidAssets .. => repaidAssets
  | .badDebtRecovered _ _ recoveredAssets .. => recoveredAssets
  | _ => 0

/-- The projection of the position after an effect. -/
def projectedPosition (previous : PoolObligationProjection H) (observation : Observation H)
    (effect : FinalizedEffect H) (account : Account) : PoolObligationProjection H :=
  let core : PoolObligationProjectionCore H :=
    { previous.toPoolObligationProjectionCore with
      projectionVersion := previous.projectionVersion + 1
      finalizedEffectCount := previous.finalizedEffectCount + 1
      sourceFinalizedEventCount := effect.projection.finalizedEventKeys.length
      collateralAssets := account.collateralAssets
      debtAssets := account.debtAssets
      badDebtAssets := account.badDebtAssets
      totalRepaidAssets := previous.totalRepaidAssets + repaidAssetsOf observation.event
      lifecycleStatus :=
        if account.badDebtAssets ≠ 0 then .lossRecorded
        else if account.debtAssets = 0 then
          (if 1 < previous.finalizedEffectCount + 1 then .settled else .bound)
        else .active
      lastEventKey := some effect.eventKey
      lastEffectHash := some effect.effectHash
      updatedAt := observation.observedAt }
  { core with projectionHash := hashId (.poolObligationProjection core) }

/-- The postings of an effect. -/
def postings (obligation : Obligation H) (observation : Observation H)
    (effect : FinalizedEffect H) : Domain (List (Option (LedgerTransaction H))) :=
  let name := eventName observation.event
  match observation.event with
  | .assetsBorrowed _ assets .. =>
    pure [ledgerTransaction hashId obligation effect name assets .principalReceivable
      .sandboxFundingSource "borrow"]
  | .assetsRepaid _ _ _ debtReducedAssets _ _ debtAfter _ => do
    let allocation ← repaymentAllocation obligation debtAfter debtReducedAssets
    pure [ledgerTransaction hashId obligation effect "InterestAccrued" allocation.interestAccrued
        .interestReceivable .syntheticInterestIncome "interest_accrual",
      ledgerTransaction hashId obligation effect name allocation.interestPaid .repaymentClearing
        .interestReceivable "repay_interest",
      ledgerTransaction hashId obligation effect name allocation.principalPaid .repaymentClearing
        .principalReceivable "repay_principal"]
  | .positionLiquidated _ _ repaidAssets _ badDebtRecognizedAssets =>
    pure [ledgerTransaction hashId obligation effect name repaidAssets .repaymentClearing
        .principalReceivable "liquidation_repayment",
      ledgerTransaction hashId obligation effect name badDebtRecognizedAssets .writeOffLoss
        .principalReceivable "liquidation_loss"]
  | .badDebtRecovered _ _ recoveredAssets .. =>
    pure [ledgerTransaction hashId obligation effect name recoveredAssets .repaymentClearing
      .writeOffLoss "bad_debt_recovery"]
  | _ => pure []

/-- The receipt for the borrow that executes the obligation, which the obligation has to name. -/
def executionReceiptFor (binding : PoolObligationBinding H) (observation : Observation H)
    (effect : FinalizedEffect H) (update : Option (Obligation H)) :
    Domain (Option (PoolExecutionReceipt H)) :=
  match observation.event with
  | .assetsBorrowed _ assets _ debtAfter _ => do
    let core := executionCore binding.obligationId observation effect assets debtAfter
    let poolExecutionReceiptId := hashId (.poolObligationExecutionReceipt core)
    throwIf (update.bind (·.poolExecutionReceiptId) ≠ some poolExecutionReceiptId)
      "pool_execution_receipt_mismatch" "Pool execution receipt identity is inconsistent"
    pure (some { core with
      poolExecutionReceiptId
      poolObligationBindingId := binding.poolObligationBindingId })
  | _ => pure none

/-- What a finalized event of the pool changes of the obligation that is bound to it. -/
def createPoolObligationEffectPlan (binding : PoolObligationBinding H) (obligation : Obligation H)
    (observation : Observation H) (effect : FinalizedEffect H)
    (previousProjection : PoolObligationProjection H) : Domain (PoolObligationEffectPlan H) := do
  throwIf (binding.active ≠ true) "pool_obligation_binding_inactive"
    "an active Pool Obligation binding is required"
  throwIf (obligation.obligationId ≠ binding.obligationId ∨
      obligation.subjectId ≠ binding.subjectId ∨ obligation.principalId ≠ binding.principalId ∨
      previousProjection.poolObligationBindingId ≠ binding.poolObligationBindingId)
    "pool_obligation_binding_mismatch" "Pool binding, Obligation and projection do not match"
  validateEffect hashId binding observation effect
  throwIf (maxSafeInteger < effect.projection.finalizedEventKeys.length ∨
      effect.projection.finalizedEventKeys.length ≤ previousProjection.sourceFinalizedEventCount)
    "pool_effect_out_of_order" "finalized Pool effects must enter the Obligation in source order"
  throwIf (∀ configuration, effect.projection.state.configuration = some configuration →
      obligation.assetId ≠ erc20AssetId binding.chainId configuration.debtAsset)
    "pool_debt_asset_mismatch" "Pool debt asset does not match the canonical Obligation asset"
  let account ←
    (match effect.projection.state.accounts.find? fun account ↦
      hashId (.poolPositionAccount binding.chainId account.account)
        = binding.positionAccountHash with
    | some account => .ok account
    | none => .error
      { code := "pool_position_projection_missing"
        message := "finalized Pool projection is missing the bound position" })
  let update ← updatedObligation hashId obligation observation effect
  let update := update.map fun value ↦
    { value with poolObligationBindingId := some binding.poolObligationBindingId }
  let executionReceipt ← executionReceiptFor hashId binding observation effect update
  assertSharedObligation obligation
  let transactions ← postings hashId obligation observation effect
  pure { projection := projectedPosition hashId previousProjection observation effect account
         executionReceipt
         obligation := update
         ledgerTransactions := transactions.reduceOption }

end Plan

end Credit
end IpoOne
