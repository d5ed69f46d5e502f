import IpoOne.Lib.Run
import IpoOne.Pool.Storage

/-!
# The operations of the secured pool

`IpoOneSecuredPoolV1.sol`, from the constructor to the token transfers, in the order of the source.
Each external function takes the world before the call and returns the world after it together with
what the function returns; a revert is an error and leaves the world of the caller as it was.

`Call` lists the external functions that change state and `exec` runs one of them.  The chain as a
whole is `chainStep`: a call that reverts changes nothing, and between calls the tokens may move as
they please, except that nobody but the pool spends the pool's own balance.
-/

set_option autoImplicit false

namespace IpoOne

open Evm Fallible

namespace Pool

/-- An observation is too old after an hour. -/
def maxOracleAgeSeconds : ℕ := 3600

/-- An observation may be at most a minute ahead of the block. -/
def maxOracleFutureSkewSeconds : ℕ := 60

/-- A price may move by a fifth from the accepted one. -/
def maxOracleDeviationBps : ℕ := 2000

/-- The share of the collateral's value up to which a debt is healthy. -/
def liquidationThresholdBps : ℕ := 8000

/-- The share of a debt that one liquidation may repay. -/
def closeFactorBps : ℕ := 5000

/-- What a liquidator gets on top of the value it repays. -/
def liquidationBonusBps : ℕ := 500

/-- The longest time that one chunk of the accrual covers: a week. -/
def maxAccrualChunkSeconds : ℕ := 7 * 24 * 60 * 60

/-- A call accrues at most this many chunks. -/
def maxAccrualChunksPerCall : ℕ := 32

/-- The contract's basis points are those of its math library. -/
def bps : ℕ := SecuredPoolMathV1.bps

/-- `emit event` -/
def emitLog (mkt : Market) (msg : Msg) (event : PoolEvent) (w : World) : World :=
  { w with logs := w.logs ++ [⟨mkt.marketId, event, msg.timestamp⟩] }

/-! ## Token transfers -/

section Transfers

variable (mkt : Market)

/-- `_pullExact` -/
def pullExact (token : Token Address) (source : Address) (amountAssets : ℕ) :
    PoolTx (Token Address) := do
  let after ← token.transferFrom source mkt.self amountAssets
  let balanceBefore := token.balanceOf mkt.self
  let balanceAfter := after.balanceOf mkt.self
  revertIf (balanceAfter < balanceBefore ∨ balanceAfter - balanceBefore ≠ amountAssets)
    .exactTokenTransferRequired
  pure after

/-- `_pushExact` -/
def pushExact (token : Token Address) (target : Address) (amountAssets : ℕ) :
    PoolTx (Token Address) := do
  let after ← token.transfer mkt.self target amountAssets
  let poolBalanceBefore := token.balanceOf mkt.self
  let recipientBalanceBefore := token.balanceOf target
  let poolBalanceAfter := after.balanceOf mkt.self
  let recipientBalanceAfter := after.balanceOf target
  revertIf (poolBalanceBefore < poolBalanceAfter ∨
      poolBalanceBefore - poolBalanceAfter ≠ amountAssets ∨
      recipientBalanceAfter < recipientBalanceBefore ∨
      recipientBalanceAfter - recipientBalanceBefore ≠ amountAssets)
    .exactTokenTransferRequired
  pure after

end Transfers

/-! ## The oracle -/

section Oracle

variable (mkt : Market) (msg : Msg)

/-- `_validateObservationBinding`, with the source id to expect; the constructor expects none. -/
def validateObservationBinding (observation : PriceObservation)
    (expectedSourceId : Option Bytes32) : PoolTx Unit := do
  revertIf (observation.complete = false ∨ observation.priceUsdWad = 0 ∨
      observation.observedAt = 0 ∨ observation.roundId = 0 ∨ observation.sourceId = 0 ∨
      expectedSourceId.any (fun expected ↦ observation.sourceId ≠ expected) = true ∨
      observation.asset ≠ mkt.collateralAsset ∨
      observation.marketChainId ≠ mkt.marketChainId)
    .invalidOracleObservation
  let horizon ← add msg.timestamp maxOracleFutureSkewSeconds
  revertIf (horizon < observation.observedAt ∨
      (observation.observedAt < msg.timestamp ∧
        maxOracleAgeSeconds < msg.timestamp - observation.observedAt))
    .invalidOracleObservation

/-- `priceOracle.latestPrice()` -/
def latestPrice : PoolTx PriceObservation :=
  match msg.latestPrice with
  | some observation => .ok observation
  | none => .error .callFailed

/-- `_readValidObservation` -/
def readValidObservation : PoolTx PriceObservation := do
  let observation ← latestPrice msg
  validateObservationBinding mkt msg observation (some mkt.oracleSourceId)
  pure observation

/-- `_validateObservationSequence` -/
def validateObservationSequence (observation : PriceObservation) (st : Storage) : PoolTx Unit :=
  revertIf (observation.observedAt < st.acceptedOracleObservedAt ∨
      observation.roundId < st.acceptedOracleRoundId ∨
      (observation.observedAt = st.acceptedOracleObservedAt ∧
        (observation.roundId ≠ st.acceptedOracleRoundId ∨
          observation.priceUsdWad ≠ st.acceptedPriceUsdWad)) ∨
      (observation.roundId = st.acceptedOracleRoundId ∧
        (observation.observedAt ≠ st.acceptedOracleObservedAt ∨
          observation.priceUsdWad ≠ st.acceptedPriceUsdWad)))
    .invalidOracleObservation

/-- `_deviationExceeded` -/
def deviationExceeded (candidatePriceUsdWad : ℕ) (st : Storage) : PoolTx Bool := do
  let difference ←
    (if st.acceptedPriceUsdWad < candidatePriceUsdWad
    then sub candidatePriceUsdWad st.acceptedPriceUsdWad
    else sub st.acceptedPriceUsdWad candidatePriceUsdWad)
  let deviation ← mulDivUp difference bps st.acceptedPriceUsdWad
  pure (decide (maxOracleDeviationBps < deviation))

/-- `_storeAcceptedObservation` -/
def storeAcceptedObservation (observation : PriceObservation) (w : World) : World :=
  emitLog mkt msg (.oracleObservationAccepted observation.sourceId observation.roundId
      observation.priceUsdWad observation.observedAt)
    { w with pool := { w.pool with
        acceptedPriceUsdWad := observation.priceUsdWad
        acceptedOracleObservedAt := observation.observedAt
        acceptedOracleRoundId := observation.roundId } }

/-- `_refreshCurrentPrice` -/
def refreshCurrentPrice (w : World) : PoolTx (World × ℕ) := do
  revertIf (w.pool.oracleDeviationHalted = true) .oracleDeviationHalted
  let observation ← readValidObservation mkt msg
  validateObservationSequence observation w.pool
  let exceeded ← deviationExceeded observation.priceUsdWad w.pool
  revertIf (exceeded = true) .oracleDeviationExceeded
  if observation.observedAt ≠ w.pool.acceptedOracleObservedAt ∨
      observation.roundId ≠ w.pool.acceptedOracleRoundId ∨
      observation.priceUsdWad ≠ w.pool.acceptedPriceUsdWad
  then pure (storeAcceptedObservation mkt msg observation w, observation.priceUsdWad)
  else pure (w, observation.priceUsdWad)

/-- Reads the oracle; a price that moved too far halts the market instead of being accepted. -/
def syncOracle (w : World) : PoolTx (World × Bool) := do
  revertIf (w.pool.oracleDeviationHalted = true) .oracleDeviationHalted
  let observation ← readValidObservation mkt msg
  validateObservationSequence observation w.pool
  let exceeded ← deviationExceeded observation.priceUsdWad w.pool
  if exceeded = true
  then pure (emitLog mkt msg (.oracleDeviationHaltChanged true w.pool.acceptedPriceUsdWad
      observation.priceUsdWad msg.sender)
      { w with pool := { w.pool with oracleDeviationHalted := true } }, false)
  else pure (storeAcceptedObservation mkt msg observation w, true)

/-- The recovery authority accepts the price that the halt refused. -/
def recoverOracleDeviation (w : World) : PoolTx World := do
  revertIf (msg.sender ≠ mkt.recoveryAuthority) .unauthorized
  revertIf (w.pool.oracleDeviationHalted = false) .actionUnavailable
  let observation ← readValidObservation mkt msg
  validateObservationSequence observation w.pool
  let previousPrice := w.pool.acceptedPriceUsdWad
  let stored := storeAcceptedObservation mkt msg observation w
  pure (emitLog mkt msg (.oracleDeviationHaltChanged false previousPrice
      observation.priceUsdWad msg.sender)
      { stored with pool := { stored.pool with oracleDeviationHalted := false } })

end Oracle

/-! ## Pausing new risk -/

section Operations

variable (mkt : Market) (msg : Msg)

/-- The pause guardian stops withdrawals, redemptions, releases and loans. -/
def pauseNewRisk (w : World) : PoolTx World := do
  revertIf (msg.sender ≠ mkt.pauseGuardian) .unauthorized
  revertIf (w.pool.newRiskPaused = true) .actionUnavailable
  pure (emitLog mkt msg (.newRiskPauseChanged true msg.sender)
    { w with pool := { w.pool with newRiskPaused := true } })

/-- The recovery authority lifts the pause. -/
def resumeNewRisk (w : World) : PoolTx World := do
  revertIf (msg.sender ≠ mkt.recoveryAuthority) .unauthorized
  revertIf (w.pool.newRiskPaused = false) .actionUnavailable
  pure (emitLog mkt msg (.newRiskPauseChanged false msg.sender)
    { w with pool := { w.pool with newRiskPaused := false } })

/-! ## Interest -/

/-- The variables the accrual loop updates. -/
structure Accrual where
  grossDebtAssets : ℕ
  reservesAssets : ℕ
  lastAccruedAt : ℕ
  performing : ℕ
  interestAssets : ℕ
  reserveAssets : ℕ
  chunks : ℕ

/-- The body of the loop of `_accrue`. -/
def accrueChunk (cashAssets now : ℕ) (a : Accrual) : PoolTx Accrual := do
  let elapsed := min (now - a.lastAccruedAt) maxAccrualChunkSeconds
  let apr ← SecuredPoolMathV1.borrowAprBps cashAssets a.performing
  let (chunkInterest, chunkReserve) ← SecuredPoolMathV1.interestAtRate a.performing apr elapsed
  let grossDebtAssets ← add a.grossDebtAssets chunkInterest
  let reservesAssets ← add a.reservesAssets chunkReserve
  let interestAssets ← add a.interestAssets chunkInterest
  let reserveAssets ← add a.reserveAssets chunkReserve
  let performing ← add a.performing chunkInterest
  let lastAccruedAt ← add a.lastAccruedAt elapsed
  pure { grossDebtAssets, reservesAssets, lastAccruedAt, performing, interestAssets,
         reserveAssets, chunks := a.chunks + 1 }

/-- The loop of `_accrue`, with the number of chunks it may still process. -/
def accrueChunks (cashAssets now : ℕ) : ℕ → Accrual → PoolTx Accrual
  | 0, a => pure a
  | chunksLeft + 1, a =>
    if a.lastAccruedAt < now then do
      let a ← accrueChunk cashAssets now a
      accrueChunks cashAssets now chunksLeft a
    else pure a

/-- `_accrue` -/
def accrue (maxChunks : ℕ) (w : World) : PoolTx (World × ℕ × ℕ × ℕ) := do
  revertIf (msg.timestamp < w.pool.lastAccruedAt) .actionUnavailable
  let fromTimestamp := w.pool.lastAccruedAt
  let performing ← w.pool.performingDebtAssets
  let a : Accrual :=
    { grossDebtAssets := w.pool.grossDebtAssets, reservesAssets := w.pool.reservesAssets
      lastAccruedAt := w.pool.lastAccruedAt, performing
      interestAssets := 0, reserveAssets := 0, chunks := 0 }
  let a ←
    (if performing = 0 then pure { a with lastAccruedAt := msg.timestamp }
    else accrueChunks w.pool.cashAssets msg.timestamp maxChunks a)
  let accrued := { w with pool := { w.pool with
    grossDebtAssets := a.grossDebtAssets
    reservesAssets := a.reservesAssets
    lastAccruedAt := a.lastAccruedAt } }
  if a.lastAccruedAt ≠ fromTimestamp
  then pure (emitLog mkt msg (.interestAccrued fromTimestamp a.lastAccruedAt a.chunks
      a.interestAssets a.reserveAssets) accrued, a.interestAssets, a.reserveAssets, a.chunks)
  else pure (accrued, a.interestAssets, a.reserveAssets, a.chunks)

/-- `_accrueToCurrent` -/
def accrueToCurrent (w : World) : PoolTx World := do
  let (w, _) ← accrue mkt msg maxAccrualChunksPerCall w
  revertIf (w.pool.lastAccruedAt ≠ msg.timestamp) .accrualCatchUpRequired
  pure w

/-- The public accrual: the interest, the reserves' part, the chunks, and whether it caught up. -/
def accrueInterest (w : World) : PoolTx (World × ℕ × ℕ × ℕ × Bool) := do
  let (w, interestAssets, reserveAssets, chunks) ← accrue mkt msg maxAccrualChunksPerCall w
  pure (w, interestAssets, reserveAssets, chunks,
    decide (w.pool.lastAccruedAt = msg.timestamp))

/-! ## Suppliers -/

/-- Supplies assets for shares of the lenders' claim. -/
def supply (amountAssets : ℕ) (w : World) : PoolTx (World × ℕ) := do
  revertIf (amountAssets = 0) .invalidAmount
  let w ← accrueToCurrent mkt msg w
  let claimBefore ← w.pool.lpClaimAssets
  let sharesMinted ←
    (if w.pool.totalSupplyShares = 0 then pure amountAssets
    else mulDiv amountAssets w.pool.totalSupplyShares claimBefore)
  revertIf (sharesMinted = 0) .actionUnavailable
  let debtToken ← pullExact mkt w.debtToken msg.sender amountAssets
  let cashAssets ← add w.pool.cashAssets amountAssets
  let totalSupplyShares ← add w.pool.totalSupplyShares sharesMinted
  let senderShares ← add (w.pool.supplySharesOf msg.sender) sharesMinted
  pure (emitLog mkt msg (.assetsSupplied msg.sender amountAssets sharesMinted cashAssets
      totalSupplyShares)
    { w with
      debtToken
      pool := { w.pool with
        cashAssets
        totalSupplyShares
        supplySharesOf := Function.update w.pool.supplySharesOf msg.sender senderShares } },
    sharesMinted)

/-- The tail `withdraw` and `redeemAll` share: burn the shares, pay the assets. -/
def payOut (amountAssets sharesBurned : ℕ) (w : World) : PoolTx World := do
  let cashAssets ← sub w.pool.cashAssets amountAssets
  let totalSupplyShares ← sub w.pool.totalSupplyShares sharesBurned
  let senderShares ← sub (w.pool.supplySharesOf msg.sender) sharesBurned
  let debtToken ← pushExact mkt w.debtToken msg.sender amountAssets
  pure (emitLog mkt msg (.assetsWithdrawn msg.sender amountAssets sharesBurned cashAssets
      totalSupplyShares)
    { w with
      debtToken
      pool := { w.pool with
        cashAssets
        totalSupplyShares
        supplySharesOf := Function.update w.pool.supplySharesOf msg.sender senderShares } })

/-- Withdraws assets, burning shares rounded up. -/
def withdraw (amountAssets : ℕ) (w : World) : PoolTx (World × ℕ) := do
  revertIf (w.pool.newRiskPaused = true) .newRiskPaused
  revertIf (amountAssets = 0) .invalidAmount
  let w ← accrueToCurrent mkt msg w
  revertIf (w.pool.cashAssets < amountAssets ∨ w.pool.totalSupplyShares = 0) .actionUnavailable
  let claim ← w.pool.lpClaimAssets
  let sharesBurned ← mulDivUp amountAssets w.pool.totalSupplyShares claim
  revertIf (sharesBurned = 0 ∨ w.pool.supplySharesOf msg.sender < sharesBurned)
    .actionUnavailable
  let w ← payOut mkt msg amountAssets sharesBurned w
  pure (w, sharesBurned)

/-- `redeemAll` stores `0` where `withdraw` subtracts; the shares burned are all of the sender's,
so the subtraction of `payOut` stores the same `0`. -/
def redeemAll (w : World) : PoolTx (World × ℕ) := do
  revertIf (w.pool.newRiskPaused = true) .newRiskPaused
  let w ← accrueToCurrent mkt msg w
  let sharesBurned := w.pool.supplySharesOf msg.sender
  revertIf (sharesBurned = 0) .actionUnavailable
  let claim ← w.pool.lpClaimAssets
  let amountAssets ←
    (if sharesBurned = w.pool.totalSupplyShares then pure claim
    else mulDiv sharesBurned claim w.pool.totalSupplyShares)
  revertIf (amountAssets = 0 ∨ w.pool.cashAssets < amountAssets) .actionUnavailable
  let w ← payOut mkt msg amountAssets sharesBurned w
  pure (w, amountAssets)

/-! ## Borrowers -/

/-- Adds collateral to the sender's position. -/
def addCollateral (amountAssets : ℕ) (w : World) : PoolTx World := do
  revertIf (amountAssets = 0) .invalidAmount
  let w ← accrueToCurrent mkt msg w
  let collateralToken ← pullExact mkt w.collateralToken msg.sender amountAssets
  let collateralAfter ← add (w.pool.collateralAssetsOf msg.sender) amountAssets
  pure (emitLog mkt msg (.collateralAdded msg.sender amountAssets collateralAfter)
    { w with
      collateralToken
      pool := { w.pool with
        collateralAssetsOf :=
          Function.update w.pool.collateralAssetsOf msg.sender collateralAfter } })

/-- The most an account may owe against `collateralAssets` at `price`. -/
def borrowCapacity (collateralAssets price : ℕ) : PoolTx ℕ := do
  let value ← SecuredPoolMathV1.collateralValueAssets collateralAssets price
  mulDiv value mkt.loanToValueBps bps

/-- Releases collateral that the sender's debt does not need. -/
def releaseCollateral (amountAssets : ℕ) (w : World) : PoolTx World := do
  revertIf (w.pool.newRiskPaused = true) .newRiskPaused
  revertIf (amountAssets = 0 ∨ w.pool.collateralAssetsOf msg.sender < amountAssets)
    .invalidAmount
  let w ← accrueToCurrent mkt msg w
  let (w, price) ← refreshCurrentPrice mkt msg w
  let remainingCollateral ← sub (w.pool.collateralAssetsOf msg.sender) amountAssets
  let capacity ← borrowCapacity mkt remainingCollateral price
  let quote ← w.pool.debtQuoteAssets msg.sender
  let debt ← add quote (w.pool.badDebtAssetsOf msg.sender)
  revertIf (capacity < debt) .actionUnavailable
  let collateralToken ← pushExact mkt w.collateralToken msg.sender amountAssets
  pure (emitLog mkt msg (.collateralReleased msg.sender amountAssets remainingCollateral)
    { w with
      collateralToken
      pool := { w.pool with
        collateralAssetsOf :=
          Function.update w.pool.collateralAssetsOf msg.sender remainingCollateral } })

/-- Lends assets against the sender's collateral, within both debt caps. -/
def borrow (amountAssets : ℕ) (w : World) : PoolTx (World × ℕ) := do
  revertIf (w.pool.newRiskPaused = true) .newRiskPaused
  revertIf (amountAssets = 0) .invalidAmount
  let w ← accrueToCurrent mkt msg w
  revertIf (w.pool.badDebtAssetsOf msg.sender ≠ 0 ∨ w.pool.cashAssets < amountAssets)
    .actionUnavailable
  let (w, price) ← refreshCurrentPrice mkt msg w
  let debtBefore ← w.pool.debtQuoteAssets msg.sender
  let grossDebtAssets ← add w.pool.grossDebtAssets amountAssets
  revertIf (mkt.marketDebtCapAssets < grossDebtAssets) .actionUnavailable
  let debtRequested ← add debtBefore amountAssets
  revertIf (mkt.borrowerDebtCapAssets < debtRequested) .actionUnavailable
  let capacity ← borrowCapacity mkt (w.pool.collateralAssetsOf msg.sender) price
  revertIf (capacity < debtRequested) .actionUnavailable
  let performingBefore ← w.pool.performingDebtAssets
  let debtSharesMinted ←
    (if w.pool.totalDebtShares = 0 then pure amountAssets
    else mulDivUp amountAssets w.pool.totalDebtShares performingBefore)
  let cashAssets ← sub w.pool.cashAssets amountAssets
  let totalDebtShares ← add w.pool.totalDebtShares debtSharesMinted
  let senderShares ← add (w.pool.debtSharesOf msg.sender) debtSharesMinted
  let debtToken ← pushExact mkt w.debtToken msg.sender amountAssets
  let pool := { w.pool with
    cashAssets
    grossDebtAssets
    totalDebtShares
    debtSharesOf := Function.update w.pool.debtSharesOf msg.sender senderShares }
  let debtAfter ← pool.debtQuoteAssets msg.sender
  pure (emitLog mkt msg (.assetsBorrowed msg.sender amountAssets debtSharesMinted debtAfter
      cashAssets) { w with debtToken, pool }, debtSharesMinted)

/-- What a repayment did: shares burned, debt reduced, dust kept by the reserve. -/
structure Repayment where
  sharesBurned : ℕ
  debtReducedAssets : ℕ
  reserveDustAssets : ℕ
  deriving DecidableEq, Repr

/-- `_applyPerformingRepayment` -/
def applyPerformingRepayment (account : Address) (amountAssets : ℕ) (st : Storage) :
    PoolTx (Storage × Repayment) := do
  let quotedDebt ← st.debtQuoteAssets account
  revertIf (quotedDebt = 0 ∨ quotedDebt < amountAssets) .actionUnavailable
  let performing ← st.performingDebtAssets
  let (sharesBurned, debtReducedAssets) ←
    (if amountAssets = quotedDebt then pure (st.debtSharesOf account, amountAssets)
    else do
      let sharesBurned ← mulDiv amountAssets st.totalDebtShares performing
      revertIf (sharesBurned = 0) .actionUnavailable
      let debtReducedAssets ← mulDivUp sharesBurned performing st.totalDebtShares
      pure (sharesBurned, debtReducedAssets))
  let reserveDustAssets ← sub amountAssets debtReducedAssets
  let cashAssets ← add st.cashAssets amountAssets
  let grossDebtAssets ← sub st.grossDebtAssets debtReducedAssets
  let reservesAssets ← add st.reservesAssets reserveDustAssets
  let totalDebtShares ← sub st.totalDebtShares sharesBurned
  let accountShares ← sub (st.debtSharesOf account) sharesBurned
  pure ({ st with
      cashAssets
      grossDebtAssets
      reservesAssets
      totalDebtShares
      debtSharesOf := Function.update st.debtSharesOf account accountShares },
    { sharesBurned, debtReducedAssets, reserveDustAssets })

/-- The branch of `repay` for an account whose bad debt has been recognised. -/
def repayBadDebt (amountAssets : ℕ) (w : World) : PoolTx (World × Repayment) := do
  let recognizedBadDebt := w.pool.badDebtAssetsOf msg.sender
  revertIf (w.pool.debtSharesOf msg.sender ≠ 0 ∨ recognizedBadDebt < amountAssets)
    .actionUnavailable
  let debtToken ← pullExact mkt w.debtToken msg.sender amountAssets
  let cashAssets ← add w.pool.cashAssets amountAssets
  let grossDebtAssets ← sub w.pool.grossDebtAssets amountAssets
  let badDebtAssets ← sub w.pool.badDebtAssets amountAssets
  let accountBadDebt ← sub recognizedBadDebt amountAssets
  pure (emitLog mkt msg (.badDebtRecovered msg.sender msg.sender amountAssets accountBadDebt
      badDebtAssets)
    { w with
      debtToken
      pool := { w.pool with
        cashAssets
        grossDebtAssets
        badDebtAssets
        badDebtAssetsOf := Function.update w.pool.badDebtAssetsOf msg.sender accountBadDebt } },
    { sharesBurned := 0, debtReducedAssets := amountAssets, reserveDustAssets := 0 })

/-- The branch of `repay` for performing debt. -/
def repayPerforming (amountAssets : ℕ) (w : World) : PoolTx (World × Repayment) := do
  let debtToken ← pullExact mkt w.debtToken msg.sender amountAssets
  let (pool, r) ← applyPerformingRepayment msg.sender amountAssets w.pool
  let debtAfter ← pool.debtQuoteAssets msg.sender
  pure (emitLog mkt msg (.assetsRepaid msg.sender msg.sender amountAssets r.debtReducedAssets
      r.sharesBurned r.reserveDustAssets debtAfter pool.cashAssets)
    { w with debtToken, pool }, r)

/-- Repays a debt: the bad debt of the account first, if it has any. -/
def repay (amountAssets : ℕ) (w : World) : PoolTx (World × Repayment) := do
  revertIf (amountAssets = 0) .invalidAmount
  let w ← accrueToCurrent mkt msg w
  if w.pool.badDebtAssetsOf msg.sender ≠ 0 then repayBadDebt mkt msg amountAssets w
  else repayPerforming mkt msg amountAssets w

/-! ## Liquidators -/

/-- `_quoteLiquidation` -/
def quoteLiquidation (borrower : Address) (repayAmountAssets price : ℕ) (st : Storage) :
    PoolTx ℕ := do
  let accountDebt ← st.debtQuoteAssets borrower
  let collateralValue ←
    SecuredPoolMathV1.collateralValueAssets (st.collateralAssetsOf borrower) price
  let liquidationThreshold ← mulDiv collateralValue liquidationThresholdBps bps
  revertIf (accountDebt = 0 ∨ accountDebt ≤ liquidationThreshold) .actionUnavailable
  let closeLimit ← mulDiv accountDebt closeFactorBps bps
  let collateralCoverageLimit ← mulDivUp collateralValue bps (bps + liquidationBonusBps)
  let repaymentLimit := min accountDebt (min closeLimit collateralCoverageLimit)
  revertIf (repaymentLimit < repayAmountAssets) .actionUnavailable
  let seizeValue ← mulDivUp repayAmountAssets (bps + liquidationBonusBps) bps
  let required ← SecuredPoolMathV1.collateralRequiredForValue seizeValue price
  let collateralSeizedAssets := min (st.collateralAssetsOf borrower) required
  revertIf (collateralSeizedAssets = 0) .actionUnavailable
  pure collateralSeizedAssets

/-- `_recognizeBadDebt` -/
def recognizeBadDebt (account : Address) (st : Storage) : PoolTx (Storage × ℕ) := do
  let recognizedAssets ← st.debtQuoteAssets account
  revertIf (recognizedAssets = 0 ∨ st.collateralAssetsOf account ≠ 0) .actionUnavailable
  let totalDebtShares ← sub st.totalDebtShares (st.debtSharesOf account)
  let badDebtAssets ← add st.badDebtAssets recognizedAssets
  let accountBadDebt ← add (st.badDebtAssetsOf account) recognizedAssets
  pure ({ st with
      totalDebtShares
      debtSharesOf := Function.update st.debtSharesOf account 0
      badDebtAssets
      badDebtAssetsOf := Function.update st.badDebtAssetsOf account accountBadDebt },
    recognizedAssets)

/-- The collateral leaves the borrower's position. -/
def seizeCollateral (borrower : Address) (collateralSeizedAssets : ℕ) (st : Storage) :
    PoolTx Storage := do
  let remaining ← sub (st.collateralAssetsOf borrower) collateralSeizedAssets
  pure { st with collateralAssetsOf := Function.update st.collateralAssetsOf borrower remaining }

/-- `_settleLiquidation` -/
def settleLiquidation (borrower : Address) (repayAmountAssets collateralSeizedAssets : ℕ)
    (w : World) : PoolTx (World × ℕ) := do
  let debtToken ← pullExact mkt w.debtToken msg.sender repayAmountAssets
  let (repaid, r) ← applyPerformingRepayment borrower repayAmountAssets w.pool
  let seized ← seizeCollateral borrower collateralSeizedAssets repaid
  let (pool, badDebtRecognizedAssets) ←
    (if seized.collateralAssetsOf borrower = 0 ∧ seized.debtSharesOf borrower ≠ 0
    then recognizeBadDebt borrower seized
    else pure (seized, 0))
  let collateralToken ← pushExact mkt w.collateralToken msg.sender collateralSeizedAssets
  let debtAfter ← pool.debtQuoteAssets borrower
  pure (emitLog mkt msg (.assetsRepaid borrower msg.sender repayAmountAssets
      r.debtReducedAssets r.sharesBurned r.reserveDustAssets debtAfter pool.cashAssets)
    { w with debtToken, collateralToken, pool }, badDebtRecognizedAssets)

/-- Repays part of an unhealthy debt for collateral; what is left of the debt once the collateral is
gone becomes bad debt. -/
def liquidate (borrower : Address) (repayAmountAssets minCollateralOut deadline : ℕ)
    (w : World) : PoolTx (World × ℕ × ℕ) := do
  revertIf (borrower = 0 ∨ borrower = msg.sender ∨ repayAmountAssets = 0 ∨
    deadline < msg.timestamp) .invalidAmount
  let w ← accrueToCurrent mkt msg w
  let (w, price) ← refreshCurrentPrice mkt msg w
  let collateralSeizedAssets ← quoteLiquidation borrower repayAmountAssets price w.pool
  revertIf (collateralSeizedAssets < minCollateralOut) .actionUnavailable
  let (w, badDebtRecognizedAssets) ←
    settleLiquidation mkt msg borrower repayAmountAssets collateralSeizedAssets w
  pure (emitLog mkt msg (.positionLiquidated borrower msg.sender repayAmountAssets
      collateralSeizedAssets badDebtRecognizedAssets) w,
    collateralSeizedAssets, badDebtRecognizedAssets)

end Operations

/-! ## Deployment -/

/-- The argument of the constructor. -/
structure MarketConfiguration where
  expectedChainId : ℕ
  debtAsset : Address
  collateralAsset : Address
  priceOracle : Address
  marketDebtCapAssets : ℕ
  borrowerDebtCapAssets : ℕ
  loanToValueBps : ℕ
  pauseGuardian : Address
  recoveryAuthority : Address
  deriving DecidableEq, Repr

/-- What the constructor reads of the chain.  `marketId` is the hash of the chain and the three
addresses that the constructor computes. -/
structure DeployEnv where
  self : Address
  chainId : ℕ
  timestamp : ℕ
  codeLength : Address → ℕ
  decimals : Address → Option ℕ
  latestPrice : Option PriceObservation
  marketId : Bytes32

/-- `_hasExpectedDecimals` -/
def hasExpectedDecimals (env : DeployEnv) (token : Address) (expectedDecimals : ℕ) : Prop :=
  env.decimals token = some expectedDecimals

instance (env : DeployEnv) (token : Address) (expectedDecimals : ℕ) :
    Decidable (hasExpectedDecimals env token expectedDecimals) :=
  inferInstanceAs (Decidable (env.decimals token = some expectedDecimals))

/-- The constructor. -/
def deploy (env : DeployEnv) (cfg : MarketConfiguration)
    (debtToken collateralToken : Token Address) :
    PoolTx (Market × World) := do
  revertIf (cfg.expectedChainId ≠ env.chainId ∨ cfg.debtAsset = 0 ∨ cfg.collateralAsset = 0 ∨
      cfg.priceOracle = 0 ∨ cfg.debtAsset = cfg.collateralAsset ∨
      env.codeLength cfg.debtAsset = 0 ∨ env.codeLength cfg.collateralAsset = 0 ∨
      env.codeLength cfg.priceOracle = 0 ∨ ¬ hasExpectedDecimals env cfg.debtAsset 6 ∨
      ¬ hasExpectedDecimals env cfg.collateralAsset 18 ∨ cfg.marketDebtCapAssets = 0 ∨
      cfg.borrowerDebtCapAssets = 0 ∨ cfg.marketDebtCapAssets < cfg.borrowerDebtCapAssets ∨
      cfg.loanToValueBps = 0 ∨ liquidationThresholdBps ≤ cfg.loanToValueBps ∨
      cfg.pauseGuardian = 0 ∨ cfg.recoveryAuthority = 0 ∨
      cfg.pauseGuardian = cfg.recoveryAuthority ∨ cfg.pauseGuardian = cfg.debtAsset ∨
      cfg.pauseGuardian = cfg.collateralAsset ∨ cfg.pauseGuardian = cfg.priceOracle ∨
      cfg.recoveryAuthority = cfg.debtAsset ∨ cfg.recoveryAuthority = cfg.collateralAsset ∨
      cfg.recoveryAuthority = cfg.priceOracle)
    .invalidConfiguration
  let msg : Msg := { sender := 0, timestamp := env.timestamp, latestPrice := env.latestPrice }
  let observation ← latestPrice msg
  let mkt : Market :=
    { self := env.self, marketId := env.marketId, marketChainId := cfg.expectedChainId
      debtAsset := cfg.debtAsset, collateralAsset := cfg.collateralAsset
      priceOracle := cfg.priceOracle, oracleSourceId := observation.sourceId
      marketDebtCapAssets := cfg.marketDebtCapAssets
      borrowerDebtCapAssets := cfg.borrowerDebtCapAssets, loanToValueBps := cfg.loanToValueBps
      pauseGuardian := cfg.pauseGuardian, recoveryAuthority := cfg.recoveryAuthority }
  validateObservationBinding mkt msg observation none
  let pool : Storage :=
    { cashAssets := 0, grossDebtAssets := 0, reservesAssets := 0, badDebtAssets := 0
      totalSupplyShares := 0, totalDebtShares := 0, lastAccruedAt := env.timestamp
      acceptedPriceUsdWad := 0, acceptedOracleObservedAt := 0, acceptedOracleRoundId := 0
      oracleDeviationHalted := false, newRiskPaused := false
      supplySharesOf := fun _ ↦ 0, collateralAssetsOf := fun _ ↦ 0
      debtSharesOf := fun _ ↦ 0, badDebtAssetsOf := fun _ ↦ 0 }
  let w := storeAcceptedObservation mkt msg observation
    { pool, debtToken, collateralToken, logs := [] }
  pure (mkt, emitLog mkt msg (.marketInitialized cfg.expectedChainId cfg.debtAsset
    cfg.collateralAsset cfg.priceOracle observation.sourceId cfg.marketDebtCapAssets
    cfg.borrowerDebtCapAssets cfg.loanToValueBps liquidationThresholdBps cfg.pauseGuardian
    cfg.recoveryAuthority) w)

/-! ## The chain -/

/-- The external functions that change state, with their arguments. -/
inductive Call where
  | pauseNewRisk
  | resumeNewRisk
  | syncOracle
  | recoverOracleDeviation
  | accrueInterest
  | supply (amountAssets : ℕ)
  | withdraw (amountAssets : ℕ)
  | redeemAll
  | addCollateral (amountAssets : ℕ)
  | releaseCollateral (amountAssets : ℕ)
  | borrow (amountAssets : ℕ)
  | repay (amountAssets : ℕ)
  | liquidate (borrower : Address) (repayAmountAssets minCollateralOut deadline : ℕ)
  deriving DecidableEq, Repr

/-- Run a call and keep the world it leaves. -/
def exec (mkt : Market) (msg : Msg) (w : World) : Call → PoolTx World
  | .pauseNewRisk => pauseNewRisk mkt msg w
  | .resumeNewRisk => resumeNewRisk mkt msg w
  | .syncOracle => do let r ← syncOracle mkt msg w; pure r.1
  | .recoverOracleDeviation => recoverOracleDeviation mkt msg w
  | .accrueInterest => do let r ← accrueInterest mkt msg w; pure r.1
  | .supply amountAssets => do let r ← supply mkt msg amountAssets w; pure r.1
  | .withdraw amountAssets => do let r ← withdraw mkt msg amountAssets w; pure r.1
  | .redeemAll => do let r ← redeemAll mkt msg w; pure r.1
  | .addCollateral amountAssets => addCollateral mkt msg amountAssets w
  | .releaseCollateral amountAssets => releaseCollateral mkt msg amountAssets w
  | .borrow amountAssets => do let r ← borrow mkt msg amountAssets w; pure r.1
  | .repay amountAssets => do let r ← repay mkt msg amountAssets w; pure r.1
  | .liquidate borrower repayAmountAssets minCollateralOut deadline => do
    let r ← liquidate mkt msg borrower repayAmountAssets minCollateralOut deadline w
    pure r.1

/-- What can happen on the chain: a call of the pool, or other people's token transfers, mints and
approvals, given by the tokens they result in. -/
inductive ChainInput where
  | call (msg : Msg) (c : Call)
  | tokens (debtToken collateralToken : Token Address)

/-- One step of the chain.  A reverted call changes nothing, and nobody else can spend the pool's
tokens. -/
def chainStep (mkt : Market) (w : World) : ChainInput → World
  | .call msg c =>
    match exec mkt msg w c with
    | .ok w' => w'
    | .error _ => w
  | .tokens debtToken collateralToken =>
    if w.debtToken.balanceOf mkt.self ≤ debtToken.balanceOf mkt.self ∧
        w.collateralToken.balanceOf mkt.self ≤ collateralToken.balanceOf mkt.self
    then { w with debtToken, collateralToken }
    else w

/-- `w` is a world right after a deployment of the pool `mkt`. -/
def Deployed (mkt : Market) (w : World) : Prop :=
  ∃ env cfg debtToken collateralToken, deploy env cfg debtToken collateralToken = .ok (mkt, w)

/-- `w` can be reached from a deployment of `mkt` by calls of anybody with any arguments, at any
timestamps and with any answers of the oracle. -/
def Reachable (mkt : Market) (w : World) : Prop :=
  ∃ w₀, Deployed mkt w₀ ∧ Run.Reachable (chainStep mkt) w₀ w

end Pool
end IpoOne
