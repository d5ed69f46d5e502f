import IpoOne.Pool.Math
import Mathlib

/-!
# The data of the secured pool

The storage of `IpoOneSecuredPoolV1`, its immutables, its events and its views.  Addresses are the
`2 ^ 160` values of the type, so a Solidity mapping is a function on all of them and "the sum over
all accounts" is a sum over a finite type.  `uint256` values are natural numbers; every place where
the contract could leave the word goes through the checked operations of `Evm`.

The chain the pool lives on is a `World`: the storage, the two tokens, and the logs the pool has
emitted so far, oldest first.
-/

set_option autoImplicit false

namespace IpoOne

open Evm Fallible

/-- An address of 20 bytes. -/
abbrev Address : Type := Fin (2 ^ 160)

/-- A word of 32 bytes. -/
abbrev Bytes32 : Type := Fin (2 ^ 256)

instance neZeroAddress : NeZero (2 ^ 160) := inferInstance

instance neZeroBytes32 : NeZero (2 ^ 256) := inferInstance

/-- The errors the contract declares. -/
inductive PoolError where
  | invalidConfiguration
  | invalidAmount
  | actionUnavailable
  | unauthorized
  | newRiskPaused
  | invalidOracleObservation
  | oracleDeviationExceeded
  | oracleDeviationHalted
  | accrualCatchUpRequired
  | exactTokenTransferRequired
  deriving DecidableEq, Repr

/-- A call of the pool. -/
abbrev PoolTx (α : Type) : Type := Tx PoolError α

/-- What `IIpoOnePriceOracleV1.latestPrice` returns. -/
structure PriceObservation where
  priceUsdWad : ℕ
  observedAt : ℕ
  roundId : ℕ
  sourceId : Bytes32
  asset : Address
  marketChainId : ℕ
  complete : Bool
  deriving DecidableEq, Repr

/-- The immutables of a deployed pool, and its own address. -/
structure Market where
  self : Address
  marketId : Bytes32
  marketChainId : ℕ
  debtAsset : Address
  collateralAsset : Address
  priceOracle : Address
  oracleSourceId : Bytes32
  marketDebtCapAssets : ℕ
  borrowerDebtCapAssets : ℕ
  loanToValueBps : ℕ
  pauseGuardian : Address
  recoveryAuthority : Address
  deriving DecidableEq, Repr

/-- What a call sees of the chain: who sent it, the block's timestamp, and the answer the oracle
gives at that moment, `none` when the oracle itself reverts. -/
structure Msg where
  sender : Address
  timestamp : ℕ
  latestPrice : Option PriceObservation
  deriving DecidableEq, Repr

/-- The mutable storage of the pool. -/
structure Storage where
  cashAssets : ℕ
  grossDebtAssets : ℕ
  reservesAssets : ℕ
  badDebtAssets : ℕ
  totalSupplyShares : ℕ
  totalDebtShares : ℕ
  lastAccruedAt : ℕ
  acceptedPriceUsdWad : ℕ
  acceptedOracleObservedAt : ℕ
  acceptedOracleRoundId : ℕ
  oracleDeviationHalted : Bool
  newRiskPaused : Bool
  supplySharesOf : Address → ℕ
  collateralAssetsOf : Address → ℕ
  debtSharesOf : Address → ℕ
  badDebtAssetsOf : Address → ℕ

/-- The events of the pool, each without the `marketId` they all start with. -/
inductive PoolEvent where
  | marketInitialized (chainId : ℕ) (debtAsset collateralAsset priceOracle : Address)
      (oracleSourceId : Bytes32) (marketDebtCapAssets borrowerDebtCapAssets loanToValueBps
      liquidationThresholdBps : ℕ) (pauseGuardian recoveryAuthority : Address)
  | oracleObservationAccepted (sourceId : Bytes32) (roundId priceUsdWad observedAt : ℕ)
  | oracleDeviationHaltChanged (halted : Bool) (previousPriceUsdWad candidatePriceUsdWad : ℕ)
      (actor : Address)
  | interestAccrued (fromTimestamp toTimestamp chunks interestAssets reserveAssets : ℕ)
  | assetsSupplied (account : Address) (assets shares cashAfter totalSupplySharesAfter : ℕ)
  | assetsWithdrawn (account : Address) (assets shares cashAfter totalSupplySharesAfter : ℕ)
  | collateralAdded (account : Address) (assets collateralAfter : ℕ)
  | collateralReleased (account : Address) (assets collateralAfter : ℕ)
  | assetsBorrowed (account : Address) (assets debtShares debtAfter cashAfter : ℕ)
  | assetsRepaid (account payer : Address) (assetsTransferred debtReducedAssets debtSharesBurned
      reserveDustAssets debtAfter cashAfter : ℕ)
  | positionLiquidated (borrower liquidator : Address) (repaidAssets collateralSeizedAssets
      badDebtRecognizedAssets : ℕ)
  | badDebtRecovered (account payer : Address) (recoveredAssets accountBadDebtAfter
      marketBadDebtAfter : ℕ)
  | newRiskPauseChanged (paused : Bool) (actor : Address)
  deriving DecidableEq, Repr

/-- A log: the event with the market it names and the timestamp of the block it is in. -/
structure PoolLog where
  marketId : Bytes32
  event : PoolEvent
  blockTimestamp : ℕ
  deriving DecidableEq, Repr

/-- The part of the chain the pool can see or change. -/
structure World where
  pool : Storage
  debtToken : Token Address
  collateralToken : Token Address
  logs : List PoolLog

namespace Storage

/-! ## Views -/

variable (st : Storage)

/-- The debt that still bears interest. -/
def performingDebtAssets : PoolTx ℕ := sub st.grossDebtAssets st.badDebtAssets

/-- The lenders' claim: cash and debt less the reserves and the bad debt, by checked
subtractions. -/
def lpClaimAssets : PoolTx ℕ := do
  let gross ← add st.cashAssets st.grossDebtAssets
  let net ← sub gross st.reservesAssets
  sub net st.badDebtAssets

/-- What `accounting()` returns. -/
structure PoolAccounting where
  cashAssets : ℕ
  grossDebtAssets : ℕ
  performingDebtAssets : ℕ
  reservesAssets : ℕ
  badDebtAssets : ℕ
  lpClaimAssets : ℕ
  utilizationBps : ℕ
  borrowAprBps : ℕ
  supplyAprBps : ℕ
  deriving DecidableEq, Repr

/-- The view of the market's books. -/
def accounting : PoolTx PoolAccounting := do
  let performing ← st.performingDebtAssets
  let claim ← st.lpClaimAssets
  let utilization ← SecuredPoolMathV1.utilizationBps st.cashAssets performing
  let borrowApr ← SecuredPoolMathV1.borrowAprBps st.cashAssets performing
  let supplyApr ← SecuredPoolMathV1.supplyAprBps st.cashAssets performing
  pure { cashAssets := st.cashAssets
         grossDebtAssets := st.grossDebtAssets
         performingDebtAssets := performing
         reservesAssets := st.reservesAssets
         badDebtAssets := st.badDebtAssets
         lpClaimAssets := claim
         utilizationBps := utilization
         borrowAprBps := borrowApr
         supplyAprBps := supplyApr }

/-- What an account's supply shares are worth, rounded down; the only lender has all of the
claim. -/
def supplyClaimAssets (account : Address) : PoolTx ℕ :=
  let shares := st.supplySharesOf account
  if shares = 0 then pure 0
  else if shares = st.totalSupplyShares then st.lpClaimAssets
  else do
    let claim ← st.lpClaimAssets
    mulDiv shares claim st.totalSupplyShares

/-- What an account owes of the performing debt, rounded up; the only borrower owes all of it. -/
def debtQuoteAssets (account : Address) : PoolTx ℕ :=
  let shares := st.debtSharesOf account
  if shares = 0 then pure 0
  else do
    let performing ← st.performingDebtAssets
    if shares = st.totalDebtShares then pure performing
    else mulDivUp shares performing st.totalDebtShares

/-- What `position(account)` returns. -/
structure AccountPosition where
  supplyShares : ℕ
  collateralAssets : ℕ
  debtShares : ℕ
  supplyClaimAssets : ℕ
  performingDebtAssets : ℕ
  badDebtAssets : ℕ
  totalOutstandingDebtAssets : ℕ
  deriving DecidableEq, Repr

/-- The view of one account. -/
def position (account : Address) : PoolTx AccountPosition := do
  let performing ← st.debtQuoteAssets account
  let badDebt := st.badDebtAssetsOf account
  let claim ← st.supplyClaimAssets account
  let outstanding ← add performing badDebt
  pure { supplyShares := st.supplySharesOf account
         collateralAssets := st.collateralAssetsOf account
         debtShares := st.debtSharesOf account
         supplyClaimAssets := claim
         performingDebtAssets := performing
         badDebtAssets := badDebt
         totalOutstandingDebtAssets := outstanding }

end Storage
end IpoOne
