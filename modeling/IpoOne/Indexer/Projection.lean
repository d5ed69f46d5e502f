import IpoOne.Domain.Errors
import IpoOne.Lib.InsertionMap
import IpoOne.Pool.Storage
import Mathlib

/-!
# The projection of the pool's events

`pool-event-indexer.js` rebuilds the state of a pool from its finalized events.  This file has the
projected state and the closed rule by which one event changes it, in the order of the source.

Amounts are decimal strings in the source; every one of them is the decimal form of a BigInt, so
they are natural numbers here and the checks of `decimal` have nothing left to find.  `subtract`
keeps its check, since a history that is incomplete or out of order may well underflow.  The
accounts are a JavaScript object, and `canonicalState` sorts them by address.
-/

set_option autoImplicit false

namespace IpoOne
namespace Indexer

open Fallible

/-- The confirmations the adapter's constructor admits: positive and increasing. -/
structure FinalityPolicy where
  includedConfirmations : ℕ
  safeConfirmations : ℕ
  finalizedConfirmations : ℕ
  maxReorgDepth : ℕ
  included_pos : 1 ≤ includedConfirmations
  included_lt_safe : includedConfirmations < safeConfirmations
  safe_lt_finalized : safeConfirmations < finalizedConfirmations
  maxReorgDepth_pos : 1 ≤ maxReorgDepth

/-- What an adapter is bound to.  The chain is `eip155:` followed by `chainId`, and the ABI version
is always that of the one contract there is. -/
structure Descriptor where
  chainId : ℕ
  contractAddress : Address
  marketId : Bytes32
  finalityPolicy : FinalityPolicy

/-- The market's parameters, as `MarketInitialized` announces them. -/
structure Configuration where
  chainId : ℕ
  debtAsset : Address
  collateralAsset : Address
  priceOracle : Address
  oracleSourceId : Bytes32
  marketDebtCapAssets : ℕ
  borrowerDebtCapAssets : ℕ
  loanToValueBps : ℕ
  liquidationThresholdBps : ℕ
  pauseGuardian : Address
  recoveryAuthority : Address
  deriving DecidableEq

/-- One account of the projection. -/
structure Account where
  account : Address
  supplyShares : ℕ
  collateralAssets : ℕ
  debtShares : ℕ
  debtAssets : ℕ
  badDebtAssets : ℕ
  deriving DecidableEq

/-- An account that nothing happened to. -/
def emptyAccount (account : Address) : Account where
  account
  supplyShares := 0
  collateralAssets := 0
  debtShares := 0
  debtAssets := 0
  badDebtAssets := 0

/-- The projected state.  `chainId`, `contractAddress` and `marketId` are the descriptor's. -/
structure ProjectionState where
  chainId : ℕ
  contractAddress : Address
  marketId : Bytes32
  initialized : Bool
  configuration : Option Configuration
  cashAssets : ℕ
  grossDebtAssets : ℕ
  reservesAssets : ℕ
  badDebtAssets : ℕ
  totalSupplyShares : ℕ
  totalDebtShares : ℕ
  lastAccruedAt : ℕ
  acceptedPriceUsdWad : ℕ
  acceptedOracleObservedAt : ℕ
  acceptedOracleRoundId : ℕ
  oracleDeviationHalted : Bool
  newRiskPaused : Bool
  accounts : InsertionMap Address Account
  deriving DecidableEq

/-- The projection before any event. -/
def initialState (descriptor : Descriptor) : ProjectionState where
  chainId := descriptor.chainId
  contractAddress := descriptor.contractAddress
  marketId := descriptor.marketId
  initialized := false
  configuration := none
  cashAssets := 0
  grossDebtAssets := 0
  reservesAssets := 0
  badDebtAssets := 0
  totalSupplyShares := 0
  totalDebtShares := 0
  lastAccruedAt := 0
  acceptedPriceUsdWad := 0
  acceptedOracleObservedAt := 0
  acceptedOracleRoundId := 0
  oracleDeviationHalted := false
  newRiskPaused := false
  accounts := .empty

/-- A difference that must not be below 0. -/
def subtract (left right : ℕ) : Domain ℕ := do
  throwIf (left < right) "pool_projection_underflow"
    "Pool V1 event would underflow the projection"
  pure (left - right)

@[simp] theorem subtract_eq_ok {left right result : ℕ} :
    subtract left right = .ok result ↔ right ≤ left ∧ result = left - right := by
  simp only [subtract, bind_eq_ok, throwIf_eq_ok, pure_eq_ok]
  constructor
  · rintro ⟨_, hle, rfl⟩
    exact ⟨by omega, rfl⟩
  · rintro ⟨hle, rfl⟩
    exact ⟨(), by omega, rfl⟩

/-- `accountFor`: the account, or an empty one if the state has none yet. -/
def accountFor (state : ProjectionState) (address : Address) : Account :=
  (state.accounts.get address).getD (emptyAccount address)

/-- The state with the account at an address changed. -/
def withAccount (state : ProjectionState) (address : Address) (account : Account) :
    ProjectionState :=
  { state with accounts := state.accounts.set address account }

/-- What a change of one account does to all of them.  The accounts are all that matters, since the
rules below change other fields in the same breath. -/
theorem accountFor_of_set {state state' : ProjectionState} {address : Address} {account : Account}
    (h : state'.accounts = state.accounts.set address account) (a : Address) :
    accountFor state' a = if a = address then account else accountFor state a := by
  rw [accountFor, accountFor, h, InsertionMap.get_set]
  split <;> rfl

/-- The `switch` of `applyFinalizedEvent`.  `blockTimestamp` is the timestamp of the event's
block. -/
def applyEvent (state : ProjectionState) (blockTimestamp : ℕ) :
    PoolEvent → Domain ProjectionState
  | .marketInitialized chainId debtAsset collateralAsset priceOracle oracleSourceId
      marketDebtCapAssets borrowerDebtCapAssets loanToValueBps liquidationThresholdBps
      pauseGuardian recoveryAuthority => do
    throwIf (state.initialized = true) "pool_already_initialized"
      "MarketInitialized can project only once"
    pure { state with
      initialized := true
      lastAccruedAt := blockTimestamp
      configuration := some
        { chainId, debtAsset, collateralAsset, priceOracle, oracleSourceId, marketDebtCapAssets
          borrowerDebtCapAssets, loanToValueBps, liquidationThresholdBps, pauseGuardian
          recoveryAuthority } }
  | .oracleObservationAccepted _ roundId priceUsdWad observedAt =>
    pure { state with
      acceptedPriceUsdWad := priceUsdWad
      acceptedOracleObservedAt := observedAt
      acceptedOracleRoundId := roundId }
  | .oracleDeviationHaltChanged halted _ _ _ =>
    pure { state with oracleDeviationHalted := halted }
  | .interestAccrued _ toTimestamp _ interestAssets reserveAssets =>
    pure { state with
      lastAccruedAt := toTimestamp
      grossDebtAssets := state.grossDebtAssets + interestAssets
      reservesAssets := state.reservesAssets + reserveAssets }
  | .assetsSupplied account _ shares cashAfter totalSupplySharesAfter =>
    let a := accountFor state account
    let state := withAccount state account { a with supplyShares := a.supplyShares + shares }
    pure { state with
      cashAssets := cashAfter
      totalSupplyShares := totalSupplySharesAfter }
  | .assetsWithdrawn account _ shares cashAfter totalSupplySharesAfter => do
    let a := accountFor state account
    let supplyShares ← subtract a.supplyShares shares
    let state := withAccount state account { a with supplyShares }
    pure { state with
      cashAssets := cashAfter
      totalSupplyShares := totalSupplySharesAfter }
  | .collateralAdded account _ collateralAfter =>
    pure (withAccount state account
      { accountFor state account with collateralAssets := collateralAfter })
  | .collateralReleased account _ collateralAfter =>
    pure (withAccount state account
      { accountFor state account with collateralAssets := collateralAfter })
  | .assetsBorrowed account assets debtShares debtAfter cashAfter =>
    let a := accountFor state account
    let state := withAccount state account
      { a with debtShares := a.debtShares + debtShares, debtAssets := debtAfter }
    pure { state with
      cashAssets := cashAfter
      grossDebtAssets := state.grossDebtAssets + assets
      totalDebtShares := state.totalDebtShares + debtShares }
  | .assetsRepaid account _ _ debtReducedAssets debtSharesBurned reserveDustAssets debtAfter
      cashAfter => do
    let a := accountFor state account
    let debtShares ← subtract a.debtShares debtSharesBurned
    let state := withAccount state account { a with debtShares, debtAssets := debtAfter }
    let grossDebtAssets ← subtract state.grossDebtAssets debtReducedAssets
    let totalDebtShares ← subtract state.totalDebtShares debtSharesBurned
    pure { state with
      cashAssets := cashAfter
      grossDebtAssets
      reservesAssets := state.reservesAssets + reserveDustAssets
      totalDebtShares }
  | .positionLiquidated borrower _ _ collateralSeizedAssets badDebtRecognizedAssets => do
    let a := accountFor state borrower
    let collateralAssets ← subtract a.collateralAssets collateralSeizedAssets
    if badDebtRecognizedAssets ≠ 0 then do
      let totalDebtShares ← subtract state.totalDebtShares a.debtShares
      let state := withAccount state borrower
        { a with
          collateralAssets
          debtShares := 0
          debtAssets := badDebtRecognizedAssets
          badDebtAssets := a.badDebtAssets + badDebtRecognizedAssets }
      pure { state with
        totalDebtShares
        badDebtAssets := state.badDebtAssets + badDebtRecognizedAssets }
    else pure (withAccount state borrower { a with collateralAssets })
  | .badDebtRecovered account _ recoveredAssets accountBadDebtAfter marketBadDebtAfter => do
    let state := withAccount state account
      { accountFor state account with
        badDebtAssets := accountBadDebtAfter
        debtAssets := accountBadDebtAfter }
    let grossDebtAssets ← subtract state.grossDebtAssets recoveredAssets
    pure { state with
      badDebtAssets := marketBadDebtAfter
      cashAssets := state.cashAssets + recoveredAssets
      grossDebtAssets }
  | .newRiskPauseChanged paused _ =>
    pure { state with newRiskPaused := paused }

/-- The state with its accounts listed by address, which is what gets hashed. -/
structure CanonicalState where
  chainId : ℕ
  contractAddress : Address
  marketId : Bytes32
  initialized : Bool
  configuration : Option Configuration
  cashAssets : ℕ
  grossDebtAssets : ℕ
  reservesAssets : ℕ
  badDebtAssets : ℕ
  totalSupplyShares : ℕ
  totalDebtShares : ℕ
  lastAccruedAt : ℕ
  acceptedPriceUsdWad : ℕ
  acceptedOracleObservedAt : ℕ
  acceptedOracleRoundId : ℕ
  oracleDeviationHalted : Bool
  newRiskPaused : Bool
  accounts : List Account
  deriving DecidableEq

/-- `accounts.sort((left, right) => left.account.localeCompare(right.account))` -/
def sortAccounts (accounts : List Account) : List Account :=
  accounts.mergeSort fun left right ↦ left.account ≤ right.account

/-- The projection with its accounts in order. -/
def canonicalState (state : ProjectionState) : CanonicalState where
  chainId := state.chainId
  contractAddress := state.contractAddress
  marketId := state.marketId
  initialized := state.initialized
  configuration := state.configuration
  cashAssets := state.cashAssets
  grossDebtAssets := state.grossDebtAssets
  reservesAssets := state.reservesAssets
  badDebtAssets := state.badDebtAssets
  totalSupplyShares := state.totalSupplyShares
  totalDebtShares := state.totalDebtShares
  lastAccruedAt := state.lastAccruedAt
  acceptedPriceUsdWad := state.acceptedPriceUsdWad
  acceptedOracleObservedAt := state.acceptedOracleObservedAt
  acceptedOracleRoundId := state.acceptedOracleRoundId
  oracleDeviationHalted := state.oracleDeviationHalted
  newRiskPaused := state.newRiskPaused
  accounts := sortAccounts state.accounts.values

end Indexer
end IpoOne
