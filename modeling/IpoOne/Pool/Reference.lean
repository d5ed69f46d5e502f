import IpoOne.Domain.Errors
import Mathlib

/-!
# The reference model of the secured pool

The JavaScript model the contract is tested against: `secured-pool-reference-math.js`,
`secured-pool-reference-state.js` and `secured-pool-reference-model.js`, function by function.

Amounts are BigInts, so they are integers here and may pass through negative values inside a
transition; `assertPoolReferenceInvariants` runs at the end of every transition and throws if one
is left.  BigInt division truncates, which is `Int.tdiv`.  A state keeps its positions in an array;
a transition finds a position, or appends an empty one, and then changes it in place, which is
`mutablePosition` followed by `modifyPosition`.
-/

set_option autoImplicit false

namespace IpoOne
namespace Reference

open Fallible

/-! ## Arithmetic -/

namespace Policy

/-- One in basis points. -/
def bps : ℤ := 10000

/-- One in 18 decimals. -/
def wad : ℤ := 10 ^ 18

/-- The debt asset has 6 decimals. -/
def debtAssetScale : ℤ := 10 ^ 6

/-- The collateral asset has 18 decimals. -/
def collateralAssetScale : ℤ := 10 ^ 18

/-- Prices have 18 decimals. -/
def priceScale : ℤ := 10 ^ 18

/-- The year of the rates has 365 days. -/
def secondsPerYear : ℤ := 365 * 24 * 60 * 60

/-- The longest time that one chunk of the accrual covers: a week. -/
def maxAccrualChunkSeconds : ℤ := 7 * 24 * 60 * 60

/-- An accrual that needs more chunks is refused. -/
def maxAccrualChunksPerTransition : ℕ := 1024

/-- The utilization at which the rate's slope changes. -/
def kinkBps : ℤ := 8000

/-- The rate at no utilization. -/
def baseBorrowAprBps : ℤ := 200

/-- What the rate gains up to the kink. -/
def slope1Bps : ℤ := 800

/-- What the rate gains from the kink on. -/
def slope2Bps : ℤ := 6000

/-- The reserves' share of the interest. -/
def reserveFactorBps : ℤ := 1000

/-- The share of the collateral's value that may be borrowed. -/
def loanToValueBps : ℤ := 7500

/-- The share of the collateral's value up to which a debt is healthy. -/
def liquidationThresholdBps : ℤ := 8000

/-- The share of a debt that one liquidation may repay. -/
def closeFactorBps : ℤ := 5000

/-- What a liquidator gets on top of the value it repays. -/
def liquidationBonusBps : ℤ := 500

/-- An observation is too old after an hour. -/
def maxOracleAgeSeconds : ℤ := 3600

/-- An observation may be at most a minute ahead. -/
def maxOracleFutureSkewSeconds : ℤ := 60

/-- A price may move by a fifth from the accepted one. -/
def maxOracleDeviationBps : ℤ := 2000

/-- The chain that observations are bound to. -/
def chainId : String := "eip155:84532"

/-- The asset that observations are bound to. -/
def collateralAssetId : String := "weth"

/-- The source that observations are bound to. -/
def oracleSourceId : String := "deterministic_m2_fixture.v1"

end Policy

/-- The largest amount of the model, that of a `uint256`. -/
def maxModelUint : ℤ := 2 ^ 256 - 1

/-- `if (c) invalidPoolReference(message)` -/
def invalidIf (c : Prop) [Decidable c] (message : String) : Domain Unit :=
  throwIf c "invalid_secured_pool_reference_model" message

/-- `if (c) unavailablePoolAction(message)` -/
def unavailableIf (c : Prop) [Decidable c] (message : String) : Domain Unit :=
  throwIf c "secured_pool_action_unavailable" message

@[simp] theorem invalidIf_eq_ok {c : Prop} [Decidable c] {message : String} {u : Unit} :
    invalidIf c message = .ok u ↔ ¬ c :=
  throwIf_eq_ok

@[simp] theorem unavailableIf_eq_ok {c : Prop} [Decidable c] {message : String} {u : Unit} :
    unavailableIf c message = .ok u ↔ ¬ c :=
  throwIf_eq_ok

/-- An amount between 0 and `maxModelUint`, above 0 where `positive` asks for it. -/
def assertReferenceUint (name : String) (value : ℤ) (positive : Bool := false) : Domain ℤ := do
  failIf (value < 0 ∨ maxModelUint < value ∨ (positive = true ∧ value = 0))
    { code := "invalid_secured_pool_reference_model"
      message := name ++ " must be a bounded " ++ (if positive then "positive" else "unsigned")
        ++ " BigInt"
      details := [("name", name)] }
  pure value

/-- Product over denominator, rounded down. -/
def mulDivDown (left right denominator : ℤ) : Domain ℤ := do
  let left ← assertReferenceUint "left" left
  let right ← assertReferenceUint "right" right
  let denominator ← assertReferenceUint "denominator" denominator true
  pure ((left * right).tdiv denominator)

/-- Product over denominator, rounded up. -/
def mulDivUp (left right denominator : ℤ) : Domain ℤ := do
  let floor ← mulDivDown left right denominator
  pure (if left = 0 ∨ right = 0 ∨ (left * right).tmod denominator = 0 then floor else floor + 1)

/-- The smaller of two amounts, the first one on a tie. -/
def minReference (first second : ℤ) : Domain ℤ := do
  let first ← assertReferenceUint "values[0]" first
  let second ← assertReferenceUint "values[1]" second
  pure (if second < first then second else first)

/-- `minReference` of three values. -/
def minReference₃ (first second third : ℤ) : Domain ℤ := do
  let first ← assertReferenceUint "values[0]" first
  let second ← assertReferenceUint "values[1]" second
  let third ← assertReferenceUint "values[2]" third
  let least := if second < first then second else first
  pure (if third < least then third else least)

/-- The performing debt's share of cash and debt, rounded down. -/
def calculateUtilizationBps (cashAssets performingDebtAssets : ℤ) : Domain ℤ := do
  let cashAssets ← assertReferenceUint "cashAssets" cashAssets
  let performingDebtAssets ← assertReferenceUint "performingDebtAssets" performingDebtAssets
  let grossAssets := cashAssets + performingDebtAssets
  if grossAssets = 0 then pure 0 else mulDivDown performingDebtAssets Policy.bps grossAssets

/-- The borrowers' yearly rate, linear on either side of the kink. -/
def calculateBorrowAprBps (cashAssets performingDebtAssets : ℤ) : Domain ℤ := do
  let utilizationBps ← calculateUtilizationBps cashAssets performingDebtAssets
  if utilizationBps ≤ Policy.kinkBps then do
    let slope ← mulDivDown Policy.slope1Bps utilizationBps Policy.kinkBps
    pure (Policy.baseBorrowAprBps + slope)
  else do
    let slope ← mulDivDown Policy.slope2Bps (utilizationBps - Policy.kinkBps)
      (Policy.bps - Policy.kinkBps)
    pure (Policy.baseBorrowAprBps + Policy.slope1Bps + slope)

/-- Interest and the reserve's part of it. -/
def calculateInterestAtRate (debtAssets borrowAprBps elapsedSeconds : ℤ) : Domain (ℤ × ℤ) := do
  let debtAssets ← assertReferenceUint "debtAssets" debtAssets
  let borrowAprBps ← assertReferenceUint "borrowAprBps" borrowAprBps
  let elapsedSeconds ← assertReferenceUint "elapsedSeconds" elapsedSeconds
  let interestAssets ← mulDivUp debtAssets (borrowAprBps * elapsedSeconds)
    (Policy.secondsPerYear * Policy.bps)
  let reserveAssets ← mulDivDown interestAssets Policy.reserveFactorBps Policy.bps
  pure (interestAssets, reserveAssets)

/-- The collateral's value in the debt asset, rounded down. -/
def calculateCollateralValueAssets (collateralAssets priceUsdWad : ℤ) : Domain ℤ := do
  let collateralAssets ← assertReferenceUint "collateralAssets" collateralAssets
  let priceUsdWad ← assertReferenceUint "priceUsdWad" priceUsdWad true
  mulDivDown collateralAssets (priceUsdWad * Policy.debtAssetScale)
    (Policy.collateralAssetScale * Policy.priceScale)

/-- The collateral that is worth a value, rounded up. -/
def calculateCollateralRequiredForValue (valueAssets priceUsdWad : ℤ) : Domain ℤ := do
  let valueAssets ← assertReferenceUint "valueAssets" valueAssets
  let priceUsdWad ← assertReferenceUint "priceUsdWad" priceUsdWad true
  mulDivUp valueAssets (Policy.collateralAssetScale * Policy.priceScale)
    (priceUsdWad * Policy.debtAssetScale)

/-! ## State -/

/-- The position of one account. -/
structure Position where
  accountId : String
  supplyShares : ℤ
  collateralAssets : ℤ
  debtShares : ℤ
  badDebtAssets : ℤ
  deriving DecidableEq, Repr

/-- A round of the price feed with the names it is bound to. -/
structure OracleObservation where
  chainId : String
  assetId : String
  sourceId : String
  roundId : String
  complete : Bool
  priceUsdWad : ℤ
  observedAt : ℤ
  deriving DecidableEq, Repr

/-- A reference state, without its two version fields, which no transition changes. -/
structure State where
  cashAssets : ℤ
  grossDebtAssets : ℤ
  reservesAssets : ℤ
  badDebtAssets : ℤ
  totalSupplyShares : ℤ
  totalDebtShares : ℤ
  lastAccruedAt : ℤ
  marketDebtCapAssets : ℤ
  borrowerDebtCapAssets : ℤ
  lastAcceptedOracle : Option OracleObservation
  positions : List Position
  deriving DecidableEq, Repr

/-- The characters of `ACCOUNT_ID_PATTERN` after the first. -/
def isIdChar (c : Char) : Bool := c.isAlphanum || c ∈ ['.', '_', ':', '-']

/-- `/^[A-Za-z0-9][A-Za-z0-9._:-]{0,127}$/` -/
def matchesAccountIdPattern (value : String) : Bool :=
  match value.toList with
  | [] => false
  | first :: rest => first.isAlphanum && rest.all isIdChar && rest.length ≤ 127

/-- An account's name: a bounded identifier that is no key of an object's prototype. -/
def assertReferenceAccountId (value : String) : Domain String := do
  invalidIf (matchesAccountIdPattern value = false ∨
      value ∈ ["__proto__", "constructor", "prototype"])
    "accountId must be a bounded opaque identifier"
  pure value

/-- The position of an account that never did anything. -/
def emptyPoolReferencePosition (accountId : String) : Position where
  accountId
  supplyShares := 0
  collateralAssets := 0
  debtShares := 0
  badDebtAssets := 0

/-- An account's position, the empty one where the state has none. -/
def findPoolReferencePosition (state : State) (accountId : String) : Position :=
  (state.positions.find? fun position ↦ position.accountId = accountId).getD
    (emptyPoolReferencePosition accountId)

/-- The debt that still bears interest. -/
def poolReferencePerformingDebtAssets (state : State) : ℤ :=
  state.grossDebtAssets - state.badDebtAssets

/-- The claim before `poolReferenceLpClaimAssets` cuts it off at zero. -/
def signedClaim (state : State) : ℤ :=
  state.cashAssets + state.grossDebtAssets - state.reservesAssets - state.badDebtAssets

/-- The lenders' claim, floored at 0. -/
def poolReferenceLpClaimAssets (state : State) : ℤ :=
  if 0 < signedClaim state then signedClaim state else 0

/-- What an account owes of the performing debt, rounded up; the only borrower owes all of it. -/
def positionPerformingDebtAssets (state : State) (position : Position) : Domain ℤ :=
  if position.debtShares = 0 then pure 0
  else
    let performingDebt := poolReferencePerformingDebtAssets state
    if position.debtShares = state.totalDebtShares then pure performingDebt
    else mulDivUp position.debtShares performingDebt state.totalDebtShares

/-- An observation is complete and names the model's chain, asset and source. -/
def assertPoolReferenceOracleBinding (observation : OracleObservation) : Domain Unit := do
  unavailableIf (observation.chainId ≠ Policy.chainId ∨
      observation.assetId ≠ Policy.collateralAssetId ∨
      observation.sourceId ≠ Policy.oracleSourceId ∨ observation.complete = false ∨
      matchesAccountIdPattern observation.roundId = false)
    "oracle observation binding is invalid"
  let _ ← assertReferenceUint "oracleObservation.priceUsdWad" observation.priceUsdWad true
  let _ ← assertReferenceUint "oracleObservation.observedAt" observation.observedAt
  pure ()

/-- What the loop of `assertPoolReferenceInvariants` adds up. -/
structure Tally where
  seen : List String
  supplyShares : ℤ
  debtShares : ℤ
  badDebt : ℤ
  aggregateSupplyClaims : ℤ

/-- The body of the loop of `assertPoolReferenceInvariants`. -/
def tallyPosition (state : State) (claimAssets : ℤ) (t : Tally) (position : Position) :
    Domain Tally := do
  let _ ← assertReferenceAccountId position.accountId
  invalidIf (position.accountId ∈ t.seen) "duplicate account position"
  let _ ← assertReferenceUint "position.supplyShares" position.supplyShares
  let _ ← assertReferenceUint "position.collateralAssets" position.collateralAssets
  let _ ← assertReferenceUint "position.debtShares" position.debtShares
  let _ ← assertReferenceUint "position.badDebtAssets" position.badDebtAssets
  let claim ←
    (if 0 < state.totalSupplyShares
    then mulDivDown position.supplyShares claimAssets state.totalSupplyShares
    else pure 0)
  pure { seen := t.seen ++ [position.accountId]
         supplyShares := t.supplyShares + position.supplyShares
         debtShares := t.debtShares + position.debtShares
         badDebt := t.badDebt + position.badDebtAssets
         aggregateSupplyClaims := t.aggregateSupplyClaims + claim }

/-- The checks that every operation makes before it answers: bounds, sums over the positions, the
claim. -/
def assertPoolReferenceInvariants (state : State) : Domain Unit := do
  let _ ← assertReferenceUint "state.cashAssets" state.cashAssets
  let _ ← assertReferenceUint "state.grossDebtAssets" state.grossDebtAssets
  let _ ← assertReferenceUint "state.reservesAssets" state.reservesAssets
  let _ ← assertReferenceUint "state.badDebtAssets" state.badDebtAssets
  let _ ← assertReferenceUint "state.totalSupplyShares" state.totalSupplyShares
  let _ ← assertReferenceUint "state.totalDebtShares" state.totalDebtShares
  let _ ← assertReferenceUint "state.lastAccruedAt" state.lastAccruedAt
  let _ ← assertReferenceUint "state.marketDebtCapAssets" state.marketDebtCapAssets
  let _ ← assertReferenceUint "state.borrowerDebtCapAssets" state.borrowerDebtCapAssets
  invalidIf (state.grossDebtAssets < state.badDebtAssets)
    "recognized bad debt exceeds gross outstanding debt"
  let claimAssets := poolReferenceLpClaimAssets state
  let t ← state.positions.foldlM (tallyPosition state claimAssets) ⟨[], 0, 0, 0, 0⟩
  invalidIf (t.supplyShares ≠ state.totalSupplyShares ∨ t.debtShares ≠ state.totalDebtShares ∨
      t.badDebt ≠ state.badDebtAssets ∨ claimAssets < t.aggregateSupplyClaims)
    "aggregate position accounting does not reconcile"
  let performingDebt := poolReferencePerformingDebtAssets state
  invalidIf (¬ (performingDebt = 0 ↔ state.totalDebtShares = 0))
    "performing debt and debt shares must become empty together"
  invalidIf (performingDebt < state.totalDebtShares)
    "performing debt assets cannot fall below debt shares"
  match state.lastAcceptedOracle with
  | some observation => assertPoolReferenceOracleBinding observation
  | none => pure ()

/-! ## Transitions -/

/-- The state with a position for `id`, appended if there was none. -/
def mutablePosition (state : State) (id : String) : State :=
  if state.positions.any (fun position ↦ position.accountId = id) then state
  else { state with positions := state.positions ++ [emptyPoolReferencePosition id] }

/-- Change the first position of `id` in place. -/
def modifyPosition (id : String) (f : Position → Position) : List Position → List Position
  | [] => []
  | position :: rest =>
    if position.accountId = id then f position :: rest else position :: modifyPosition id f rest

/-- The bounds on an observation's age that two functions check. -/
def assertFresh (observation : OracleObservation) (now : ℤ) : Domain Unit :=
  unavailableIf (now + Policy.maxOracleFutureSkewSeconds < observation.observedAt ∨
      (observation.observedAt < now ∧ Policy.maxOracleAgeSeconds < now - observation.observedAt))
    "oracle observation is stale or too far in the future"

/-- The accepted observation, if it is neither too old nor too far ahead. -/
def assertCurrentOracle (state : State) (now : ℤ) : Domain OracleObservation := do
  let now ← assertReferenceUint "now" now
  match state.lastAcceptedOracle with
  | none => .error { code := "secured_pool_action_unavailable"
                     message := "a valid accepted oracle observation is required" }
  | some observation => do
    assertPoolReferenceOracleBinding observation
    assertFresh observation now
    pure observation

/-- What `accrueInternal` returns. -/
structure Accrued where
  state : State
  interestAccruedAssets : ℤ
  reservesAccruedAssets : ℤ
  chunks : ℤ

/-- The body of the loop of `accrueInternal`. -/
def accrueChunk (now : ℤ) (a : Accrued) : Domain Accrued := do
  let next := a.state
  let elapsedSeconds ← minReference (now - next.lastAccruedAt) Policy.maxAccrualChunkSeconds
  let performingDebt := poolReferencePerformingDebtAssets next
  let (interest, reserve) ←
    (if 0 < performingDebt then do
      let borrowAprBps ← calculateBorrowAprBps next.cashAssets performingDebt
      calculateInterestAtRate performingDebt borrowAprBps elapsedSeconds
    else pure (0, 0))
  pure { state := { next with
           grossDebtAssets := next.grossDebtAssets + interest
           reservesAssets := next.reservesAssets + reserve
           lastAccruedAt := next.lastAccruedAt + elapsedSeconds }
         interestAccruedAssets := a.interestAccruedAssets + interest
         reservesAccruedAssets := a.reservesAccruedAssets + reserve
         chunks := a.chunks + 1 }

/-- The loop of `accrueInternal`.  The number of iterations has been checked against
`maxAccrualChunksPerTransition` beforehand, so as many are enough. -/
def accrueChunks (now : ℤ) : ℕ → Accrued → Domain Accrued
  | 0, a => pure a
  | iterations + 1, a =>
    if a.state.lastAccruedAt < now then do
      let a ← accrueChunk now a
      accrueChunks now iterations a
    else pure a

/-- Accrues up to `now`, a chunk at a time. -/
def accrueInternal (state : State) (now : ℤ) : Domain Accrued := do
  let now ← assertReferenceUint "now" now
  assertPoolReferenceInvariants state
  unavailableIf (now < state.lastAccruedAt) "accrual timestamp regressed"
  let elapsed := now - state.lastAccruedAt
  let requiredChunks ←
    (if elapsed = 0 then pure 0 else mulDivUp elapsed 1 Policy.maxAccrualChunkSeconds)
  unavailableIf ((Policy.maxAccrualChunksPerTransition : ℤ) < requiredChunks)
    "accrual catch-up exceeds the bounded reference-model window"
  let a ← accrueChunks now Policy.maxAccrualChunksPerTransition ⟨state, 0, 0, 0⟩
  assertPoolReferenceInvariants a.state
  pure a

/-- What a repayment did. -/
structure Repayment where
  sharesBurned : ℤ
  debtReducedAssets : ℤ
  reserveDustAssets : ℤ
  deriving DecidableEq, Repr

/-- `repayPerformingInternal`, for the position of `id`. -/
def repayPerformingInternal (state : State) (id : String) (amountAssets : ℤ) :
    Domain (State × Repayment) := do
  let position := findPoolReferencePosition state id
  let performingDebt := poolReferencePerformingDebtAssets state
  let quotedDebtAssets ← positionPerformingDebtAssets state position
  unavailableIf (quotedDebtAssets = 0 ∨ quotedDebtAssets < amountAssets)
    "repayment exceeds the current performing debt quote"
  let (sharesBurned, debtReducedAssets) ←
    (if amountAssets = quotedDebtAssets then pure (position.debtShares, amountAssets)
    else do
      let sharesBurned ← mulDivDown amountAssets state.totalDebtShares performingDebt
      unavailableIf (sharesBurned = 0) "repayment would burn zero debt shares"
      let debtReducedAssets ← mulDivUp sharesBurned performingDebt state.totalDebtShares
      pure (sharesBurned, debtReducedAssets))
  let reserveDustAssets := amountAssets - debtReducedAssets
  pure ({ state with
      cashAssets := state.cashAssets + amountAssets
      grossDebtAssets := state.grossDebtAssets - debtReducedAssets
      reservesAssets := state.reservesAssets + reserveDustAssets
      totalDebtShares := state.totalDebtShares - sharesBurned
      positions := modifyPosition id (fun p ↦ { p with debtShares := p.debtShares - sharesBurned })
        state.positions },
    { sharesBurned, debtReducedAssets, reserveDustAssets })

/-- `recognizeBadDebtInternal`, for the position of `id`. -/
def recognizeBadDebtInternal (state : State) (id : String) : Domain (State × ℤ) := do
  let position := findPoolReferencePosition state id
  unavailableIf (position.collateralAssets ≠ 0 ∨ position.debtShares = 0)
    "bad debt requires exhausted collateral and remaining debt shares"
  let recognizedBadDebtAssets ← positionPerformingDebtAssets state position
  pure ({ state with
      totalDebtShares := state.totalDebtShares - position.debtShares
      badDebtAssets := state.badDebtAssets + recognizedBadDebtAssets
      positions := modifyPosition id
        (fun p ↦ { p with
          debtShares := 0, badDebtAssets := p.badDebtAssets + recognizedBadDebtAssets })
        state.positions },
    recognizedBadDebtAssets)

/-- A new pool with its two debt caps. -/
def createSecuredPoolReferenceState (initialTimestamp marketDebtCapAssets
    borrowerDebtCapAssets : ℤ) : Domain State := do
  let initialTimestamp ← assertReferenceUint "initialTimestamp" initialTimestamp
  let marketDebtCapAssets ← assertReferenceUint "marketDebtCapAssets" marketDebtCapAssets true
  let borrowerDebtCapAssets ←
    assertReferenceUint "borrowerDebtCapAssets" borrowerDebtCapAssets true
  let state : State :=
    { cashAssets := 0, grossDebtAssets := 0, reservesAssets := 0, badDebtAssets := 0
      totalSupplyShares := 0, totalDebtShares := 0, lastAccruedAt := initialTimestamp
      marketDebtCapAssets, borrowerDebtCapAssets, lastAcceptedOracle := none, positions := [] }
  assertPoolReferenceInvariants state
  pure state

/-- What `acceptPoolReferenceOracle` checks against the observation accepted before. -/
def assertFollows (previous observation : OracleObservation) : Domain Unit := do
  unavailableIf (observation.observedAt < previous.observedAt) "oracle timestamp regressed"
  let difference :=
    if previous.priceUsdWad < observation.priceUsdWad
    then observation.priceUsdWad - previous.priceUsdWad
    else previous.priceUsdWad - observation.priceUsdWad
  unavailableIf (previous.priceUsdWad * Policy.maxOracleDeviationBps < difference * Policy.bps)
    "oracle deviation exceeds the fixture bound"
  unavailableIf (observation.observedAt = previous.observedAt ∧
      (observation.roundId ≠ previous.roundId ∨ observation.priceUsdWad ≠ previous.priceUsdWad))
    "oracle observation conflicts at the accepted timestamp"

/-- Accepts an observation that is later than the accepted one and does not deviate too far. -/
def acceptPoolReferenceOracle (state : State) (observation : OracleObservation) (now : ℤ) :
    Domain State := do
  assertPoolReferenceInvariants state
  let now ← assertReferenceUint "now" now
  assertPoolReferenceOracleBinding observation
  assertFresh observation now
  (match state.lastAcceptedOracle with
    | none => pure ()
    | some previous => assertFollows previous observation)
  let next := { state with lastAcceptedOracle := some observation }
  assertPoolReferenceInvariants next
  pure next

/-- The public accrual. -/
def accruePoolReferenceInterest (state : State) (now : ℤ) : Domain Accrued :=
  accrueInternal state now

/-- Supplies assets for shares of the lenders' claim. -/
def supplyPoolReferenceAssets (state : State) (requestedAccountId : String)
    (amountAssets now : ℤ) : Domain (Accrued × ℤ) := do
  let id ← assertReferenceAccountId requestedAccountId
  let amountAssets ← assertReferenceUint "amountAssets" amountAssets true
  let accrued ← accrueInternal state now
  let next := accrued.state
  let claimBefore := poolReferenceLpClaimAssets next
  let sharesMinted ←
    (if next.totalSupplyShares = 0 then pure amountAssets
    else mulDivDown amountAssets next.totalSupplyShares claimBefore)
  unavailableIf (sharesMinted = 0) "supply would mint zero shares"
  let next := { next with
    cashAssets := next.cashAssets + amountAssets
    totalSupplyShares := next.totalSupplyShares + sharesMinted
    positions := modifyPosition id
      (fun p ↦ { p with supplyShares := p.supplyShares + sharesMinted })
      (mutablePosition next id).positions }
  assertPoolReferenceInvariants next
  pure ({ accrued with state := next }, sharesMinted)

/-- Adds cash that belongs to no account. -/
def donatePoolReferenceCash (state : State) (amountAssets now : ℤ) : Domain Accrued := do
  let amountAssets ← assertReferenceUint "amountAssets" amountAssets true
  let accrued ← accrueInternal state now
  let next := { accrued.state with cashAssets := accrued.state.cashAssets + amountAssets }
  assertPoolReferenceInvariants next
  pure { accrued with state := next }

/-- Withdraws assets, burning shares rounded up. -/
def withdrawPoolReferenceAssets (state : State) (requestedAccountId : String)
    (amountAssets now : ℤ) : Domain (Accrued × ℤ) := do
  let id ← assertReferenceAccountId requestedAccountId
  let amountAssets ← assertReferenceUint "amountAssets" amountAssets true
  let accrued ← accrueInternal state now
  let next := accrued.state
  unavailableIf (next.cashAssets < amountAssets) "withdrawal exceeds available cash"
  let claimAssets := poolReferenceLpClaimAssets next
  unavailableIf (claimAssets = 0 ∨ next.totalSupplyShares = 0) "no LP claim is available"
  let sharesBurned ← mulDivUp amountAssets next.totalSupplyShares claimAssets
  let next := mutablePosition next id
  let position := findPoolReferencePosition next id
  unavailableIf (sharesBurned = 0 ∨ position.supplyShares < sharesBurned)
    "withdrawal exceeds the account share claim"
  let next := { next with
    cashAssets := next.cashAssets - amountAssets
    totalSupplyShares := next.totalSupplyShares - sharesBurned
    positions := modifyPosition id
      (fun p ↦ { p with supplyShares := p.supplyShares - sharesBurned }) next.positions }
  assertPoolReferenceInvariants next
  pure ({ accrued with state := next }, sharesBurned)

/-- Redeems all shares of an account. -/
def redeemAllPoolReferenceShares (state : State) (requestedAccountId : String) (now : ℤ) :
    Domain (Accrued × ℤ × ℤ) := do
  let id ← assertReferenceAccountId requestedAccountId
  let accrued ← accrueInternal state now
  let next := mutablePosition accrued.state id
  let position := findPoolReferencePosition next id
  unavailableIf (position.supplyShares = 0) "account has no supply shares"
  let amountAssets ←
    (if position.supplyShares = next.totalSupplyShares then pure (poolReferenceLpClaimAssets next)
    else mulDivDown position.supplyShares (poolReferenceLpClaimAssets next)
      next.totalSupplyShares)
  unavailableIf (amountAssets = 0 ∨ next.cashAssets < amountAssets)
    "full redemption is not currently liquid"
  let sharesBurned := position.supplyShares
  let next := { next with
    cashAssets := next.cashAssets - amountAssets
    totalSupplyShares := next.totalSupplyShares - sharesBurned
    positions := modifyPosition id (fun p ↦ { p with supplyShares := 0 }) next.positions }
  assertPoolReferenceInvariants next
  pure ({ accrued with state := next }, amountAssets, sharesBurned)

/-- Adds collateral to an account's position. -/
def addPoolReferenceCollateral (state : State) (requestedAccountId : String)
    (amountAssets now : ℤ) : Domain Accrued := do
  let id ← assertReferenceAccountId requestedAccountId
  let amountAssets ← assertReferenceUint "amountAssets" amountAssets true
  let accrued ← accrueInternal state now
  let next := mutablePosition accrued.state id
  let next := { next with
    positions := modifyPosition id
      (fun p ↦ { p with collateralAssets := p.collateralAssets + amountAssets })
      next.positions }
  assertPoolReferenceInvariants next
  pure { accrued with state := next }

/-- What `healthFromState` returns. -/
structure Health where
  priceUsdWad : ℤ
  collateralValueAssets : ℤ
  borrowCapacityAssets : ℤ
  liquidationThresholdAssets : ℤ
  debtAssets : ℤ
  healthFactorWad : Option ℤ
  liquidatable : Bool
  deriving DecidableEq, Repr

/-- An account's debt against the limits of its collateral, after a release or a further loan. -/
def healthFromState (state : State) (id : String) (now : ℤ) (collateralOverride : Option ℤ)
    (debtIncrease : ℤ) : Domain Health := do
  let oracle ← assertCurrentOracle state now
  let position := findPoolReferencePosition state id
  let collateralAssets := collateralOverride.getD position.collateralAssets
  let performing ← positionPerformingDebtAssets state position
  let debtAssets := performing + position.badDebtAssets + debtIncrease
  let collateralValueAssets ← calculateCollateralValueAssets collateralAssets oracle.priceUsdWad
  let borrowCapacityAssets ←
    mulDivDown collateralValueAssets Policy.loanToValueBps Policy.bps
  let liquidationThresholdAssets ←
    mulDivDown collateralValueAssets Policy.liquidationThresholdBps Policy.bps
  let healthFactorWad ←
    (if debtAssets = 0 then pure none
    else do
      let factor ← mulDivDown liquidationThresholdAssets Policy.wad debtAssets
      pure (some factor))
  pure { priceUsdWad := oracle.priceUsdWad, collateralValueAssets, borrowCapacityAssets
         liquidationThresholdAssets, debtAssets, healthFactorWad
         liquidatable :=
           decide (0 < position.debtShares ∧ liquidationThresholdAssets < debtAssets) }

/-- Lends assets against an account's collateral, within both debt caps. -/
def borrowPoolReferenceAssets (state : State) (requestedAccountId : String)
    (amountAssets now : ℤ) : Domain (Accrued × ℤ × Health) := do
  let id ← assertReferenceAccountId requestedAccountId
  let amountAssets ← assertReferenceUint "amountAssets" amountAssets true
  let accrued ← accrueInternal state now
  let next := mutablePosition accrued.state id
  let position := findPoolReferencePosition next id
  unavailableIf (0 < position.badDebtAssets) "recognized bad debt blocks new risk"
  unavailableIf (next.cashAssets < amountAssets) "borrow exceeds available cash"
  let debtBefore ← positionPerformingDebtAssets next position
  let healthAfter ← healthFromState next id now none amountAssets
  unavailableIf (next.borrowerDebtCapAssets < debtBefore + amountAssets)
    "borrow exceeds the borrower fixture cap"
  unavailableIf (next.marketDebtCapAssets < next.grossDebtAssets + amountAssets)
    "borrow exceeds the market fixture cap"
  unavailableIf (healthAfter.borrowCapacityAssets < healthAfter.debtAssets)
    "borrow exceeds collateral capacity"
  let performingBefore := poolReferencePerformingDebtAssets next
  let debtSharesMinted ←
    (if next.totalDebtShares = 0 then pure amountAssets
    else mulDivUp amountAssets next.totalDebtShares performingBefore)
  let next := { next with
    cashAssets := next.cashAssets - amountAssets
    grossDebtAssets := next.grossDebtAssets + amountAssets
    totalDebtShares := next.totalDebtShares + debtSharesMinted
    positions := modifyPosition id
      (fun p ↦ { p with debtShares := p.debtShares + debtSharesMinted }) next.positions }
  assertPoolReferenceInvariants next
  pure ({ accrued with state := next }, debtSharesMinted, healthAfter)

/-- The result carries the repayment of performing debt, or else the bad debt recovered. -/
def repayPoolReferenceAssets (state : State) (requestedAccountId : String)
    (amountAssets now : ℤ) : Domain (Accrued × Option Repayment × ℤ) := do
  let id ← assertReferenceAccountId requestedAccountId
  let amountAssets ← assertReferenceUint "amountAssets" amountAssets true
  let accrued ← accrueInternal state now
  let next := mutablePosition accrued.state id
  let position := findPoolReferencePosition next id
  if 0 < position.badDebtAssets then do
    unavailableIf (position.debtShares ≠ 0 ∨ position.badDebtAssets < amountAssets)
      "bad-debt recovery must remain within the recognized amount"
    let next := { next with
      cashAssets := next.cashAssets + amountAssets
      grossDebtAssets := next.grossDebtAssets - amountAssets
      badDebtAssets := next.badDebtAssets - amountAssets
      positions := modifyPosition id
        (fun p ↦ { p with badDebtAssets := p.badDebtAssets - amountAssets }) next.positions }
    assertPoolReferenceInvariants next
    pure ({ accrued with state := next }, none, amountAssets)
  else do
    let (next, repayment) ← repayPerformingInternal next id amountAssets
    assertPoolReferenceInvariants next
    pure ({ accrued with state := next }, some repayment, 0)

/-- Releases collateral that the account's debt does not need. -/
def releasePoolReferenceCollateral (state : State) (requestedAccountId : String)
    (amountAssets now : ℤ) : Domain (Accrued × Health) := do
  let id ← assertReferenceAccountId requestedAccountId
  let amountAssets ← assertReferenceUint "amountAssets" amountAssets true
  let accrued ← accrueInternal state now
  let next := mutablePosition accrued.state id
  let position := findPoolReferencePosition next id
  unavailableIf (position.collateralAssets < amountAssets)
    "collateral release exceeds the account balance"
  let remainingCollateral := position.collateralAssets - amountAssets
  let healthAfter ← healthFromState next id now (some remainingCollateral) 0
  unavailableIf (healthAfter.borrowCapacityAssets < healthAfter.debtAssets)
    "collateral release would exceed borrowing capacity"
  let next := { next with
    positions := modifyPosition id
      (fun p ↦ { p with collateralAssets := remainingCollateral }) next.positions }
  assertPoolReferenceInvariants next
  pure ({ accrued with state := next }, healthAfter)

/-- What a liquidation has done when it comes to the recognition of bad debt. -/
structure Settlement where
  accrued : Accrued
  state : State
  repayment : Repayment
  collateralSeizedAssets : ℤ
  repaymentLimitAssets : ℤ
  healthBefore : Health

/-- `liquidatePoolReferencePosition` up to the recognition of bad debt. -/
def settlePoolReferenceLiquidation (state : State) (id : String) (repayAmountAssets now : ℤ) :
    Domain Settlement := do
  let repayAmountAssets ← assertReferenceUint "repayAmountAssets" repayAmountAssets true
  let accrued ← accrueInternal state now
  let next := mutablePosition accrued.state id
  let position := findPoolReferencePosition next id
  let healthBefore ← healthFromState next id now none 0
  unavailableIf (healthBefore.liquidatable = false) "position is not liquidatable"
  let performingDebt ← positionPerformingDebtAssets next position
  let closeLimit ← mulDivDown performingDebt Policy.closeFactorBps Policy.bps
  let collateralCoverageLimit ← mulDivUp healthBefore.collateralValueAssets Policy.bps
    (Policy.bps + Policy.liquidationBonusBps)
  let repaymentLimitAssets ← minReference₃ performingDebt closeLimit collateralCoverageLimit
  unavailableIf (repaymentLimitAssets < repayAmountAssets)
    "liquidation repayment exceeds the close or collateral limit"
  let (next, repayment) ← repayPerformingInternal next id repayAmountAssets
  let seizeValueAssets ← mulDivUp repayAmountAssets (Policy.bps + Policy.liquidationBonusBps)
    Policy.bps
  let collateralQuotedAssets ←
    calculateCollateralRequiredForValue seizeValueAssets healthBefore.priceUsdWad
  let collateralSeizedAssets ← minReference position.collateralAssets collateralQuotedAssets
  let next := { next with
    positions := modifyPosition id
      (fun p ↦ { p with collateralAssets := p.collateralAssets - collateralSeizedAssets })
      next.positions }
  pure { accrued, state := next, repayment, collateralSeizedAssets, repaymentLimitAssets
         healthBefore }

/-- The result is the state, the settlement and the bad debt recognised. -/
def liquidatePoolReferencePosition (state : State) (requestedAccountId : String)
    (repayAmountAssets now : ℤ) : Domain (State × Settlement × ℤ) := do
  let id ← assertReferenceAccountId requestedAccountId
  let settled ← settlePoolReferenceLiquidation state id repayAmountAssets now
  let position := findPoolReferencePosition settled.state id
  let (next, badDebtRecognizedAssets) ←
    (if position.collateralAssets = 0 ∧ 0 < position.debtShares
    then recognizeBadDebtInternal settled.state id
    else pure (settled.state, 0))
  assertPoolReferenceInvariants next
  pure (next, settled, badDebtRecognizedAssets)

/-- The transitions, with their arguments other than the time. -/
inductive Operation where
  | acceptOracle (observation : OracleObservation)
  | accrue
  | supply (accountId : String) (amountAssets : ℤ)
  | donate (amountAssets : ℤ)
  | withdraw (accountId : String) (amountAssets : ℤ)
  | redeemAll (accountId : String)
  | addCollateral (accountId : String) (amountAssets : ℤ)
  | releaseCollateral (accountId : String) (amountAssets : ℤ)
  | borrow (accountId : String) (amountAssets : ℤ)
  | repay (accountId : String) (amountAssets : ℤ)
  | liquidate (accountId : String) (repayAmountAssets : ℤ)
  deriving DecidableEq, Repr

/-- The state after a transition. -/
def transition (state : State) (now : ℤ) : Operation → Domain State
  | .acceptOracle observation => acceptPoolReferenceOracle state observation now
  | .accrue => do let r ← accruePoolReferenceInterest state now; pure r.state
  | .supply id amount => do let r ← supplyPoolReferenceAssets state id amount now; pure r.1.state
  | .donate amount => do let r ← donatePoolReferenceCash state amount now; pure r.state
  | .withdraw id amount => do
    let r ← withdrawPoolReferenceAssets state id amount now
    pure r.1.state
  | .redeemAll id => do let r ← redeemAllPoolReferenceShares state id now; pure r.1.state
  | .addCollateral id amount => do
    let r ← addPoolReferenceCollateral state id amount now
    pure r.state
  | .releaseCollateral id amount => do
    let r ← releasePoolReferenceCollateral state id amount now
    pure r.1.state
  | .borrow id amount => do let r ← borrowPoolReferenceAssets state id amount now; pure r.1.state
  | .repay id amount => do let r ← repayPoolReferenceAssets state id amount now; pure r.1.state
  | .liquidate id amount => do
    let r ← liquidatePoolReferencePosition state id amount now
    pure r.1

end Reference
end IpoOne
