import IpoOne.Pool.Storage
import Mathlib

/-!
# The closed event ABI

The events of `SECURED_POOL_V1_EVENT_ABI` as they stand in a log: a topic that names the event, the
market and the other indexed arguments as further topics, and the remaining arguments as 32-byte
words of data.  All arguments have static types, so one word holds each.

`decodeEventLog` reads an event back.  It stands for the decoder of the `viem` package, which the
adapter calls and which is not part of the repository, wherever a concrete one is needed;
`decodeEventLog_encode` is what a decoder has to satisfy.
-/

set_option autoImplicit false

namespace IpoOne
namespace Indexer
namespace Abi

/-- `EVENT_NAMES` -/
inductive EventName where
  | marketInitialized
  | oracleObservationAccepted
  | oracleDeviationHaltChanged
  | interestAccrued
  | assetsSupplied
  | assetsWithdrawn
  | collateralAdded
  | collateralReleased
  | assetsBorrowed
  | assetsRepaid
  | positionLiquidated
  | badDebtRecovered
  | newRiskPauseChanged
  deriving DecidableEq, Repr

/-- `SECURED_POOL_V1_EVENT_TOPICS`: the Keccak-256 hash of the event's signature. -/
def eventTopic : EventName → Bytes32
  | .marketInitialized => 0x432a647a01ae4a860b496036029de0b70e0f69a9aca4a86a5f395e4dca5c4e39
  | .oracleObservationAccepted =>
    0x27add8bac057530e6dc72508e12f9ccb347317ab9a13ecb6bd50226c73cdab0a
  | .oracleDeviationHaltChanged =>
    0x18e87abcbc2ca55f6fbfff9310c03d70f859be9009f3a5053ce2fff908fb36a7
  | .interestAccrued => 0x7359e48b57e67a59262f0aa7f55f7357afdbcbeac6652597f312cb9ddc5676cc
  | .assetsSupplied => 0xc9453f46eca2cd1a216e8ee4d47f83ad62a166ab6ac5d9cb96390f887e0d6d52
  | .assetsWithdrawn => 0x65477ece192d208e77171699f19c2b14c977f9bb708e649b75d410a02961e7d8
  | .collateralAdded => 0x6769a5f9bfc8b6e0db839ab981cbf9239274ae72d2d035081a9157d43bd33cb6
  | .collateralReleased => 0xa38300aa7a39e2a1ae0c2f675fb879bd9a191d9089938e51bde858ec1b1f1ae1
  | .assetsBorrowed => 0x4dfa444786cf8ace780556da87454f59d513e3656f80055532e43b936d268017
  | .assetsRepaid => 0x901951c7db9a28ae9b16ea463bf14b15492ea89f84161e22a135d4b7d9cc9389
  | .positionLiquidated => 0x42c07b5864cfeafa11888340942e2ad03a23d7562003a2deba20b43851ebc719
  | .badDebtRecovered => 0x9e47cf7af295d01c3baa42e77f79bd0d5ced964406007a73282046294886946e
  | .newRiskPauseChanged => 0x5b97d299dbafba61c0fae4a48a6ff1f3af2318b881d56388f500e663d146da5d

/-- The events of the pool, in the order of its interface. -/
def eventNames : List EventName :=
  [.marketInitialized, .oracleObservationAccepted, .oracleDeviationHaltChanged, .interestAccrued,
    .assetsSupplied, .assetsWithdrawn, .collateralAdded, .collateralReleased, .assetsBorrowed,
    .assetsRepaid, .positionLiquidated, .badDebtRecovered, .newRiskPauseChanged]

/-- An event as its name, its indexed arguments after the market, and its other arguments. -/
def shape : PoolEvent → EventName × List ℕ × List ℕ
  | .marketInitialized chainId debtAsset collateralAsset priceOracle oracleSourceId
      marketDebtCapAssets borrowerDebtCapAssets loanToValueBps liquidationThresholdBps
      pauseGuardian recoveryAuthority =>
    (.marketInitialized, [chainId, debtAsset],
      [collateralAsset, priceOracle, oracleSourceId, marketDebtCapAssets, borrowerDebtCapAssets,
        loanToValueBps, liquidationThresholdBps, pauseGuardian, recoveryAuthority])
  | .oracleObservationAccepted sourceId roundId priceUsdWad observedAt =>
    (.oracleObservationAccepted, [sourceId, roundId], [priceUsdWad, observedAt])
  | .oracleDeviationHaltChanged halted previousPriceUsdWad candidatePriceUsdWad actor =>
    (.oracleDeviationHaltChanged, [actor],
      [halted.toNat, previousPriceUsdWad, candidatePriceUsdWad])
  | .interestAccrued fromTimestamp toTimestamp chunks interestAssets reserveAssets =>
    (.interestAccrued, [], [fromTimestamp, toTimestamp, chunks, interestAssets, reserveAssets])
  | .assetsSupplied account assets shares cashAfter totalSupplySharesAfter =>
    (.assetsSupplied, [account], [assets, shares, cashAfter, totalSupplySharesAfter])
  | .assetsWithdrawn account assets shares cashAfter totalSupplySharesAfter =>
    (.assetsWithdrawn, [account], [assets, shares, cashAfter, totalSupplySharesAfter])
  | .collateralAdded account assets collateralAfter =>
    (.collateralAdded, [account], [assets, collateralAfter])
  | .collateralReleased account assets collateralAfter =>
    (.collateralReleased, [account], [assets, collateralAfter])
  | .assetsBorrowed account assets debtShares debtAfter cashAfter =>
    (.assetsBorrowed, [account], [assets, debtShares, debtAfter, cashAfter])
  | .assetsRepaid account payer assetsTransferred debtReducedAssets debtSharesBurned
      reserveDustAssets debtAfter cashAfter =>
    (.assetsRepaid, [account, payer],
      [assetsTransferred, debtReducedAssets, debtSharesBurned, reserveDustAssets, debtAfter,
        cashAfter])
  | .positionLiquidated borrower liquidator repaidAssets collateralSeizedAssets
      badDebtRecognizedAssets =>
    (.positionLiquidated, [borrower, liquidator],
      [repaidAssets, collateralSeizedAssets, badDebtRecognizedAssets])
  | .badDebtRecovered account payer recoveredAssets accountBadDebtAfter marketBadDebtAfter =>
    (.badDebtRecovered, [account, payer],
      [recoveredAssets, accountBadDebtAfter, marketBadDebtAfter])
  | .newRiskPauseChanged paused actor => (.newRiskPauseChanged, [actor], [paused.toNat])

/-- The address with this number. -/
def address (n : ℕ) : Address := Fin.ofNat (2 ^ 160) n

/-- The word with this number. -/
def bytes32 (n : ℕ) : Bytes32 := Fin.ofNat (2 ^ 256) n

/-- The event of a given name with given arguments. -/
def ofShape : EventName → List ℕ → List ℕ → Option PoolEvent
  | .marketInitialized, [chainId, debtAsset], [collateralAsset, priceOracle, oracleSourceId,
      marketDebtCapAssets, borrowerDebtCapAssets, loanToValueBps, liquidationThresholdBps,
      pauseGuardian, recoveryAuthority] =>
    some (.marketInitialized chainId (address debtAsset) (address collateralAsset)
      (address priceOracle) (bytes32 oracleSourceId) marketDebtCapAssets borrowerDebtCapAssets
      loanToValueBps liquidationThresholdBps (address pauseGuardian) (address recoveryAuthority))
  | .oracleObservationAccepted, [sourceId, roundId], [priceUsdWad, observedAt] =>
    some (.oracleObservationAccepted (bytes32 sourceId) roundId priceUsdWad observedAt)
  | .oracleDeviationHaltChanged, [actor], [halted, previousPriceUsdWad, candidatePriceUsdWad] =>
    some (.oracleDeviationHaltChanged (halted != 0) previousPriceUsdWad candidatePriceUsdWad
      (address actor))
  | .interestAccrued, [], [fromTimestamp, toTimestamp, chunks, interestAssets, reserveAssets] =>
    some (.interestAccrued fromTimestamp toTimestamp chunks interestAssets reserveAssets)
  | .assetsSupplied, [account], [assets, shares, cashAfter, totalSupplySharesAfter] =>
    some (.assetsSupplied (address account) assets shares cashAfter totalSupplySharesAfter)
  | .assetsWithdrawn, [account], [assets, shares, cashAfter, totalSupplySharesAfter] =>
    some (.assetsWithdrawn (address account) assets shares cashAfter totalSupplySharesAfter)
  | .collateralAdded, [account], [assets, collateralAfter] =>
    some (.collateralAdded (address account) assets collateralAfter)
  | .collateralReleased, [account], [assets, collateralAfter] =>
    some (.collateralReleased (address account) assets collateralAfter)
  | .assetsBorrowed, [account], [assets, debtShares, debtAfter, cashAfter] =>
    some (.assetsBorrowed (address account) assets debtShares debtAfter cashAfter)
  | .assetsRepaid, [account, payer], [assetsTransferred, debtReducedAssets, debtSharesBurned,
      reserveDustAssets, debtAfter, cashAfter] =>
    some (.assetsRepaid (address account) (address payer) assetsTransferred debtReducedAssets
      debtSharesBurned reserveDustAssets debtAfter cashAfter)
  | .positionLiquidated, [borrower, liquidator], [repaidAssets, collateralSeizedAssets,
      badDebtRecognizedAssets] =>
    some (.positionLiquidated (address borrower) (address liquidator) repaidAssets
      collateralSeizedAssets badDebtRecognizedAssets)
  | .badDebtRecovered, [account, payer], [recoveredAssets, accountBadDebtAfter,
      marketBadDebtAfter] =>
    some (.badDebtRecovered (address account) (address payer) recoveredAssets accountBadDebtAfter
      marketBadDebtAfter)
  | .newRiskPauseChanged, [actor], [paused] =>
    some (.newRiskPauseChanged (paused != 0) (address actor))
  | _, _, _ => none

@[simp] theorem address_val (a : Address) : address a = a := Fin.ofNat_val_eq_self a

@[simp] theorem bytes32_val (b : Bytes32) : bytes32 b = b := Fin.ofNat_val_eq_self b

theorem ofShape_shape (event : PoolEvent) :
    ofShape (shape event).1 (shape event).2.1 (shape event).2.2 = some event := by
  cases event <;> simp [shape, ofShape]

/-! ## Words of data -/

/-- The lowest `k` bytes of a number, the lowest first. -/
def lowBytes : ℕ → ℕ → List UInt8
  | 0, _ => []
  | k + 1, n => UInt8.ofNat n :: lowBytes k (n / 256)

/-- A word, the highest byte first. -/
def wordBytes (n : ℕ) : List UInt8 := (lowBytes 32 n).reverse

/-- The number a word spells. -/
def wordValue (bytes : List UInt8) : ℕ := Nat.ofDigits 256 (bytes.reverse.map UInt8.toNat)

/-- The first `k` words of some data. -/
def words : ℕ → List UInt8 → List ℕ
  | 0, _ => []
  | k + 1, data => wordValue (data.take 32) :: words k (data.drop 32)

theorem length_lowBytes (k n : ℕ) : (lowBytes k n).length = k := by
  induction k generalizing n with
  | zero => rfl
  | succ k ih => rw [lowBytes, List.length_cons, ih]

theorem length_wordBytes (n : ℕ) : (wordBytes n).length = 32 := by
  rw [wordBytes, List.length_reverse, length_lowBytes]

theorem ofDigits_lowBytes (k n : ℕ) :
    Nat.ofDigits 256 ((lowBytes k n).map UInt8.toNat) = n % 256 ^ k := by
  induction k generalizing n with
  | zero => rw [lowBytes, List.map_nil, Nat.ofDigits_nil, pow_zero, Nat.mod_one]
  | succ k ih =>
    have hbyte : (UInt8.ofNat n).toNat = n % 256 := UInt8.toNat_ofNat'
    rw [lowBytes, List.map_cons, Nat.ofDigits_cons, ih, hbyte, pow_succ', Nat.mod_mul]

theorem wordValue_wordBytes {n : ℕ} (h : n < 2 ^ 256) : wordValue (wordBytes n) = n := by
  rw [wordValue, wordBytes, List.reverse_reverse, ofDigits_lowBytes]
  exact Nat.mod_eq_of_lt h

theorem words_flatMap {ns : List ℕ} (h : ∀ n ∈ ns, n < 2 ^ 256) :
    words ((ns.flatMap wordBytes).length / 32) (ns.flatMap wordBytes) = ns := by
  induction ns with
  | nil => rfl
  | cons n rest ih =>
    have hlength : ((n :: rest).flatMap wordBytes).length / 32
        = (rest.flatMap wordBytes).length / 32 + 1 := by
      rw [List.flatMap_cons, List.length_append, length_wordBytes]
      omega
    rw [hlength, List.flatMap_cons, words, List.take_left' (length_wordBytes n),
      List.drop_left' (length_wordBytes n), wordValue_wordBytes (h n (List.mem_cons_self ..)),
      ih fun m hm ↦ h m (List.mem_cons_of_mem _ hm)]

/-! ## Logs -/

/-- The topics of an event's log. -/
def topics (marketId : Bytes32) (event : PoolEvent) : List Bytes32 :=
  eventTopic (shape event).1 :: marketId :: (shape event).2.1.map bytes32

/-- The data of an event's log. -/
def data (event : PoolEvent) : List UInt8 := (shape event).2.2.flatMap wordBytes

/-- The event of a log, if it is one of the closed ABI. -/
def decodeEventLog (topics : List Bytes32) (data : List UInt8) : Option (Bytes32 × PoolEvent) :=
  match topics with
  | selector :: marketId :: indexed => do
    let name ← eventNames.find? (eventTopic · = selector)
    let event ← ofShape name (indexed.map Fin.val) (words (data.length / 32) data)
    pure (marketId, event)
  | _ => none

/-- Every argument of the event fits a word. -/
def Fits (event : PoolEvent) : Prop := ∀ n ∈ (shape event).2.1 ++ (shape event).2.2, n < 2 ^ 256

instance (event : PoolEvent) : Decidable (Fits event) :=
  inferInstanceAs (Decidable (∀ n ∈ (shape event).2.1 ++ (shape event).2.2, n < 2 ^ 256))

theorem find_eventTopic (name : EventName) :
    eventNames.find? (eventTopic · = eventTopic name) = some name := by
  cases name <;> decide

theorem length_topics (marketId : Bytes32) (event : PoolEvent) :
    1 ≤ (topics marketId event).length ∧ (topics marketId event).length ≤ 4 := by
  cases event <;> simp [topics, shape]

/-- **Decoding the log of an event returns the event.** -/
theorem decodeEventLog_encode (marketId : Bytes32) {event : PoolEvent} (h : Fits event) :
    decodeEventLog (topics marketId event) (data event) = some (marketId, event) := by
  have hindexed : ((shape event).2.1.map bytes32).map Fin.val = (shape event).2.1 := by
    rw [List.map_map]
    refine (List.map_congr_left (g := id) fun n hn ↦ ?_).trans (List.map_id _)
    exact Nat.mod_eq_of_lt (h n (List.mem_append_left _ hn))
  have hdata : words ((data event).length / 32) (data event) = (shape event).2.2 :=
    words_flatMap fun n hn ↦ h n (List.mem_append_right _ hn)
  rw [topics, decodeEventLog, find_eventTopic, hindexed, hdata]
  simp only [Option.bind_eq_bind, Option.bind_some, ofShape_shape]
  rfl

end Abi
end Indexer
end IpoOne
