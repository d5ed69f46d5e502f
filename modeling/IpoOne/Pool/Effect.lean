import IpoOne.Pool.Book
import IpoOne.Pool.Contract
import Mathlib

/-!
# What the events of the pool record

Each successful call of the pool is a sequence of *effects*, one for every event it emits: interest
is accrued, a price is accepted, assets are supplied.  An `Effect` changes the books by at most two
entries that the books allow, moves the pool's tokens by exactly the assets it names, and emits its
event.  This file inverts the calls of the contract into effects, and everything that holds of all
effects then holds of all calls.

* `Storage.book` reads the books off the storage.
* `supply_ok`, `payOut_ok`, …, `liquidate_ok` invert one call each.  A call first accrues interest
  (`Accrues`), then, where it needs a price, accepts one (`Observes`), then has an effect of its
  own.
* `exec_effects` puts them together: every successful call is a chain of effects.

A liquidation emits two events about one settlement.  The contract changes the storage once and
emits both events at the end; here the repayment comes first and the seizure, with the write-off if
there is one, second, which is the order of the events and leads to the same storage.
-/

set_option autoImplicit false

namespace IpoOne

open Evm Fallible Rounding

/-- The books in the storage. -/
def Storage.book (st : Storage) : Book Address where
  cash := st.cashAssets
  gross := st.grossDebtAssets
  reserves := st.reservesAssets
  bad := st.badDebtAssets
  supplyTotal := st.totalSupplyShares
  debtTotal := st.totalDebtShares
  supplyOf := st.supplySharesOf
  collateralOf := st.collateralAssetsOf
  debtOf := st.debtSharesOf
  badOf := st.badDebtAssetsOf

namespace Storage

/-! ## The views read the books -/

variable {st : Storage}

theorem performingDebtAssets_eq_ok {p : ℕ} : st.performingDebtAssets = .ok p ↔
    st.badDebtAssets ≤ st.grossDebtAssets ∧ p = st.book.performing := by
  simp [performingDebtAssets, book, Book.performing]

theorem lpClaimAssets_eq_ok {c : ℕ} : st.lpClaimAssets = .ok c ↔
    st.cashAssets + st.grossDebtAssets < wordModulus ∧ st.book.claim = c := by
  simp only [lpClaimAssets, bind_eq_ok, add_eq_ok, sub_eq_ok, book, Book.claim]
  constructor
  · rintro ⟨gross, ⟨hlt, rfl⟩, net, ⟨hres, rfl⟩, hbad, rfl⟩
    exact ⟨hlt, by omega⟩
  · rintro ⟨hlt, hc⟩
    exact ⟨_, ⟨hlt, rfl⟩, _, ⟨by omega, rfl⟩, by omega, by omega⟩

theorem debtQuoteAssets_ok {account : Address} {q : ℕ}
    (h : st.debtQuoteAssets account = .ok q) : q = st.book.quote account := by
  unfold debtQuoteAssets at h
  simp only at h
  split at h
  · rename_i h0
    rw [pure_eq_ok] at h
    simp [Book.quote, book, h0, ← h]
  · rename_i h0
    simp only [bind_eq_ok, performingDebtAssets_eq_ok] at h
    obtain ⟨p, ⟨_, rfl⟩, h⟩ := h
    split at h
    · rename_i hall
      rw [pure_eq_ok] at h
      have hself := quoteUp_self st.book.performing (T := st.totalDebtShares) (by omega)
      rw [← h]
      simp only [Book.quote, book] at hself ⊢
      rw [hall, hself]
    · obtain ⟨_, _, rfl⟩ := mulDivUp_eq_ok.1 h
      rfl

/-- A nonzero quote comes from debt shares, and the debt was there to be quoted. -/
theorem debtQuoteAssets_ne_zero {account : Address} {q : ℕ}
    (h : st.debtQuoteAssets account = .ok q) (hq : q ≠ 0) :
    0 < st.debtSharesOf account ∧ st.badDebtAssets ≤ st.grossDebtAssets := by
  unfold debtQuoteAssets at h
  simp only at h
  split at h
  · rw [pure_eq_ok] at h
    exact absurd h.symm hq
  · simp only [bind_eq_ok, performingDebtAssets_eq_ok] at h
    obtain ⟨p, ⟨hle, _⟩, _⟩ := h
    exact ⟨by omega, hle⟩

end Storage

namespace Pool

/-! ## Effects -/

section Worlds

variable (mkt : Market) (msg : Msg)

/-- Interest is booked up to `now`. -/
def bookInterest (now chunks interest reserve : ℕ) (w : World) : World :=
  emitLog mkt msg (.interestAccrued w.pool.lastAccruedAt now chunks interest reserve)
    { w with pool := { w.pool with
      grossDebtAssets := w.pool.grossDebtAssets + interest
      reservesAssets := w.pool.reservesAssets + reserve
      lastAccruedAt := now } }

/-- The sender pays `assets` in for `shares`. -/
def bookSupply (assets shares : ℕ) (debtToken : Token Address) (w : World) : World :=
  emitLog mkt msg (.assetsSupplied msg.sender assets shares (w.pool.cashAssets + assets)
      (w.pool.totalSupplyShares + shares))
    { w with
      debtToken
      pool := { w.pool with
        cashAssets := w.pool.cashAssets + assets
        totalSupplyShares := w.pool.totalSupplyShares + shares
        supplySharesOf := Function.update w.pool.supplySharesOf msg.sender
          (w.pool.supplySharesOf msg.sender + shares) } }

/-- The sender gives up `shares` for `assets`. -/
def bookWithdrawal (assets shares : ℕ) (debtToken : Token Address) (w : World) : World :=
  emitLog mkt msg (.assetsWithdrawn msg.sender assets shares (w.pool.cashAssets - assets)
      (w.pool.totalSupplyShares - shares))
    { w with
      debtToken
      pool := { w.pool with
        cashAssets := w.pool.cashAssets - assets
        totalSupplyShares := w.pool.totalSupplyShares - shares
        supplySharesOf := Function.update w.pool.supplySharesOf msg.sender
          (w.pool.supplySharesOf msg.sender - shares) } }

/-- The sender pledges collateral. -/
def bookPledge (assets : ℕ) (collateralToken : Token Address) (w : World) : World :=
  emitLog mkt msg
    (.collateralAdded msg.sender assets (w.pool.collateralAssetsOf msg.sender + assets))
    { w with
      collateralToken
      pool := { w.pool with
        collateralAssetsOf := Function.update w.pool.collateralAssetsOf msg.sender
          (w.pool.collateralAssetsOf msg.sender + assets) } }

/-- The sender takes collateral back. -/
def bookRelease (assets : ℕ) (collateralToken : Token Address) (w : World) : World :=
  emitLog mkt msg
    (.collateralReleased msg.sender assets (w.pool.collateralAssetsOf msg.sender - assets))
    { w with
      collateralToken
      pool := { w.pool with
        collateralAssetsOf := Function.update w.pool.collateralAssetsOf msg.sender
          (w.pool.collateralAssetsOf msg.sender - assets) } }

/-- The sender borrows `assets` and owes `shares` more. -/
def bookBorrow (assets shares debtAfter : ℕ) (debtToken : Token Address) (w : World) : World :=
  emitLog mkt msg
    (.assetsBorrowed msg.sender assets shares debtAfter (w.pool.cashAssets - assets))
    { w with
      debtToken
      pool := { w.pool with
        cashAssets := w.pool.cashAssets - assets
        grossDebtAssets := w.pool.grossDebtAssets + assets
        totalDebtShares := w.pool.totalDebtShares + shares
        debtSharesOf := Function.update w.pool.debtSharesOf msg.sender
          (w.pool.debtSharesOf msg.sender + shares) } }

/-- The sender repays `assets` for `account`, which burns `shares` and reduces the debt. -/
def bookRepayment (account : Address) (assets shares reduced debtAfter : ℕ)
    (debtToken : Token Address) (w : World) : World :=
  emitLog mkt msg
    (.assetsRepaid account msg.sender assets reduced shares (assets - reduced) debtAfter
      (w.pool.cashAssets + assets))
    { w with
      debtToken
      pool := { w.pool with
        cashAssets := w.pool.cashAssets + assets
        grossDebtAssets := w.pool.grossDebtAssets - reduced
        reservesAssets := w.pool.reservesAssets + (assets - reduced)
        totalDebtShares := w.pool.totalDebtShares - shares
        debtSharesOf := Function.update w.pool.debtSharesOf account
          (w.pool.debtSharesOf account - shares) } }

/-- Collateral of a liquidated position goes to the sender. -/
def bookSeizure (borrower : Address) (repaid seized : ℕ) (collateralToken : Token Address)
    (w : World) : World :=
  emitLog mkt msg (.positionLiquidated borrower msg.sender repaid seized 0)
    { w with
      collateralToken
      pool := { w.pool with
        collateralAssetsOf := Function.update w.pool.collateralAssetsOf borrower
          (w.pool.collateralAssetsOf borrower - seized) } }

/-- The last collateral of a liquidated position goes to the sender and the rest of the debt is
recognised as bad. -/
def bookWriteOff (borrower : Address) (repaid seized bad : ℕ) (collateralToken : Token Address)
    (w : World) : World :=
  emitLog mkt msg (.positionLiquidated borrower msg.sender repaid seized bad)
    { w with
      collateralToken
      pool := { w.pool with
        collateralAssetsOf := Function.update w.pool.collateralAssetsOf borrower
          (w.pool.collateralAssetsOf borrower - seized)
        totalDebtShares := w.pool.totalDebtShares - w.pool.debtSharesOf borrower
        debtSharesOf := Function.update w.pool.debtSharesOf borrower 0
        badDebtAssets := w.pool.badDebtAssets + bad
        badDebtAssetsOf := Function.update w.pool.badDebtAssetsOf borrower
          (w.pool.badDebtAssetsOf borrower + bad) } }

/-- The sender pays bad debt back. -/
def bookRecovery (assets : ℕ) (debtToken : Token Address) (w : World) : World :=
  emitLog mkt msg (.badDebtRecovered msg.sender msg.sender assets
      (w.pool.badDebtAssetsOf msg.sender - assets) (w.pool.badDebtAssets - assets))
    { w with
      debtToken
      pool := { w.pool with
        cashAssets := w.pool.cashAssets + assets
        grossDebtAssets := w.pool.grossDebtAssets - assets
        badDebtAssets := w.pool.badDebtAssets - assets
        badDebtAssetsOf := Function.update w.pool.badDebtAssetsOf msg.sender
          (w.pool.badDebtAssetsOf msg.sender - assets) } }

end Worlds

/-- The pool's balance of a token has grown by `amount`. -/
def Pulled (mkt : Market) (amount : ℕ) (t t' : Token Address) : Prop :=
  t'.balanceOf mkt.self = t.balanceOf mkt.self + amount

/-- The pool's balance of a token has shrunk by `amount`. -/
def Pushed (mkt : Market) (amount : ℕ) (t t' : Token Address) : Prop :=
  t'.balanceOf mkt.self + amount = t.balanceOf mkt.self

section Transfers

variable {mkt : Market} {t t' : Token Address} {account : Address} {amount : ℕ}

theorem pullExact_ok (h : pullExact mkt t account amount = .ok t') :
    Pulled mkt amount t t' := by
  unfold Pulled
  simp only [pullExact, bind_eq_ok, revertIf_eq_ok, pure_eq_ok] at h
  obtain ⟨after, _, _, hexact, rfl⟩ := h
  omega

theorem pushExact_ok (h : pushExact mkt t account amount = .ok t') :
    Pushed mkt amount t t' := by
  unfold Pushed
  simp only [pushExact, bind_eq_ok, revertIf_eq_ok, pure_eq_ok] at h
  obtain ⟨after, _, _, hexact, rfl⟩ := h
  omega

end Transfers

/-- One event of the pool, with the change of the world it records. -/
inductive Effect (mkt : Market) (msg : Msg) : World → World → Prop
  | paused (w : World) (paused : Bool) :
      Effect mkt msg w (emitLog mkt msg (.newRiskPauseChanged paused msg.sender)
        { w with pool := { w.pool with newRiskPaused := paused } })
  | halted (w : World) (halted : Bool) (previous candidate : ℕ) :
      Effect mkt msg w (emitLog mkt msg
        (.oracleDeviationHaltChanged halted previous candidate msg.sender)
        { w with pool := { w.pool with oracleDeviationHalted := halted } })
  | observed (w : World) (observation : PriceObservation) :
      Effect mkt msg w (storeAcceptedObservation mkt msg observation w)
  | accrued (w : World) (now chunks interest reserve : ℕ)
      (allows : w.pool.book.Allows (.accrue interest reserve))
      (bound : w.pool.grossDebtAssets < wordModulus →
        w.pool.grossDebtAssets + interest < wordModulus) :
      Effect mkt msg w (bookInterest mkt msg now chunks interest reserve w)
  | supplied (w : World) (assets shares : ℕ) (t : Token Address)
      (allows : w.pool.book.Allows (.deposit msg.sender assets shares))
      (pulled : Pulled mkt assets w.debtToken t) :
      Effect mkt msg w (bookSupply mkt msg assets shares t w)
  | withdrawn (w : World) (assets shares : ℕ) (t : Token Address)
      (allows : w.pool.book.Allows (.withdraw msg.sender assets shares))
      (pushed : Pushed mkt assets w.debtToken t) :
      Effect mkt msg w (bookWithdrawal mkt msg assets shares t w)
  | pledged (w : World) (assets : ℕ) (t : Token Address)
      (pulled : Pulled mkt assets w.collateralToken t) :
      Effect mkt msg w (bookPledge mkt msg assets t w)
  | released (w : World) (assets : ℕ) (t : Token Address)
      (allows : w.pool.book.Allows (.release msg.sender assets))
      (pushed : Pushed mkt assets w.collateralToken t) :
      Effect mkt msg w (bookRelease mkt msg assets t w)
  | borrowed (w : World) (assets shares debtAfter : ℕ) (t : Token Address)
      (allows : w.pool.book.Allows (.borrow msg.sender assets shares))
      (bound : w.pool.grossDebtAssets + assets < wordModulus)
      (pushed : Pushed mkt assets w.debtToken t) :
      Effect mkt msg w (bookBorrow mkt msg assets shares debtAfter t w)
  | repaid (w : World) (account : Address) (assets shares reduced debtAfter : ℕ)
      (t : Token Address)
      (allows : w.pool.book.Allows (.repay account assets shares reduced))
      (pulled : Pulled mkt assets w.debtToken t) :
      Effect mkt msg w (bookRepayment mkt msg account assets shares reduced debtAfter t w)
  | seized (w : World) (borrower : Address) (repaid seized : ℕ) (t : Token Address)
      (allows : w.pool.book.Allows (.release borrower seized))
      (pushed : Pushed mkt seized w.collateralToken t) :
      Effect mkt msg w (bookSeizure mkt msg borrower repaid seized t w)
  | writtenOff (w : World) (borrower : Address) (repaid seized bad : ℕ) (t : Token Address)
      (allows : w.pool.book.Allows (.release borrower seized))
      (allows' : w.pool.book.Allows (.writeOff borrower bad)) (positive : 0 < bad)
      (pushed : Pushed mkt seized w.collateralToken t) :
      Effect mkt msg w (bookWriteOff mkt msg borrower repaid seized bad t w)
  | recovered (w : World) (assets : ℕ) (t : Token Address)
      (allows : w.pool.book.Allows (.recover msg.sender assets))
      (pulled : Pulled mkt assets w.debtToken t) :
      Effect mkt msg w (bookRecovery mkt msg assets t w)

/-! ## Accrual -/

section Accrual

variable {mkt : Market} {msg : Msg}

/-- What the accrual loop can do: interest and reserves only grow, by the same amounts in the
totals as in the storage, and nothing at all changes while the clock stands still. -/
structure Accrual.Grows (a a' : Accrual) : Prop where
  interest : a.interestAssets ≤ a'.interestAssets
  reserve : a.reserveAssets ≤ a'.reserveAssets
  reserve_le : a'.reserveAssets - a.reserveAssets ≤ a'.interestAssets - a.interestAssets
  gross : a'.grossDebtAssets = a.grossDebtAssets + (a'.interestAssets - a.interestAssets)
  reserves : a'.reservesAssets = a.reservesAssets + (a'.reserveAssets - a.reserveAssets)
  bound : a.grossDebtAssets < wordModulus → a'.grossDebtAssets < wordModulus
  clock : a.lastAccruedAt ≤ a'.lastAccruedAt
  idle : a'.lastAccruedAt = a.lastAccruedAt → a' = a

theorem Accrual.Grows.refl (a : Accrual) : a.Grows a :=
  ⟨le_rfl, le_rfl, by omega, by omega, by omega, id, le_rfl, fun _ ↦ rfl⟩

theorem Accrual.Grows.trans {a b c : Accrual} (h₁ : a.Grows b) (h₂ : b.Grows c) : a.Grows c := by
  obtain ⟨hi₁, hr₁, hle₁, hg₁, hs₁, hb₁, hc₁, hidle₁⟩ := h₁
  obtain ⟨hi₂, hr₂, hle₂, hg₂, hs₂, hb₂, hc₂, hidle₂⟩ := h₂
  refine ⟨by omega, by omega, by omega, by omega, by omega, hb₂ ∘ hb₁, by omega, fun h ↦ ?_⟩
  rw [hidle₂ (by omega), hidle₁ (by omega)]

theorem accrueChunk_ok {cash now : ℕ} {a a' : Accrual} (hlt : a.lastAccruedAt < now)
    (h : accrueChunk cash now a = .ok a') : a.Grows a' := by
  simp only [accrueChunk, bind_eq_ok, add_eq_ok, pure_eq_ok, Prod.exists] at h
  obtain ⟨apr, _, i, r, hir, gross, ⟨hbound, rfl⟩, reserves, ⟨_, rfl⟩, interest, ⟨_, rfl⟩,
    reserve, ⟨_, rfl⟩, performing, _, last, ⟨_, rfl⟩, rfl⟩ := h
  have hr := SecuredPoolMathV1.interestAtRate_eq_ok hir
  have helapsed : 0 < min (now - a.lastAccruedAt) maxAccrualChunkSeconds := by
    simp only [maxAccrualChunkSeconds]; omega
  constructor <;> simp only <;> omega

/-- The loop, by induction on the number of chunks it may still process. -/
theorem accrueChunks_ok {cash now : ℕ} (chunksLeft : ℕ) {a a' : Accrual}
    (h : accrueChunks cash now chunksLeft a = .ok a') : a.Grows a' := by
  induction chunksLeft generalizing a with
  | zero =>
    rw [accrueChunks, pure_eq_ok] at h
    exact h ▸ .refl a
  | succ chunksLeft ih =>
    rw [accrueChunks] at h
    split at h
    · rename_i hlt
      obtain ⟨b, hb, hrest⟩ := bind_eq_ok.1 h
      exact (accrueChunk_ok hlt hb).trans (ih hrest)
    · rw [pure_eq_ok] at h
      exact h ▸ .refl a

/-- Either nothing was accrued, or interest the books allow was booked. -/
def Accrues (mkt : Market) (msg : Msg) (w w' : World) : Prop :=
  w' = w ∨ ∃ now chunks interest reserve, w.pool.book.Allows (.accrue interest reserve) ∧
    (w.pool.grossDebtAssets < wordModulus → w.pool.grossDebtAssets + interest < wordModulus) ∧
    w' = bookInterest mkt msg now chunks interest reserve w

theorem accrue_ok {maxChunks i r c : ℕ} {w w' : World}
    (h : accrue mkt msg maxChunks w = .ok (w', i, r, c)) : Accrues mkt msg w w' := by
  simp only [accrue, bind_eq_ok, revertIf_eq_ok, Storage.performingDebtAssets_eq_ok] at h
  obtain ⟨_, _, performing, ⟨_, rfl⟩, a, ha, hw⟩ := h
  have hfacts : a.reserveAssets ≤ a.interestAssets ∧
      (w.pool.book.performing = 0 → a.interestAssets = 0) ∧
      a.grossDebtAssets = w.pool.grossDebtAssets + a.interestAssets ∧
      a.reservesAssets = w.pool.reservesAssets + a.reserveAssets ∧
      (w.pool.grossDebtAssets < wordModulus → a.grossDebtAssets < wordModulus) ∧
      (a.lastAccruedAt = w.pool.lastAccruedAt → a.interestAssets = 0) := by
    split at ha
    · cases pure_eq_ok.1 ha
      exact ⟨le_rfl, fun _ ↦ rfl, rfl, rfl, id, fun _ ↦ rfl⟩
    · rename_i hpos
      have hg := accrueChunks_ok _ ha
      exact ⟨by simpa using hg.reserve_le, fun h0 ↦ absurd h0 hpos, by simpa using hg.gross,
        by simpa using hg.reserves, hg.bound, fun h ↦ by rw [hg.idle h]⟩
  obtain ⟨hle, hzero, hgross, hreserves, hbound, hidle⟩ := hfacts
  split at hw
  · cases pure_eq_ok.1 hw
    rw [hgross] at hbound
    refine .inr ⟨a.lastAccruedAt, a.chunks, a.interestAssets, a.reserveAssets, ⟨hle, hzero⟩,
      hbound, ?_⟩
    rw [bookInterest, hgross, hreserves]
  · rename_i hclock
    cases pure_eq_ok.1 hw
    left
    have hi := hidle (not_not.1 hclock)
    have hr : a.reserveAssets = 0 := by omega
    rw [hgross, hreserves, hi, hr, not_not.1 hclock]
    rfl

theorem accrueToCurrent_ok {w w' : World} (h : accrueToCurrent mkt msg w = .ok w') :
    Accrues mkt msg w w' := by
  simp only [accrueToCurrent, bind_eq_ok, revertIf_eq_ok, pure_eq_ok, Prod.exists] at h
  obtain ⟨w₁, i, r, c, haccrue, _, _, rfl⟩ := h
  exact accrue_ok haccrue

theorem accrueInterest_ok {w w' : World} {i r c : ℕ} {current : Bool}
    (h : accrueInterest mkt msg w = .ok (w', i, r, c, current)) : Accrues mkt msg w w' := by
  simp only [accrueInterest, bind_eq_ok, pure_eq_ok, Prod.exists, Prod.mk.injEq] at h
  obtain ⟨w₁, i, r, c, haccrue, rfl, _⟩ := h
  exact accrue_ok haccrue

theorem Accrues.effects {w w' : World} (h : Accrues mkt msg w w') :
    Relation.ReflTransGen (Effect mkt msg) w w' := by
  rcases h with rfl | ⟨now, chunks, interest, reserve, hallows, hbound, rfl⟩
  · exact .refl
  · exact .single (.accrued w now chunks interest reserve hallows hbound)

end Accrual

/-! ## The oracle -/

section Oracle

variable {mkt : Market} {msg : Msg}

/-- Either the price in force was kept, or a new observation was accepted. -/
def Observes (mkt : Market) (msg : Msg) (w w' : World) : Prop :=
  w' = w ∨ ∃ observation, w' = storeAcceptedObservation mkt msg observation w

theorem refreshCurrentPrice_ok {w w' : World} {price : ℕ}
    (h : refreshCurrentPrice mkt msg w = .ok (w', price)) : Observes mkt msg w w' := by
  simp only [refreshCurrentPrice, bind_eq_ok] at h
  obtain ⟨_, _, observation, _, _, _, exceeded, _, _, _, hw⟩ := h
  split at hw
  · cases pure_eq_ok.1 hw
    exact .inr ⟨observation, rfl⟩
  · cases pure_eq_ok.1 hw
    exact .inl rfl

theorem Observes.effects {w w' : World} (h : Observes mkt msg w w') :
    Relation.ReflTransGen (Effect mkt msg) w w' := by
  rcases h with rfl | ⟨observation, rfl⟩
  · exact .refl
  · exact .single (.observed w observation)

theorem Observes.book {w w' : World} (h : Observes mkt msg w w') : w'.pool.book = w.pool.book := by
  rcases h with rfl | ⟨observation, rfl⟩ <;> rfl

theorem syncOracle_effects {w w' : World} {accepted : Bool}
    (h : syncOracle mkt msg w = .ok (w', accepted)) :
    Relation.ReflTransGen (Effect mkt msg) w w' := by
  simp only [syncOracle, bind_eq_ok] at h
  obtain ⟨_, _, observation, _, _, _, exceeded, _, hw⟩ := h
  split at hw
  · cases pure_eq_ok.1 hw
    exact .single (.halted w true _ _)
  · cases pure_eq_ok.1 hw
    exact .single (.observed w observation)

theorem recoverOracleDeviation_effects {w w' : World}
    (h : recoverOracleDeviation mkt msg w = .ok w') :
    Relation.ReflTransGen (Effect mkt msg) w w' := by
  simp only [recoverOracleDeviation, bind_eq_ok, pure_eq_ok] at h
  obtain ⟨_, _, _, _, observation, _, _, _, rfl⟩ := h
  exact (Relation.ReflTransGen.single (.observed w observation)).tail (.halted _ false _ _)

end Oracle

/-! ## Suppliers -/

section Suppliers

variable {mkt : Market} {msg : Msg} {w w' : World}

theorem supply_ok {amount shares : ℕ} (h : supply mkt msg amount w = .ok (w', shares)) :
    ∃ w₁ t, accrueToCurrent mkt msg w = .ok w₁ ∧
      w₁.pool.book.Allows (.deposit msg.sender amount shares) ∧ Pulled mkt amount w₁.debtToken t ∧
      w' = bookSupply mkt msg amount shares t w₁ := by
  simp only [supply, bind_eq_ok, revertIf_eq_ok, add_eq_ok, pure_eq_ok, Prod.mk.injEq,
    Storage.lpClaimAssets_eq_ok] at h
  obtain ⟨_, _, w₁, hacc, claim, ⟨_, hclaim⟩, minted, hminted, _, _, t, ht, cash, ⟨_, rfl⟩, total,
    ⟨_, rfl⟩, mine, ⟨_, rfl⟩, rfl, rfl⟩ := h
  refine ⟨w₁, t, hacc, ?_, pullExact_ok ht, rfl⟩
  split at hminted
  · rename_i h0
    exact .inl h0
  · obtain ⟨_, _, rfl⟩ := mulDiv_eq_ok.1 hminted
    right
    rw [hclaim]
    exact ⟨by positivity, by exact_mod_cast Nat.div_mul_le_self _ _⟩

theorem payOut_ok {amount shares claim : ℕ} (h : payOut mkt msg amount shares w = .ok w')
    (hclaim : w.pool.book.claim = claim) (hpos : 0 < w.pool.totalSupplyShares)
    (hrate : amount * w.pool.totalSupplyShares ≤ shares * claim) :
    ∃ t, w.pool.book.Allows (.withdraw msg.sender amount shares) ∧ Pushed mkt amount w.debtToken t ∧
      w' = bookWithdrawal mkt msg amount shares t w := by
  simp only [payOut, bind_eq_ok, sub_eq_ok, pure_eq_ok] at h
  obtain ⟨cash, ⟨hcash, rfl⟩, total, ⟨htotal, rfl⟩, mine, ⟨hmine, rfl⟩, t, ht, rfl⟩ := h
  refine ⟨t, ⟨hcash, hmine, htotal, hpos, ?_, ?_⟩, pushExact_ok ht, rfl⟩
  · rw [hclaim]; positivity
  · rw [hclaim]; exact_mod_cast hrate

theorem withdraw_ok {amount shares : ℕ} (h : withdraw mkt msg amount w = .ok (w', shares)) :
    ∃ w₁ t, accrueToCurrent mkt msg w = .ok w₁ ∧
      w₁.pool.book.Allows (.withdraw msg.sender amount shares) ∧ Pushed mkt amount w₁.debtToken t ∧
      w' = bookWithdrawal mkt msg amount shares t w₁ := by
  simp only [withdraw, bind_eq_ok, revertIf_eq_ok, pure_eq_ok, Prod.mk.injEq,
    Storage.lpClaimAssets_eq_ok, mulDivUp_eq_ok] at h
  obtain ⟨_, _, _, _, w₁, hacc, _, havail, claim, ⟨_, hclaim⟩, burned, ⟨hpos, _, rfl⟩, _, _, w₂,
    hpay, rfl, rfl⟩ := h
  obtain ⟨t, ht⟩ := payOut_ok hpay hclaim (by omega) (by
    rw [Nat.mul_comm (quoteUp _ _ _)]; exact le_mul_quoteUp hpos)
  exact ⟨w₁, t, hacc, ht⟩

theorem redeemAll_ok {amount : ℕ} (h : redeemAll mkt msg w = .ok (w', amount)) :
    ∃ w₁ t, accrueToCurrent mkt msg w = .ok w₁ ∧
      w₁.pool.book.Allows (.withdraw msg.sender amount (w₁.pool.supplySharesOf msg.sender)) ∧
      Pushed mkt amount w₁.debtToken t ∧
      w' = bookWithdrawal mkt msg amount (w₁.pool.supplySharesOf msg.sender) t w₁ := by
  simp only [redeemAll, bind_eq_ok, revertIf_eq_ok, pure_eq_ok, Prod.mk.injEq,
    Storage.lpClaimAssets_eq_ok] at h
  obtain ⟨_, _, w₁, hacc, _, hmine, claim, ⟨_, hclaim⟩, assets, hassets, _, _, w₂, hpay, rfl,
    rfl⟩ := h
  have hfacts : 0 < w₁.pool.totalSupplyShares ∧
      assets * w₁.pool.totalSupplyShares ≤ w₁.pool.supplySharesOf msg.sender * claim := by
    split at hassets
    · rename_i hall
      rw [← pure_eq_ok.1 hassets, hall, Nat.mul_comm]
      exact ⟨by omega, le_rfl⟩
    · obtain ⟨hpos, _, rfl⟩ := mulDiv_eq_ok.1 hassets
      exact ⟨hpos, Nat.div_mul_le_self _ _⟩
  obtain ⟨t, ht⟩ := payOut_ok hpay hclaim hfacts.1 hfacts.2
  exact ⟨w₁, t, hacc, ht⟩

end Suppliers

/-! ## Borrowers -/

section Borrowers

variable {mkt : Market} {msg : Msg} {w w' : World}

theorem addCollateral_ok {amount : ℕ} (h : addCollateral mkt msg amount w = .ok w') :
    ∃ w₁ t, accrueToCurrent mkt msg w = .ok w₁ ∧ Pulled mkt amount w₁.collateralToken t ∧
      w' = bookPledge mkt msg amount t w₁ := by
  simp only [addCollateral, bind_eq_ok, add_eq_ok, pure_eq_ok] at h
  obtain ⟨_, _, w₁, hacc, t, ht, mine, ⟨_, rfl⟩, rfl⟩ := h
  exact ⟨w₁, t, hacc, pullExact_ok ht, rfl⟩

theorem releaseCollateral_ok {amount : ℕ} (h : releaseCollateral mkt msg amount w = .ok w') :
    ∃ w₁ w₂ t, accrueToCurrent mkt msg w = .ok w₁ ∧ Observes mkt msg w₁ w₂ ∧
      w₂.pool.book.Allows (.release msg.sender amount) ∧ Pushed mkt amount w₂.collateralToken t ∧
      w' = bookRelease mkt msg amount t w₂ := by
  simp only [releaseCollateral, bind_eq_ok, sub_eq_ok, pure_eq_ok, Prod.exists] at h
  obtain ⟨_, _, _, _, w₁, hacc, w₂, price, hobs, remaining, ⟨hle, rfl⟩, _, _, _, _, _, _, _, _, t,
    ht, rfl⟩ := h
  exact ⟨w₁, w₂, t, hacc, refreshCurrentPrice_ok hobs, hle, pushExact_ok ht, rfl⟩

theorem borrow_ok {amount shares : ℕ} (h : borrow mkt msg amount w = .ok (w', shares)) :
    ∃ w₁ w₂ t debtAfter, accrueToCurrent mkt msg w = .ok w₁ ∧ Observes mkt msg w₁ w₂ ∧
      w₂.pool.book.Allows (.borrow msg.sender amount shares) ∧
      w₂.pool.grossDebtAssets + amount < wordModulus ∧ Pushed mkt amount w₂.debtToken t ∧
      debtAfter = w'.pool.book.quote msg.sender ∧
      w' = bookBorrow mkt msg amount shares debtAfter t w₂ := by
  simp only [borrow, bind_eq_ok, revertIf_eq_ok, add_eq_ok, sub_eq_ok, pure_eq_ok, Prod.exists,
    Prod.mk.injEq, Storage.performingDebtAssets_eq_ok] at h
  obtain ⟨_, _, _, hamount, w₁, hacc, _, hclean, w₂, price, hobs, debtBefore, _, gross,
    ⟨hbound, rfl⟩, _, _, requested, _, _, _, capacity, _, _, _, performing, ⟨hbad, rfl⟩, minted,
    hminted, cash, ⟨hcash, rfl⟩, total, ⟨_, rfl⟩, mine, ⟨_, rfl⟩, t, ht, debtAfter, hquote, rfl,
    rfl⟩ := h
  have hobs := refreshCurrentPrice_ok hobs
  have hsame : w₂.pool.badDebtAssetsOf = w₁.pool.badDebtAssetsOf :=
    congrArg Book.badOf hobs.book
  refine ⟨w₁, w₂, t, debtAfter, hacc, hobs, ⟨hcash, by omega, hbad, ?_, ?_⟩, hbound,
    pushExact_ok ht, Storage.debtQuoteAssets_ok hquote, rfl⟩
  · simp only [Storage.book, hsame]
    omega
  · split at hminted
    · rename_i h0
      exact .inl ⟨h0, (pure_eq_ok.1 hminted).symm⟩
    · rename_i h0
      obtain ⟨hpos, _, rfl⟩ := mulDivUp_eq_ok.1 hminted
      exact .inr ⟨Nat.pos_of_ne_zero h0, hpos, rfl⟩

/-- What a performing repayment does to the storage. -/
theorem applyPerformingRepayment_ok {account : Address} {amount : ℕ} {st st' : Storage}
    {r : Repayment} (h : applyPerformingRepayment account amount st = .ok (st', r)) :
    st.book.Allows (.repay account amount r.sharesBurned r.debtReducedAssets) ∧
      r.reserveDustAssets = amount - r.debtReducedAssets ∧
      (amount < st.book.quote account →
        r.sharesBurned = amount * st.totalDebtShares / st.book.performing) ∧
      st' = { st with
        cashAssets := st.cashAssets + amount
        grossDebtAssets := st.grossDebtAssets - r.debtReducedAssets
        reservesAssets := st.reservesAssets + (amount - r.debtReducedAssets)
        totalDebtShares := st.totalDebtShares - r.sharesBurned
        debtSharesOf := Function.update st.debtSharesOf account
          (st.debtSharesOf account - r.sharesBurned) } := by
  simp only [applyPerformingRepayment, bind_eq_ok, revertIf_eq_ok, add_eq_ok, sub_eq_ok,
    pure_eq_ok, Prod.exists, Prod.mk.injEq, Storage.performingDebtAssets_eq_ok] at h
  obtain ⟨quoted, hquoted, _, hlimit, performing, ⟨hbad, rfl⟩, shares, reduced, hshares, dust,
    ⟨hdust, rfl⟩, cash, ⟨_, rfl⟩, gross, ⟨_, rfl⟩, reserves, ⟨_, rfl⟩, total, ⟨htotal, rfl⟩, mine,
    ⟨hmine, rfl⟩, rfl, rfl⟩ := h
  have hpos := (Storage.debtQuoteAssets_ne_zero hquoted (by omega)).1
  have hquote := Storage.debtQuoteAssets_ok hquoted
  have hfacts : 0 < shares ∧
      reduced = quoteUp shares st.book.performing st.totalDebtShares ∧
      (amount < st.book.quote account →
        shares = amount * st.totalDebtShares / st.book.performing) := by
    split at hshares
    · rename_i hall
      obtain ⟨rfl, rfl⟩ := Prod.mk.inj (pure_eq_ok.1 hshares)
      exact ⟨hpos, hall.trans hquote, fun hlt ↦ by omega⟩
    · simp only [bind_eq_ok, revertIf_eq_ok, mulDiv_eq_ok, mulDivUp_eq_ok, pure_eq_ok,
        Prod.mk.injEq] at hshares
      obtain ⟨burned, ⟨_, _, rfl⟩, _, hburned, reduced', ⟨_, _, rfl⟩, rfl, rfl⟩ := hshares
      exact ⟨Nat.pos_of_ne_zero hburned, rfl, fun _ ↦ rfl⟩
  obtain ⟨hburned, hreduced, hpartial⟩ := hfacts
  exact ⟨⟨hbad, show 0 < st.totalDebtShares by omega, hburned, hmine, htotal, hreduced, hdust⟩,
    rfl, hpartial, rfl⟩

theorem repayBadDebt_ok {amount : ℕ} {r : Repayment}
    (h : repayBadDebt mkt msg amount w = .ok (w', r)) :
    ∃ t, w.pool.book.Allows (.recover msg.sender amount) ∧ Pulled mkt amount w.debtToken t ∧
      r = ⟨0, amount, 0⟩ ∧ w' = bookRecovery mkt msg amount t w := by
  simp only [repayBadDebt, bind_eq_ok, revertIf_eq_ok, add_eq_ok, sub_eq_ok, pure_eq_ok,
    Prod.mk.injEq] at h
  obtain ⟨_, hfree, t, ht, cash, ⟨_, rfl⟩, gross, ⟨hgross, rfl⟩, bad, ⟨hbad, rfl⟩, mine,
    ⟨hmine, rfl⟩, rfl, rfl⟩ := h
  have hshares : w.pool.debtSharesOf msg.sender = 0 := by omega
  exact ⟨t, ⟨hshares, hmine, hbad, hgross⟩, pullExact_ok ht, rfl, rfl⟩

theorem repayPerforming_ok {amount : ℕ} {r : Repayment}
    (h : repayPerforming mkt msg amount w = .ok (w', r)) :
    ∃ t debtAfter,
      w.pool.book.Allows (.repay msg.sender amount r.sharesBurned r.debtReducedAssets) ∧
      Pulled mkt amount w.debtToken t ∧ r.reserveDustAssets = amount - r.debtReducedAssets ∧
      debtAfter = w'.pool.book.quote msg.sender ∧
      w' = bookRepayment mkt msg msg.sender amount r.sharesBurned r.debtReducedAssets debtAfter t
        w := by
  simp only [repayPerforming, bind_eq_ok, pure_eq_ok, Prod.exists, Prod.mk.injEq] at h
  obtain ⟨t, ht, st, r, hrepay, debtAfter, hquote, rfl, rfl⟩ := h
  obtain ⟨hallows, hdust, _, rfl⟩ := applyPerformingRepayment_ok hrepay
  refine ⟨t, debtAfter, hallows, pullExact_ok ht, hdust, Storage.debtQuoteAssets_ok hquote, ?_⟩
  rw [bookRepayment, hdust]

/-- A repayment recovers bad debt where there is some, and reduces performing debt otherwise. -/
theorem repay_ok {amount : ℕ} {r : Repayment} (h : repay mkt msg amount w = .ok (w', r)) :
    ∃ w₁, accrueToCurrent mkt msg w = .ok w₁ ∧
      (w₁.pool.badDebtAssetsOf msg.sender ≠ 0 ∧ repayBadDebt mkt msg amount w₁ = .ok (w', r) ∨
        w₁.pool.badDebtAssetsOf msg.sender = 0 ∧
          repayPerforming mkt msg amount w₁ = .ok (w', r)) := by
  simp only [repay, bind_eq_ok] at h
  obtain ⟨_, _, w₁, hacc, h⟩ := h
  refine ⟨w₁, hacc, ?_⟩
  split at h
  · rename_i hbad
    exact .inl ⟨hbad, h⟩
  · rename_i hbad
    exact .inr ⟨not_not.1 hbad, h⟩

end Borrowers

/-! ## Liquidators -/

section Liquidators

variable {mkt : Market} {msg : Msg} {w w' : World}

/-- The close factor: no liquidation repays more than half of what is owed. -/
theorem quoteLiquidation_ok {borrower : Address} {amount price seized : ℕ} {st : Storage}
    (h : quoteLiquidation borrower amount price st = .ok seized) :
    2 * amount ≤ st.book.quote borrower ∧ seized ≤ st.collateralAssetsOf borrower ∧
      0 < seized := by
  simp only [quoteLiquidation, bind_eq_ok, revertIf_eq_ok, mulDiv_eq_ok, pure_eq_ok] at h
  obtain ⟨debt, hdebt, value, _, threshold, _, _, _, closeLimit, ⟨_, _, rfl⟩, coverage, _, _,
    hlimit, seizeValue, _, required, _, _, hpos, rfl⟩ := h
  rw [Storage.debtQuoteAssets_ok hdebt] at hlimit
  simp only [closeFactorBps, bps, SecuredPoolMathV1.bps] at hlimit
  refine ⟨?_, by omega, by omega⟩
  omega

theorem recognizeBadDebt_ok {account : Address} {bad : ℕ} {st st' : Storage}
    (h : recognizeBadDebt account st = .ok (st', bad)) :
    st.book.Allows (.writeOff account bad) ∧ 0 < bad ∧ st.collateralAssetsOf account = 0 ∧
      st' = { st with
        totalDebtShares := st.totalDebtShares - st.debtSharesOf account
        debtSharesOf := Function.update st.debtSharesOf account 0
        badDebtAssets := st.badDebtAssets + bad
        badDebtAssetsOf := Function.update st.badDebtAssetsOf account
          (st.badDebtAssetsOf account + bad) } := by
  simp only [recognizeBadDebt, bind_eq_ok, revertIf_eq_ok, add_eq_ok, sub_eq_ok, pure_eq_ok,
    Prod.mk.injEq] at h
  obtain ⟨quoted, hquoted, _, hguard, total, ⟨htotal, rfl⟩, market, ⟨_, rfl⟩, mine, ⟨_, rfl⟩, rfl,
    rfl⟩ := h
  obtain ⟨hpos, hbad⟩ := Storage.debtQuoteAssets_ne_zero hquoted (by omega)
  have hT : 0 < st.book.debtTotal := by simp only [Storage.book]; omega
  exact ⟨⟨hbad, hT, htotal, Storage.debtQuoteAssets_ok hquoted⟩, by omega, by omega, rfl⟩

/-- **A liquidation.**  It repays part of the debt, and then either seizes collateral, or seizes
the last of it and writes the rest of the debt off.  The worlds are those of the two events. -/
theorem liquidate_ok {borrower : Address} {amount minOut deadline seized bad : ℕ}
    (h : liquidate mkt msg borrower amount minOut deadline w = .ok (w', seized, bad)) :
    ∃ w₁ w₂ w₃ price t t' shares reduced debtAfter, accrueToCurrent mkt msg w = .ok w₁ ∧
      refreshCurrentPrice mkt msg w₁ = .ok (w₂, price) ∧
      quoteLiquidation borrower amount price w₂.pool = .ok seized ∧ 0 < amount ∧
      shares = amount * w₂.pool.totalDebtShares / w₂.pool.book.performing ∧
      w₂.pool.book.Allows (.repay borrower amount shares reduced) ∧
      Pulled mkt amount w₂.debtToken t ∧
      w₃ = bookRepayment mkt msg borrower amount shares reduced debtAfter t w₂ ∧
      w₃.pool.book.Allows (.release borrower seized) ∧ Pushed mkt seized w₃.collateralToken t' ∧
      debtAfter = w'.pool.book.quote borrower ∧
      (bad = 0 ∧ (w₃.pool.collateralAssetsOf borrower = seized →
          w₃.pool.debtSharesOf borrower = 0) ∧
          w' = bookSeizure mkt msg borrower amount seized t' w₃ ∨
        0 < bad ∧ w₃.pool.book.Allows (.writeOff borrower bad) ∧
          w₃.pool.collateralAssetsOf borrower = seized ∧
          w' = bookWriteOff mkt msg borrower amount seized bad t' w₃) := by
  simp only [liquidate, settleLiquidation, seizeCollateral, bind_eq_ok, revertIf_eq_ok, sub_eq_ok,
    pure_eq_ok, Prod.exists, Prod.mk.injEq] at h
  obtain ⟨_, hargs, w₁, hacc, w₂, price, hobs, out, hout, _, _, settled, bad', ⟨t, ht, repaid, r,
    hrepay, seizedPool, ⟨remaining, ⟨hseized, rfl⟩, rfl⟩, pool, bad'', hbad, t', ht', debtAfter,
    hquote, rfl, rfl⟩, rfl, rfl, rfl⟩ := h
  obtain ⟨hclose, _, _⟩ := quoteLiquidation_ok hout
  obtain ⟨hallows, hdust, hpartial, rfl⟩ := applyPerformingRepayment_ok hrepay
  refine ⟨w₁, w₂, _, price, t, t', r.sharesBurned, r.debtReducedAssets, debtAfter, hacc, hobs, hout,
    by omega, hpartial (by omega), hallows, pullExact_ok ht, rfl, hseized, pushExact_ok ht',
    Storage.debtQuoteAssets_ok hquote, ?_⟩
  split at hbad
  · rename_i hlast
    obtain ⟨hwrite, hpos, hnone, rfl⟩ := recognizeBadDebt_ok hbad
    simp only [Function.update_self] at hlast
    refine .inr ⟨hpos, hwrite, ?_, ?_⟩
    · simp only [bookRepayment, emitLog]
      omega
    · rw [hdust]; rfl
  · rename_i hlast
    obtain ⟨rfl, rfl⟩ := Prod.mk.inj (pure_eq_ok.1 hbad)
    simp only [Function.update_self, not_and, not_not] at hlast
    refine .inl ⟨rfl, ?_, ?_⟩
    · intro hall
      simp only [bookRepayment, emitLog, Function.update_self] at hall ⊢
      exact hlast (by omega)
    · rw [hdust]; rfl

end Liquidators

/-! ## Every call is a chain of effects -/

section Calls

variable {mkt : Market} {msg : Msg} {w w' : World}

theorem Accrues.then {w₁ : World} (h : accrueToCurrent mkt msg w = .ok w₁)
    (he : Relation.ReflTransGen (Effect mkt msg) w₁ w') :
    Relation.ReflTransGen (Effect mkt msg) w w' :=
  (accrueToCurrent_ok h).effects.trans he

/-- **Every successful call is a chain of effects.** -/
theorem exec_effects {c : Call} (h : exec mkt msg w c = .ok w') :
    Relation.ReflTransGen (Effect mkt msg) w w' := by
  cases c with
  | pauseNewRisk =>
    simp only [exec, pauseNewRisk, bind_eq_ok, pure_eq_ok] at h
    obtain ⟨_, _, _, _, rfl⟩ := h
    exact .single (.paused w true)
  | resumeNewRisk =>
    simp only [exec, resumeNewRisk, bind_eq_ok, pure_eq_ok] at h
    obtain ⟨_, _, _, _, rfl⟩ := h
    exact .single (.paused w false)
  | syncOracle =>
    simp only [exec, bind_eq_ok, pure_eq_ok, Prod.exists] at h
    obtain ⟨_, accepted, h, rfl⟩ := h
    exact syncOracle_effects h
  | recoverOracleDeviation => exact recoverOracleDeviation_effects h
  | accrueInterest =>
    simp only [exec, bind_eq_ok, pure_eq_ok, Prod.exists] at h
    obtain ⟨_, i, r, c, current, h, rfl⟩ := h
    exact (accrueInterest_ok h).effects
  | supply amount =>
    simp only [exec, bind_eq_ok, pure_eq_ok, Prod.exists] at h
    obtain ⟨_, shares, h, rfl⟩ := h
    obtain ⟨w₁, t, hacc, hallows, hpull, rfl⟩ := supply_ok h
    exact Accrues.then hacc (.single (.supplied w₁ amount shares t hallows hpull))
  | withdraw amount =>
    simp only [exec, bind_eq_ok, pure_eq_ok, Prod.exists] at h
    obtain ⟨_, shares, h, rfl⟩ := h
    obtain ⟨w₁, t, hacc, hallows, hpush, rfl⟩ := withdraw_ok h
    exact Accrues.then hacc (.single (.withdrawn w₁ amount shares t hallows hpush))
  | redeemAll =>
    simp only [exec, bind_eq_ok, pure_eq_ok, Prod.exists] at h
    obtain ⟨_, amount, h, rfl⟩ := h
    obtain ⟨w₁, t, hacc, hallows, hpush, rfl⟩ := redeemAll_ok h
    exact Accrues.then hacc (.single (.withdrawn w₁ amount _ t hallows hpush))
  | addCollateral amount =>
    obtain ⟨w₁, t, hacc, hpull, rfl⟩ := addCollateral_ok h
    exact Accrues.then hacc (.single (.pledged w₁ amount t hpull))
  | releaseCollateral amount =>
    obtain ⟨w₁, w₂, t, hacc, hobs, hallows, hpush, rfl⟩ := releaseCollateral_ok h
    exact Accrues.then hacc (hobs.effects.tail (.released w₂ amount t hallows hpush))
  | borrow amount =>
    simp only [exec, bind_eq_ok, pure_eq_ok, Prod.exists] at h
    obtain ⟨_, shares, h, rfl⟩ := h
    obtain ⟨w₁, w₂, t, debtAfter, hacc, hobs, hallows, hbound, hpush, _, hw⟩ := borrow_ok h
    rw [hw]
    exact Accrues.then hacc
      (hobs.effects.tail (.borrowed w₂ amount shares debtAfter t hallows hbound hpush))
  | repay amount =>
    simp only [exec, bind_eq_ok, pure_eq_ok, Prod.exists] at h
    obtain ⟨_, r, h, rfl⟩ := h
    obtain ⟨w₁, hacc, ⟨_, h⟩ | ⟨_, h⟩⟩ := repay_ok h
    · obtain ⟨t, hallows, hpull, _, rfl⟩ := repayBadDebt_ok h
      exact Accrues.then hacc (.single (.recovered w₁ amount t hallows hpull))
    · obtain ⟨t, debtAfter, hallows, hpull, _, _, hw⟩ := repayPerforming_ok h
      rw [hw]
      exact Accrues.then hacc (.single (.repaid w₁ _ amount _ _ debtAfter t hallows hpull))
  | liquidate borrower amount minOut deadline =>
    simp only [exec, bind_eq_ok, pure_eq_ok, Prod.exists] at h
    obtain ⟨_, seized, bad, h, rfl⟩ := h
    obtain ⟨w₁, w₂, w₃, price, t, t', shares, reduced, debtAfter, hacc, hobs, _, _, _, hallows,
      hpull, rfl, hrelease, hpush, _, hw⟩ := liquidate_ok h
    have hrepaid := (refreshCurrentPrice_ok hobs).effects.tail
      (.repaid w₂ borrower amount shares reduced debtAfter t hallows hpull)
    rcases hw with ⟨_, _, rfl⟩ | ⟨hpos, hwrite, _, rfl⟩
    · exact Accrues.then hacc
        (hrepaid.tail (.seized _ borrower amount seized t' hrelease hpush))
    · exact Accrues.then hacc
        (hrepaid.tail (.writtenOff _ borrower amount seized bad t' hrelease hwrite hpos hpush))

end Calls

end Pool
end IpoOne
