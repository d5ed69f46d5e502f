import IpoOne.Pool.Invariant

/-!
# The suppliers' claim

`lpClaimAssets` is a difference of four counters, and every supplier's money hangs on it.  Two
questions about it are settled here.

*Can it fall below zero?*  Yes: reserves are credited with their part of the interest before anybody
has paid it, so a write-off that takes the performing debt to zero can leave the reserves with more
than the pool has.  `claimSafe_along_iff` says exactly which histories stay clear of that: those in
which no liquidation that takes the last collateral leaves a debt larger than the claim
(`Covered`).

*Can it lose value per share?*  Only in a write-off.  `exec_rateLe` covers every call but a
liquidation, and `liquidate_claim` compares a liquidation with the same liquidation without the
recognition of bad debt.
-/

set_option autoImplicit false

namespace IpoOne
namespace Pool

open Evm Fallible Rounding

/-! ## The claim per share -/

section Rate

variable {mkt : Market} {msg : Msg} {w w₁ w₂ w' : World}

theorem Accrues.supplyTotal (h : Accrues mkt msg w w') :
    w'.pool.totalSupplyShares = w.pool.totalSupplyShares := by
  rcases h with rfl | ⟨now, chunks, interest, reserve, _, _, rfl⟩ <;> rfl

theorem Accrues.claim_le (h : Accrues mkt msg w w') : w.pool.book.claim ≤ w'.pool.book.claim := by
  rcases h with rfl | ⟨now, chunks, interest, reserve, hallows, _, rfl⟩
  · exact le_rfl
  · have hclaim := Book.claim_post hallows
    have hle := hallows.1
    have hbook : (bookInterest mkt msg now chunks interest reserve w).pool.book
        = w.pool.book.post (.accrue interest reserve) := rfl
    rw [hbook, hclaim, Book.gain]
    omega

theorem Accrues.rateLe (h : Accrues mkt msg w w') : Book.RateLe w.pool.book w'.pool.book :=
  Book.rateLe_of_gain h.supplyTotal h.claim_le

/-- What a call books after it has accrued: nothing, or an entry that is not a write-off. -/
def BooksOne (w₁ w' : World) : Prop :=
  w'.pool.book = w₁.pool.book ∨ ∃ e, w₁.pool.book.Allows e ∧
    (∀ account assets, e ≠ .writeOff account assets) ∧ w'.pool.book = w₁.pool.book.post e

theorem BooksOne.observed (hobs : Observes mkt msg w₁ w₂) (h : BooksOne w₂ w') :
    BooksOne w₁ w' := by
  unfold BooksOne at *
  rwa [hobs.book] at h

/-- **Every call but a liquidation accrues, and then books at most one entry.** -/
theorem exec_booksOne {c : Call} (h : exec mkt msg w c = .ok w')
    (hc : ∀ borrower amount minOut deadline, c ≠ .liquidate borrower amount minOut deadline) :
    ∃ w₁, Accrues mkt msg w w₁ ∧ BooksOne w₁ w' := by
  cases c with
  | pauseNewRisk =>
    simp only [exec, pauseNewRisk, bind_eq_ok, pure_eq_ok] at h
    obtain ⟨_, _, _, _, rfl⟩ := h
    exact ⟨w, .inl rfl, .inl rfl⟩
  | resumeNewRisk =>
    simp only [exec, resumeNewRisk, bind_eq_ok, pure_eq_ok] at h
    obtain ⟨_, _, _, _, rfl⟩ := h
    exact ⟨w, .inl rfl, .inl rfl⟩
  | syncOracle =>
    simp only [exec, syncOracle, bind_eq_ok, pure_eq_ok] at h
    obtain ⟨_, ⟨_, _, _, _, _, _, exceeded, _, hw⟩, rfl⟩ := h
    refine ⟨w, .inl rfl, .inl ?_⟩
    split at hw
    · cases pure_eq_ok.1 hw
      rfl
    · cases pure_eq_ok.1 hw
      rfl
  | recoverOracleDeviation =>
    simp only [exec, recoverOracleDeviation, bind_eq_ok, pure_eq_ok] at h
    obtain ⟨_, _, _, _, _, _, _, _, rfl⟩ := h
    exact ⟨w, .inl rfl, .inl rfl⟩
  | accrueInterest =>
    simp only [exec, bind_eq_ok, pure_eq_ok, Prod.exists] at h
    obtain ⟨_, i, r, c, current, h, rfl⟩ := h
    exact ⟨_, accrueInterest_ok h, .inl rfl⟩
  | supply amount =>
    simp only [exec, bind_eq_ok, pure_eq_ok, Prod.exists] at h
    obtain ⟨_, shares, h, rfl⟩ := h
    obtain ⟨w₁, t, hacc, hallows, _, rfl⟩ := supply_ok h
    exact ⟨w₁, accrueToCurrent_ok hacc, .inr ⟨_, hallows, by simp, rfl⟩⟩
  | withdraw amount =>
    simp only [exec, bind_eq_ok, pure_eq_ok, Prod.exists] at h
    obtain ⟨_, shares, h, rfl⟩ := h
    obtain ⟨w₁, t, hacc, hallows, _, rfl⟩ := withdraw_ok h
    exact ⟨w₁, accrueToCurrent_ok hacc, .inr ⟨_, hallows, by simp, rfl⟩⟩
  | redeemAll =>
    simp only [exec, bind_eq_ok, pure_eq_ok, Prod.exists] at h
    obtain ⟨_, amount, h, rfl⟩ := h
    obtain ⟨w₁, t, hacc, hallows, _, rfl⟩ := redeemAll_ok h
    exact ⟨w₁, accrueToCurrent_ok hacc, .inr ⟨_, hallows, by simp, rfl⟩⟩
  | addCollateral amount =>
    obtain ⟨w₁, t, hacc, _, rfl⟩ := addCollateral_ok h
    exact ⟨w₁, accrueToCurrent_ok hacc,
      .inr ⟨.pledge msg.sender amount, trivial, by simp, rfl⟩⟩
  | releaseCollateral amount =>
    obtain ⟨w₁, w₂, t, hacc, hobs, hallows, _, rfl⟩ := releaseCollateral_ok h
    exact ⟨w₁, accrueToCurrent_ok hacc, .observed hobs (.inr ⟨_, hallows, by simp, rfl⟩)⟩
  | borrow amount =>
    simp only [exec, bind_eq_ok, pure_eq_ok, Prod.exists] at h
    obtain ⟨_, shares, h, rfl⟩ := h
    obtain ⟨w₁, w₂, t, debtAfter, hacc, hobs, hallows, _, _, _, hw⟩ := borrow_ok h
    rw [hw]
    exact ⟨w₁, accrueToCurrent_ok hacc, .observed hobs (.inr ⟨_, hallows, by simp, rfl⟩)⟩
  | repay amount =>
    simp only [exec, bind_eq_ok, pure_eq_ok, Prod.exists] at h
    obtain ⟨_, r, h, rfl⟩ := h
    obtain ⟨w₁, hacc, ⟨_, h⟩ | ⟨_, h⟩⟩ := repay_ok h
    · obtain ⟨t, hallows, _, _, rfl⟩ := repayBadDebt_ok h
      exact ⟨w₁, accrueToCurrent_ok hacc, .inr ⟨_, hallows, by simp, rfl⟩⟩
    · obtain ⟨t, debtAfter, hallows, _, _, _, hw⟩ := repayPerforming_ok h
      rw [hw]
      exact ⟨w₁, accrueToCurrent_ok hacc, .inr ⟨_, hallows, by simp, rfl⟩⟩
  | liquidate borrower amount minOut deadline => exact absurd rfl (hc _ _ _ _)

/-- **No call but a liquidation lowers the claim per supply share.** -/
theorem exec_rateLe {c : Call} (h : exec mkt msg w c = .ok w')
    (hpos : 0 < w.pool.totalSupplyShares)
    (hc : ∀ borrower amount minOut deadline, c ≠ .liquidate borrower amount minOut deadline) :
    Book.RateLe w.pool.book w'.pool.book := by
  obtain ⟨w₁, hacc, hbook | ⟨e, hallows, hwrite, hbook⟩⟩ := exec_booksOne h hc
  · rw [hbook]
    exact hacc.rateLe
  · have hpos₁ : 0 < w₁.pool.book.supplyTotal := hpos.trans_eq hacc.supplyTotal.symm
    rw [hbook]
    exact hacc.rateLe.trans hpos₁ (Book.rate_post hallows hpos₁ hwrite)

/-- No call but a liquidation takes the claim below zero. -/
theorem exec_claim_nonneg {c : Call} (h : exec mkt msg w c = .ok w')
    (hc : ∀ borrower amount minOut deadline, c ≠ .liquidate borrower amount minOut deadline)
    (hclaim : 0 ≤ w.pool.book.claim) : 0 ≤ w'.pool.book.claim := by
  obtain ⟨w₁, hacc, hbook | ⟨e, hallows, hwrite, hbook⟩⟩ := exec_booksOne h hc
  · rw [hbook]
    exact hclaim.trans hacc.claim_le
  · rw [hbook]
    exact Book.claim_nonneg_post hallows (hclaim.trans hacc.claim_le) hwrite

end Rate

/-! ## A liquidation, with and without recognition -/

/-- `_settleLiquidation` without the recognition of bad debt. -/
def settleWithoutRecognition (mkt : Market) (msg : Msg) (borrower : Address)
    (repayAmountAssets collateralSeizedAssets : ℕ) (w : World) : PoolTx World := do
  let debtToken ← pullExact mkt w.debtToken msg.sender repayAmountAssets
  let (repaid, r) ← applyPerformingRepayment borrower repayAmountAssets w.pool
  let pool ← seizeCollateral borrower collateralSeizedAssets repaid
  let collateralToken ← pushExact mkt w.collateralToken msg.sender collateralSeizedAssets
  let debtAfter ← pool.debtQuoteAssets borrower
  pure (emitLog mkt msg (.assetsRepaid borrower msg.sender repayAmountAssets
      r.debtReducedAssets r.sharesBurned r.reserveDustAssets debtAfter pool.cashAssets)
    { w with debtToken, collateralToken, pool })

/-- `liquidate` without the recognition of bad debt. -/
def liquidateWithoutRecognition (mkt : Market) (msg : Msg) (borrower : Address)
    (repayAmountAssets minCollateralOut deadline : ℕ) (w : World) : PoolTx World := do
  revertIf (borrower = 0 ∨ borrower = msg.sender ∨ repayAmountAssets = 0 ∨
    deadline < msg.timestamp) .invalidAmount
  let w ← accrueToCurrent mkt msg w
  let (w, price) ← refreshCurrentPrice mkt msg w
  let collateralSeizedAssets ← quoteLiquidation borrower repayAmountAssets price w.pool
  revertIf (collateralSeizedAssets < minCollateralOut) .actionUnavailable
  let w ← settleWithoutRecognition mkt msg borrower repayAmountAssets collateralSeizedAssets w
  pure (emitLog mkt msg (.positionLiquidated borrower msg.sender repayAmountAssets
      collateralSeizedAssets 0) w)

section Liquidation

variable {mkt : Market} {msg : Msg} {w w' : World}

theorem settleLiquidation_claim {borrower : Address} {amount seized bad : ℕ}
    (h : settleLiquidation mkt msg borrower amount seized w = .ok (w', bad)) :
    ∃ v, settleWithoutRecognition mkt msg borrower amount seized w = .ok v ∧
      v.pool.book.claim = w.pool.book.claim ∧
      v.pool.totalSupplyShares = w.pool.totalSupplyShares ∧
      w'.pool.book.claim = v.pool.book.claim - bad ∧
      w'.pool.totalSupplyShares = v.pool.totalSupplyShares := by
  simp only [settleLiquidation, bind_eq_ok, pure_eq_ok, Prod.exists, Prod.mk.injEq] at h
  obtain ⟨t, ht, repaid, r, hrepay, seizedPool, hseized, pool, bad', hbad, t', ht', debtAfter,
    hquote, rfl, rfl⟩ := h
  -- the quote the contract takes for the write-off is the one the event would have shown
  obtain ⟨quote, hquote'⟩ : ∃ quote, seizedPool.debtQuoteAssets borrower = .ok quote := by
    split at hbad
    · simp only [recognizeBadDebt, bind_eq_ok] at hbad
      obtain ⟨quote, hquote', _⟩ := hbad
      exact ⟨quote, hquote'⟩
    · cases pure_eq_ok.1 hbad
      exact ⟨debtAfter, hquote⟩
  have hclaim : seizedPool.book.claim = w.pool.book.claim ∧
      seizedPool.totalSupplyShares = w.pool.totalSupplyShares := by
    obtain ⟨hallows, _, _, rfl⟩ := applyPerformingRepayment_ok hrepay
    simp only [seizeCollateral, bind_eq_ok, sub_eq_ok, pure_eq_ok] at hseized
    obtain ⟨_, ⟨_, rfl⟩, rfl⟩ := hseized
    have hpost := Book.claim_post hallows
    simp only [Book.gain, add_zero] at hpost
    exact ⟨hpost, rfl⟩
  refine ⟨emitLog mkt msg (.assetsRepaid borrower msg.sender amount r.debtReducedAssets
      r.sharesBurned r.reserveDustAssets quote seizedPool.cashAssets)
    { w with debtToken := t, collateralToken := t', pool := seizedPool }, ?_, hclaim.1,
      hclaim.2, ?_⟩
  · simp only [settleWithoutRecognition, bind_eq_ok, pure_eq_ok, Prod.exists]
    exact ⟨t, ht, repaid, r, hrepay, seizedPool, hseized, t', ht', quote, hquote', rfl⟩
  · split at hbad
    · obtain ⟨hwrite, _, _, rfl⟩ := recognizeBadDebt_ok hbad
      have hpost := Book.claim_post hwrite
      simp only [Book.gain] at hpost
      exact ⟨hpost, rfl⟩
    · cases pure_eq_ok.1 hbad
      exact ⟨by simp [emitLog], rfl⟩

/-- **A liquidation costs the suppliers exactly the bad debt it recognises**: without the
recognition the same call succeeds and does not lower the claim per share, and with it the claim is
lower by the recognised amount and nothing else. -/
theorem liquidate_claim {borrower : Address} {amount minOut deadline seized bad : ℕ}
    (h : liquidate mkt msg borrower amount minOut deadline w = .ok (w', seized, bad)) :
    ∃ v, liquidateWithoutRecognition mkt msg borrower amount minOut deadline w = .ok v ∧
      Book.RateLe w.pool.book v.pool.book ∧ w'.pool.book.claim = v.pool.book.claim - bad ∧
      w'.pool.totalSupplyShares = v.pool.totalSupplyShares := by
  simp only [liquidate, bind_eq_ok, pure_eq_ok, Prod.exists, Prod.mk.injEq] at h
  obtain ⟨_, hargs, w₁, hacc, w₂, price, hobs, seized', hout, _, hmin, w₃, bad', hsettle, rfl, rfl,
    rfl⟩ := h
  obtain ⟨v, hv, hclaim, htotal, hbad, hsame⟩ := settleLiquidation_claim hsettle
  refine ⟨emitLog mkt msg (.positionLiquidated borrower msg.sender amount seized' 0) v, ?_, ?_,
    hbad, hsame⟩
  · simp only [liquidateWithoutRecognition, bind_eq_ok, pure_eq_ok, Prod.exists]
    exact ⟨_, hargs, w₁, hacc, w₂, price, hobs, seized', hout, _, hmin, v, hv, rfl⟩
  · have hacc := accrueToCurrent_ok hacc
    have hobs := (refreshCurrentPrice_ok hobs).book
    refine Book.rateLe_of_gain ?_ ?_
    · exact htotal.trans ((congrArg Book.supplyTotal hobs).trans hacc.supplyTotal)
    · have hle := hacc.claim_le
      rw [← hobs, ← hclaim] at hle
      exact hle

end Liquidation

/-! ## The claim below zero -/

/-- The claim is there, and nothing that computes it underflows. -/
structure ClaimSafe (mkt : Market) (w : World) : Prop where
  covered : w.pool.reservesAssets + w.pool.badDebtAssets
    ≤ w.pool.cashAssets + w.pool.grossDebtAssets
  lpClaimAssets : Avoids .underflow w.pool.lpClaimAssets
  supply : ∀ msg amount, Avoids .underflow (supply mkt msg amount w)
  withdraw : ∀ msg amount, Avoids .underflow (withdraw mkt msg amount w)
  redeemAll : ∀ msg, Avoids .underflow (redeemAll mkt msg w)
  accounting : Avoids .underflow w.pool.accounting
  supplyClaimAssets : ∀ account, Avoids .underflow (w.pool.supplyClaimAssets account)
  position : ∀ account, Avoids .underflow (w.pool.position account)

section Safe

variable {mkt : Market} {msg : Msg} {st : Storage} {w w' : World}

theorem avoids_lpClaimAssets (h : 0 ≤ st.book.claim) : Avoids .underflow st.lpClaimAssets := by
  simp only [Storage.book, Book.claim] at h
  refine (avoids_add _ _).bind fun gross hgross ↦ ?_
  obtain ⟨_, rfl⟩ := add_eq_ok.1 hgross
  refine (avoids_sub (by omega)).bind fun net hnet ↦ ?_
  obtain ⟨_, rfl⟩ := sub_eq_ok.1 hnet
  exact avoids_sub (by omega)

theorem avoids_supplyClaimAssets (h : 0 ≤ st.book.claim) (account : Address) :
    Avoids .underflow (st.supplyClaimAssets account) := by
  unfold Storage.supplyClaimAssets
  simp only
  split
  · exact avoids_ok _ _
  · split
    · exact avoids_lpClaimAssets h
    · exact (avoids_lpClaimAssets h).bind fun _ _ ↦ avoids_mulDiv _ _ _

theorem avoids_payOut {amount shares : ℕ} (hcash : amount ≤ w.pool.cashAssets)
    (hmine : shares ≤ w.pool.supplySharesOf msg.sender)
    (htotal : shares ≤ w.pool.totalSupplyShares) :
    Avoids .underflow (payOut mkt msg amount shares w) := by
  refine (avoids_sub hcash).bind fun _ _ ↦ (avoids_sub htotal).bind fun _ _ ↦ ?_
  refine (avoids_sub hmine).bind fun _ _ ↦ (avoids_pushExact _ _ _).bind fun _ _ ↦ ?_
  exact avoids_ok _ _

/-- What a call sees after accruing. -/
theorem accrued_claim {w₁ : World} (hv : w.pool.book.Valid) (h : 0 ≤ w.pool.book.claim)
    (hacc : accrueToCurrent mkt msg w = .ok w₁) :
    w₁.pool.book.Valid ∧ 0 ≤ w₁.pool.book.claim :=
  ⟨(accrueToCurrent_ok hacc).valid hv, h.trans (accrueToCurrent_ok hacc).claim_le⟩

theorem avoids_supply (hv : w.pool.book.Valid) (h : 0 ≤ w.pool.book.claim) (amount : ℕ) :
    Avoids .underflow (supply mkt msg amount w) := by
  refine (avoids_revertIf _ _ _).bind fun _ _ ↦ ?_
  refine (avoids_accrueToCurrent hv.bad_le).bind fun w₁ hacc ↦ ?_
  refine (avoids_lpClaimAssets (accrued_claim hv h hacc).2).bind fun _ _ ↦
    Avoids.bind ?_ fun _ _ ↦ ?_
  · split
    · exact avoids_ok _ _
    · exact avoids_mulDiv _ _ _
  · refine (avoids_revertIf _ _ _).bind fun _ _ ↦ (avoids_pullExact _ _ _).bind fun _ _ ↦ ?_
    refine (avoids_add _ _).bind fun _ _ ↦ (avoids_add _ _).bind fun _ _ ↦ ?_
    exact (avoids_add _ _).bind fun _ _ ↦ avoids_ok _ _

theorem avoids_withdraw (hv : w.pool.book.Valid) (h : 0 ≤ w.pool.book.claim) (amount : ℕ) :
    Avoids .underflow (withdraw mkt msg amount w) := by
  refine (avoids_revertIf _ _ _).bind fun _ _ ↦ (avoids_revertIf _ _ _).bind fun _ _ ↦ ?_
  refine (avoids_accrueToCurrent hv.bad_le).bind fun w₁ hacc ↦ ?_
  obtain ⟨hv₁, h₁⟩ := accrued_claim hv h hacc
  refine (avoids_revertIf _ _ _).bind fun _ hliquid ↦ ?_
  rw [revertIf_eq_ok] at hliquid
  refine (avoids_lpClaimAssets h₁).bind fun _ _ ↦ ?_
  refine (avoids_mulDivUp _ _ _).bind fun shares _ ↦ (avoids_revertIf _ _ _).bind fun _ hle ↦ ?_
  rw [revertIf_eq_ok] at hle
  have hmine := hv₁.supplyOf_le msg.sender
  simp only [Storage.book] at hmine
  exact (avoids_payOut (by omega) (by omega) (by omega)).bind fun _ _ ↦ avoids_ok _ _

theorem avoids_redeemAll (hv : w.pool.book.Valid) (h : 0 ≤ w.pool.book.claim) :
    Avoids .underflow (redeemAll mkt msg w) := by
  refine (avoids_revertIf _ _ _).bind fun _ _ ↦ ?_
  refine (avoids_accrueToCurrent hv.bad_le).bind fun w₁ hacc ↦ ?_
  obtain ⟨hv₁, h₁⟩ := accrued_claim hv h hacc
  refine (avoids_revertIf _ _ _).bind fun _ _ ↦ ?_
  refine (avoids_lpClaimAssets h₁).bind fun _ _ ↦ Avoids.bind ?_ fun amount _ ↦ ?_
  · split
    · exact avoids_ok _ _
    · exact avoids_mulDiv _ _ _
  · refine (avoids_revertIf _ _ _).bind fun _ hliquid ↦ ?_
    rw [revertIf_eq_ok] at hliquid
    have hmine := hv₁.supplyOf_le msg.sender
    exact (avoids_payOut (by omega) le_rfl hmine).bind fun _ _ ↦ avoids_ok _ _

theorem avoids_accounting (hbad : st.badDebtAssets ≤ st.grossDebtAssets)
    (h : 0 ≤ st.book.claim) : Avoids .underflow st.accounting := by
  refine (avoids_performingDebtAssets hbad).bind fun _ _ ↦ ?_
  refine (avoids_lpClaimAssets h).bind fun _ _ ↦ ?_
  refine (SecuredPoolMathV1.avoids_utilizationBps _ _).bind fun _ _ ↦ ?_
  refine (SecuredPoolMathV1.avoids_borrowAprBps _ _).bind fun _ _ ↦ ?_
  exact (SecuredPoolMathV1.avoids_supplyAprBps _ _).bind fun _ _ ↦ avoids_ok _ _

theorem avoids_position (hbad : st.badDebtAssets ≤ st.grossDebtAssets) (h : 0 ≤ st.book.claim)
    (account : Address) : Avoids .underflow (st.position account) := by
  refine (avoids_debtQuoteAssets hbad account).bind fun _ _ ↦ ?_
  refine (avoids_supplyClaimAssets h account).bind fun _ _ ↦ ?_
  exact (avoids_add _ _).bind fun _ _ ↦ avoids_ok _ _

/-- **Where the books are balanced, the claim is safe exactly when it is not negative.** -/
theorem claimSafe_iff (hv : w.pool.book.Valid) : ClaimSafe mkt w ↔ 0 ≤ w.pool.book.claim := by
  have hcover : w.pool.reservesAssets + w.pool.badDebtAssets
      ≤ w.pool.cashAssets + w.pool.grossDebtAssets ↔ 0 ≤ w.pool.book.claim := by
    simp only [Storage.book, Book.claim]; omega
  constructor
  · exact fun h ↦ hcover.1 h.covered
  · exact fun h ↦ ⟨hcover.2 h, avoids_lpClaimAssets h, fun _ ↦ avoids_supply hv h,
      fun _ ↦ avoids_withdraw hv h, fun _ ↦ avoids_redeemAll hv h, avoids_accounting hv.bad_le h,
      avoids_supplyClaimAssets h, avoids_position hv.bad_le h⟩

end Safe

/-! ## Which histories keep the claim above zero -/

/-- What an account would owe after a repayment of less than its whole debt. -/
def remainder (b : Book Address) (account : Address) (amount : ℕ) : ℕ :=
  let burned := amount * b.debtTotal / b.performing
  quoteUp (b.debtOf account - burned)
    (b.performing - quoteUp burned b.performing b.debtTotal) (b.debtTotal - burned)

/-- The step is not a liquidation that goes through, takes the last collateral, and leaves the
borrower owing more than the suppliers own at that moment. -/
def Covered (mkt : Market) (w : World) : ChainInput → Prop
  | .call msg (.liquidate borrower amount minOut deadline) =>
    ∀ w₁ w₂ price, accrueToCurrent mkt msg w = .ok w₁ →
      refreshCurrentPrice mkt msg w₁ = .ok (w₂, price) →
      quoteLiquidation borrower amount price w₂.pool
        = .ok (w₂.pool.collateralAssetsOf borrower) →
      (∃ w', exec mkt msg w (.liquidate borrower amount minOut deadline) = .ok w') →
      w₂.pool.reservesAssets + w₂.pool.badDebtAssets + remainder w₂.pool.book borrower amount
        ≤ w₂.pool.cashAssets + w₂.pool.grossDebtAssets
  | _ => True

section Covered

variable {mkt : Market} {msg : Msg} {w w' : World}

theorem quote_repay_eq_remainder {b : Book Address} {account : Address}
    {amount shares reduced : ℕ} (hallows : b.Allows (.repay account amount shares reduced))
    (hshares : shares = amount * b.debtTotal / b.performing) :
    (b.post (.repay account amount shares reduced)).quote account
      = remainder b account amount := by
  obtain ⟨_, _, _, _, _, rfl, _⟩ := hallows
  rw [Book.quote, Book.performing_repay]
  simp only [Book.post, Function.update_self, remainder, hshares]

/-- **A liquidation keeps the claim above zero exactly when it is covered.** -/
theorem liquidate_claim_nonneg_iff {borrower : Address} {amount minOut deadline : ℕ}
    (hv : w.pool.book.Valid) (hclaim : 0 ≤ w.pool.book.claim)
    (h : exec mkt msg w (.liquidate borrower amount minOut deadline) = .ok w') :
    0 ≤ w'.pool.book.claim ↔
      Covered mkt w (.call msg (.liquidate borrower amount minOut deadline)) := by
  have hsuccess : ∃ w', exec mkt msg w (.liquidate borrower amount minOut deadline) = .ok w' :=
    ⟨w', h⟩
  simp only [exec, bind_eq_ok, pure_eq_ok, Prod.exists] at h
  obtain ⟨_, seized, bad, h, rfl⟩ := h
  obtain ⟨w₁, w₂, w₃, price, t, t', shares, reduced, debtAfter, hacc, hobs, hout, hpos, hshares,
    hallows, _, rfl, hrelease, _, _, hw⟩ := liquidate_ok h
  have hbook₂ := (refreshCurrentPrice_ok hobs).book
  have hv₂ : w₂.pool.book.Valid := by
    rw [hbook₂]
    exact (accrueToCurrent_ok hacc).valid hv
  have hclaim₂ : 0 ≤ w₂.pool.book.claim := by
    rw [hbook₂]
    exact hclaim.trans (accrueToCurrent_ok hacc).claim_le
  have hrepaid := Book.claim_post hallows
  simp only [Book.gain, add_zero] at hrepaid
  obtain ⟨hclose, _, _⟩ := quoteLiquidation_ok hout
  -- a liquidation repays at most half of the debt, so some of the shares are left
  have hleft : shares < w₂.pool.debtSharesOf borrower := by
    have hdebt : 0 < w₂.pool.debtSharesOf borrower := lt_of_lt_of_le hallows.2.2.1 hallows.2.2.2.1
    obtain ⟨hT, hP⟩ := hv₂.performing_pos hdebt
    rw [hshares]
    exact floor_lt_of_lt_quoteUp hP hT (lt_of_lt_of_le (by omega) hclose)
  have hstep : Covered mkt w (.call msg (.liquidate borrower amount minOut deadline)) ↔
      (seized = w₂.pool.collateralAssetsOf borrower →
        w₂.pool.reservesAssets + w₂.pool.badDebtAssets + remainder w₂.pool.book borrower amount
          ≤ w₂.pool.cashAssets + w₂.pool.grossDebtAssets) := by
    constructor
    · intro hcov hlast
      exact hcov w₁ w₂ price hacc hobs (hlast ▸ hout) hsuccess
    · intro hcov w₁' w₂' price' hacc' hobs' hout' _
      cases hacc.symm.trans hacc'
      cases hobs.symm.trans hobs'
      cases hout.symm.trans hout'
      exact hcov rfl
  rw [hstep]
  rcases hw with ⟨_, hkept, rfl⟩ | ⟨_, hwrite, hlast, rfl⟩
  · refine iff_of_true ?_ ?_
    · exact hclaim₂.trans_eq hrepaid.symm
    · intro hlast
      have hnone := hkept hlast.symm
      simp only [bookRepayment, emitLog, Function.update_self] at hnone
      omega
  · have hbad : bad = remainder w₂.pool.book borrower amount := by
      rw [hwrite.2.2.2]
      exact quote_repay_eq_remainder hallows hshares
    have hclaim' := (Book.claim_post hwrite).trans (congrArg (· + _) hrepaid)
    have hworld : (bookWriteOff mkt msg borrower amount seized bad t'
        (bookRepayment mkt msg borrower amount shares reduced debtAfter t w₂)).pool.book.claim
        = w₂.pool.book.claim - bad := hclaim'
    have hseized : seized = w₂.pool.collateralAssetsOf borrower := hlast.symm
    rw [hworld, ← hbad]
    simp only [hseized, forall_const, Storage.book, Book.claim]
    omega

theorem covered_iff {w : World} (i : ChainInput) (hs : Sound mkt w) (hsafe : ClaimSafe mkt w) :
    ClaimSafe mkt (chainStep mkt w i) ↔ Covered mkt w i := by
  rw [claimSafe_iff (chainStep_sound i hs).books]
  have hclaim := (claimSafe_iff hs.books).1 hsafe
  cases i with
  | tokens debtToken collateralToken =>
    refine iff_of_true ?_ trivial
    simp only [chainStep]
    split
    · exact hclaim
    · exact hclaim
  | call msg c =>
    simp only [chainStep]
    split
    · rename_i w' h
      cases c with
      | liquidate borrower amount minOut deadline =>
        exact liquidate_claim_nonneg_iff hs.books hclaim h
      | pauseNewRisk | resumeNewRisk | syncOracle | recoverOracleDeviation | accrueInterest
      | supply | withdraw | redeemAll | addCollateral | releaseCollateral | borrow | repay =>
        exact iff_of_true (exec_claim_nonneg h (by simp) hclaim) trivial
    · rename_i e h
      refine iff_of_true hclaim ?_
      cases c with
      | liquidate borrower amount minOut deadline =>
        rintro w₁ w₂ price _ _ _ ⟨w', h'⟩
        rw [h] at h'
        cases h'
      | pauseNewRisk | resumeNewRisk | syncOracle | recoverOracleDeviation | accrueInterest
      | supply | withdraw | redeemAll | addCollateral | releaseCollateral | borrow | repay =>
        trivial

end Covered

/-- **The claim stays safe along a history exactly when every step of it is covered.** -/
theorem claimSafe_along_iff {mkt : Market} {w : World} (h : Deployed mkt w)
    (inputs : List ChainInput) :
    Run.Along (chainStep mkt) (ClaimSafe mkt) w inputs ↔
      Run.Steps (chainStep mkt) (Covered mkt) w inputs := by
  have hsafe : ClaimSafe mkt w := by
    rw [claimSafe_iff h.sound.books]
    obtain ⟨env, cfg, debtToken, collateralToken, h⟩ := h
    simp only [deploy, bind_eq_ok, pure_eq_ok, Prod.mk.injEq] at h
    obtain ⟨_, _, observation, _, _, _, rfl, rfl⟩ := h
    exact le_rfl
  exact Run.along_iff_steps (fun _ i hs ↦ chainStep_sound i hs)
    (fun _ i hs hsafe ↦ covered_iff i hs hsafe) inputs h.sound hsafe

/-- The price falls by a factor of a thousand before any interest runs, and account `3` liquidates
the loan of `Sample.loan`. -/
def Sample.slump : List ChainInput :=
  Sample.loan ++
    [call 2 1010 (2 * 10 ^ 18) 2 .syncOracle,
      call 21 1010 (2 * 10 ^ 18) 2 .recoverOracleDeviation,
      call 3 1010 (2 * 10 ^ 18) 2 (.liquidate 2 2 0 1010)]

/-- The liquidation of `Sample.slump` leaves 999 unpaid, and the suppliers own 1001 before it. -/
theorem Sample.covered_slump :
    Covered Sample.market (Sample.after (Sample.slump.take 5))
      (call 3 1010 (2 * 10 ^ 18) 2 (.liquidate 2 2 0 1010)) := by
  intro w₁ w₂ price hacc hobs _ _
  have hcheck : ((accrueToCurrent Sample.market ⟨3, 1010, some (observation (2 * 10 ^ 18) 1010 2)⟩
      (Sample.after (Sample.slump.take 5))).toOption.all fun w₁ ↦
        (refreshCurrentPrice Sample.market ⟨3, 1010, some (observation (2 * 10 ^ 18) 1010 2)⟩
          w₁).toOption.all fun accepted ↦
            accepted.1.pool.reservesAssets + accepted.1.pool.badDebtAssets
                + remainder accepted.1.pool.book 2 2
              ≤ accepted.1.pool.cashAssets + accepted.1.pool.grossDebtAssets) = true := by
    decide +kernel
  rw [toOption_eq_some.2 hacc, Option.all_some, toOption_eq_some.2 hobs, Option.all_some,
    decide_eq_true_eq] at hcheck
  exact hcheck

/-- Bad debt of 999 is recognised on the way, and the claim stays safe. -/
theorem claimSafe_along_slump :
    (Sample.after Sample.slump).pool.badDebtAssets = 999 ∧
      Run.Along (chainStep Sample.market) (ClaimSafe Sample.market) Sample.world Sample.slump :=
  ⟨by decide +kernel, (claimSafe_along_iff Sample.deployed Sample.slump).2
    ⟨trivial, trivial, trivial, trivial, trivial, Sample.covered_slump, trivial⟩⟩

/-- The loan of `Sample.loan` runs for 32 weeks, during which the reserves are credited with 38 of
the interest; then the price falls by a factor of a thousand, and account `3` liquidates. -/
def Sample.crash : List ChainInput :=
  Sample.loan ++
    [call 2 19354600 (2 * 10 ^ 18) 2 .accrueInterest,
      call 2 19354600 (2 * 10 ^ 18) 2 .syncOracle,
      call 21 19354600 (2 * 10 ^ 18) 2 .recoverOracleDeviation,
      call 3 19354600 (2 * 10 ^ 18) 2 (.liquidate 2 2 0 19354600)]

/-- After the crash the pool has 2 in cash, owes 38 to its reserves, and has nothing else. -/
theorem claim_underflows : Reachable Sample.market (Sample.after Sample.crash) ∧
    (Sample.after Sample.crash).pool.cashAssets = 2 ∧
    (Sample.after Sample.crash).pool.reservesAssets = 38 ∧
    ¬ ((Sample.after Sample.crash).pool.reservesAssets
        + (Sample.after Sample.crash).pool.badDebtAssets
      ≤ (Sample.after Sample.crash).pool.cashAssets
        + (Sample.after Sample.crash).pool.grossDebtAssets) ∧
    (Sample.after Sample.crash).pool.lpClaimAssets = .error (.panic .underflow) ∧
    ¬ ClaimSafe Sample.market (Sample.after Sample.crash) := by
  have hshort : ¬ ((Sample.after Sample.crash).pool.reservesAssets
      + (Sample.after Sample.crash).pool.badDebtAssets
      ≤ (Sample.after Sample.crash).pool.cashAssets
        + (Sample.after Sample.crash).pool.grossDebtAssets) := by decide +kernel
  exact ⟨Sample.reachable _, by decide +kernel, by decide +kernel, hshort, by decide +kernel,
    fun h ↦ hshort h.covered⟩

end Pool
end IpoOne
