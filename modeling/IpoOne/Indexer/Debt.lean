import IpoOne.Indexer.Order
import IpoOne.Pool.Fairness

/-!
# The debt the projection shows

Every account of the projection has a `debtAssets`, which no storage slot of the pool corresponds
to: the pool quotes an account's debt from its shares, rounded up, whenever it is asked.  The
projection takes the number from the events that name the account and keeps it until the next one.

* `projectedDebt` is that number, read off the logs.
* `exec_bystander` and `exec_debtor` — a call leaves it alone for everybody the call is not about,
  and sets it to the quote for the one it is about, unless it recognises bad debt.
* `debtShown_along_iff` — so the projection and the pool agree all along a history exactly when no
  step of it moves the quote of a bystander or recognises bad debt.
* `reconcile_honest` — two honest reads are then found consistent, and otherwise freeze new risk.
-/

set_option autoImplicit false

namespace IpoOne
namespace Indexer

open Fallible Pool

/-! ## Read off the logs -/

/-- The `debtAssets` of an account after an event. -/
def debtAssetsAfter (address : Address) (debtAssets : ℕ) : PoolEvent → ℕ
  | .assetsBorrowed account _ _ debtAfter _ => if address = account then debtAfter else debtAssets
  | .assetsRepaid account _ _ _ _ _ debtAfter _ =>
    if address = account then debtAfter else debtAssets
  | .positionLiquidated borrower _ _ _ badDebtRecognizedAssets =>
    if badDebtRecognizedAssets ≠ 0 ∧ address = borrower then badDebtRecognizedAssets
    else debtAssets
  | .badDebtRecovered account _ _ accountBadDebtAfter _ =>
    if address = account then accountBadDebtAfter else debtAssets
  | _ => debtAssets

/-- The `debtAssets` that a history of logs leaves an account with. -/
def projectedDebt (logs : List PoolLog) (address : Address) : ℕ :=
  logs.foldl (fun debtAssets log ↦ debtAssetsAfter address debtAssets log.event) 0

section Logs

variable {state state' : ProjectionState} {address : Address}

theorem accountFor_debtAssets_of_set {account : Account} {debtAssets : ℕ} {a : Address}
    (h : state'.accounts = state.accounts.set address account)
    (hdebt : account.debtAssets = debtAssets) :
    (accountFor state' a).debtAssets
      = if a = address then debtAssets else (accountFor state a).debtAssets := by
  rw [accountFor_of_set h, ← hdebt]
  split <;> rfl

theorem accountFor_debtAssets_of_kept {account : Account} {a : Address}
    (h : state'.accounts = state.accounts.set address account)
    (hkept : account.debtAssets = (accountFor state address).debtAssets) :
    (accountFor state' a).debtAssets = (accountFor state a).debtAssets := by
  rw [accountFor_debtAssets_of_set h hkept]
  split
  · rename_i ha
    rw [ha]
  · rfl

theorem applyEvent_debtAssets {timestamp : ℕ} {event : PoolEvent}
    (h : applyEvent state timestamp event = .ok state') (a : Address) :
    (accountFor state' a).debtAssets
      = debtAssetsAfter a (accountFor state a).debtAssets event := by
  cases event with
  | marketInitialized =>
    simp only [applyEvent, bind_eq_ok, pure_eq_ok] at h
    obtain ⟨_, _, rfl⟩ := h
    rfl
  | oracleObservationAccepted | oracleDeviationHaltChanged | interestAccrued
  | newRiskPauseChanged =>
    cases pure_eq_ok.1 h
    rfl
  | assetsSupplied | collateralAdded | collateralReleased =>
    cases pure_eq_ok.1 h
    exact accountFor_debtAssets_of_kept rfl rfl
  | assetsWithdrawn =>
    simp only [applyEvent, bind_eq_ok, pure_eq_ok] at h
    obtain ⟨_, _, rfl⟩ := h
    exact accountFor_debtAssets_of_kept rfl rfl
  | assetsBorrowed =>
    cases pure_eq_ok.1 h
    rw [debtAssetsAfter]
    exact accountFor_debtAssets_of_set rfl rfl
  | assetsRepaid =>
    simp only [applyEvent, bind_eq_ok, pure_eq_ok] at h
    obtain ⟨_, _, _, _, _, _, rfl⟩ := h
    rw [debtAssetsAfter]
    exact accountFor_debtAssets_of_set rfl rfl
  | positionLiquidated borrower liquidator repaid seized bad =>
    simp only [applyEvent, bind_eq_ok] at h
    obtain ⟨_, _, h⟩ := h
    rw [debtAssetsAfter]
    split at h
    · rename_i hbad
      simp only [bind_eq_ok, pure_eq_ok] at h
      obtain ⟨_, _, rfl⟩ := h
      simp only [hbad, not_false_eq_true, true_and, ne_eq]
      exact accountFor_debtAssets_of_set rfl rfl
    · rename_i hbad
      cases pure_eq_ok.1 h
      rw [if_neg fun h ↦ hbad h.1]
      exact accountFor_debtAssets_of_kept rfl rfl
  | badDebtRecovered =>
    simp only [applyEvent, bind_eq_ok, pure_eq_ok] at h
    obtain ⟨_, _, rfl⟩ := h
    rw [debtAssetsAfter]
    exact accountFor_debtAssets_of_set rfl rfl

/-- **The projected debt of an account is read off the logs.** -/
theorem applyLogs_debtAssets {descriptor : Descriptor} {logs : List PoolLog}
    (h : applyLogs (initialState descriptor) logs = .ok state) (a : Address) :
    (accountFor state a).debtAssets = projectedDebt logs a := by
  suffices hfrom : ∀ start, applyLogs start logs = .ok state →
      (accountFor state a).debtAssets = logs.foldl
        (fun debtAssets log ↦ debtAssetsAfter a debtAssets log.event)
        (accountFor start a).debtAssets from hfrom _ h
  clear h
  induction logs with
  | nil =>
    intro start h
    cases pure_eq_ok.1 h
    rfl
  | cons log rest ih =>
    intro start h
    rw [applyLogs, List.foldlM_cons, bind_eq_ok] at h
    obtain ⟨next, hnext, hrest⟩ := h
    rw [ih next hrest, applyEvent_debtAssets hnext, List.foldl_cons]

end Logs

/-! ## What a call does to it -/

/-- Whose debt a call is about. -/
def debtorOf (msg : Msg) : Call → Option Address
  | .borrow _ => some msg.sender
  | .repay _ => some msg.sender
  | .liquidate borrower _ _ _ => some borrower
  | _ => none

section Calls

variable {mkt : Market} {msg : Msg} {w w₁ w' : World}

theorem projectedDebt_emitLog (event : PoolEvent) (w : World) (a : Address) :
    projectedDebt (emitLog mkt msg event w).logs a
      = debtAssetsAfter a (projectedDebt w.logs a) event := by
  rw [projectedDebt, emitLog, List.foldl_append]
  rfl

/-- An account is left alone: its shares, its bad debt and what the projection shows for it. -/
structure Spared (w w' : World) (a : Address) : Prop where
  projected : projectedDebt w'.logs a = projectedDebt w.logs a
  shares : w'.pool.debtSharesOf a = w.pool.debtSharesOf a
  bad : w'.pool.badDebtAssetsOf a = w.pool.badDebtAssetsOf a

theorem Spared.refl (w : World) (a : Address) : Spared w w a := ⟨rfl, rfl, rfl⟩

theorem Spared.trans {w₂ : World} {a : Address} (h : Spared w w₁ a) (h' : Spared w₁ w₂ a) :
    Spared w w₂ a :=
  ⟨h'.projected.trans h.projected, h'.shares.trans h.shares, h'.bad.trans h.bad⟩

/-- An event that is not about the account's debt spares it. -/
theorem spared_emitLog {event : PoolEvent} {a : Address} {w₀ : World} (hlogs : w₀.logs = w.logs)
    (hshares : w₀.pool.debtSharesOf a = w.pool.debtSharesOf a)
    (hbad : w₀.pool.badDebtAssetsOf a = w.pool.badDebtAssetsOf a)
    (hquiet : debtAssetsAfter a (projectedDebt w.logs a) event = projectedDebt w.logs a) :
    Spared w (emitLog mkt msg event w₀) a := by
  refine ⟨?_, hshares, hbad⟩
  rw [projectedDebt_emitLog, hlogs, hquiet]

theorem Accrues.spared (h : Accrues mkt msg w w') (a : Address) : Spared w w' a := by
  obtain rfl | ⟨_, _, _, _, _, _, rfl⟩ := h
  · exact .refl w' a
  · exact spared_emitLog rfl rfl rfl rfl

theorem Observes.spared (h : Observes mkt msg w w') (a : Address) : Spared w w' a := by
  obtain rfl | ⟨_, rfl⟩ := h
  · exact .refl w' a
  · exact spared_emitLog rfl rfl rfl rfl

theorem syncOracle_spared {accepted : Bool} (h : syncOracle mkt msg w = .ok (w', accepted))
    (a : Address) : Spared w w' a := by
  simp only [syncOracle, bind_eq_ok] at h
  obtain ⟨_, _, _, _, _, _, _, _, h⟩ := h
  split at h
  · cases pure_eq_ok.1 h
    exact spared_emitLog rfl rfl rfl rfl
  · cases pure_eq_ok.1 h
    exact spared_emitLog rfl rfl rfl rfl

theorem recoverOracleDeviation_spared (h : recoverOracleDeviation mkt msg w = .ok w')
    (a : Address) : Spared w w' a := by
  simp only [recoverOracleDeviation, bind_eq_ok, pure_eq_ok] at h
  obtain ⟨_, _, _, _, observation, _, _, _, rfl⟩ := h
  have hstored : Spared w (storeAcceptedObservation mkt msg observation w) a :=
    spared_emitLog rfl rfl rfl rfl
  exact hstored.trans (spared_emitLog rfl rfl rfl rfl)

/-- **A call leaves everybody alone whom it is not about.** -/
theorem exec_bystander {c : Call} (h : exec mkt msg w c = .ok w') {a : Address}
    (ha : debtorOf msg c ≠ some a) : Spared w w' a := by
  have hne : ∀ x, debtorOf msg c = some x → a ≠ x := by
    rintro x hx rfl
    exact ha hx
  cases c with
  | pauseNewRisk =>
    simp only [exec, pauseNewRisk, bind_eq_ok, pure_eq_ok] at h
    obtain ⟨_, _, _, _, rfl⟩ := h
    exact spared_emitLog rfl rfl rfl rfl
  | resumeNewRisk =>
    simp only [exec, resumeNewRisk, bind_eq_ok, pure_eq_ok] at h
    obtain ⟨_, _, _, _, rfl⟩ := h
    exact spared_emitLog rfl rfl rfl rfl
  | syncOracle =>
    simp only [exec, bind_eq_ok, pure_eq_ok, Prod.exists] at h
    obtain ⟨_, accepted, h, rfl⟩ := h
    exact syncOracle_spared h a
  | recoverOracleDeviation => exact recoverOracleDeviation_spared h a
  | accrueInterest =>
    simp only [exec, bind_eq_ok, pure_eq_ok, Prod.exists] at h
    obtain ⟨_, _, _, _, _, h, rfl⟩ := h
    exact Accrues.spared (accrueInterest_ok h) a
  | supply amount =>
    simp only [exec, bind_eq_ok, pure_eq_ok, Prod.exists] at h
    obtain ⟨_, _, h, rfl⟩ := h
    obtain ⟨w₁, t, hacc, _, _, rfl⟩ := supply_ok h
    exact (Accrues.spared (accrueToCurrent_ok hacc) a).trans (spared_emitLog rfl rfl rfl rfl)
  | withdraw amount =>
    simp only [exec, bind_eq_ok, pure_eq_ok, Prod.exists] at h
    obtain ⟨_, _, h, rfl⟩ := h
    obtain ⟨w₁, t, hacc, _, _, rfl⟩ := withdraw_ok h
    exact (Accrues.spared (accrueToCurrent_ok hacc) a).trans (spared_emitLog rfl rfl rfl rfl)
  | redeemAll =>
    simp only [exec, bind_eq_ok, pure_eq_ok, Prod.exists] at h
    obtain ⟨_, _, h, rfl⟩ := h
    obtain ⟨w₁, t, hacc, _, _, rfl⟩ := redeemAll_ok h
    exact (Accrues.spared (accrueToCurrent_ok hacc) a).trans (spared_emitLog rfl rfl rfl rfl)
  | addCollateral amount =>
    obtain ⟨w₁, t, hacc, _, rfl⟩ := addCollateral_ok h
    exact (Accrues.spared (accrueToCurrent_ok hacc) a).trans (spared_emitLog rfl rfl rfl rfl)
  | releaseCollateral amount =>
    obtain ⟨w₁, w₂, t, hacc, hobs, _, _, rfl⟩ := releaseCollateral_ok h
    exact ((Accrues.spared (accrueToCurrent_ok hacc) a).trans (Observes.spared hobs a)).trans
      (spared_emitLog rfl rfl rfl rfl)
  | borrow amount =>
    simp only [exec, bind_eq_ok, pure_eq_ok, Prod.exists] at h
    obtain ⟨_, _, h, rfl⟩ := h
    obtain ⟨w₁, w₂, t, _, hacc, hobs, _, _, _, _, hw⟩ := borrow_ok h
    have ha := hne _ rfl
    rw [hw]
    exact ((Accrues.spared (accrueToCurrent_ok hacc) a).trans (Observes.spared hobs a)).trans
      (spared_emitLog rfl (update_other a ha) rfl (if_neg ha))
  | repay amount =>
    simp only [exec, bind_eq_ok, pure_eq_ok, Prod.exists] at h
    obtain ⟨_, r, h, rfl⟩ := h
    have ha := hne _ rfl
    obtain ⟨w₁, hacc, ⟨_, h⟩ | ⟨_, h⟩⟩ := repay_ok h
    · obtain ⟨t, _, _, _, rfl⟩ := repayBadDebt_ok h
      exact (Accrues.spared (accrueToCurrent_ok hacc) a).trans
        (spared_emitLog rfl rfl (update_other a ha) (if_neg ha))
    · obtain ⟨t, _, _, _, _, _, hw⟩ := repayPerforming_ok h
      rw [hw]
      exact (Accrues.spared (accrueToCurrent_ok hacc) a).trans
        (spared_emitLog rfl (update_other a ha) rfl (if_neg ha))
  | liquidate borrower amount minOut deadline =>
    simp only [exec, bind_eq_ok, pure_eq_ok, Prod.exists] at h
    obtain ⟨_, _, _, h, rfl⟩ := h
    have ha := hne _ rfl
    obtain ⟨w₁, w₂, w₃, _, t, t', shares, reduced, debtAfter, hacc, hobs, _, _, _, _, _, rfl, _, _,
      _, hw⟩ := liquidate_ok h
    have hrepaid :
        Spared w (bookRepayment mkt msg borrower amount shares reduced debtAfter t w₂) a :=
      ((Accrues.spared (accrueToCurrent_ok hacc) a).trans
        (Observes.spared (refreshCurrentPrice_ok hobs) a)).trans
        (spared_emitLog rfl (update_other a ha) rfl (if_neg ha))
    rcases hw with ⟨_, _, rfl⟩ | ⟨_, _, _, rfl⟩
    · exact hrepaid.trans (spared_emitLog rfl rfl rfl rfl)
    · exact hrepaid.trans (spared_emitLog rfl (update_other a ha) (update_other a ha)
        (if_neg fun h ↦ ha h.2))

theorem Accrues.badDebtAssets (h : Accrues mkt msg w w') :
    w'.pool.badDebtAssets = w.pool.badDebtAssets := by
  obtain rfl | ⟨_, _, _, _, _, _, rfl⟩ := h <;> rfl

theorem quote_eq_zero {st : Storage} {a : Address} (h : st.debtSharesOf a = 0) :
    st.book.quote a = 0 := by
  rw [Book.quote]
  simp only [Storage.book, h, Rounding.quoteUp, Nat.zero_mul, zero_ceilDiv]

/-- What a call shows for the account it is about: its quote; or the bad debt it recognises, when
the quote is zero; or what is left of the bad debt it recovers. -/
inductive Shown (w w' : World) (a : Address) : Prop
  | quoted (projected : projectedDebt w'.logs a = w'.pool.book.quote a)
      (clean : w'.pool.badDebtAssetsOf a = 0)
      (same : w'.pool.badDebtAssets = w.pool.badDebtAssets)
  | recognised (projected : projectedDebt w'.logs a = w'.pool.badDebtAssetsOf a)
      (settled : w'.pool.debtSharesOf a = 0) (positive : 0 < w'.pool.badDebtAssetsOf a)
      (grown : w.pool.badDebtAssets < w'.pool.badDebtAssets)
  | recovered (projected : projectedDebt w'.logs a = w'.pool.badDebtAssetsOf a)
      (bad : w.pool.badDebtAssetsOf a ≠ 0)

theorem liquidate_debtor {borrower : Address} {amount minOut deadline seized bad : ℕ}
    (hv : w.pool.book.Valid)
    (h : liquidate mkt msg borrower amount minOut deadline w = .ok (w', seized, bad)) :
    Shown w w' borrower := by
  obtain ⟨w₁, w₂, w₃, _, t, t', shares, reduced, debtAfter, hacc, hobs, _, _, _, hallows, _, rfl, _,
    _, hquote, hw⟩ := liquidate_ok h
  replace hacc := accrueToCurrent_ok hacc
  replace hobs := refreshCurrentPrice_ok hobs
  have hbad₂ : w₂.pool.badDebtAssets = w.pool.badDebtAssets :=
    (congrArg Book.bad hobs.book).trans (Accrues.badDebtAssets hacc)
  have hv₂ : w₂.pool.book.Valid := by
    rw [hobs.book]
    exact hacc.valid hv
  -- whoever owes shares has no bad debt
  have hclean : w₂.pool.badDebtAssetsOf borrower = 0 := by
    obtain ⟨_, _, hburned, hmine, _⟩ := hallows
    exact (hv₂.exclusive borrower).resolve_right (lt_of_lt_of_le hburned hmine).ne'
  have hrepaid : projectedDebt
      (bookRepayment mkt msg borrower amount shares reduced debtAfter t w₂).logs borrower
        = debtAfter := by
    rw [bookRepayment, projectedDebt_emitLog]
    exact if_pos rfl
  rcases hw with ⟨_, _, rfl⟩ | ⟨hpos, _, _, rfl⟩
  · refine .quoted ?_ hclean hbad₂
    rw [← hquote, bookSeizure, projectedDebt_emitLog, debtAssetsAfter, if_neg fun h ↦ h.1 rfl]
    exact hrepaid
  · have hbadOf : (bookWriteOff mkt msg borrower amount seized bad t'
        (bookRepayment mkt msg borrower amount shares reduced debtAfter t w₂)).pool.badDebtAssetsOf
          borrower = bad := by
      simp only [bookWriteOff, bookRepayment, emitLog, Function.update_self, hclean, zero_add]
    refine .recognised ?_ ?_ (hpos.trans_eq hbadOf.symm) ?_
    · rw [hbadOf, bookWriteOff, projectedDebt_emitLog]
      exact if_pos ⟨hpos.ne', rfl⟩
    · simp only [bookWriteOff, emitLog, Function.update_self]
    · simp only [bookWriteOff, bookRepayment, emitLog, hbad₂]
      omega

/-- **What a call shows for the account it is about.** -/
theorem exec_debtor {c : Call} (hv : w.pool.book.Valid) (h : exec mkt msg w c = .ok w')
    {a : Address} (ha : debtorOf msg c = some a) : Shown w w' a := by
  cases c with
  | borrow amount =>
    obtain rfl := Option.some.inj ha
    simp only [exec, bind_eq_ok, pure_eq_ok, Prod.exists] at h
    obtain ⟨_, shares, h, rfl⟩ := h
    obtain ⟨w₁, w₂, t, debtAfter, hacc, hobs, hallows, _, _, hquote, hw⟩ := borrow_ok h
    have hclean : w₂.pool.badDebtAssetsOf msg.sender = 0 := hallows.2.2.2.1
    have hbad₂ : w₂.pool.badDebtAssets = w.pool.badDebtAssets :=
      (congrArg Book.bad hobs.book).trans (Accrues.badDebtAssets (accrueToCurrent_ok hacc))
    refine .quoted ?_ (hw ▸ hclean) (hw ▸ hbad₂)
    rw [← hquote, hw, bookBorrow, projectedDebt_emitLog]
    exact if_pos rfl
  | repay amount =>
    obtain rfl := Option.some.inj ha
    simp only [exec, bind_eq_ok, pure_eq_ok, Prod.exists] at h
    obtain ⟨_, r, h, rfl⟩ := h
    obtain ⟨w₁, hacc, ⟨hbad, h⟩ | ⟨hclean, h⟩⟩ := repay_ok h
    · obtain ⟨t, _, _, _, rfl⟩ := repayBadDebt_ok h
      rw [(Accrues.spared (accrueToCurrent_ok hacc) msg.sender).bad] at hbad
      refine .recovered ?_ hbad
      rw [bookRecovery, projectedDebt_emitLog, debtAssetsAfter, if_pos rfl]
      simp only [emitLog, Function.update_self]
    · obtain ⟨t, debtAfter, _, _, _, hquote, hw⟩ := repayPerforming_ok h
      have hbad₁ := Accrues.badDebtAssets (accrueToCurrent_ok hacc)
      refine .quoted ?_ (hw ▸ hclean) (hw ▸ hbad₁)
      rw [← hquote, hw, bookRepayment, projectedDebt_emitLog]
      exact if_pos rfl
  | liquidate borrower amount minOut deadline =>
    obtain rfl := Option.some.inj ha
    simp only [exec, bind_eq_ok, pure_eq_ok, Prod.exists] at h
    obtain ⟨_, seized, bad, h, rfl⟩ := h
    exact liquidate_debtor hv h
  | pauseNewRisk | resumeNewRisk | syncOracle | recoverOracleDeviation | accrueInterest | supply
  | withdraw | redeemAll | addCollateral | releaseCollateral => cases ha

end Calls

/-! ## Whole histories -/

/-- Whoever owes no shares is shown with the bad debt they have. -/
def Settled (w : World) : Prop :=
  ∀ a, w.pool.debtSharesOf a = 0 → projectedDebt w.logs a = w.pool.badDebtAssetsOf a

/-- Everybody is shown with what the pool quotes for them. -/
def DebtAgrees (w : World) : Prop := ∀ a, projectedDebt w.logs a = w.pool.book.quote a

/-- If the step is a call that goes through, it recognises no bad debt, and the share of the
performing debt of every account it is not about, rounded up, is the same after the call as
before. -/
def Undisturbed (mkt : Market) (w : World) : ChainInput → Prop
  | .call msg c => ∀ w', exec mkt msg w c = .ok w' →
    w'.pool.badDebtAssets ≤ w.pool.badDebtAssets ∧
      ∀ a, debtorOf msg c ≠ some a →
        Rounding.quoteUp (w.pool.debtSharesOf a) w'.pool.book.performing w'.pool.totalDebtShares
          = Rounding.quoteUp (w.pool.debtSharesOf a) w.pool.book.performing w.pool.totalDebtShares
  | .tokens _ _ => True

section Histories

variable {mkt : Market} {w w' : World}

theorem exec_settled {msg : Msg} {c : Call} (hv : w.pool.book.Valid) (hsettled : Settled w)
    (h : exec mkt msg w c = .ok w') : Settled w' := by
  intro a ha
  by_cases hdebtor : debtorOf msg c = some a
  · cases exec_debtor hv h hdebtor with
    | quoted projected clean same => rw [projected, clean, quote_eq_zero ha]
    | recognised projected settled positive grown => exact projected
    | recovered projected bad => exact projected
  · obtain ⟨hprojected, hshares, hbad⟩ := exec_bystander h hdebtor
    rw [hprojected, hbad]
    exact hsettled a (hshares ▸ ha)

/-- Where the projection agrees with the pool, nobody has bad debt. -/
theorem DebtAgrees.clean (h : DebtAgrees w) (hv : w.pool.book.Valid) (hsettled : Settled w)
    (a : Address) : w.pool.badDebtAssetsOf a = 0 := by
  rcases hv.exclusive a with hclean | hshares
  · exact hclean
  · rw [← hsettled a hshares, h a, quote_eq_zero hshares]

/-- A call that is about nobody's debt leaves the bad debt as it is. -/
theorem exec_badDebtAssets {msg : Msg} {c : Call} (hv : w.pool.book.Valid)
    (hv' : w'.pool.book.Valid) (h : exec mkt msg w c = .ok w') (hnone : debtorOf msg c = none) :
    w'.pool.badDebtAssets = w.pool.badDebtAssets := by
  have hsum := hv.bad_sum
  have hsum' := hv'.bad_sum
  have hsame : ∀ a, w'.pool.book.badOf a = w.pool.book.badOf a := by
    intro a
    refine (exec_bystander h ?_).bad
    rw [hnone]
    exact (Option.some_ne_none a).symm
  simp only [hsame] at hsum'
  exact hsum'.symm.trans hsum

/-- **A call keeps the agreement exactly if it is undisturbed.** -/
theorem exec_debtAgrees_iff {msg : Msg} {c : Call} (hs : Sound mkt w) (hsettled : Settled w)
    (hagrees : DebtAgrees w) (h : exec mkt msg w c = .ok w') :
    DebtAgrees w' ↔ Undisturbed mkt w (.call msg c) := by
  have hv := hs.books
  have hv' := (exec_sound hs h).books
  have hquote : ∀ a, debtorOf msg c ≠ some a → w'.pool.book.quote a
      = Rounding.quoteUp (w.pool.debtSharesOf a) w'.pool.book.performing
        w'.pool.totalDebtShares := by
    intro a ha
    rw [Book.quote]
    simp only [Storage.book, (exec_bystander h ha).shares]
  constructor
  · intro hagrees' w'' h''
    obtain rfl := Except.ok.inj (h.symm.trans h'')
    constructor
    · cases hdebtor : debtorOf msg c with
      | none => exact (exec_badDebtAssets hv hv' h hdebtor).le
      | some a =>
        cases exec_debtor hv h hdebtor with
        | quoted projected clean same => exact same.le
        | recognised projected settled positive grown =>
          have hzero := hagrees' a
          rw [projected, quote_eq_zero settled] at hzero
          exact absurd hzero positive.ne'
        | recovered projected bad => exact absurd (hagrees.clean hv hsettled a) bad
    · intro a ha
      rw [← hquote a ha, ← hagrees' a, (exec_bystander h ha).projected]
      exact hagrees a
  · intro hundisturbed a
    obtain ⟨hbad, hothers⟩ := hundisturbed w' h
    by_cases hdebtor : debtorOf msg c = some a
    · cases exec_debtor hv h hdebtor with
      | quoted projected clean same => exact projected
      | recognised projected settled positive grown => exact absurd hbad (not_le.2 grown)
      | recovered projected bad => exact absurd (hagrees.clean hv hsettled a) bad
    · rw [(exec_bystander h hdebtor).projected, hagrees a, hquote a hdebtor, hothers a hdebtor]
      rfl

theorem chainStep_settled (i : ChainInput) (hs : Sound mkt w) (hsettled : Settled w) :
    Settled (chainStep mkt w i) := by
  cases i with
  | call msg c =>
    rw [chainStep]
    split
    · rename_i w' h
      exact exec_settled hs.books hsettled h
    · exact hsettled
  | tokens debtToken collateralToken =>
    rw [chainStep]
    split
    · exact hsettled
    · exact hsettled

theorem chainStep_debtAgrees_iff (i : ChainInput) (hs : Sound mkt w) (hsettled : Settled w)
    (hagrees : DebtAgrees w) : DebtAgrees (chainStep mkt w i) ↔ Undisturbed mkt w i := by
  cases i with
  | call msg c =>
    rw [chainStep]
    split
    · rename_i w' h
      exact exec_debtAgrees_iff hs hsettled hagrees h
    · rename_i e h
      refine iff_of_true hagrees fun w' h' ↦ ?_
      cases h.symm.trans h'
  | tokens debtToken collateralToken =>
    refine iff_of_true ?_ trivial
    rw [chainStep]
    split
    · exact hagrees
    · exact hagrees

theorem Deployed.settled (h : Deployed mkt w) : Settled w ∧ DebtAgrees w := by
  obtain ⟨env, cfg, debtToken, collateralToken, h⟩ := h
  simp only [deploy, bind_eq_ok, pure_eq_ok, Prod.mk.injEq] at h
  obtain ⟨_, _, observation, _, _, _, rfl, rfl⟩ := h
  exact ⟨fun a _ ↦ rfl, fun a ↦ (quote_eq_zero rfl).symm⟩

end Histories

/-! ## What the projection is bound to -/

/-- The parameters of a market, as its getters return them. -/
def configurationOf (mkt : Market) : Configuration where
  chainId := mkt.marketChainId
  debtAsset := mkt.debtAsset
  collateralAsset := mkt.collateralAsset
  priceOracle := mkt.priceOracle
  oracleSourceId := mkt.oracleSourceId
  marketDebtCapAssets := mkt.marketDebtCapAssets
  borrowerDebtCapAssets := mkt.borrowerDebtCapAssets
  loanToValueBps := mkt.loanToValueBps
  liquidationThresholdBps := liquidationThresholdBps
  pauseGuardian := mkt.pauseGuardian
  recoveryAuthority := mkt.recoveryAuthority

/-- The state is of the descriptor's pool, has the market's parameters, and keeps every account
under its address. -/
structure Bound (mkt : Market) (descriptor : Descriptor) (state : ProjectionState) : Prop where
  initialized : state.initialized = true
  chainId : state.chainId = descriptor.chainId
  contractAddress : state.contractAddress = descriptor.contractAddress
  marketId : state.marketId = descriptor.marketId
  configuration : state.configuration = some (configurationOf mkt)
  keyed : ∀ k account, state.accounts.get k = some account → account.account = k

section Binding

variable {mkt : Market} {msg : Msg} {descriptor : Descriptor} {state state' : ProjectionState}
  {w w' : World}

theorem account_accountFor
    (h : ∀ k account, state.accounts.get k = some account → account.account = k) (a : Address) :
    (accountFor state a).account = a := by
  rw [accountFor]
  cases hget : state.accounts.get a with
  | none => rfl
  | some account => exact h a account hget

theorem keyed_of_set {address : Address} {account : Account}
    (h : ∀ k account, state.accounts.get k = some account → account.account = k)
    (hset : state'.accounts = state.accounts.set address account)
    (haccount : account.account = (accountFor state address).account) (k : Address)
    (account' : Account) (hget : state'.accounts.get k = some account') : account'.account = k := by
  rw [hset, InsertionMap.get_set] at hget
  split at hget
  · rename_i hk
    obtain rfl := Option.some.inj hget
    rw [haccount, account_accountFor h, hk]
  · exact h k account' hget

/-- No event changes what an initialized projection is bound to. -/
theorem Bound.applyEvent (h : Bound mkt descriptor state) {timestamp : ℕ} {event : PoolEvent}
    (happly : applyEvent state timestamp event = .ok state') : Bound mkt descriptor state' := by
  cases event with
  | marketInitialized =>
    simp only [Indexer.applyEvent, bind_eq_ok, throwIf_eq_ok] at happly
    obtain ⟨_, huninitialized, _⟩ := happly
    exact absurd h.initialized huninitialized
  | oracleObservationAccepted | oracleDeviationHaltChanged | interestAccrued
  | newRiskPauseChanged =>
    cases pure_eq_ok.1 happly
    exact ⟨h.initialized, h.chainId, h.contractAddress, h.marketId, h.configuration, h.keyed⟩
  | assetsSupplied | collateralAdded | collateralReleased | assetsBorrowed =>
    cases pure_eq_ok.1 happly
    exact ⟨h.initialized, h.chainId, h.contractAddress, h.marketId, h.configuration,
      keyed_of_set h.keyed rfl rfl⟩
  | assetsWithdrawn | badDebtRecovered =>
    simp only [Indexer.applyEvent, bind_eq_ok, pure_eq_ok] at happly
    obtain ⟨_, _, rfl⟩ := happly
    exact ⟨h.initialized, h.chainId, h.contractAddress, h.marketId, h.configuration,
      keyed_of_set h.keyed rfl rfl⟩
  | assetsRepaid =>
    simp only [Indexer.applyEvent, bind_eq_ok, pure_eq_ok] at happly
    obtain ⟨_, _, _, _, _, _, rfl⟩ := happly
    exact ⟨h.initialized, h.chainId, h.contractAddress, h.marketId, h.configuration,
      keyed_of_set h.keyed rfl rfl⟩
  | positionLiquidated =>
    simp only [Indexer.applyEvent, bind_eq_ok] at happly
    obtain ⟨_, _, happly⟩ := happly
    split at happly
    · simp only [bind_eq_ok, pure_eq_ok] at happly
      obtain ⟨_, _, rfl⟩ := happly
      exact ⟨h.initialized, h.chainId, h.contractAddress, h.marketId, h.configuration,
        keyed_of_set h.keyed rfl rfl⟩
    · cases pure_eq_ok.1 happly
      exact ⟨h.initialized, h.chainId, h.contractAddress, h.marketId, h.configuration,
        keyed_of_set h.keyed rfl rfl⟩

/-- The logs project to a state that shows the storage and is bound to the market. -/
def Configured (mkt : Market) (descriptor : Descriptor) (w : World) : Prop :=
  ∃ state, applyLogs (initialState descriptor) w.logs = .ok state ∧ Agrees state w.pool ∧
    Bound mkt descriptor state

theorem Effect.configured (h : Effect mkt msg w w') (hc : Configured mkt descriptor w) :
    Configured mkt descriptor w' := by
  obtain ⟨event, hlogs, _, hfollows⟩ := Effect.follows h
  obtain ⟨state, hstate, hagrees, hbound⟩ := hc
  obtain ⟨state', happly, hagrees'⟩ := hfollows state hagrees
  refine ⟨state', ?_, hagrees', hbound.applyEvent happly⟩
  rw [applyLogs, hlogs, List.foldlM_append, bind_eq_ok]
  refine ⟨state, hstate, ?_⟩
  rw [List.foldlM_cons, bind_eq_ok]
  exact ⟨state', happly, rfl⟩

theorem chainStep_configured (i : ChainInput) (hc : Configured mkt descriptor w) :
    Configured mkt descriptor (chainStep mkt w i) := by
  cases i with
  | call msg c =>
    rw [chainStep]
    split
    · rename_i w' h
      have heffects := exec_effects h
      clear h
      induction heffects with
      | refl => exact hc
      | tail _ he ih => exact Effect.configured he ih
    · exact hc
  | tokens debtToken collateralToken =>
    rw [chainStep]
    split
    · exact hc
    · exact hc

theorem Deployed.configured (h : Deployed mkt w) (descriptor : Descriptor) :
    Configured mkt descriptor w := by
  obtain ⟨state, hstate, hagrees⟩ := (Deployed.projects h descriptor).agrees
  refine ⟨state, hstate, hagrees, ?_⟩
  obtain ⟨env, cfg, debtToken, collateralToken, h⟩ := h
  simp only [deploy, bind_eq_ok, pure_eq_ok, Prod.mk.injEq] at h
  obtain ⟨_, _, observation, _, _, _, rfl, rfl⟩ := h
  obtain rfl := Except.ok.inj hstate
  exact ⟨rfl, rfl, rfl, rfl, rfl, fun k account hget ↦ by cases hget⟩

theorem Reachable.configured (h : Reachable mkt w) (descriptor : Descriptor) :
    Configured mkt descriptor w := by
  obtain ⟨w₀, hw₀, hrun⟩ := h
  exact Run.reachable_induct (fun _ i hc ↦ chainStep_configured i hc)
    (Deployed.configured hw₀ descriptor) hrun

end Binding

/-! ## Direct reads -/

/-- `positionFrom`, cut down to what a direct read has of an account. -/
def positionFrom (account : Address) (value : Storage.AccountPosition) : Account where
  account
  supplyShares := value.supplyShares
  collateralAssets := value.collateralAssets
  debtShares := value.debtShares
  debtAssets := value.performingDebtAssets
  badDebtAssets := value.badDebtAssets

/-- What the views of the pool say about the given accounts. -/
def directState (descriptor : Descriptor) (mkt : Market) (st : Storage) (accounts : List Address) :
    PoolTx CanonicalState := do
  let accounts ← accounts.mapM fun account ↦ do
    let value ← st.position account
    pure (positionFrom account value)
  pure { chainId := descriptor.chainId, contractAddress := descriptor.contractAddress
         marketId := descriptor.marketId, initialized := true
         configuration := some (configurationOf mkt), cashAssets := st.cashAssets
         grossDebtAssets := st.grossDebtAssets, reservesAssets := st.reservesAssets
         badDebtAssets := st.badDebtAssets, totalSupplyShares := st.totalSupplyShares
         totalDebtShares := st.totalDebtShares, lastAccruedAt := st.lastAccruedAt
         acceptedPriceUsdWad := st.acceptedPriceUsdWad
         acceptedOracleObservedAt := st.acceptedOracleObservedAt
         acceptedOracleRoundId := st.acceptedOracleRoundId
         oracleDeviationHalted := st.oracleDeviationHalted, newRiskPaused := st.newRiskPaused
         accounts }

/-- A complete, well-formed read of a state at a block. -/
structure HonestRead (descriptor : Descriptor) (state : CanonicalState) (blockNumber : ℕ)
    (blockHash : Bytes32) (slot : ProviderSlot) (read : DirectRead) : Prop where
  providerSlot : read.providerSlot = some slot
  chainId : read.chainId = descriptor.chainId
  contractAddress : read.contractAddress = descriptor.contractAddress
  marketId : read.marketId = descriptor.marketId
  blockNumber : read.blockNumber = some blockNumber
  blockHash : read.blockHash = some blockHash
  state : read.state = state
  complete : read.complete = true
  observedAt : ∃ t, read.observedAt = some t
  readOnly : read.readOnly = true
  rawProviderPayloadPersisted : read.rawProviderPayloadPersisted = false
  schemaVersion : read.schemaVersion = "pool_direct_state_snapshot.v1"

section Reads

variable {H : Type} (prims : Primitives H) {descriptor : Descriptor} {mkt : Market}
  {direct validated : CanonicalState} {number : ℕ} {hash : Bytes32}

theorem normalize_honest {slot : ProviderSlot} {read : DirectRead}
    (h : HonestRead descriptor direct number hash slot read)
    (hvalid : validateStateShape descriptor direct = .ok validated) :
    ∃ snapshot, normalizePoolDirectStateSnapshot prims descriptor read = .ok snapshot ∧
      snapshot.providerSlot = slot ∧ snapshot.blockNumber = number ∧ snapshot.blockHash = hash ∧
      snapshot.complete = true ∧
      snapshot.stateHash = some (prims.hashId (.economicState validated)) := by
  obtain ⟨t, ht⟩ := h.observedAt
  simp only [normalizePoolDirectStateSnapshot, bind_eq_ok, throwIf_eq_ok, readField_eq_ok,
    pure_eq_ok]
  refine ⟨_, ⟨_, h.providerSlot, (), ?_, (), ?_, _, h.blockNumber, _, h.blockHash, _, ht,
    some (validated, prims.hashId (.economicState validated)), ?_, rfl⟩, rfl, rfl, rfl, h.complete,
    rfl⟩
  · rw [h.chainId, h.contractAddress, h.marketId]
    simp
  · rw [h.readOnly, h.rawProviderPayloadPersisted, h.schemaVersion]
    simp
  · rw [if_pos h.complete, h.state, bind_eq_ok]
    exact ⟨validated, hvalid, rfl⟩

/-- **What reconciling with two honest reads finds**: nothing if the hashes of the states are the
same, and a mismatch that freezes new risk if they are not. -/
theorem reconcile_honest [LinearOrder H] {one other : DirectRead} (s : System H) (now : ℕ)
    (hvalid : validateStateShape descriptor direct = .ok validated)
    (hone : HonestRead descriptor direct number hash .primary one)
    (hother : HonestRead descriptor direct number hash .secondary other) :
    ∃ run s', reconcile prims descriptor s [one, other] now none = (.ok run, s') ∧
      (prims.hashId (.economicState validated)
          = prims.hashId (.economicState (canonicalState s.indexer.state)) ∧
        run.consistent = true ∧ run.reasonCode = .reconciled ∨
      prims.hashId (.economicState validated)
          ≠ prims.hashId (.economicState (canonicalState s.indexer.state)) ∧
        run.consistent = false ∧ run.reasonCode = .projectionMismatch ∧
        s'.indexer.riskControl.newRiskFrozen = true) := by
  obtain ⟨first, hfirst, hslot, hnumber, hhash, hcomplete, hstate⟩ :=
    normalize_honest prims hone hvalid
  obtain ⟨second, hsecond, hslot', hnumber', hhash', hcomplete', hstate'⟩ :=
    normalize_honest prims hother hvalid
  have hslots : ¬ first.providerSlot = second.providerSlot := by
    rw [hslot, hslot']
    decide
  have hreason : reconciliationReason first second (s.indexer.snapshot prims).stateHash
      = if prims.hashId (.economicState validated)
          = prims.hashId (.economicState (canonicalState s.indexer.state))
        then .reconciled else .projectionMismatch := by
    rw [reconciliationReason, if_neg, if_neg, hstate]
    · simp only [ne_eq, Option.some.injEq, ite_not]
      rfl
    · rw [hnumber, hnumber', hhash, hhash', hstate, hstate']
      simp
    · rw [hcomplete, hcomplete']
      simp
  have hrun : ∃ run, reconciliationRun prims descriptor s.indexer [one, other] now = .ok run ∧
      run.reasonCode = reconciliationReason first second (s.indexer.snapshot prims).stateHash ∧
      run.consistent = decide (run.reasonCode = .reconciled) := by
    simp only [reconciliationRun, bind_eq_ok, throwIf_eq_ok, pure_eq_ok]
    exact ⟨_, ⟨first, hfirst, second, hsecond, (), hslots, rfl⟩, rfl, rfl⟩
  obtain ⟨run, hrun, hcode, hconsistent⟩ := hrun
  rw [reconcile, hrun]
  refine ⟨run, _, rfl, ?_⟩
  rw [hreason] at hcode
  split at hcode
  · rename_i hsame
    refine .inl ⟨hsame, ?_, hcode⟩
    rw [hconsistent, hcode]
    rfl
  · rename_i hdiffer
    have hfalse : run.consistent = false := by
      rw [hconsistent, hcode]
      rfl
    refine .inr ⟨hdiffer, hfalse, hcode, ?_⟩
    dsimp only
    by_cases hfrozen : s.indexer.riskControl.newRiskFrozen = false
    · rw [freezeFor, if_pos ⟨hfalse, hfrozen⟩]
      rfl
    · rw [freezeFor, if_neg fun h ↦ hfrozen h.2]
      exact Bool.not_eq_false _ ▸ hfrozen

end Reads

section Agreement

variable {descriptor : Descriptor} {mkt : Market} {w : World} {state : ProjectionState}
  {direct : CanonicalState}

/-- What a direct read says about an account. -/
def readAccount (st : Storage) (account : Address) : Account where
  account
  supplyShares := st.supplySharesOf account
  collateralAssets := st.collateralAssetsOf account
  debtShares := st.debtSharesOf account
  debtAssets := st.book.quote account
  badDebtAssets := st.badDebtAssetsOf account

theorem readAccount_eq {st : Storage} {a : Address} {account : Account}
    (haccount : account.account = a) (hshows : account.Shows st a)
    (hdebt : account.debtAssets = st.book.quote a) : readAccount st a = account := by
  obtain ⟨hsupply, hcollateral, hshares, hbad⟩ := hshows
  rw [readAccount, ← hsupply, ← hcollateral, ← hshares, ← hbad, ← hdebt, ← haccount]

theorem positionFrom_position {st : Storage} {a : Address} {value : Storage.AccountPosition}
    (h : st.position a = .ok value) : positionFrom a value = readAccount st a := by
  simp only [Storage.position, bind_eq_ok, pure_eq_ok] at h
  obtain ⟨quote, hquote, _, _, _, _, rfl⟩ := h
  rw [positionFrom, readAccount, Storage.debtQuoteAssets_ok hquote]

theorem directState_accounts {st : Storage} {accounts : List Address}
    (h : directState descriptor mkt st accounts = .ok direct) :
    direct.accounts = accounts.map (readAccount st) := by
  simp only [directState, bind_eq_ok, pure_eq_ok, mapM_eq_ok] at h
  obtain ⟨read, hread, rfl⟩ := h
  have hsame : List.Forall₂ (fun a x ↦ readAccount st a = x) accounts read := by
    refine hread.imp ?_
    rintro a x ⟨value, hvalue, hx⟩
    rw [← hx, positionFrom_position hvalue]
  exact (List.forall₂_eq_eq_eq ▸ List.forall₂_map_left_iff.2 hsame).symm

/-- The projected accounts, in the order of their keys. -/
theorem values_eq_map (state : ProjectionState) :
    state.accounts.values = state.accounts.keys.map (accountFor state) := by
  rw [InsertionMap.values, InsertionMap.keys, List.map_map]
  refine List.map_congr_left fun e he ↦ ?_
  have hget := (state.accounts.mem_entries_iff e.1 e.2).1 he
  rw [Function.comp_apply, accountFor, hget, Option.getD_some]

/-- A read of the projected accounts is well formed. -/
theorem validate_direct
    (h : directState descriptor mkt w.pool state.accounts.keys = .ok direct) :
    validateStateShape descriptor direct
      = .ok { direct with accounts := sortAccounts direct.accounts } := by
  have haccounts := directState_accounts h
  simp only [directState, bind_eq_ok, pure_eq_ok] at h
  obtain ⟨read, _, rfl⟩ := h
  have hnodup : ((sortAccounts read).map (·.account)).Nodup := by
    have hperm : (sortAccounts read).Perm read := List.mergeSort_perm ..
    refine (hperm.map _).nodup_iff.2 ?_
    rw [show read = state.accounts.keys.map (readAccount w.pool) from haccounts, List.map_map]
    exact (List.map_id _).symm ▸ state.accounts.nodup
  simp only [validateStateShape, bind_eq_ok, throwIf_eq_ok, pure_eq_ok]
  refine ⟨(), by simp, (), by simp, (), by simp, (), not_not.2 hnodup, trivial⟩

/-- **Where the debts agree, an honest read is the projected state.** -/
theorem canonicalState_eq (hb : Bound mkt descriptor state) (ha : Agrees state w.pool)
    (hdebt : ∀ a, (accountFor state a).debtAssets = w.pool.book.quote a)
    (h : directState descriptor mkt w.pool state.accounts.keys = .ok direct) :
    { direct with accounts := sortAccounts direct.accounts } = canonicalState state := by
  have haccounts : direct.accounts = state.accounts.values := by
    rw [directState_accounts h, values_eq_map]
    exact List.map_congr_left fun a _ ↦
      readAccount_eq (account_accountFor hb.keyed a) (ha.accounts a) (hdebt a)
  rw [haccounts]
  simp only [directState, bind_eq_ok, pure_eq_ok] at h
  obtain ⟨read, _, rfl⟩ := h
  rw [canonicalState, hb.chainId, hb.contractAddress, hb.marketId, hb.initialized, hb.configuration,
    ha.cashAssets, ha.grossDebtAssets, ha.reservesAssets, ha.badDebtAssets, ha.totalSupplyShares,
    ha.totalDebtShares, ha.lastAccruedAt, ha.acceptedPriceUsdWad, ha.acceptedOracleObservedAt,
    ha.acceptedOracleRoundId, ha.oracleDeviationHalted, ha.newRiskPaused]

/-- Conversely, an honest read that is the projected state shows the projected debts. -/
theorem debtAssets_of_canonicalState_eq (hb : Bound mkt descriptor state)
    (h : directState descriptor mkt w.pool state.accounts.keys = .ok direct)
    (hsame : { direct with accounts := sortAccounts direct.accounts } = canonicalState state)
    {a : Address} (ha : a ∈ state.accounts.keys) :
    (accountFor state a).debtAssets = w.pool.book.quote a := by
  have hsorted : sortAccounts direct.accounts = sortAccounts state.accounts.values :=
    congrArg CanonicalState.accounts hsame
  have hperm : direct.accounts.Perm state.accounts.values := by
    have hleft : (sortAccounts direct.accounts).Perm direct.accounts := List.mergeSort_perm ..
    have hright : (sortAccounts state.accounts.values).Perm state.accounts.values :=
      List.mergeSort_perm ..
    exact hleft.symm.trans (hsorted ▸ hright)
  have hmem : accountFor state a ∈ direct.accounts := by
    rw [hperm.mem_iff, values_eq_map]
    exact List.mem_map_of_mem ha
  rw [directState_accounts h] at hmem
  obtain ⟨a', _, hread⟩ := List.mem_map.1 hmem
  have haccount : a' = a := by
    rw [← account_accountFor hb.keyed a, ← hread]
    rfl
  rw [← hread, haccount]
  rfl

end Agreement

/-- **What the indexer promises about debt**: for every account that owes something, the projection
of the logs shows the performing debt that the pool quotes for it, and reconciling that projection
with two honest reads of the pool finds it consistent. -/
def DebtShown (mkt : Market) (descriptor : Descriptor) (w : World) : Prop :=
  ∀ state, applyLogs (initialState descriptor) w.logs = .ok state →
    (∀ a quote, w.pool.debtSharesOf a ≠ 0 ∨ w.pool.badDebtAssetsOf a ≠ 0 →
      w.pool.debtQuoteAssets a = .ok quote → (accountFor state a).debtAssets = quote) ∧
    ∀ (H : Type) [LinearOrder H] (prims : Primitives H) (s : System H) (direct : CanonicalState)
      (number : ℕ) (hash : Bytes32) (one other : DirectRead) (now : ℕ),
      s.indexer.state = state →
      directState descriptor mkt w.pool state.accounts.keys = .ok direct →
      HonestRead descriptor direct number hash .primary one →
      HonestRead descriptor direct number hash .secondary other →
      ∃ run s', reconcile prims descriptor s [one, other] now none = (.ok run, s') ∧
        run.consistent = true

section Promise

variable {mkt : Market} {descriptor : Descriptor} {w : World}

theorem debtShown_iff (hs : Sound mkt w) (hsettled : Settled w)
    (hc : Configured mkt descriptor w) : DebtShown mkt descriptor w ↔ DebtAgrees w := by
  obtain ⟨state, hstate, hagrees, hbound⟩ := hc
  constructor
  · intro hshown a
    rw [← applyLogs_debtAssets hstate a]
    by_cases howes : w.pool.debtSharesOf a ≠ 0 ∨ w.pool.badDebtAssetsOf a ≠ 0
    · exact (hshown state hstate).1 a _ howes (hs.debtQuoteAssets a)
    · -- who owes nothing is shown with nothing
      push Not at howes
      rw [applyLogs_debtAssets hstate a, hsettled a howes.1, howes.2, quote_eq_zero howes.1]
  · intro hdebt state' hstate'
    obtain rfl := Except.ok.inj (hstate.symm.trans hstate')
    have hquote : ∀ a, (accountFor state a).debtAssets = w.pool.book.quote a := fun a ↦
      (applyLogs_debtAssets hstate a).trans (hdebt a)
    constructor
    · intro a quote _ hq
      rw [hquote a, Storage.debtQuoteAssets_ok hq]
    · rintro H _ prims s direct number hash one other now rfl hdirect hone hother
      have hsame := canonicalState_eq hbound hagrees hquote hdirect
      obtain ⟨run, s', hrun, ⟨_, hconsistent, _⟩ | ⟨hdiffer, _⟩⟩ :=
        reconcile_honest prims s now (validate_direct hdirect) hone hother
      · exact ⟨run, s', hrun, hconsistent⟩
      · rw [hsame] at hdiffer
        exact absurd rfl hdiffer

end Promise

/-- **The projected debt follows the pool exactly along undisturbed histories.**  From a deployment,
the promise holds in every state of a history if and only if no call of it that goes through
recognises bad debt or changes the quote of an account it is not about. -/
theorem debtShown_along_iff {mkt : Market} {w : World} (h : Deployed mkt w)
    (descriptor : Descriptor) (inputs : List ChainInput) :
    Run.Along (chainStep mkt) (DebtShown mkt descriptor) w inputs ↔
      Run.Steps (chainStep mkt) (Undisturbed mkt) w inputs := by
  obtain ⟨hsettled, hagrees⟩ := Deployed.settled h
  have hconfigured := Deployed.configured h descriptor
  refine Run.along_iff_steps
    (I := fun w ↦ Sound mkt w ∧ Settled w ∧ Configured mkt descriptor w) ?_ ?_ inputs
    ⟨h.sound, hsettled, hconfigured⟩ ((debtShown_iff h.sound hsettled hconfigured).2 hagrees)
  · rintro w i ⟨hs, hsettled, hc⟩
    exact ⟨chainStep_sound i hs, chainStep_settled i hs hsettled, chainStep_configured i hc⟩
  · rintro w i ⟨hs, hsettled, hc⟩ hshown
    rw [debtShown_iff (chainStep_sound i hs) (chainStep_settled i hs hsettled)
      (chainStep_configured i hc)]
    exact chainStep_debtAgrees_iff i hs hsettled ((debtShown_iff hs hsettled hc).1 hshown)

/-- A call disturbs nobody if the account it is about is the only one that owes shares, and it
recognises no bad debt. -/
theorem undisturbed_of_free {mkt : Market} {msg : Msg} {w : World} {c : Call}
    (hfree : ∀ a, debtorOf msg c ≠ some a → w.pool.debtSharesOf a = 0)
    (hbad : (chainStep mkt w (.call msg c)).pool.badDebtAssets ≤ w.pool.badDebtAssets) :
    Undisturbed mkt w (.call msg c) := by
  intro w' h
  have hw : chainStep mkt w (.call msg c) = w' := by rw [chainStep, h]
  refine ⟨hw ▸ hbad, fun a ha ↦ ?_⟩
  simp only [hfree a ha, Rounding.quoteUp, Nat.zero_mul, zero_ceilDiv]

/-- A call disturbs nobody if a share is worth one asset before it and after it. -/
theorem undisturbed_of_par {mkt : Market} {msg : Msg} {w : World} {c : Call}
    (hpar : 0 < w.pool.totalDebtShares ∧ w.pool.book.performing = w.pool.totalDebtShares)
    (hpar' : 0 < (chainStep mkt w (.call msg c)).pool.totalDebtShares ∧
      (chainStep mkt w (.call msg c)).pool.book.performing
        = (chainStep mkt w (.call msg c)).pool.totalDebtShares)
    (hbad : (chainStep mkt w (.call msg c)).pool.badDebtAssets ≤ w.pool.badDebtAssets) :
    Undisturbed mkt w (.call msg c) := by
  intro w' h
  have hw : chainStep mkt w (.call msg c) = w' := by rw [chainStep, h]
  rw [hw] at hpar' hbad
  refine ⟨hbad, fun a _ ↦ ?_⟩
  rw [hpar.2, hpar'.2, Rounding.quoteUp_par _ hpar.1, Rounding.quoteUp_par _ hpar'.1]

/-- A call that is about nobody's debt leaves all shares as they are. -/
theorem chainStep_shares {mkt : Market} {msg : Msg} (w : World) {c : Call}
    (hnone : debtorOf msg c = none) (a : Address) :
    (chainStep mkt w (.call msg c)).pool.debtSharesOf a = w.pool.debtSharesOf a := by
  rw [chainStep]
  split
  · rename_i w' h
    refine (exec_bystander h ?_).shares
    rw [hnone]
    exact (Option.some_ne_none a).symm
  · rfl

/-- Two loans are shown at every step of a history in which no interest runs. -/
theorem debtShown_along_twoLoans :
    Run.Along (chainStep Pool.Sample.market) (DebtShown Pool.Sample.market Sample.descriptor)
        Pool.Sample.world Pool.Sample.twoLoans ∧
      (Pool.Sample.after Pool.Sample.twoLoans).pool.debtSharesOf 2 = 1000 ∧
      (Pool.Sample.after Pool.Sample.twoLoans).pool.debtSharesOf 3 = 500 := by
  refine ⟨(debtShown_along_iff Pool.Sample.deployed Sample.descriptor Pool.Sample.twoLoans).2
    ⟨undisturbed_of_free (fun _ _ ↦ rfl) (by decide +kernel), undisturbed_of_free ?_
      (by decide +kernel), undisturbed_of_free ?_ (by decide +kernel), ?_, ?_, ?_, trivial⟩,
    by decide +kernel, by decide +kernel⟩
  · intro a _
    exact chainStep_shares _ rfl a
  · intro a _
    exact (chainStep_shares _ rfl a).trans (chainStep_shares _ rfl a)
  -- from the second deposit on a share is worth one asset
  · exact undisturbed_of_par (by decide +kernel) (by decide +kernel) (by decide +kernel)
  · exact undisturbed_of_par (by decide +kernel) (by decide +kernel) (by decide +kernel)
  · exact undisturbed_of_par (by decide +kernel) (by decide +kernel) (by decide +kernel)

/-- The loan of `Sample.loan` runs for 32 weeks, and somebody has the pool accrue. -/
def Sample.idle : List ChainInput :=
  Pool.Sample.loan ++ [Pool.Sample.call 1 19354600 (2000 * 10 ^ 18) 2 .accrueInterest]

/-- After 32 weeks account `2` owes 1550, and the projection still shows the 1000 of its loan.
Reconciling with two honest reads finds a mismatch and freezes new risk. -/
theorem debt_goes_stale :
    let w := Pool.Sample.after Sample.idle
    Reachable Pool.Sample.market w ∧ w.pool.debtQuoteAssets 2 = .ok 1550 ∧
    ¬ DebtShown Pool.Sample.market Sample.descriptor w ∧
    ∃ state direct, applyLogs (initialState Sample.descriptor) w.logs = .ok state ∧
      (accountFor state 2).debtAssets = 1000 ∧
      directState Sample.descriptor Pool.Sample.market w.pool state.accounts.keys = .ok direct ∧
      ∀ (s : System (List ℕ)) (number : ℕ) (hash : Bytes32) (one other : DirectRead) (now : ℕ),
        s.indexer.state = state →
        HonestRead Sample.descriptor direct number hash .primary one →
        HonestRead Sample.descriptor direct number hash .secondary other →
        ∃ run s', reconcile Sample.prims Sample.descriptor s [one, other] now none
            = (.ok run, s') ∧
          run.reasonCode = .projectionMismatch ∧
          s'.indexer.riskControl.newRiskFrozen = true := by
  intro w
  have hquote : w.pool.debtQuoteAssets 2 = .ok 1550 := by decide +kernel
  have howes : w.pool.debtSharesOf 2 ≠ 0 := by decide +kernel
  obtain ⟨state, hstate, _, hbound⟩ :=
    Reachable.configured (Pool.Sample.reachable Sample.idle) Sample.descriptor
  have hdebt : (accountFor state 2).debtAssets = 1000 := by
    rw [applyLogs_debtAssets hstate]
    decide +kernel
  have hknown : (applyLogs (initialState Sample.descriptor) w.logs).toOption.map
      (fun state ↦ decide (2 ∈ state.accounts.keys) && (directState Sample.descriptor
        Pool.Sample.market w.pool state.accounts.keys).isOk) = some true := by decide +kernel
  rw [hstate] at hknown
  obtain ⟨hkey, hread⟩ := Bool.and_eq_true_iff.1 (Option.some.inj hknown)
  obtain ⟨direct, hdirect⟩ := isOk_iff.1 hread
  refine ⟨Pool.Sample.reachable _, hquote, ?_, state, direct, hstate, hdebt, hdirect, ?_⟩
  · intro hshown
    have hsame := (hshown state hstate).1 2 1550 (.inl howes) hquote
    rw [hdebt] at hsame
    cases hsame
  · rintro s number hash one other now rfl hone hother
    obtain ⟨run, s', hrun, ⟨hsame, _⟩ | ⟨_, _, hcode, hfrozen⟩⟩ :=
      reconcile_honest Sample.prims s now (validate_direct hdirect) hone hother
    · -- the hash has no collisions, so the read would be the projected state
      have hstates := Preimage.economicState.inj (Sample.collisionFree.injective hsame)
      have hsame := debtAssets_of_canonicalState_eq hbound hdirect hstates
        (of_decide_eq_true hkey)
      rw [hdebt, ← Storage.debtQuoteAssets_ok hquote] at hsame
      cases hsame
    · exact ⟨run, s', hrun, hcode, hfrozen⟩

end Indexer
end IpoOne
