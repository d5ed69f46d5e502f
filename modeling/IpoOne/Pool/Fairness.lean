import IpoOne.Pool.Invariant

/-!
# What borrowers owe each other

Debt is owed in shares and quoted rounded up, repayments burn shares rounded down, and the last
borrower of a pool takes a path of its own.  `debt_share_fairness` says that none of this rounding
ever moves debt from one borrower to another, and that nobody is forgiven more than was paid for
them.  Everything is compared with the pool after it has accrued interest up to the call, since
interest is the one thing that raises every quote.
-/

set_option autoImplicit false

namespace IpoOne
namespace Pool

open Evm Fallible Rounding

/-- In a sound world the view of an account's debt returns, and returns the quote of the books. -/
theorem Sound.debtQuoteAssets {mkt : Market} {w : World} (hs : Sound mkt w) (account : Address) :
    w.pool.debtQuoteAssets account = .ok (w.pool.book.quote account) := by
  obtain ⟨hv, _, _, hword⟩ := hs
  have hmine : w.pool.debtSharesOf account ≤ w.pool.totalDebtShares := hv.debtOf_le account
  have hperf : w.pool.performingDebtAssets = .ok w.pool.book.performing :=
    Storage.performingDebtAssets_eq_ok.2 ⟨hv.bad_le, rfl⟩
  unfold Storage.debtQuoteAssets
  simp only
  split
  · rename_i h0
    simp [Book.quote, Storage.book, h0, pure, Except.pure]
  · rename_i h0
    have hT : 0 < w.pool.totalDebtShares := by omega
    rw [bind_eq_ok]
    refine ⟨_, hperf, ?_⟩
    split
    · rename_i hall
      rw [pure_eq_ok]
      have hself := quoteUp_self w.pool.book.performing hT
      simp only [Book.quote, Storage.book, hall] at hself ⊢
      exact hself.symm
    · refine mulDivUp_eq_ok.2 ⟨hT, ?_, rfl⟩
      have hpot := quoteUp_le_pot (P := w.pool.book.performing) hmine hT
      have hgross : w.pool.book.performing ≤ w.pool.grossDebtAssets := Nat.sub_le _ _
      omega

/-- From `w` to `w'` the quote of `account` changes from some `q` to some `q'` as `R` says. -/
def Quotes (R : ℕ → ℕ → Prop) (w w' : World) (account : Address) : Prop :=
  ∃ q q', w.pool.debtQuoteAssets account = .ok q ∧ w'.pool.debtQuoteAssets account = .ok q' ∧
    R q q'

theorem Sound.quotes {mkt : Market} {w w' : World} {account : Address} {R : ℕ → ℕ → Prop}
    (hs : Sound mkt w) (hs' : Sound mkt w')
    (h : R (w.pool.book.quote account) (w'.pool.book.quote account)) :
    Quotes R w w' account :=
  ⟨_, _, hs.debtQuoteAssets account, hs'.debtQuoteAssets account, h⟩

/-- Nobody but `account` owes more in `w'` than in `w`. -/
def SparesOthers (w w' : World) (account : Address) : Prop :=
  ∀ other, other ≠ account → Quotes (fun q q' ↦ q' ≤ q) w w' other

section Fairness

variable {mkt : Market} {msg : Msg} {w w₁ w' : World}

theorem accrueToCurrent_sound (hs : Sound mkt w) (h : accrueToCurrent mkt msg w = .ok w₁) :
    Sound mkt w₁ :=
  effects_sound (accrueToCurrent_ok h).effects hs

theorem exec_sound {c : Call} (hs : Sound mkt w) (h : exec mkt msg w c = .ok w') : Sound mkt w' :=
  effects_sound (exec_effects h) hs

theorem borrow_fair {amount shares : ℕ} (hs : Sound mkt w)
    (hacc : accrueToCurrent mkt msg w = .ok w₁)
    (h : borrow mkt msg amount w = .ok (w', shares)) :
    SparesOthers w₁ w' msg.sender ∧ Quotes (fun q q' ↦ q + amount ≤ q') w₁ w' msg.sender := by
  have hs₁ := accrueToCurrent_sound hs hacc
  have hexec : exec mkt msg w (.borrow amount) = .ok w' := bind_eq_ok.2 ⟨_, h, rfl⟩
  have hs' := exec_sound hs hexec
  obtain ⟨w₁', w₂, t, debtAfter, hacc', hobs, hallows, _, _, _, hw⟩ := borrow_ok h
  cases hacc.symm.trans hacc'
  have hbook : w'.pool.book = w₁.pool.book.post (.borrow msg.sender amount shares) := by
    rw [hw, ← hobs.book]
    rfl
  rw [hobs.book] at hallows
  refine ⟨fun other hne ↦ hs₁.quotes hs' ?_, hs₁.quotes hs' ?_⟩
  · rw [hbook]
    exact hs₁.books.quote_other hallows (by simp) (by simpa [Book.debtor] using hne.symm)
  · rw [hbook]
    exact hs₁.books.quote_borrow hallows

theorem repay_fair {amount : ℕ} {r : Repayment} (hs : Sound mkt w)
    (hacc : accrueToCurrent mkt msg w = .ok w₁) (h : repay mkt msg amount w = .ok (w', r)) :
    SparesOthers w₁ w' msg.sender ∧
      Quotes (fun q q' ↦ q ≤ q' + r.debtReducedAssets) w₁ w' msg.sender ∧
      r.sharesBurned ≤ w₁.pool.debtSharesOf msg.sender ∧
      r.debtReducedAssets + r.reserveDustAssets = amount ∧
      w'.pool.cashAssets = w₁.pool.cashAssets + amount := by
  have hs₁ := accrueToCurrent_sound hs hacc
  have hexec : exec mkt msg w (.repay amount) = .ok w' := bind_eq_ok.2 ⟨_, h, rfl⟩
  have hs' := exec_sound hs hexec
  obtain ⟨w₁', hacc', ⟨_, h⟩ | ⟨_, h⟩⟩ := repay_ok h
  · cases hacc.symm.trans hacc'
    obtain ⟨t, hallows, _, rfl, rfl⟩ := repayBadDebt_ok h
    refine ⟨fun other _ ↦ hs₁.quotes hs' ?_, hs₁.quotes hs' ?_, Nat.zero_le _, rfl, rfl⟩
    · exact hs₁.books.quote_other hallows (by simp) (by simp [Book.debtor])
    · -- an account with bad debt owes no shares
      have hnone : w₁.pool.book.quote msg.sender = 0 := by
        rw [Book.quote, hallows.1, quoteUp_zero]
      omega
  · cases hacc.symm.trans hacc'
    obtain ⟨t, debtAfter, hallows, _, hdust, _, rfl⟩ := repayPerforming_ok h
    have hpaid : r.debtReducedAssets ≤ amount := hallows.2.2.2.2.2.2
    refine ⟨fun other hne ↦ hs₁.quotes hs' ?_, hs₁.quotes hs' ?_, hallows.2.2.2.1, by omega, rfl⟩
    · exact hs₁.books.quote_other hallows (by simp) (by simpa [Book.debtor] using hne.symm)
    · exact hs₁.books.quote_repay hallows

/-- The two events a liquidation ends with. -/
def liquidationLogs (mkt : Market) (msg : Msg) (borrower : Address)
    (amount reduced shares dust debtAfter cashAfter seized bad : ℕ) : List PoolLog :=
  [⟨mkt.marketId, .assetsRepaid borrower msg.sender amount reduced shares dust debtAfter cashAfter,
      msg.timestamp⟩,
    ⟨mkt.marketId, .positionLiquidated borrower msg.sender amount seized bad, msg.timestamp⟩]

theorem liquidate_fair {borrower : Address} {amount minOut deadline seized bad : ℕ}
    (hs : Sound mkt w) (hacc : accrueToCurrent mkt msg w = .ok w₁)
    (h : liquidate mkt msg borrower amount minOut deadline w = .ok (w', seized, bad)) :
    SparesOthers w₁ w' borrower ∧ ∃ earlier reduced shares dust debtAfter,
      w'.logs = earlier ++ liquidationLogs mkt msg borrower amount reduced shares dust debtAfter
        w'.pool.cashAssets seized bad ∧
      (bad = 0 → Quotes (fun q q' ↦ q ≤ q' + reduced) w₁ w' borrower) ∧
      shares ≤ w₁.pool.debtSharesOf borrower ∧ reduced + dust = amount ∧
      w'.pool.cashAssets = w₁.pool.cashAssets + amount := by
  have hs₁ := accrueToCurrent_sound hs hacc
  have hexec : exec mkt msg w (.liquidate borrower amount minOut deadline) = .ok w' :=
    bind_eq_ok.2 ⟨_, h, rfl⟩
  have hs' := exec_sound hs hexec
  obtain ⟨w₁', w₂, w₃, price, t, t', shares, reduced, debtAfter, hacc', hobs, _, _, _, hallows, _,
    rfl, hrelease, _, _, hw⟩ := liquidate_ok h
  cases hacc.symm.trans hacc'
  have hbook := (refreshCurrentPrice_ok hobs).book
  have hcash : w₂.pool.cashAssets = w₁.pool.cashAssets := congrArg Book.cash hbook
  have hpaid : reduced ≤ amount := hallows.2.2.2.2.2.2
  have hmine : shares ≤ w₁.pool.debtSharesOf borrower := by
    have hmine : shares ≤ w₂.pool.book.debtOf borrower := hallows.2.2.2.1
    rw [hbook] at hmine
    exact hmine
  rw [hbook] at hallows
  have hv₃ := hs₁.books.post hallows
  -- what the repayment does to the quotes, before any write-off
  have hother : ∀ other, other ≠ borrower →
      (w₁.pool.book.post (.repay borrower amount shares reduced)).quote other
        ≤ w₁.pool.book.quote other := fun other hne ↦
    hs₁.books.quote_other hallows (by simp) (by simpa [Book.debtor] using hne.symm)
  rcases hw with ⟨rfl, _, rfl⟩ | ⟨hpos, hwrite, _, rfl⟩
  · have hafter : ∀ account, (bookSeizure mkt msg borrower amount seized t'
        (bookRepayment mkt msg borrower amount shares reduced debtAfter t w₂)).pool.book.quote
          account
        = (w₁.pool.book.post (.repay borrower amount shares reduced)).quote account := by
      intro account
      rw [← hbook]
      rfl
    refine ⟨fun other hne ↦ hs₁.quotes hs' ?_, w₂.logs, reduced, shares, amount - reduced,
      debtAfter, ?_, fun _ ↦ hs₁.quotes hs' ?_, hmine, by omega, ?_⟩
    · rw [hafter]
      exact hother other hne
    · exact List.append_assoc ..
    · rw [hafter]
      exact hs₁.books.quote_repay hallows
    · exact congrArg (· + amount) hcash
  · have hafter : ∀ account, (bookWriteOff mkt msg borrower amount seized bad t'
        (bookRepayment mkt msg borrower amount shares reduced debtAfter t w₂)).pool.book.quote
          account
        = ((w₁.pool.book.post (.repay borrower amount shares reduced)).post
          (.writeOff borrower bad)).quote account := by
      intro account
      rw [← hbook]
      rfl
    have hwrite' : (w₁.pool.book.post (.repay borrower amount shares reduced)).Allows
        (.writeOff borrower bad) := by
      rw [← hbook]
      exact hwrite
    refine ⟨fun other hne ↦ hs₁.quotes hs' ?_, w₂.logs, reduced, shares, amount - reduced,
      debtAfter, ?_, fun h0 ↦ absurd h0 hpos.ne', hmine, by omega, ?_⟩
    · rw [hafter]
      exact (hv₃.quote_other hwrite' (by simp) (by simpa [Book.debtor] using hne.symm)).trans
        (hother other hne)
    · exact List.append_assoc ..
    · exact congrArg (· + amount) hcash

end Fairness

/-- **Debt shares are fair between borrowers.**  In every reachable world, after accrual:
no loan, repayment or liquidation of one account raises what another one owes; a loan adds at least
its amount to the borrower's quote; a repayment, or the repayment of a liquidation, burns no more
shares than the holder has, splits into the debt it reduces and dust that stays in the pool's cash,
and without a write-off forgives no more than the debt it reduces. -/
theorem debt_share_fairness {mkt : Market} {msg : Msg} {w w₁ : World} (h : Reachable mkt w)
    (hacc : accrueToCurrent mkt msg w = .ok w₁) :
    (∀ amount shares w', borrow mkt msg amount w = .ok (w', shares) →
      SparesOthers w₁ w' msg.sender ∧
        Quotes (fun q q' ↦ q + amount ≤ q') w₁ w' msg.sender) ∧
    (∀ amount r w', repay mkt msg amount w = .ok (w', r) →
      SparesOthers w₁ w' msg.sender ∧
        Quotes (fun q q' ↦ q ≤ q' + r.debtReducedAssets) w₁ w' msg.sender ∧
        r.sharesBurned ≤ w₁.pool.debtSharesOf msg.sender ∧
        r.debtReducedAssets + r.reserveDustAssets = amount ∧
        w'.pool.cashAssets = w₁.pool.cashAssets + amount) ∧
    (∀ borrower amount minOut deadline seized bad w',
      liquidate mkt msg borrower amount minOut deadline w = .ok (w', seized, bad) →
      SparesOthers w₁ w' borrower ∧ ∃ earlier reduced shares dust debtAfter,
        w'.logs = earlier ++ liquidationLogs mkt msg borrower amount reduced shares dust debtAfter
          w'.pool.cashAssets seized bad ∧
        (bad = 0 → Quotes (fun q q' ↦ q ≤ q' + reduced) w₁ w' borrower) ∧
        shares ≤ w₁.pool.debtSharesOf borrower ∧ reduced + dust = amount ∧
        w'.pool.cashAssets = w₁.pool.cashAssets + amount) :=
  ⟨fun _ _ _ hb ↦ borrow_fair h.sound hacc hb, fun _ _ _ hr ↦ repay_fair h.sound hacc hr,
    fun _ _ _ _ _ _ _ hl ↦ liquidate_fair h.sound hacc hl⟩

/-- After `Sample.loan` and a new deposit, account `3` borrows too. -/
def Sample.twoLoans : List ChainInput :=
  Sample.loan ++
    [call 1 1000 (2000 * 10 ^ 18) 1 (.supply 1000),
      call 3 1000 (2000 * 10 ^ 18) 1 (.addCollateral (10 ^ 12)),
      call 3 1000 (2000 * 10 ^ 18) 1 (.borrow 500)]

/-- A week later account `2` borrows or repays another hundred, and account `3` owes no more for
it. -/
theorem debt_share_fairness_twoLoans :
    let msg : Msg := ⟨2, 604600, some (Sample.observation (2000 * 10 ^ 18) 604600 2)⟩
    let w := Sample.after Sample.twoLoans
    ∃ w₁ w₂ w₃ shares r, accrueToCurrent Sample.market msg w = .ok w₁ ∧
      borrow Sample.market msg 100 w = .ok (w₂, shares) ∧
      Quotes (fun q q' ↦ q' ≤ q) w₁ w₂ 3 ∧ Quotes (fun q q' ↦ q + 100 ≤ q') w₁ w₂ 2 ∧
      repay Sample.market msg 100 w = .ok (w₃, r) ∧
      Quotes (fun q q' ↦ q' ≤ q) w₁ w₃ 3 ∧
      Quotes (fun q q' ↦ q ≤ q' + r.debtReducedAssets) w₁ w₃ 2 := by
  intro msg w
  have hok₁ : (accrueToCurrent Sample.market msg w).isOk = true := by decide +kernel
  have hok₂ : (borrow Sample.market msg 100 w).isOk = true := by decide +kernel
  have hok₃ : (repay Sample.market msg 100 w).isOk = true := by decide +kernel
  obtain ⟨w₁, hacc⟩ := isOk_iff.1 hok₁
  obtain ⟨⟨w₂, shares⟩, hborrow⟩ := isOk_iff.1 hok₂
  obtain ⟨⟨w₃, r⟩, hrepay⟩ := isOk_iff.1 hok₃
  obtain ⟨hborrows, hrepays, -⟩ := debt_share_fairness (Sample.reachable Sample.twoLoans) hacc
  obtain ⟨hspares, hborrower⟩ := hborrows 100 shares w₂ hborrow
  obtain ⟨hspares', hborrower', -⟩ := hrepays 100 r w₃ hrepay
  exact ⟨w₁, w₂, w₃, shares, r, hacc, hborrow, hspares 3 (by decide), hborrower, hrepay,
    hspares' 3 (by decide), hborrower'⟩

end Pool
end IpoOne
