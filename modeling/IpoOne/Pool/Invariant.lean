import IpoOne.Pool.Effect

/-!
# The accounting invariant of the pool

`Sound` is what holds in every world a deployed pool can reach: the books are balanced, and the two
tokens the pool holds cover its cash and all the collateral.  It is proved for one effect
(`Effect.sound`) and follows for chains of effects, for calls, and for whole histories of the chain.

The second half of the file is about what the invariant buys.  The contract subtracts unchecked
amounts in many places and relies on the compiler's underflow check; where the books are balanced,
none of the subtractions of a repayment or a liquidation can fail (`avoids_repay`,
`avoids_liquidate`).  `reachable_accounting` puts both halves together.
-/

set_option autoImplicit false

namespace IpoOne
namespace Pool

open Evm Fallible Rounding

/-! ## Effects keep the books -/

section Effects

variable {mkt : Market} {msg : Msg} {w w' : World}

/-- The entries an effect books. -/
theorem Effect.posts (h : Effect mkt msg w w') : ∃ es, w.pool.book.Posts es w'.pool.book := by
  cases h with
  | paused paused => exact ⟨[], rfl⟩
  | halted halted previous candidate => exact ⟨[], rfl⟩
  | observed observation => exact ⟨[], rfl⟩
  | accrued now chunks interest reserve allows bound => exact ⟨[_], allows, rfl⟩
  | supplied assets shares t allows pulled => exact ⟨[_], allows, rfl⟩
  | withdrawn assets shares t allows pushed => exact ⟨[_], allows, rfl⟩
  | pledged assets t pulled => exact ⟨[.pledge msg.sender assets], trivial, rfl⟩
  | released assets t allows pushed => exact ⟨[_], allows, rfl⟩
  | borrowed assets shares debtAfter t allows bound pushed => exact ⟨[_], allows, rfl⟩
  | repaid account assets shares reduced debtAfter t allows pulled => exact ⟨[_], allows, rfl⟩
  | seized borrower repaid seized t allows pushed => exact ⟨[_], allows, rfl⟩
  | writtenOff borrower repaid seized bad t allows allows' positive pushed =>
    exact ⟨[.release borrower seized, .writeOff borrower bad], allows, allows', rfl⟩
  | recovered assets t allows pulled => exact ⟨[_], allows, rfl⟩

/-- The accounting invariant of a pool and the tokens it holds. -/
structure Sound (mkt : Market) (w : World) : Prop where
  books : w.pool.book.Valid
  /-- Every asset the pool accounts for as cash is there. -/
  cash : w.pool.cashAssets ≤ w.debtToken.balanceOf mkt.self
  /-- Every pledged asset is there. -/
  collateral : ∑ a, w.pool.collateralAssetsOf a ≤ w.collateralToken.balanceOf mkt.self
  /-- The debt fits a word. -/
  word : w.pool.grossDebtAssets < wordModulus

/-- An effect never pays out more than it books. -/
theorem Effect.custody (h : Effect mkt msg w w') (hs : Sound mkt w) :
    w'.pool.cashAssets ≤ w'.debtToken.balanceOf mkt.self ∧
      ∑ a, w'.pool.collateralAssetsOf a ≤ w'.collateralToken.balanceOf mkt.self ∧
      w'.pool.grossDebtAssets < wordModulus := by
  obtain ⟨_, hcash, hcoll, hword⟩ := hs
  cases h with
  | paused paused => exact ⟨hcash, hcoll, hword⟩
  | halted halted previous candidate => exact ⟨hcash, hcoll, hword⟩
  | observed observation => exact ⟨hcash, hcoll, hword⟩
  | accrued now chunks interest reserve allows bound => exact ⟨hcash, hcoll, bound hword⟩
  | supplied assets shares t allows pulled =>
    refine ⟨?_, hcoll, hword⟩
    unfold Pulled at pulled
    simp only [bookSupply, emitLog]; omega
  | withdrawn assets shares t allows pushed =>
    refine ⟨?_, hcoll, hword⟩
    unfold Pushed at pushed
    simp only [bookWithdrawal, emitLog]; omega
  | pledged assets t pulled =>
    refine ⟨hcash, ?_, hword⟩
    unfold Pulled at pulled
    have hsum := Book.sum_update w.pool.collateralAssetsOf msg.sender
      (w.pool.collateralAssetsOf msg.sender + assets)
    simp only [bookPledge, emitLog]; omega
  | released assets t allows pushed =>
    refine ⟨hcash, ?_, hword⟩
    unfold Pushed at pushed
    have hle : assets ≤ w.pool.collateralAssetsOf msg.sender := allows
    have hsum := Book.sum_update w.pool.collateralAssetsOf msg.sender
      (w.pool.collateralAssetsOf msg.sender - assets)
    simp only [bookRelease, emitLog]; omega
  | borrowed assets shares debtAfter t allows bound pushed =>
    refine ⟨?_, hcoll, bound⟩
    have hle : assets ≤ w.pool.cashAssets := allows.1
    unfold Pushed at pushed
    simp only [bookBorrow, emitLog]; omega
  | repaid account assets shares reduced debtAfter t allows pulled =>
    unfold Pulled at pulled
    refine ⟨?_, hcoll, ?_⟩
    · simp only [bookRepayment, emitLog]; omega
    · simp only [bookRepayment, emitLog]; omega
  | seized borrower repaid seized t allows pushed =>
    refine ⟨hcash, ?_, hword⟩
    unfold Pushed at pushed
    have hle : seized ≤ w.pool.collateralAssetsOf borrower := allows
    have hsum := Book.sum_update w.pool.collateralAssetsOf borrower
      (w.pool.collateralAssetsOf borrower - seized)
    simp only [bookSeizure, emitLog]; omega
  | writtenOff borrower repaid seized bad t allows allows' positive pushed =>
    refine ⟨hcash, ?_, hword⟩
    unfold Pushed at pushed
    have hle : seized ≤ w.pool.collateralAssetsOf borrower := allows
    have hsum := Book.sum_update w.pool.collateralAssetsOf borrower
      (w.pool.collateralAssetsOf borrower - seized)
    simp only [bookWriteOff, emitLog]; omega
  | recovered assets t allows pulled =>
    unfold Pulled at pulled
    refine ⟨?_, hcoll, ?_⟩
    · simp only [bookRecovery, emitLog]; omega
    · simp only [bookRecovery, emitLog]; omega

/-- **One effect keeps the invariant.** -/
theorem Effect.sound (h : Effect mkt msg w w') (hs : Sound mkt w) : Sound mkt w' := by
  obtain ⟨es, hes⟩ := h.posts
  obtain ⟨hcash, hcoll, hword⟩ := h.custody hs
  exact ⟨hs.books.posts hes, hcash, hcoll, hword⟩

theorem effects_sound (h : Relation.ReflTransGen (Effect mkt msg) w w') (hs : Sound mkt w) :
    Sound mkt w' := by
  induction h with
  | refl => exact hs
  | tail _ he ih => exact he.sound ih

end Effects

/-! ## Histories keep the books -/

theorem chainStep_sound {mkt : Market} {w : World} (i : ChainInput) (hs : Sound mkt w) :
    Sound mkt (chainStep mkt w i) := by
  cases i with
  | call msg c =>
    simp only [chainStep]
    split
    · rename_i w' h
      exact effects_sound (exec_effects h) hs
    · exact hs
  | tokens debtToken collateralToken =>
    simp only [chainStep]
    split
    · rename_i hle
      exact ⟨hs.books, hs.cash.trans hle.1, hs.collateral.trans hle.2, hs.word⟩
    · exact hs

theorem Deployed.sound {mkt : Market} {w : World} (h : Deployed mkt w) : Sound mkt w := by
  obtain ⟨env, cfg, debtToken, collateralToken, h⟩ := h
  simp only [deploy, bind_eq_ok, pure_eq_ok, Prod.mk.injEq] at h
  obtain ⟨_, _, observation, _, _, _, rfl, rfl⟩ := h
  refine ⟨⟨?_, ?_, ?_, le_rfl, le_rfl, fun _ ↦ rfl, fun _ ↦ .inl rfl⟩, Nat.zero_le _, ?_, ?_⟩
  · exact Finset.sum_const_zero
  · exact Finset.sum_const_zero
  · exact Finset.sum_const_zero
  · exact (Finset.sum_const_zero).le.trans (Nat.zero_le _)
  · exact Nat.two_pow_pos 256

/-- **Every reachable world is sound.** -/
theorem Reachable.sound {mkt : Market} {w : World} (h : Reachable mkt w) : Sound mkt w := by
  obtain ⟨w₀, hw₀, hrun⟩ := h
  exact Run.reachable_induct (fun _ i hs ↦ chainStep_sound i hs) hw₀.sound hrun

/-! ## What cannot underflow

A subtraction that might fail is preceded by a check, or bounded by the books.  The lemmas follow
the contract's call graph from the leaves up. -/

section Underflow

variable {mkt : Market} {msg : Msg} {st : Storage} {w : World}

theorem avoids_performingDebtAssets (h : st.badDebtAssets ≤ st.grossDebtAssets) :
    Avoids .underflow st.performingDebtAssets :=
  avoids_sub h

theorem avoids_debtQuoteAssets (h : st.badDebtAssets ≤ st.grossDebtAssets) (account : Address) :
    Avoids .underflow (st.debtQuoteAssets account) := by
  unfold Storage.debtQuoteAssets
  simp only
  split
  · exact avoids_ok _ _
  · refine (avoids_performingDebtAssets h).bind fun performing _ ↦ ?_
    split
    · exact avoids_ok _ _
    · exact avoids_mulDivUp _ _ _

theorem avoids_pullExact (t : Token Address) (source : Address) (amount : ℕ) :
    Avoids .underflow (pullExact mkt t source amount) := by
  refine Avoids.bind ?_ fun _ _ ↦ (avoids_revertIf _ _ _).bind fun _ _ ↦ avoids_ok _ _
  unfold Token.transferFrom Avoids
  split <;> simp

theorem avoids_pushExact (t : Token Address) (target : Address) (amount : ℕ) :
    Avoids .underflow (pushExact mkt t target amount) := by
  refine Avoids.bind ?_ fun _ _ ↦ (avoids_revertIf _ _ _).bind fun _ _ ↦ avoids_ok _ _
  unfold Token.transfer Avoids
  split <;> simp

theorem avoids_accrueChunk (cash now : ℕ) (a : Accrual) :
    Avoids .underflow (accrueChunk cash now a) := by
  refine (SecuredPoolMathV1.avoids_borrowAprBps _ _).bind fun _ _ ↦ ?_
  refine (SecuredPoolMathV1.avoids_interestAtRate _ _ _).bind fun ⟨_, _⟩ _ ↦ ?_
  refine (avoids_add _ _).bind fun _ _ ↦ (avoids_add _ _).bind fun _ _ ↦ ?_
  refine (avoids_add _ _).bind fun _ _ ↦ (avoids_add _ _).bind fun _ _ ↦ ?_
  exact (avoids_add _ _).bind fun _ _ ↦ (avoids_add _ _).bind fun _ _ ↦ avoids_ok _ _

theorem avoids_accrueChunks (cash now chunksLeft : ℕ) (a : Accrual) :
    Avoids .underflow (accrueChunks cash now chunksLeft a) := by
  induction chunksLeft generalizing a with
  | zero => exact avoids_ok _ _
  | succ chunksLeft ih =>
    rw [accrueChunks]
    split
    · exact (avoids_accrueChunk _ _ _).bind fun _ _ ↦ ih _
    · exact avoids_ok _ _

theorem avoids_accrueToCurrent (h : w.pool.badDebtAssets ≤ w.pool.grossDebtAssets) :
    Avoids .underflow (accrueToCurrent mkt msg w) := by
  refine Avoids.bind ?_ fun ⟨_, _⟩ _ ↦ (avoids_revertIf _ _ _).bind fun _ _ ↦ avoids_ok _ _
  refine (avoids_revertIf _ _ _).bind fun _ _ ↦ ?_
  refine (avoids_performingDebtAssets h).bind fun performing _ ↦ Avoids.bind ?_ fun a _ ↦ ?_
  · split
    · exact avoids_ok _ _
    · exact avoids_accrueChunks _ _ _ _
  · split <;> exact avoids_ok _ _

theorem avoids_readValidObservation : Avoids .underflow (readValidObservation mkt msg) := by
  refine Avoids.bind ?_ fun _ _ ↦ Avoids.bind ?_ fun _ _ ↦ avoids_ok _ _
  · unfold latestPrice Avoids
    split <;> simp
  · refine (avoids_revertIf _ _ _).bind fun _ _ ↦ ?_
    exact (avoids_add _ _).bind fun _ _ ↦ avoids_revertIf _ _ _

theorem avoids_refreshCurrentPrice : Avoids .underflow (refreshCurrentPrice mkt msg w) := by
  refine (avoids_revertIf _ _ _).bind fun _ _ ↦ ?_
  refine avoids_readValidObservation.bind fun observation _ ↦ ?_
  refine (avoids_revertIf _ _ _).bind fun _ _ ↦ Avoids.bind ?_ fun exceeded _ ↦ ?_
  · -- the larger price is the one subtracted from
    refine Avoids.bind ?_ fun _ _ ↦ (avoids_mulDivUp _ _ _).bind fun _ _ ↦ avoids_ok _ _
    split
    · exact avoids_sub (by omega)
    · exact avoids_sub (by omega)
  · refine (avoids_revertIf _ _ _).bind fun _ _ ↦ ?_
    split <;> exact avoids_ok _ _

/-- **No subtraction of a repayment underflows.**  Rounding the burned shares down and their value
up again never exceeds what was paid, and never burns more shares than the holder has. -/
theorem avoids_applyPerformingRepayment (hv : st.book.Valid) (account : Address) (amount : ℕ) :
    Avoids .underflow (applyPerformingRepayment account amount st) := by
  have hbad : st.badDebtAssets ≤ st.grossDebtAssets := hv.bad_le
  have hmine : st.debtSharesOf account ≤ st.totalDebtShares := hv.debtOf_le account
  refine (avoids_debtQuoteAssets hbad account).bind fun quoted hquoted ↦ ?_
  by_cases hguard : quoted = 0 ∨ quoted < amount
  · simp [revertIf, failIf, hguard, Avoids, bind, Except.bind]
  refine (avoids_revertIf _ _ _).bind fun _ _ ↦ ?_
  refine (avoids_performingDebtAssets hbad).bind fun performing hperforming ↦ ?_
  obtain ⟨_, rfl⟩ := Storage.performingDebtAssets_eq_ok.1 hperforming
  have hshares := (Storage.debtQuoteAssets_ne_zero hquoted (by omega)).1
  obtain ⟨hT, hP⟩ := hv.performing_pos hshares
  have hq : quoted = quoteUp (st.debtSharesOf account) st.book.performing st.totalDebtShares :=
    Storage.debtQuoteAssets_ok hquoted
  refine Avoids.bind ?_ fun shares hburned ↦ ?_
  · split
    · exact avoids_ok _ _
    · refine (avoids_mulDiv _ _ _).bind fun _ _ ↦ (avoids_revertIf _ _ _).bind fun _ _ ↦ ?_
      exact (avoids_mulDivUp _ _ _).bind fun _ _ ↦ avoids_ok _ _
  obtain ⟨burned, reduced⟩ := shares
  have hfacts : burned ≤ st.debtSharesOf account ∧ reduced ≤ amount ∧
      reduced = quoteUp burned st.book.performing st.totalDebtShares := by
    split at hburned
    · obtain ⟨rfl, rfl⟩ := Prod.mk.inj (pure_eq_ok.1 hburned)
      exact ⟨le_rfl, le_rfl, by omega⟩
    · simp only [bind_eq_ok, mulDiv_eq_ok, mulDivUp_eq_ok, pure_eq_ok, Prod.mk.injEq] at hburned
      obtain ⟨_, ⟨_, _, rfl⟩, _, _, _, ⟨_, _, rfl⟩, rfl, rfl⟩ := hburned
      have hlt : amount < quoteUp (st.debtSharesOf account) st.book.performing
          st.totalDebtShares := by omega
      exact ⟨(floor_lt_of_lt_quoteUp hP hT hlt).le, quoteUp_floor_le amount hT, rfl⟩
  obtain ⟨hle, hpaid, hreduced⟩ := hfacts
  have hpot : reduced ≤ st.book.performing := hreduced ▸ quoteUp_le_pot (hle.trans hmine) hT
  have hgross : reduced ≤ st.grossDebtAssets := hpot.trans (Nat.sub_le _ _)
  refine (avoids_sub hpaid).bind fun _ _ ↦ (avoids_add _ _).bind fun _ _ ↦ ?_
  refine (avoids_sub hgross).bind fun _ _ ↦ (avoids_add _ _).bind fun _ _ ↦ ?_
  refine (avoids_sub (hle.trans hmine)).bind fun _ _ ↦ (avoids_sub hle).bind fun _ _ ↦ ?_
  exact avoids_ok _ _

theorem avoids_recognizeBadDebt (hv : st.book.Valid) (account : Address) :
    Avoids .underflow (recognizeBadDebt account st) := by
  refine (avoids_debtQuoteAssets hv.bad_le account).bind fun _ _ ↦ ?_
  refine (avoids_revertIf _ _ _).bind fun _ _ ↦ ?_
  refine (avoids_sub (hv.debtOf_le account)).bind fun _ _ ↦ ?_
  exact (avoids_add _ _).bind fun _ _ ↦ (avoids_add _ _).bind fun _ _ ↦ avoids_ok _ _

theorem avoids_repayBadDebt (hv : w.pool.book.Valid) (amount : ℕ) :
    Avoids .underflow (repayBadDebt mkt msg amount w) := by
  have hmine : w.pool.badDebtAssetsOf msg.sender ≤ w.pool.badDebtAssets := hv.badOf_le msg.sender
  have hbad : w.pool.badDebtAssets ≤ w.pool.grossDebtAssets := hv.bad_le
  by_cases hguard : w.pool.debtSharesOf msg.sender ≠ 0 ∨
      w.pool.badDebtAssetsOf msg.sender < amount
  · simp [repayBadDebt, revertIf, failIf, hguard, Avoids, bind, Except.bind]
  refine (avoids_revertIf _ _ _).bind fun _ _ ↦ (avoids_pullExact _ _ _).bind fun _ _ ↦ ?_
  refine (avoids_add _ _).bind fun _ _ ↦ (avoids_sub (by omega)).bind fun _ _ ↦ ?_
  refine (avoids_sub (by omega)).bind fun _ _ ↦ (avoids_sub (by omega)).bind fun _ _ ↦ ?_
  exact avoids_ok _ _

theorem Accrues.valid {w' : World} (h : Accrues mkt msg w w') (hv : w.pool.book.Valid) :
    w'.pool.book.Valid := by
  rcases h with rfl | ⟨now, chunks, interest, reserve, hallows, _, rfl⟩
  · exact hv
  · exact hv.post hallows

theorem avoids_repay (hv : w.pool.book.Valid) (amount : ℕ) :
    Avoids .underflow (repay mkt msg amount w) := by
  refine (avoids_revertIf _ _ _).bind fun _ _ ↦ ?_
  refine (avoids_accrueToCurrent hv.bad_le).bind fun w₁ hw₁ ↦ ?_
  have hv₁ := (accrueToCurrent_ok hw₁).valid hv
  split
  · exact avoids_repayBadDebt hv₁ amount
  · refine (avoids_pullExact _ _ _).bind fun _ _ ↦ ?_
    refine (avoids_applyPerformingRepayment hv₁ _ _).bind fun ⟨st, r⟩ hr ↦ ?_
    obtain ⟨hallows, _, _, rfl⟩ := applyPerformingRepayment_ok hr
    exact (avoids_debtQuoteAssets (hv₁.post hallows).bad_le _).bind fun _ _ ↦ avoids_ok _ _

theorem avoids_settleLiquidation (hv : w.pool.book.Valid) {borrower : Address} {seized : ℕ}
    (hseized : seized ≤ w.pool.collateralAssetsOf borrower) (amount : ℕ) :
    Avoids .underflow (settleLiquidation mkt msg borrower amount seized w) := by
  refine (avoids_pullExact _ _ _).bind fun _ _ ↦ ?_
  refine (avoids_applyPerformingRepayment hv _ _).bind fun repaid hr ↦ ?_
  obtain ⟨st, r⟩ := repaid
  obtain ⟨hallows, _, _, rfl⟩ := applyPerformingRepayment_ok hr
  have hv₂ := hv.post hallows
  refine Avoids.bind ((avoids_sub hseized).bind fun _ _ ↦ avoids_ok _ _) fun st₂ hst₂ ↦ ?_
  simp only [seizeCollateral, bind_eq_ok, sub_eq_ok, pure_eq_ok] at hst₂
  obtain ⟨_, ⟨hle, rfl⟩, hst₂⟩ := hst₂
  have hv₃ : st₂.book.Valid := by
    rw [← hst₂]
    exact hv₂.post (e := .release borrower seized) hle
  refine Avoids.bind ?_ fun recognized hst₄ ↦ ?_
  · split
    · exact avoids_recognizeBadDebt hv₃ borrower
    · exact avoids_ok _ _
  · obtain ⟨st₄, bad⟩ := recognized
    have hv₄ : st₄.book.Valid := by
      split at hst₄
      · obtain ⟨hwrite, _, _, rfl⟩ := recognizeBadDebt_ok hst₄
        exact hv₃.post hwrite
      · cases pure_eq_ok.1 hst₄
        exact hv₃
    refine (avoids_pushExact _ _ _).bind fun _ _ ↦ ?_
    exact (avoids_debtQuoteAssets hv₄.bad_le _).bind fun _ _ ↦ avoids_ok _ _

theorem avoids_quoteLiquidation (hv : st.book.Valid) (borrower : Address) (amount price : ℕ) :
    Avoids .underflow (quoteLiquidation borrower amount price st) := by
  refine (avoids_debtQuoteAssets hv.bad_le _).bind fun _ _ ↦ ?_
  refine (avoids_mulDiv _ _ _).bind fun _ _ ↦ (avoids_mulDiv _ _ _).bind fun _ _ ↦ ?_
  refine (avoids_revertIf _ _ _).bind fun _ _ ↦ (avoids_mulDiv _ _ _).bind fun _ _ ↦ ?_
  refine (avoids_mulDivUp _ _ _).bind fun _ _ ↦ (avoids_revertIf _ _ _).bind fun _ _ ↦ ?_
  refine (avoids_mulDivUp _ _ _).bind fun _ _ ↦ (avoids_mulDivUp _ _ _).bind fun _ _ ↦ ?_
  exact (avoids_revertIf _ _ _).bind fun _ _ ↦ avoids_ok _ _

theorem avoids_liquidate (hv : w.pool.book.Valid) (borrower : Address)
    (amount minOut deadline : ℕ) :
    Avoids .underflow (liquidate mkt msg borrower amount minOut deadline w) := by
  refine (avoids_revertIf _ _ _).bind fun _ _ ↦ ?_
  refine (avoids_accrueToCurrent hv.bad_le).bind fun w₁ hw₁ ↦ ?_
  have hv₁ := (accrueToCurrent_ok hw₁).valid hv
  refine avoids_refreshCurrentPrice.bind fun ⟨w₂, price⟩ hw₂ ↦ ?_
  have hv₂ : w₂.pool.book.Valid := by
    rw [(refreshCurrentPrice_ok hw₂).book]
    exact hv₁
  refine (avoids_quoteLiquidation hv₂ _ _ _).bind fun seized hseized ↦ ?_
  refine (avoids_revertIf _ _ _).bind fun _ _ ↦ ?_
  refine (avoids_settleLiquidation hv₂ (quoteLiquidation_ok hseized).2.1 _).bind fun ⟨_, _⟩ _ ↦ ?_
  exact avoids_ok _ _

end Underflow

/-! ## The accounting invariant -/

/-- **The accounting of every reachable pool.**  Shares, debt and bad debt of all accounts add up to
the totals; a debt share is worth at least one asset, and there is performing debt exactly when
there are debt shares; no account owes debt shares and bad debt at once; the pool's tokens cover
its cash and the collateral; and no subtraction of a repayment, a write-off or a liquidation
underflows. -/
theorem reachable_accounting {mkt : Market} {w : World} (h : Reachable mkt w) :
    (∑ a, w.pool.supplySharesOf a = w.pool.totalSupplyShares) ∧
    (∑ a, w.pool.debtSharesOf a = w.pool.totalDebtShares) ∧
    (∑ a, w.pool.badDebtAssetsOf a = w.pool.badDebtAssets) ∧
    w.pool.badDebtAssets ≤ w.pool.grossDebtAssets ∧
    (w.pool.grossDebtAssets - w.pool.badDebtAssets = 0 ↔ w.pool.totalDebtShares = 0) ∧
    w.pool.totalDebtShares ≤ w.pool.grossDebtAssets - w.pool.badDebtAssets ∧
    (∀ a, ¬ (0 < w.pool.badDebtAssetsOf a ∧ 0 < w.pool.debtSharesOf a)) ∧
    w.pool.cashAssets ≤ w.debtToken.balanceOf mkt.self ∧
    (∑ a, w.pool.collateralAssetsOf a ≤ w.collateralToken.balanceOf mkt.self) ∧
    (∀ account amount, Avoids .underflow (applyPerformingRepayment account amount w.pool)) ∧
    (∀ account, Avoids .underflow (recognizeBadDebt account w.pool)) ∧
    (∀ msg amount, Avoids .underflow (repay mkt msg amount w)) ∧
    (∀ msg borrower amount price seized,
      quoteLiquidation borrower amount price w.pool = .ok seized →
      Avoids .underflow (settleLiquidation mkt msg borrower amount seized w)) ∧
    (∀ msg borrower amount minOut deadline,
      Avoids .underflow (liquidate mkt msg borrower amount minOut deadline w)) := by
  obtain ⟨hv, hcash, hcoll, _⟩ := h.sound
  have hsolvent : w.pool.totalDebtShares ≤ w.pool.grossDebtAssets - w.pool.badDebtAssets :=
    hv.solvent
  refine ⟨hv.supply_sum, hv.debt_sum, hv.bad_sum, hv.bad_le, ?_, hsolvent, ?_, hcash, hcoll,
    avoids_applyPerformingRepayment hv, avoids_recognizeBadDebt hv, fun _ ↦ avoids_repay hv,
    ?_, fun _ ↦ avoids_liquidate hv⟩
  · exact ⟨fun h0 ↦ by omega, hv.empty⟩
  · intro a ⟨hbad, hdebt⟩
    rcases hv.exclusive a with h0 | h0
    · simp only [Storage.book] at h0
      omega
    · simp only [Storage.book] at h0
      omega
  · intro msg borrower amount price seized hquote
    exact avoids_settleLiquidation hv (quoteLiquidation_ok hquote).2.1 amount

/-! ## A market to look at -/

namespace Sample

/-- A complete round of the feed at the given time and price. -/
def observation (priceUsdWad observedAt roundId : ℕ) : PriceObservation where
  priceUsdWad
  observedAt
  roundId
  sourceId := 7
  asset := 11
  marketChainId := 84532
  complete := true

/-- The chain at deployment: a 6-decimals token at `10`, an 18-decimals one at `11`. -/
def env : DeployEnv where
  self := 99
  chainId := 84532
  timestamp := 1000
  codeLength _ := 1
  decimals token := if token = 10 then some 6 else some 18
  latestPrice := some (observation (2000 * 10 ^ 18) 1000 1)
  marketId := 5

/-- The market of the samples, on the test chain. -/
def configuration : MarketConfiguration where
  expectedChainId := 84532
  debtAsset := 10
  collateralAsset := 11
  priceOracle := 12
  marketDebtCapAssets := 10 ^ 12
  borrowerDebtCapAssets := 10 ^ 11
  loanToValueBps := 7500
  pauseGuardian := 20
  recoveryAuthority := 21

/-- Everybody has plenty, and lets the pool take it. -/
def token : Token Address where
  balanceOf _ := 10 ^ 30
  allowance _ := 10 ^ 30

/-- The market the constructor sets up. -/
def market : Market where
  self := 99
  marketId := 5
  marketChainId := 84532
  debtAsset := 10
  collateralAsset := 11
  priceOracle := 12
  oracleSourceId := 7
  marketDebtCapAssets := 10 ^ 12
  borrowerDebtCapAssets := 10 ^ 11
  loanToValueBps := 7500
  pauseGuardian := 20
  recoveryAuthority := 21

/-- The world the constructor leaves. -/
def world : World where
  pool :=
    { cashAssets := 0, grossDebtAssets := 0, reservesAssets := 0, badDebtAssets := 0
      totalSupplyShares := 0, totalDebtShares := 0, lastAccruedAt := 1000
      acceptedPriceUsdWad := 2000 * 10 ^ 18, acceptedOracleObservedAt := 1000
      acceptedOracleRoundId := 1, oracleDeviationHalted := false, newRiskPaused := false
      supplySharesOf := fun _ ↦ 0, collateralAssetsOf := fun _ ↦ 0
      debtSharesOf := fun _ ↦ 0, badDebtAssetsOf := fun _ ↦ 0 }
  debtToken := token
  collateralToken := token
  logs :=
    [⟨5, .oracleObservationAccepted 7 1 (2000 * 10 ^ 18) 1000, 1000⟩,
      ⟨5, .marketInitialized 84532 10 11 12 7 (10 ^ 12) (10 ^ 11) 7500 8000 20 21, 1000⟩]

theorem deployed : Deployed market world := ⟨env, configuration, token, token, rfl⟩

/-- A call at a given time, with the oracle's price and round at that moment. -/
def call (sender : Address) (timestamp priceUsdWad roundId : ℕ) (c : Call) : ChainInput :=
  .call { sender, timestamp, latestPrice := some (observation priceUsdWad timestamp roundId) } c

/-- The world after a history of calls. -/
def after (inputs : List ChainInput) : World := Run.run (chainStep market) world inputs

theorem reachable (inputs : List ChainInput) : Reachable market (after inputs) :=
  ⟨world, deployed, inputs, rfl⟩

/-- Account `1` supplies, account `2` borrows everything against its collateral. -/
def loan : List ChainInput :=
  [call 1 1000 (2000 * 10 ^ 18) 1 (.supply 1000),
    call 2 1000 (2000 * 10 ^ 18) 1 (.addCollateral (10 ^ 12)),
    call 2 1000 (2000 * 10 ^ 18) 1 (.borrow 1000)]

end Sample

theorem reachable_accounting_loan : (Sample.after Sample.loan).pool.totalDebtShares = 1000 ∧
    ∑ a, (Sample.after Sample.loan).pool.debtSharesOf a
      = (Sample.after Sample.loan).pool.totalDebtShares :=
  ⟨by decide +kernel, (reachable_accounting (Sample.reachable Sample.loan)).2.1⟩

end Pool
end IpoOne
