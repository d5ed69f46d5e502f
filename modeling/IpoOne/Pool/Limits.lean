import IpoOne.Pool.Fairness
import IpoOne.Pool.Positions

/-!
# The limits of a loan

A borrow is checked with the quote of the debt before it plus the amount, and leaves a debt whose
shares were rounded up and are quoted rounded up again.  `borrow_limits_iff` says for both pools
when the debt after a loan is within the limits it was checked against, and, for the reference
model, when the health it returns is the health of the state it returns: exactly if the rounding
stays within the room that the limit leaves (`Rounding.MintWithin`).

`borrow_exceeds` is a loan at the limit whose rounding does not.
-/

set_option autoImplicit false

namespace IpoOne

open Evm Fallible Rounding

namespace Pool

variable {mkt : Market} {msg : Msg} {w w' : World}

/-- What a successful borrow was checked against. -/
theorem borrow_guards {amount shares : ℕ} (h : borrow mkt msg amount w = .ok (w', shares)) :
    ∃ w₁ w₂ price capacity debtBefore, accrueToCurrent mkt msg w = .ok w₁ ∧
      refreshCurrentPrice mkt msg w₁ = .ok (w₂, price) ∧
      borrowCapacity mkt (w₂.pool.collateralAssetsOf msg.sender) price = .ok capacity ∧
      w₂.pool.debtQuoteAssets msg.sender = .ok debtBefore ∧ debtBefore + amount ≤ capacity ∧
      debtBefore + amount ≤ mkt.borrowerDebtCapAssets := by
  simp only [borrow, bind_eq_ok, revertIf_eq_ok, add_eq_ok, not_lt, Prod.exists] at h
  obtain ⟨_, _, _, _, w₁, hacc, _, _, w₂, price, hprice, debtBefore, hdebt, _, _, _, _, _,
    ⟨_, rfl⟩, _, hcap, capacity, hcapacity, _, hlimit, _⟩ := h
  exact ⟨w₁, w₂, price, capacity, debtBefore, hacc, hprice, hcapacity, hdebt, hlimit, hcap⟩

/-- When the debt after a borrow is within the capacity and the cap of the borrower. -/
theorem borrow_within_iff {amount shares : ℕ} (hreach : Reachable mkt w)
    (h : borrow mkt msg amount w = .ok (w', shares)) :
    ∃ w₁ w₂ price capacity debtAfter, accrueToCurrent mkt msg w = .ok w₁ ∧
      refreshCurrentPrice mkt msg w₁ = .ok (w₂, price) ∧
      borrowCapacity mkt (w'.pool.collateralAssetsOf msg.sender) price = .ok capacity ∧
      w'.pool.debtQuoteAssets msg.sender = .ok debtAfter ∧
      ((debtAfter ≤ capacity ∧ debtAfter ≤ mkt.borrowerDebtCapAssets) ↔
        MintWithin (w₁.pool.debtSharesOf msg.sender) w₁.pool.book.performing
          w₁.pool.totalDebtShares amount (min capacity mkt.borrowerDebtCapAssets)) := by
  obtain ⟨w₁, w₂, price, capacity, debtBefore, hacc, hprice, hcapacity, hdebt, hlimit, hcap⟩ :=
    borrow_guards h
  have hs₁ := accrueToCurrent_sound hreach.sound hacc
  have hexec : exec mkt msg w (.borrow amount) = .ok w' := bind_eq_ok.2 ⟨_, h, rfl⟩
  have hs' := exec_sound hreach.sound hexec
  obtain ⟨w₁', w₂', t, _, hacc', hobs, hallows, _, _, _, hw⟩ := borrow_ok h
  cases hacc.symm.trans hacc'
  have hsame := (refreshCurrentPrice_ok hprice).book
  have hbook : w'.pool.book = w₁.pool.book.post (.borrow msg.sender amount shares) := by
    rw [hw, ← hobs.book]
    rfl
  have hbefore : debtBefore = w₁.pool.book.quote msg.sender := by
    rw [← hsame]
    exact Storage.debtQuoteAssets_ok hdebt
  have hcollateral : w'.pool.collateralAssetsOf = w₂.pool.collateralAssetsOf := by
    have hpost : w'.pool.book.collateralOf = w₁.pool.book.collateralOf := by
      rw [hbook]
      rfl
    exact hpost.trans (congrArg Book.collateralOf hsame).symm
  rw [hobs.book] at hallows
  refine ⟨w₁, w₂, price, capacity, w'.pool.book.quote msg.sender, hacc, hprice, ?_,
    hs'.debtQuoteAssets msg.sender, ?_⟩
  · rw [hcollateral]
    exact hcapacity
  · rw [← le_min_iff, hbook]
    refine hs₁.books.quote_borrow_le_iff hallows ?_
    rw [← hbefore]
    exact le_min hlimit hcap

end Pool

namespace Reference

variable {state : State} {id : String} {now : ℤ}

theorem assertReferenceAccountId_ok {id' : String} (h : assertReferenceAccountId id = .ok id') :
    id' = id := by
  simp only [assertReferenceAccountId, bind_eq_ok, pure_eq_ok] at h
  obtain ⟨_, _, rfl⟩ := h
  rfl

theorem accrueInternal_balanced {a : Accrued} (h : accrueInternal state now = .ok a) :
    Balanced a.state := by
  simp only [accrueInternal, bind_eq_ok, pure_eq_ok] at h
  obtain ⟨_, _, _, _, _, _, _, _, _, _, a', _, _, hinvariants, rfl⟩ := h
  exact balanced_of_ok hinvariants

theorem positionPerformingDebtAssets_mutable (position : Position) :
    positionPerformingDebtAssets (mutablePosition state id) position =
      positionPerformingDebtAssets state position := by
  unfold mutablePosition
  split <;> rfl

theorem totalDebtShares_mutablePosition :
    (mutablePosition state id).totalDebtShares = state.totalDebtShares := by
  unfold mutablePosition
  split <;> rfl

theorem performing_mutablePosition (state : State) (id : String) :
    poolReferencePerformingDebtAssets (mutablePosition state id) =
      poolReferencePerformingDebtAssets state := by
  unfold mutablePosition
  split <;> rfl

/-- The state after a loan, before its invariants are checked. -/
def lent (next : State) (id : String) (amountAssets debtSharesMinted : ℤ) : State :=
  { next with
    cashAssets := next.cashAssets - amountAssets
    grossDebtAssets := next.grossDebtAssets + amountAssets
    totalDebtShares := next.totalDebtShares + debtSharesMinted
    positions := modifyPosition id
      (fun p ↦ { p with debtShares := p.debtShares + debtSharesMinted }) next.positions }

/-- The position after a loan. -/
theorem find_lent (amount minted : ℤ) :
    findPoolReferencePosition (lent (mutablePosition state id) id amount minted) id =
      { findPoolReferencePosition state id with
        debtShares := (findPoolReferencePosition state id).debtShares + minted } :=
  find_modified (f := fun p ↦ { p with debtShares := p.debtShares + minted }) rfl fun _ ↦ rfl

theorem totalDebtShares_lent (amount minted : ℤ) :
    (lent (mutablePosition state id) id amount minted).totalDebtShares =
      state.totalDebtShares + minted :=
  congrArg (· + minted) totalDebtShares_mutablePosition

theorem performing_lent (amount minted : ℤ) :
    poolReferencePerformingDebtAssets (lent (mutablePosition state id) id amount minted) =
      poolReferencePerformingDebtAssets state + amount := by
  rw [← performing_mutablePosition state id]
  exact add_sub_right_comm (mutablePosition state id).grossDebtAssets amount _

/-- The factor that a health shows for a threshold and a debt. -/
def healthFactor (threshold debt : ℤ) : ℤ :=
  (threshold.toNat * Policy.wad.toNat / debt.toNat : ℕ)

/-- What a health with a debt was computed from. -/
theorem healthFromState_ok {increase : ℤ} {health : Health}
    (h : healthFromState state id now none increase = .ok health) (hpos : 0 < health.debtAssets) :
    ∃ performing, positionPerformingDebtAssets state (findPoolReferencePosition state id)
        = .ok performing ∧
      health.debtAssets =
        performing + (findPoolReferencePosition state id).badDebtAssets + increase ∧
      IsUint health.liquidationThresholdAssets ∧
      health.borrowCapacityAssets ≤ health.liquidationThresholdAssets ∧
      health.healthFactorWad =
        some (healthFactor health.liquidationThresholdAssets health.debtAssets) ∧
      health.liquidatable = decide (0 < (findPoolReferencePosition state id).debtShares ∧
        health.liquidationThresholdAssets < health.debtAssets) := by
  simp only [healthFromState, bind_eq_ok, pure_eq_ok] at h
  obtain ⟨oracle, _, performing, hperforming, value, _, capacity, hcapacity, threshold, hthreshold,
    factor, hfactor, rfl⟩ := h
  simp only at hpos ⊢
  rw [if_neg hpos.ne'] at hfactor
  obtain ⟨ratio, hratio, hsome⟩ := bind_eq_ok.1 hfactor
  rw [pure_eq_ok] at hsome
  obtain ⟨huint, _, _, _, rfl⟩ := mulDivDown_eq_ok.1 hratio
  obtain ⟨_, _, _, _, rfl⟩ := mulDivDown_eq_ok.1 hcapacity
  obtain ⟨_, _, _, _, rfl⟩ := mulDivDown_eq_ok.1 hthreshold
  refine ⟨performing, hperforming, rfl, huint, ?_, hsome.symm, trivial⟩
  have hbound : value.toNat * Policy.loanToValueBps.toNat ≤
      value.toNat * Policy.liquidationThresholdBps.toNat :=
    Nat.mul_le_mul_left _ (by decide)
  exact_mod_cast Nat.div_le_div_right hbound

/-- The health of a state that differs from another in its debt: the same but for the debt, the
factor and whether it can be liquidated. -/
theorem healthFromState_of_debt {next final : State} {increase debt : ℤ} {health : Health}
    (h : healthFromState next id now none increase = .ok health)
    (horacle : final.lastAcceptedOracle = next.lastAcceptedOracle)
    (hcollateral : (findPoolReferencePosition final id).collateralAssets =
      (findPoolReferencePosition next id).collateralAssets)
    (hbad : (findPoolReferencePosition final id).badDebtAssets = 0)
    (hdebt : positionPerformingDebtAssets final (findPoolReferencePosition final id) = .ok debt)
    (huint : IsUint debt) (hpos : 0 < debt)
    (hthreshold : IsUint health.liquidationThresholdAssets) :
    healthFromState final id now none 0 = .ok { health with
      debtAssets := debt
      healthFactorWad := some (healthFactor health.liquidationThresholdAssets debt)
      liquidatable := decide (0 < (findPoolReferencePosition final id).debtShares ∧
        health.liquidationThresholdAssets < debt) } := by
  simp only [healthFromState, bind_eq_ok, pure_eq_ok] at h
  obtain ⟨oracle, hcurrent, performing, _, value, hvalue, capacity, hcapacity, threshold,
    hthresholdOk, factor, _, rfl⟩ := h
  have hcurrent' : assertCurrentOracle final now = .ok oracle := by
    unfold assertCurrentOracle at hcurrent ⊢
    rw [horacle]
    exact hcurrent
  have hratio : mulDivDown threshold Policy.wad debt = .ok (healthFactor threshold debt) :=
    mulDivDown_eq_ok.2 ⟨hthreshold, ⟨by decide, by decide⟩, huint, hpos, rfl⟩
  simp only [healthFromState, bind_eq_ok, pure_eq_ok]
  refine ⟨oracle, hcurrent', debt, hdebt, value, ?_, capacity, hcapacity, threshold, hthresholdOk,
    some (healthFactor threshold debt), ?_, ?_⟩
  · rw [Option.getD_none, hcollateral]
    exact hvalue
  · rw [hbad, add_zero, add_zero, if_neg hpos.ne', bind_of_ok hratio]
    rfl
  · rw [hbad, add_zero, add_zero]

/-- What a successful borrow of the reference model was checked against, and what it returns. -/
theorem borrow_lent {amount minted : ℤ} {a : Accrued} {health : Health}
    (h : borrowPoolReferenceAssets state id amount now = .ok (a, minted, health)) :
    ∃ accrued, accrueInternal state now = .ok accrued ∧
      a.state = lent (mutablePosition accrued.state id) id amount minted ∧
      Balanced accrued.state ∧ Balanced a.state ∧ 0 < amount ∧
      (findPoolReferencePosition accrued.state id).badDebtAssets = 0 ∧
      healthFromState (mutablePosition accrued.state id) id now none amount = .ok health ∧
      health.debtAssets ≤ health.borrowCapacityAssets ∧
      health.debtAssets ≤ a.state.borrowerDebtCapAssets ∧
      health.debtAssets = (quoteUp (findPoolReferencePosition accrued.state id).debtShares.toNat
        (poolReferencePerformingDebtAssets accrued.state).toNat
        accrued.state.totalDebtShares.toNat : ℕ) + amount ∧
      0 ≤ minted ∧ Mints (poolReferencePerformingDebtAssets accrued.state).toNat
        accrued.state.totalDebtShares.toNat amount.toNat minted.toNat := by
  simp only [borrowPoolReferenceAssets, bind_eq_ok, pure_eq_ok, unavailableIf_eq_ok, not_lt,
    assertReferenceUint_eq_ok, Prod.mk.injEq] at h
  obtain ⟨id, hid, amount, ⟨rfl, hamount, hpos⟩, accrued, haccrued, _, hnobad, _, hcash, before,
    hbefore, health', hhealth, _, hcap, _, hmarket, _, hcapacity, minted', hminted, _, hinvariants,
    rfl, rfl, rfl⟩ := h
  obtain rfl := assertReferenceAccountId_ok hid
  have hb := accrueInternal_balanced haccrued
  obtain ⟨hunsigned, hle⟩ := hb.find id
  rw [find_mutablePosition] at hnobad hbefore
  rw [positionPerformingDebtAssets_mutable, hb.quote] at hbefore
  cases hbefore
  have hzero : (findPoolReferencePosition accrued.state id).badDebtAssets = 0 := by
    have := hunsigned.badDebtAssets.1
    omega
  have hdebt : health'.debtAssets = (quoteUp
      (findPoolReferencePosition accrued.state id).debtShares.toNat
      (poolReferencePerformingDebtAssets accrued.state).toNat
      accrued.state.totalDebtShares.toNat : ℕ) + amount := by
    simp only [healthFromState, bind_eq_ok, pure_eq_ok] at hhealth
    obtain ⟨_, _, performing, hperforming, _, _, _, _, _, _, _, _, rfl⟩ := hhealth
    rw [find_mutablePosition, positionPerformingDebtAssets_mutable, hb.quote] at hperforming
    cases hperforming
    simp only [find_mutablePosition, hzero, add_zero]
  refine ⟨accrued, haccrued, rfl, hb, balanced_of_ok hinvariants, hpos trivial, hzero, hhealth,
    hcapacity, ?_, hdebt, ?_, ?_⟩
  · rw [hdebt]
    exact hcap
  all_goals
    rw [totalDebtShares_mutablePosition, performing_mutablePosition] at hminted
    split at hminted
  · rw [pure_eq_ok] at hminted
    exact hminted ▸ hamount.1
  · rw [(mulDivUp_eq_ok.1 hminted).2.2.2.2]
    exact Int.natCast_nonneg _
  · rename_i hnone
    rw [pure_eq_ok] at hminted
    exact .inl ⟨by omega, by rw [hb.empty.2 hnone]; rfl, by rw [hminted]⟩
  · rename_i hsome
    obtain ⟨_, htotal, _, hperforming, rfl⟩ := mulDivUp_eq_ok.1 hminted
    have := htotal.1
    exact .inr ⟨by omega, by omega, by omega⟩

/-- When the debt after a borrow is within the capacity and the cap of the borrower, and when the
health that is returned is the one of the returned state. -/
theorem borrow_reference_iff {amount minted : ℤ} {a : Accrued} {health : Health}
    (h : borrowPoolReferenceAssets state id amount now = .ok (a, minted, health)) :
    ∃ accrued debtBefore debtAfter after, accrueInternal state now = .ok accrued ∧
      positionPerformingDebtAssets accrued.state (findPoolReferencePosition accrued.state id)
        = .ok debtBefore ∧
      positionPerformingDebtAssets a.state (findPoolReferencePosition a.state id)
        = .ok debtAfter ∧
      healthFromState a.state id now none 0 = .ok after ∧
      ((debtAfter ≤ after.borrowCapacityAssets ∧ debtAfter ≤ a.state.borrowerDebtCapAssets) ↔
        MintWithin (findPoolReferencePosition accrued.state id).debtShares.toNat
          (poolReferencePerformingDebtAssets accrued.state).toNat
          accrued.state.totalDebtShares.toNat amount.toNat
          (min after.borrowCapacityAssets a.state.borrowerDebtCapAssets).toNat) ∧
      (after = health ↔
        MintWithin (findPoolReferencePosition accrued.state id).debtShares.toNat
          (poolReferencePerformingDebtAssets accrued.state).toNat
          accrued.state.totalDebtShares.toNat amount.toNat (debtBefore + amount).toNat) := by
  obtain ⟨accrued, haccrued, hfinal, hb, hb', hpos, hbad, hhealth, hcapacity, hcap, hdebt, hnonneg,
    hmints⟩ := borrow_lent h
  obtain ⟨hunsigned, hle⟩ := hb.find id
  have hfind : findPoolReferencePosition
      (lent (mutablePosition accrued.state id) id amount minted) id
      = { findPoolReferencePosition accrued.state id with
          debtShares := (findPoolReferencePosition accrued.state id).debtShares + minted } :=
    find_lent amount minted
  rw [← hfinal] at hfind
  -- the quote after the loan, in natural numbers
  have hshares : (findPoolReferencePosition a.state id).debtShares.toNat =
      (findPoolReferencePosition accrued.state id).debtShares.toNat + minted.toNat := by
    rw [hfind]
    exact Int.toNat_add hunsigned.debtShares.1 hnonneg
  have hperforming : (poolReferencePerformingDebtAssets a.state).toNat =
      (poolReferencePerformingDebtAssets accrued.state).toNat + amount.toNat := by
    rw [hfinal, performing_lent, Int.toNat_add hb.performing.1 hpos.le]
  have htotal : a.state.totalDebtShares.toNat =
      accrued.state.totalDebtShares.toNat + minted.toNat := by
    rw [hfinal, totalDebtShares_lent, Int.toNat_add hb.debtTotal.1 hnonneg]
  have hquote := hb'.quote id
  have hquoteLe := hb'.quote_le id
  rw [hshares, hperforming, htotal] at hquote hquoteLe
  have hs : (findPoolReferencePosition accrued.state id).debtShares.toNat ≤
      accrued.state.totalDebtShares.toNat := by omega
  have hpos' : 0 < amount.toNat := by omega
  have hge := le_quoteUp_loan hs hpos' hmints
  have hloan : ∀ limit : ℤ, health.debtAssets ≤ limit →
      ((quoteUp ((findPoolReferencePosition accrued.state id).debtShares.toNat + minted.toNat)
          ((poolReferencePerformingDebtAssets accrued.state).toNat + amount.toNat)
          (accrued.state.totalDebtShares.toNat + minted.toNat) : ℤ) ≤ limit ↔
        MintWithin (findPoolReferencePosition accrued.state id).debtShares.toNat
          (poolReferencePerformingDebtAssets accrued.state).toNat
          accrued.state.totalDebtShares.toNat amount.toNat limit.toNat) := by
    intro limit hlimit
    rw [← quoteUp_loan_le_iff hs hpos' hmints (by omega)]
    omega
  generalize quoteUp (_ + minted.toNat) _ _ = debtAfter at hquote hquoteLe hge hloan
  have hdebtPos : 0 < health.debtAssets := by omega
  obtain ⟨_, _, _, huint, hthreshold, hfactor, hliquidatable⟩ :=
    healthFromState_ok hhealth hdebtPos
  have horacle : a.state.lastAcceptedOracle =
      (mutablePosition accrued.state id).lastAcceptedOracle := by
    rw [hfinal]
    rfl
  have hcollateral : (findPoolReferencePosition a.state id).collateralAssets =
      (findPoolReferencePosition (mutablePosition accrued.state id) id).collateralAssets := by
    rw [hfind, find_mutablePosition]
  have hnobad : (findPoolReferencePosition a.state id).badDebtAssets = 0 := by
    rw [hfind]
    exact hbad
  have hdebtUint : IsUint (debtAfter : ℤ) := by
    have := hb'.performing.2
    exact ⟨Int.natCast_nonneg _, by omega⟩
  have hafter := healthFromState_of_debt hhealth horacle hcollateral hnobad hquote hdebtUint
    (by omega) huint
  refine ⟨accrued, _, debtAfter, _, haccrued, hb.quote id, hquote, hafter, ?_, ?_⟩
  · rw [← hloan _ (le_min hcapacity hcap), le_min_iff]
  · rw [← hdebt, ← hloan _ le_rfl]
    constructor
    · intro hsame
      have := congrArg Health.debtAssets hsame
      simp only at this
      omega
    · intro hle
      -- nothing is liquidatable at a debt within the capacity
      have heq : (debtAfter : ℤ) = health.debtAssets := by omega
      have hhealthy : ¬ health.liquidationThresholdAssets < health.debtAssets := by omega
      rw [decide_eq_false (fun hboth ↦ hhealthy hboth.2)] at hliquidatable
      rw [heq, ← hfactor, decide_eq_false (fun hboth ↦ hhealthy hboth.2), ← hliquidatable]

end Reference

/-! ## A loan at the limit -/

namespace Pool.Sample

/-- Account `1` supplies, accounts `2` and `4` bring collateral for a capacity of 1500 each, and
account `2` borrows.  After a week there is interest on its debt. -/
def accruedLoan : List ChainInput :=
  [call 1 1000 (2000 * 10 ^ 18) 1 (.supply 10000),
    call 2 1000 (2000 * 10 ^ 18) 1 (.addCollateral (10 ^ 12)),
    call 2 1000 (2000 * 10 ^ 18) 1 (.borrow 1000),
    call 4 1000 (2000 * 10 ^ 18) 1 (.addCollateral (10 ^ 12)),
    call 1 605800 (2000 * 10 ^ 18) 2 .accrueInterest]

/-- A message of account `4`, a week after the deployment. -/
def borrower : Msg where
  sender := 4
  timestamp := 605800
  latestPrice := some (observation (2000 * 10 ^ 18) 605800 2)

end Pool.Sample

namespace Reference.Sample

/-- A complete round for the reference model's own chain, asset and source. -/
def observation (roundId : String) (observedAt : ℤ) : OracleObservation where
  chainId := Policy.chainId
  assetId := Policy.collateralAssetId
  sourceId := Policy.oracleSourceId
  roundId
  complete := true
  priceUsdWad := 2000 * 10 ^ 18
  observedAt

/-- The history of `Pool.Sample.accruedLoan` in the reference model. -/
def accruedLoan : List (ℤ × Operation) :=
  [(1000, .acceptOracle (observation "round-1" 1000)),
    (1000, .supply "lp" 10000),
    (1000, .addCollateral "first" (10 ^ 12)),
    (1000, .borrow "first" 1000),
    (1000, .addCollateral "second" (10 ^ 12)),
    (605800, .accrue),
    (605800, .acceptOracle (observation "round-2" 605800))]

/-- The state after the history. -/
def state : State where
  cashAssets := 9000
  grossDebtAssets := 1001
  reservesAssets := 0
  badDebtAssets := 0
  totalSupplyShares := 10000
  totalDebtShares := 1000
  lastAccruedAt := 605800
  marketDebtCapAssets := 10 ^ 12
  borrowerDebtCapAssets := 10 ^ 11
  lastAcceptedOracle := some (observation "round-2" 605800)
  positions := [⟨"lp", 10000, 0, 0, 0⟩, ⟨"first", 0, 10 ^ 12, 1000, 0⟩,
    ⟨"second", 0, 10 ^ 12, 0, 0⟩]

theorem state_reached :
    (createSecuredPoolReferenceState 1000 (10 ^ 12) (10 ^ 11)).bind
      (accruedLoan.foldlM fun state input ↦ transition state input.1 input.2) = .ok state := by
  decide +kernel

end Reference.Sample

/-- **When the limits bind on the resulting debt.**  After a successful borrow of either pool the
debt of the account is within the capacity of its collateral and the cap of the borrower, and the
health that the reference model returns is the health of the state it returns, exactly if the
rounding of the loan stays within the room that the limit leaves.  For the health the limit is the
debt before the loan plus the amount. -/
theorem borrow_limits_iff (mkt : Market) (w : World) (state : Reference.State) :
    (Pool.Reachable mkt w → ∀ msg amount w' shares,
      Pool.borrow mkt msg amount w = .ok (w', shares) →
      ∃ w₁ w₂ price capacity debtAfter, Pool.accrueToCurrent mkt msg w = .ok w₁ ∧
        Pool.refreshCurrentPrice mkt msg w₁ = .ok (w₂, price) ∧
        Pool.borrowCapacity mkt (w'.pool.collateralAssetsOf msg.sender) price = .ok capacity ∧
        w'.pool.debtQuoteAssets msg.sender = .ok debtAfter ∧
        ((debtAfter ≤ capacity ∧ debtAfter ≤ mkt.borrowerDebtCapAssets) ↔
          MintWithin (w₁.pool.debtSharesOf msg.sender) w₁.pool.book.performing
            w₁.pool.totalDebtShares amount (min capacity mkt.borrowerDebtCapAssets))) ∧
    (∀ id amount now a shares health,
      Reference.borrowPoolReferenceAssets state id amount now = .ok (a, shares, health) →
      ∃ accrued debtBefore debtAfter after, Reference.accrueInternal state now = .ok accrued ∧
        Reference.positionPerformingDebtAssets accrued.state
          (Reference.findPoolReferencePosition accrued.state id) = .ok debtBefore ∧
        Reference.positionPerformingDebtAssets a.state
          (Reference.findPoolReferencePosition a.state id) = .ok debtAfter ∧
        Reference.healthFromState a.state id now none 0 = .ok after ∧
        ((debtAfter ≤ after.borrowCapacityAssets ∧ debtAfter ≤ a.state.borrowerDebtCapAssets) ↔
          MintWithin (Reference.findPoolReferencePosition accrued.state id).debtShares.toNat
            (Reference.poolReferencePerformingDebtAssets accrued.state).toNat
            accrued.state.totalDebtShares.toNat amount.toNat
            (min after.borrowCapacityAssets a.state.borrowerDebtCapAssets).toNat) ∧
        (after = health ↔
          MintWithin (Reference.findPoolReferencePosition accrued.state id).debtShares.toNat
            (Reference.poolReferencePerformingDebtAssets accrued.state).toNat
            accrued.state.totalDebtShares.toNat amount.toNat (debtBefore + amount).toNat)) :=
  ⟨fun hreach _ _ _ _ h ↦ Pool.borrow_within_iff hreach h,
    fun _ _ _ _ _ _ h ↦ Reference.borrow_reference_iff h⟩

/-- A loan of 1001, whose shares need no rounding. -/
theorem borrow_limits_exact :
    (∃ w' shares capacity debtAfter, Pool.borrow Pool.Sample.market Pool.Sample.borrower 1001
        (Pool.Sample.after Pool.Sample.accruedLoan) = .ok (w', shares) ∧
      w'.pool.debtQuoteAssets 4 = .ok debtAfter ∧ debtAfter ≤ capacity) ∧
    (∃ a shares health, Reference.borrowPoolReferenceAssets Reference.Sample.state "second" 1001
        605800 = .ok (a, shares, health) ∧
      Reference.healthFromState a.state "second" 605800 none 0 = .ok health) := by
  constructor
  · have hok : (Pool.borrow Pool.Sample.market Pool.Sample.borrower 1001
        (Pool.Sample.after Pool.Sample.accruedLoan)).isOk = true := by decide +kernel
    obtain ⟨⟨w', shares⟩, hborrow⟩ := isOk_iff.1 hok
    obtain ⟨w₁, _, _, capacity, debtAfter, hacc, _, _, hdebt, hiff⟩ :=
      (borrow_limits_iff Pool.Sample.market (Pool.Sample.after Pool.Sample.accruedLoan)
        Reference.Sample.state).1 (Pool.Sample.reachable _) _ _ _ _ hborrow
    have haccrued : (Pool.accrueToCurrent Pool.Sample.market Pool.Sample.borrower
        (Pool.Sample.after Pool.Sample.accruedLoan)).map
          (fun w ↦ (w.pool.book.performing, w.pool.totalDebtShares)) = .ok (1001, 1000) := by
      decide +kernel
    rw [hacc] at haccrued
    obtain ⟨hperforming, htotal⟩ := Prod.mk.inj (Except.ok.inj haccrued)
    rw [hperforming, htotal] at hiff
    exact ⟨w', shares, capacity, debtAfter, hborrow, hdebt,
      (hiff.2 (mintWithin_of_dvd _ (by decide))).1⟩
  · have hok : (Reference.borrowPoolReferenceAssets Reference.Sample.state "second" 1001
        605800).isOk = true := by decide +kernel
    obtain ⟨⟨a, shares, health⟩, hborrow⟩ := isOk_iff.1 hok
    obtain ⟨accrued, _, _, after, hacc, _, _, hafter, _, hiff⟩ :=
      (borrow_limits_iff Pool.Sample.market (Pool.Sample.after Pool.Sample.accruedLoan)
        Reference.Sample.state).2
        _ _ _ _ _ _ hborrow
    have haccrued : (Reference.accrueInternal Reference.Sample.state 605800).map
        (fun a ↦ (Reference.poolReferencePerformingDebtAssets a.state, a.state.totalDebtShares))
          = .ok (1001, 1000) := by
      decide +kernel
    rw [hacc] at haccrued
    obtain ⟨hperforming, htotal⟩ := Prod.mk.inj (Except.ok.inj haccrued)
    rw [hperforming, htotal] at hiff
    rw [hiff.2 (mintWithin_of_dvd _ (by decide))] at hafter
    exact ⟨a, shares, health, hborrow, hafter⟩

/-- A loan of 1500 at a capacity of 1500: it leaves a debt of 1501, and the reference model returns
a health with 1500. -/
theorem borrow_exceeds :
    Pool.Reachable Pool.Sample.market (Pool.Sample.after Pool.Sample.accruedLoan) ∧
      (Pool.borrow Pool.Sample.market Pool.Sample.borrower 1500
          (Pool.Sample.after Pool.Sample.accruedLoan)).map
        (fun r ↦ (Pool.borrowCapacity Pool.Sample.market (r.1.pool.collateralAssetsOf 4)
          (2000 * 10 ^ 18), r.1.pool.debtQuoteAssets 4)) = .ok (.ok 1500, .ok 1501) ∧
      (Reference.createSecuredPoolReferenceState 1000 (10 ^ 12) (10 ^ 11)).bind
        (Reference.Sample.accruedLoan.foldlM fun state input ↦
          Reference.transition state input.1 input.2) = .ok Reference.Sample.state ∧
      (Reference.borrowPoolReferenceAssets Reference.Sample.state "second" 1500 605800).map
        (fun r ↦ (r.2.2.debtAssets, r.2.2.borrowCapacityAssets,
          (Reference.healthFromState r.1.state "second" 605800 none 0).map
            Reference.Health.debtAssets)) = .ok (1500, 1500, .ok 1501) :=
  ⟨Pool.Sample.reachable _, by decide +kernel, Reference.Sample.state_reached, by decide +kernel⟩

end IpoOne
