import IpoOne.Pool.Claim
import IpoOne.Pool.Reference

/-!
# The exchange rate of the suppliers never falls

What a supply share is worth never falls, except in a liquidation that recognises bad debt, and
there by exactly the bad debt.  `Pool.Claim` has this for the contract; this file proves it for the
reference model and states it for both.

A transition of the reference model accrues, moves assets between the four counters the claim is
made of, and changes supply shares against the claim.  `Moves` is the part of that which matters
here; no other field of the state, and none of the positions, has any influence on it.
-/

set_option autoImplicit false

namespace IpoOne
namespace Reference

open Fallible

/-! ## The arithmetic of the reference model -/

theorem assertReferenceUint_ok {name : String} {value r : ℤ} {positive : Bool}
    (h : assertReferenceUint name value positive = .ok r) :
    r = value ∧ 0 ≤ value ∧ (positive = true → 0 < value) := by
  simp only [assertReferenceUint, bind_eq_ok, failIf_eq_ok, pure_eq_ok] at h
  obtain ⟨_, hguard, rfl⟩ := h
  refine ⟨rfl, by omega, fun hpos ↦ ?_⟩
  simp only [hpos, true_and] at hguard
  omega

theorem mulDivDown_ok {left right denominator q : ℤ}
    (h : mulDivDown left right denominator = .ok q) :
    0 ≤ left ∧ 0 ≤ right ∧ 0 < denominator ∧ 0 ≤ q ∧ q = (left * right) / denominator ∧
      q * denominator ≤ left * right := by
  simp only [mulDivDown, bind_eq_ok, pure_eq_ok] at h
  obtain ⟨l, hl, r, hr, d, hd, rfl⟩ := h
  obtain ⟨rfl, hl0, _⟩ := assertReferenceUint_ok hl
  obtain ⟨rfl, hr0, _⟩ := assertReferenceUint_ok hr
  obtain ⟨rfl, _, hd0⟩ := assertReferenceUint_ok hd
  have hprod : 0 ≤ l * r := mul_nonneg hl0 hr0
  rw [Int.tdiv_eq_ediv_of_nonneg hprod]
  exact ⟨hl0, hr0, hd0 rfl, Int.ediv_nonneg hprod (hd0 rfl).le, rfl,
    Int.ediv_mul_le _ (hd0 rfl).ne'⟩

theorem mulDivUp_ok {left right denominator q : ℤ}
    (h : mulDivUp left right denominator = .ok q) :
    0 ≤ q ∧ 0 < denominator ∧ left * right ≤ q * denominator := by
  simp only [mulDivUp, bind_eq_ok, pure_eq_ok] at h
  obtain ⟨floor, hfloor, rfl⟩ := h
  obtain ⟨hl, hr, hd, hq, hfloor, _⟩ := mulDivDown_ok hfloor
  have hdiv := Int.mul_ediv_add_emod (left * right) denominator
  have hmod := Int.emod_lt_of_pos (left * right) hd
  rw [← hfloor, mul_comm] at hdiv
  split
  · rename_i hexact
    refine ⟨hq, hd, ?_⟩
    rcases hexact with rfl | rfl | hexact
    · rw [zero_mul]; positivity
    · rw [mul_zero]; positivity
    · rw [Int.tmod_eq_emod_of_nonneg (mul_nonneg hl hr)] at hexact
      omega
  · refine ⟨by omega, hd, ?_⟩
    rw [add_mul, one_mul]
    omega

theorem calculateInterestAtRate_ok {debt apr elapsed interest reserve : ℤ}
    (h : calculateInterestAtRate debt apr elapsed = .ok (interest, reserve)) :
    reserve ≤ interest := by
  simp only [calculateInterestAtRate, bind_eq_ok, pure_eq_ok, Prod.mk.injEq] at h
  obtain ⟨_, _, _, _, _, _, i, hi, r, hr, rfl, rfl⟩ := h
  have hi0 := (mulDivUp_ok hi).1
  obtain ⟨_, _, _, _, _, hle⟩ := mulDivDown_ok hr
  simp only [Policy.bps, Policy.reserveFactorBps] at hle
  omega

/-! ## Moves of the claim -/

/-- The claim grows by `gain` and the supply shares by `shares`. -/
structure Moves (state next : State) (gain shares : ℤ) : Prop where
  claim : signedClaim next = signedClaim state + gain
  total : next.totalSupplyShares = state.totalSupplyShares + shares

/-- The claim per supply share is no lower in `next` than in `state`. -/
def RateLe (state next : State) : Prop :=
  poolReferenceLpClaimAssets state * next.totalSupplyShares
    ≤ poolReferenceLpClaimAssets next * state.totalSupplyShares

/-- A claim that is not negative is not cut off. -/
theorem lpClaim_of_nonneg {state : State} (h : 0 ≤ signedClaim state) :
    poolReferenceLpClaimAssets state = signedClaim state := by
  unfold poolReferenceLpClaimAssets
  split <;> omega

/-- Where neither claim is cut off, the rate is a comparison of products. -/
theorem Moves.rateLe {state next : State} {gain shares : ℤ} (h : Moves state next gain shares)
    (hclaim : 0 ≤ signedClaim state) (hgain : 0 ≤ signedClaim state + gain)
    (hrate : signedClaim state * shares ≤ gain * state.totalSupplyShares) :
    RateLe state next := by
  unfold RateLe
  rw [lpClaim_of_nonneg hclaim, lpClaim_of_nonneg (h.claim ▸ hgain), h.claim, h.total]
  nlinarith

theorem accrueChunk_ok {now : ℤ} {a a' : Accrued} (h : accrueChunk now a = .ok a') :
    ∃ gain, 0 ≤ gain ∧ Moves a.state a'.state gain 0 := by
  simp only [accrueChunk, bind_eq_ok, pure_eq_ok, Prod.exists] at h
  obtain ⟨elapsed, _, interest, reserve, hir, rfl⟩ := h
  refine ⟨interest - reserve, ?_, ⟨?_, by simp⟩⟩
  · split at hir
    · obtain ⟨apr, _, hir⟩ := bind_eq_ok.1 hir
      have := calculateInterestAtRate_ok hir
      omega
    · obtain ⟨rfl, rfl⟩ := Prod.mk.inj (pure_eq_ok.1 hir)
      omega
  · simp only [signedClaim]
    ring

theorem accrueChunks_ok {now : ℤ} (iterations : ℕ) {a a' : Accrued}
    (h : accrueChunks now iterations a = .ok a') :
    ∃ gain, 0 ≤ gain ∧ Moves a.state a'.state gain 0 := by
  induction iterations generalizing a with
  | zero =>
    rw [accrueChunks, pure_eq_ok] at h
    subst h
    exact ⟨0, le_rfl, by simp, by simp⟩
  | succ iterations ih =>
    rw [accrueChunks] at h
    split at h
    · obtain ⟨b, hb, hrest⟩ := bind_eq_ok.1 h
      obtain ⟨g₁, hg₁, hm₁⟩ := accrueChunk_ok hb
      obtain ⟨g₂, hg₂, hm₂⟩ := ih hrest
      exact ⟨g₁ + g₂, by omega, by rw [hm₂.claim, hm₁.claim]; ring,
        by rw [hm₂.total, hm₁.total]; ring⟩
    · rw [pure_eq_ok] at h
      subst h
      exact ⟨0, le_rfl, by simp, by simp⟩

theorem accrueInternal_ok {state : State} {now : ℤ} {a : Accrued}
    (h : accrueInternal state now = .ok a) : ∃ gain, 0 ≤ gain ∧ Moves state a.state gain 0 := by
  simp only [accrueInternal, bind_eq_ok, pure_eq_ok] at h
  obtain ⟨_, _, _, _, _, _, _, _, _, _, a', ha, _, _, rfl⟩ := h
  exact accrueChunks_ok _ ha

theorem signedClaim_mutablePosition (state : State) (id : String) :
    signedClaim (mutablePosition state id) = signedClaim state := by
  unfold mutablePosition
  split <;> rfl

theorem totalSupplyShares_mutablePosition (state : State) (id : String) :
    (mutablePosition state id).totalSupplyShares = state.totalSupplyShares := by
  unfold mutablePosition
  split <;> rfl

/-- Making room for a position moves nothing. -/
theorem Moves.mutable {state next : State} {gain shares : ℤ} (h : Moves state next gain shares)
    (id : String) : Moves state (mutablePosition next id) gain shares :=
  ⟨(signedClaim_mutablePosition next id).trans h.claim,
    (totalSupplyShares_mutablePosition next id).trans h.total⟩

theorem assertPoolReferenceInvariants_ok {state : State} {u : Unit}
    (h : assertPoolReferenceInvariants state = .ok u) : 0 ≤ state.totalSupplyShares := by
  simp only [assertPoolReferenceInvariants, bind_eq_ok] at h
  obtain ⟨_, _, _, _, _, _, _, _, _, htotal, _⟩ := h
  exact (assertReferenceUint_ok htotal).2.1

/-! ## Transitions -/

section Transitions

variable {state mid next : State}

/-- A transition that accrues and then exchanges claim for supply shares at no loss to the rest. -/
theorem rateLe_of_accrued {accrued gain shares : ℤ} (hacc : 0 ≤ accrued)
    (hm : Moves state mid accrued 0) (h : Moves mid next gain shares)
    (hclaim : 0 ≤ signedClaim state) (hgain : 0 ≤ signedClaim mid + gain)
    (hrate : signedClaim mid * shares ≤ gain * mid.totalSupplyShares)
    (htotal : 0 ≤ next.totalSupplyShares) : RateLe state next := by
  have hmoves : Moves state next (accrued + gain) shares :=
    ⟨by rw [h.claim, hm.claim]; ring, by rw [h.total, hm.total]; ring⟩
  refine hmoves.rateLe hclaim (by rw [hm.claim] at hgain; omega) ?_
  rw [hm.claim, hm.total, add_zero] at hrate
  rw [hmoves.total] at htotal
  nlinarith

/-- A transition that accrues and then moves the claim only. -/
theorem rateLe_of_gain {accrued gain : ℤ} (hacc : 0 ≤ accrued) (hm : Moves state mid accrued 0)
    (h : Moves mid next gain 0) (hclaim : 0 ≤ signedClaim state)
    (hpos : 0 < state.totalSupplyShares) (hgain : 0 ≤ gain) : RateLe state next := by
  have hmid := hm.claim
  have htotal : next.totalSupplyShares = state.totalSupplyShares := by
    rw [h.total, hm.total]; ring
  refine rateLe_of_accrued hacc hm h hclaim (by omega) ?_ (by omega)
  rw [mul_zero, hm.total, add_zero]
  positivity

theorem repayPerformingInternal_ok {id : String} {amount : ℤ} {r : Repayment}
    (h : repayPerformingInternal state id amount = .ok (next, r)) : Moves state next 0 0 := by
  simp only [repayPerformingInternal, bind_eq_ok, pure_eq_ok, Prod.exists, Prod.mk.injEq] at h
  obtain ⟨_, _, _, _, shares, reduced, _, rfl, _⟩ := h
  refine ⟨?_, by simp⟩
  simp only [signedClaim]
  ring

theorem supply_rateLe {id : String} {amount now shares : ℤ} {a : Accrued}
    (h : supplyPoolReferenceAssets state id amount now = .ok (a, shares))
    (hpos : 0 < state.totalSupplyShares) (hclaim : 0 ≤ signedClaim state) :
    RateLe state a.state := by
  simp only [supplyPoolReferenceAssets, bind_eq_ok, pure_eq_ok, Prod.mk.injEq] at h
  obtain ⟨_, _, amount', hamount, b, hb, minted, hminted, _, _, _, hinv, rfl, rfl⟩ := h
  obtain ⟨rfl, hamount0, _⟩ := assertReferenceUint_ok hamount
  obtain ⟨g, hg, hm⟩ := accrueInternal_ok hb
  have hbclaim := hm.claim
  have hbtotal := hm.total
  refine rateLe_of_accrued hg hm (⟨?_, rfl⟩ : Moves b.state _ amount' minted) hclaim (by omega) ?_
    (assertPoolReferenceInvariants_ok hinv)
  · simp only [signedClaim]
    ring
  · split at hminted
    · omega
    · obtain ⟨_, _, _, _, _, hle⟩ := mulDivDown_ok hminted
      rw [lpClaim_of_nonneg (by omega)] at hle
      linarith [mul_comm (signedClaim b.state) minted]

/-- Paying `amount` out for `burned` shares, at no more than the shares are worth. -/
theorem payOut_rateLe {accrued amount burned : ℤ} {positions : List Position}
    (hacc : 0 ≤ accrued) (hm : Moves state mid accrued 0) (hclaim : 0 ≤ signedClaim state)
    (hpos : 0 < state.totalSupplyShares)
    (hrate : amount * mid.totalSupplyShares ≤ burned * signedClaim mid)
    (hnext : next = { mid with
      cashAssets := mid.cashAssets - amount
      totalSupplyShares := mid.totalSupplyShares - burned
      positions })
    (htotal : 0 ≤ next.totalSupplyShares) : RateLe state next := by
  have hmid := hm.claim
  have hmidTotal := hm.total
  have hleft : 0 ≤ mid.totalSupplyShares - burned := by rw [hnext] at htotal; exact htotal
  refine rateLe_of_accrued hacc hm (⟨?_, ?_⟩ : Moves mid next (-amount) (-burned)) hclaim ?_ ?_
    htotal
  · rw [hnext]
    simp only [signedClaim]
    ring
  · rw [hnext]
    ring
  · -- at most all shares are burned, so at most the whole claim is paid
    have hS : 0 < mid.totalSupplyShares := by omega
    have hle : amount * mid.totalSupplyShares ≤ signedClaim mid * mid.totalSupplyShares := by
      nlinarith
    have := le_of_mul_le_mul_right hle hS
    omega
  · linarith [mul_comm (signedClaim mid) burned]

theorem withdraw_rateLe {id : String} {amount now shares : ℤ} {a : Accrued}
    (h : withdrawPoolReferenceAssets state id amount now = .ok (a, shares))
    (hpos : 0 < state.totalSupplyShares) (hclaim : 0 ≤ signedClaim state) :
    RateLe state a.state := by
  simp only [withdrawPoolReferenceAssets, bind_eq_ok, pure_eq_ok, Prod.mk.injEq] at h
  obtain ⟨id', _, amount', hamount, b, hb, _, _, _, _, burned, hburned, _, _, _, hinv, rfl,
    rfl⟩ := h
  obtain ⟨rfl, _, _⟩ := assertReferenceUint_ok hamount
  obtain ⟨g, hg, hm⟩ := accrueInternal_ok hb
  have hbclaim := hm.claim
  obtain ⟨_, _, hle⟩ := mulDivUp_ok hburned
  rw [lpClaim_of_nonneg (by omega), ← signedClaim_mutablePosition b.state id',
    ← totalSupplyShares_mutablePosition b.state id'] at hle
  exact payOut_rateLe hg (hm.mutable id') hclaim hpos hle rfl
    (assertPoolReferenceInvariants_ok hinv)

theorem redeemAll_rateLe {id : String} {amount now shares : ℤ} {a : Accrued}
    (h : redeemAllPoolReferenceShares state id now = .ok (a, amount, shares))
    (hpos : 0 < state.totalSupplyShares) (hclaim : 0 ≤ signedClaim state) :
    RateLe state a.state := by
  simp only [redeemAllPoolReferenceShares, bind_eq_ok, pure_eq_ok, Prod.mk.injEq] at h
  obtain ⟨id', _, b, hb, _, _, amount', hamount, _, _, _, hinv, rfl, rfl, rfl⟩ := h
  obtain ⟨g, hg, hm⟩ := accrueInternal_ok hb
  have hm := hm.mutable id'
  have hbclaim := hm.claim
  refine payOut_rateLe hg hm hclaim hpos ?_ rfl (assertPoolReferenceInvariants_ok hinv)
  rw [lpClaim_of_nonneg (by omega)] at hamount
  split at hamount
  · rename_i hall
    rw [← pure_eq_ok.1 hamount, hall, mul_comm]
  · exact (mulDivDown_ok hamount).2.2.2.2.2

theorem borrow_rateLe {id : String} {amount now shares : ℤ} {a : Accrued} {health : Health}
    (h : borrowPoolReferenceAssets state id amount now = .ok (a, shares, health))
    (hpos : 0 < state.totalSupplyShares) (hclaim : 0 ≤ signedClaim state) :
    RateLe state a.state := by
  simp only [borrowPoolReferenceAssets, bind_eq_ok, pure_eq_ok, Prod.mk.injEq] at h
  obtain ⟨id', _, amount', _, b, hb, _, _, _, _, _, _, _, _, _, _, _, _, _, _, minted, _, _, _,
    rfl, rfl, rfl⟩ := h
  obtain ⟨g, hg, hm⟩ := accrueInternal_ok hb
  refine rateLe_of_gain hg (hm.mutable id') ⟨?_, by simp⟩ hclaim hpos le_rfl
  simp only [signedClaim]
  ring

theorem repay_rateLe {id : String} {amount now recovered : ℤ} {a : Accrued}
    {r : Option Repayment}
    (h : repayPoolReferenceAssets state id amount now = .ok (a, r, recovered))
    (hpos : 0 < state.totalSupplyShares) (hclaim : 0 ≤ signedClaim state) :
    RateLe state a.state := by
  simp only [repayPoolReferenceAssets, bind_eq_ok] at h
  obtain ⟨id', _, amount', hamount, b, hb, h⟩ := h
  obtain ⟨rfl, hamount0, _⟩ := assertReferenceUint_ok hamount
  obtain ⟨g, hg, hm⟩ := accrueInternal_ok hb
  split at h
  · simp only [bind_eq_ok, pure_eq_ok, Prod.mk.injEq] at h
    obtain ⟨_, _, _, _, rfl, rfl, rfl⟩ := h
    refine rateLe_of_gain hg (hm.mutable id') (⟨?_, by simp⟩ : Moves _ _ amount' 0) hclaim hpos
      hamount0
    simp only [signedClaim]
    ring
  · simp only [bind_eq_ok, pure_eq_ok, Prod.exists, Prod.mk.injEq] at h
    obtain ⟨next, r, hrepay, _, _, rfl, rfl, rfl⟩ := h
    exact rateLe_of_gain hg (hm.mutable id') (repayPerformingInternal_ok hrepay) hclaim hpos le_rfl

/-- **No transition but a liquidation lowers the claim per supply share.** -/
theorem transition_rateLe {now : ℤ} {op : Operation} (h : transition state now op = .ok next)
    (hpos : 0 < state.totalSupplyShares) (hclaim : 0 ≤ signedClaim state)
    (hop : ∀ id amount, op ≠ .liquidate id amount) : RateLe state next := by
  cases op with
  | acceptOracle observation =>
    simp only [transition, acceptPoolReferenceOracle, bind_eq_ok, pure_eq_ok] at h
    obtain ⟨_, _, _, _, _, _, _, _, _, _, _, _, rfl⟩ := h
    have hmoves : Moves state { state with lastAcceptedOracle := some observation } 0 0 :=
      ⟨by simp [signedClaim], by simp⟩
    exact hmoves.rateLe hclaim (by omega) (by simp)
  | accrue =>
    simp only [transition, accruePoolReferenceInterest, bind_eq_ok, pure_eq_ok] at h
    obtain ⟨a, ha, rfl⟩ := h
    obtain ⟨g, hg, hm⟩ := accrueInternal_ok ha
    exact hm.rateLe hclaim (by omega) (by rw [mul_zero]; positivity)
  | supply id amount =>
    simp only [transition, bind_eq_ok, pure_eq_ok, Prod.exists] at h
    obtain ⟨a, shares, h, rfl⟩ := h
    exact supply_rateLe h hpos hclaim
  | donate amount =>
    simp only [transition, donatePoolReferenceCash, bind_eq_ok, pure_eq_ok] at h
    obtain ⟨_, ⟨amount', hamount, b, hb, _, _, rfl⟩, rfl⟩ := h
    obtain ⟨rfl, hamount0, _⟩ := assertReferenceUint_ok hamount
    obtain ⟨g, hg, hm⟩ := accrueInternal_ok hb
    refine rateLe_of_gain hg hm (⟨?_, by simp⟩ : Moves _ _ amount' 0) hclaim hpos hamount0
    simp only [signedClaim]
    ring
  | withdraw id amount =>
    simp only [transition, bind_eq_ok, pure_eq_ok, Prod.exists] at h
    obtain ⟨a, shares, h, rfl⟩ := h
    exact withdraw_rateLe h hpos hclaim
  | redeemAll id =>
    simp only [transition, bind_eq_ok, pure_eq_ok, Prod.exists] at h
    obtain ⟨a, amount, shares, h, rfl⟩ := h
    exact redeemAll_rateLe h hpos hclaim
  | addCollateral id amount =>
    simp only [transition, addPoolReferenceCollateral, bind_eq_ok, pure_eq_ok] at h
    obtain ⟨_, ⟨id', _, amount', _, b, hb, _, _, rfl⟩, rfl⟩ := h
    obtain ⟨g, hg, hm⟩ := accrueInternal_ok hb
    exact rateLe_of_gain hg (hm.mutable id') ⟨by simp [signedClaim], by simp⟩ hclaim hpos le_rfl
  | releaseCollateral id amount =>
    simp only [transition, releasePoolReferenceCollateral, bind_eq_ok, pure_eq_ok] at h
    obtain ⟨_, ⟨id', _, amount', _, b, hb, _, _, _, _, _, _, _, _, rfl⟩, rfl⟩ := h
    obtain ⟨g, hg, hm⟩ := accrueInternal_ok hb
    exact rateLe_of_gain hg (hm.mutable id') ⟨by simp [signedClaim], by simp⟩ hclaim hpos le_rfl
  | borrow id amount =>
    simp only [transition, bind_eq_ok, pure_eq_ok, Prod.exists] at h
    obtain ⟨a, shares, health, h, rfl⟩ := h
    exact borrow_rateLe h hpos hclaim
  | repay id amount =>
    simp only [transition, bind_eq_ok, pure_eq_ok, Prod.exists] at h
    obtain ⟨a, r, recovered, h, rfl⟩ := h
    exact repay_rateLe h hpos hclaim
  | liquidate id amount => exact absurd rfl (hop id amount)

/-- Up to the recognition of bad debt a liquidation moves nothing but interest. -/
theorem settle_moves {id : String} {amount now : ℤ} {settled : Settlement}
    (h : settlePoolReferenceLiquidation state id amount now = .ok settled) :
    ∃ gain, 0 ≤ gain ∧ Moves state settled.state gain 0 := by
  simp only [settlePoolReferenceLiquidation, bind_eq_ok, pure_eq_ok, Prod.exists] at h
  obtain ⟨amount', _, b, hb, _, _, _, _, _, _, _, _, _, _, _, _, _, _, next, r, hrepay, _, _, _, _,
    _, _, rfl⟩ := h
  obtain ⟨g, hg, hm⟩ := accrueInternal_ok hb
  have hm := hm.mutable id
  have hrepaid := repayPerformingInternal_ok hrepay
  refine ⟨g, hg, ?_, ?_⟩
  · have hclaim := hrepaid.claim
    rw [hm.claim, add_zero] at hclaim
    exact hclaim
  · have htotal := hrepaid.total
    rw [hm.total, add_zero] at htotal
    exact htotal

/-- **A liquidation costs the suppliers exactly the bad debt it recognises.** -/
theorem liquidate_claim {id : String} {amount now bad : ℤ} {settled : Settlement}
    (h : liquidatePoolReferencePosition state id amount now = .ok (next, settled, bad)) :
    signedClaim next = signedClaim settled.state - bad ∧
      next.totalSupplyShares = settled.state.totalSupplyShares ∧
      ∃ gain, 0 ≤ gain ∧ Moves state settled.state gain 0 := by
  simp only [liquidatePoolReferencePosition, bind_eq_ok, pure_eq_ok, Prod.exists,
    Prod.mk.injEq] at h
  obtain ⟨id', _, settled', hsettled, next', bad', hbad, _, _, rfl, rfl, rfl⟩ := h
  have hmoves := settle_moves hsettled
  split at hbad
  · simp only [recognizeBadDebtInternal, bind_eq_ok, pure_eq_ok, Prod.mk.injEq] at hbad
    obtain ⟨_, _, recognized, _, rfl, rfl⟩ := hbad
    refine ⟨?_, rfl, hmoves⟩
    simp only [signedClaim]
    ring
  · obtain ⟨rfl, rfl⟩ := Prod.mk.inj (pure_eq_ok.1 hbad)
    exact ⟨by ring, rfl, hmoves⟩

end Transitions

end Reference

/-! ## Both pools -/

/-- **The exchange rate is monotone.**  In the contract, and in the reference model where the claim
is not cut off: a successful call that is not a liquidation never lowers the claim per supply
share; and a liquidation that recognises `bad` bad debt, perhaps none, leaves the claim of the same
liquidation without recognition, which is no lower per share than before, less exactly `bad`. -/
theorem exchange_rate_monotone :
    (∀ mkt w, Pool.Reachable mkt w → 0 < w.pool.totalSupplyShares → ∀ msg w',
      (∀ c, Pool.exec mkt msg w c = .ok w' →
        (∀ borrower amount minOut deadline, c ≠ .liquidate borrower amount minOut deadline) →
        w.pool.book.claim * w'.pool.totalSupplyShares
          ≤ w'.pool.book.claim * w.pool.totalSupplyShares) ∧
      (∀ borrower amount minOut deadline seized bad,
        Pool.liquidate mkt msg borrower amount minOut deadline w = .ok (w', seized, bad) →
        ∃ v, Pool.liquidateWithoutRecognition mkt msg borrower amount minOut deadline w = .ok v ∧
          w.pool.book.claim * v.pool.totalSupplyShares
            ≤ v.pool.book.claim * w.pool.totalSupplyShares ∧
          w'.pool.totalSupplyShares = v.pool.totalSupplyShares ∧
          w'.pool.book.claim = v.pool.book.claim - bad)) ∧
    (∀ state, 0 < state.totalSupplyShares → 0 ≤ Reference.signedClaim state → ∀ now next,
      (∀ op, Reference.transition state now op = .ok next →
        (∀ id amount, op ≠ .liquidate id amount) →
        Reference.poolReferenceLpClaimAssets state * next.totalSupplyShares
          ≤ Reference.poolReferenceLpClaimAssets next * state.totalSupplyShares) ∧
      (∀ id amount settled bad,
        Reference.liquidatePoolReferencePosition state id amount now = .ok (next, settled, bad) →
        Reference.poolReferenceLpClaimAssets state * settled.state.totalSupplyShares
          ≤ Reference.poolReferenceLpClaimAssets settled.state * state.totalSupplyShares ∧
        next.totalSupplyShares = settled.state.totalSupplyShares ∧
        (0 ≤ Reference.signedClaim next →
          Reference.poolReferenceLpClaimAssets next
            = Reference.poolReferenceLpClaimAssets settled.state - bad))) := by
  refine ⟨fun mkt w _ hpos msg w' ↦ ⟨fun c h hc ↦ Pool.exec_rateLe h hpos hc, ?_⟩,
    fun state hpos hclaim now next ↦
      ⟨fun op h hop ↦ Reference.transition_rateLe h hpos hclaim hop, ?_⟩⟩
  · intro borrower amount minOut deadline seized bad h
    obtain ⟨v, hv, hrate, hclaim, htotal⟩ := Pool.liquidate_claim h
    exact ⟨v, hv, hrate, htotal, hclaim⟩
  · intro id amount settled bad h
    obtain ⟨hbad, htotal, gain, hgain, hm⟩ := Reference.liquidate_claim h
    have hsettled := hm.claim
    refine ⟨hm.rateLe hclaim (by omega) (by rw [mul_zero]; positivity), htotal, fun hnext ↦ ?_⟩
    rw [Reference.lpClaim_of_nonneg hnext, Reference.lpClaim_of_nonneg (by omega), hbad]

/-- A reference pool with one supplier. -/
def Reference.sample (cashAssets shares : ℤ) : Reference.State where
  cashAssets
  grossDebtAssets := 0
  reservesAssets := 0
  badDebtAssets := 0
  totalSupplyShares := shares
  totalDebtShares := 0
  lastAccruedAt := 0
  marketDebtCapAssets := 10
  borrowerDebtCapAssets := 10
  lastAcceptedOracle := none
  positions := [⟨"lp", shares, 0, 0, 0⟩]

/-- A year of interest on `Sample.loan` in the contract, and a donation in the reference model. -/
theorem exchange_rate_monotone_sample :
    (∃ w', Pool.exec Pool.Sample.market ⟨2, 19354600, none⟩ (Pool.Sample.after Pool.Sample.loan)
        .accrueInterest = .ok w' ∧
      (Pool.Sample.after Pool.Sample.loan).pool.book.claim * w'.pool.totalSupplyShares
        ≤ w'.pool.book.claim * (Pool.Sample.after Pool.Sample.loan).pool.totalSupplyShares) ∧
    Reference.poolReferenceLpClaimAssets (Reference.sample 5 5) * 5
      ≤ Reference.poolReferenceLpClaimAssets (Reference.sample 7 5) * 5 := by
  refine ⟨?_, ?_⟩
  · have hok : (Pool.exec Pool.Sample.market ⟨2, 19354600, none⟩
        (Pool.Sample.after Pool.Sample.loan) .accrueInterest).isOk = true := by decide +kernel
    obtain ⟨w', hw'⟩ := Fallible.isOk_iff.1 hok
    exact ⟨w', hw', ((exchange_rate_monotone.1 _ _ (Pool.Sample.reachable Pool.Sample.loan)
      (by decide +kernel) _ w').1 _ hw' (by simp))⟩
  · exact (exchange_rate_monotone.2 (Reference.sample 5 5) (by decide) (by decide) 0
      (Reference.sample 7 5)).1 (.donate 2) (by decide +kernel) (by simp)

end IpoOne
