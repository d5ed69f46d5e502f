import IpoOne.Pool.Limits

/-!
# The sequence of accepted prices

The contract refreshes its price inside every operation that values collateral, and on request in
`syncOracle` and `recoverOracleDeviation`.  `Heard` says all that a successful call can do to the
accepted observation and the halt, and the rest is read off it:

* `Accepted.Precedes` — the accepted observations are the same or strictly later, in the time and in
  the round, along every run (`run_precedes`).
* `chainStep_deviates` — only the recovery authority accepts a price beyond the bound.
* `exec_current` — an operation that values collateral succeeds only with a current price, which it
  has just read from the oracle itself.

The reference model takes the observations by calls of their own.  Its rounds are opaque strings, so
that only the times are ordered there (`Reference.run_follows`), and its operations do not refresh
the price but refuse a stale one (`Reference.transition_current`).
-/

set_option autoImplicit false

namespace IpoOne

open Evm Fallible Rounding

/-! ## The contract -/

/-- What the pool keeps of an observation. -/
@[ext] structure Accepted where
  priceUsdWad : ℕ
  observedAt : ℕ
  roundId : ℕ
  deriving DecidableEq, Repr

/-- The observation that the storage holds as accepted. -/
def Storage.accepted (st : Storage) : Accepted where
  priceUsdWad := st.acceptedPriceUsdWad
  observedAt := st.acceptedOracleObservedAt
  roundId := st.acceptedOracleRoundId

/-- What an observation leaves in the storage once it is accepted. -/
def PriceObservation.accepted (observation : PriceObservation) : Accepted where
  priceUsdWad := observation.priceUsdWad
  observedAt := observation.observedAt
  roundId := observation.roundId

namespace Accepted

/-- `b` is the same observation, or one of a later time and of a later round. -/
def Precedes (a b : Accepted) : Prop :=
  b = a ∨ a.observedAt < b.observedAt ∧ a.roundId < b.roundId

/-- The prices are further apart than the deviation bound. -/
def Deviates (a b : Accepted) : Prop :=
  a.priceUsdWad * Pool.maxOracleDeviationBps
    < (max a.priceUsdWad b.priceUsdWad - min a.priceUsdWad b.priceUsdWad) * Pool.bps

theorem Precedes.refl (a : Accepted) : a.Precedes a := .inl rfl

theorem Precedes.trans {a b c : Accepted} (h : a.Precedes b) (h' : b.Precedes c) :
    a.Precedes c := by
  rcases h with rfl | ⟨htime, hround⟩
  · exact h'
  rcases h' with rfl | ⟨htime', hround'⟩
  · exact .inr ⟨htime, hround⟩
  · exact .inr ⟨htime.trans htime', hround.trans hround'⟩

theorem not_deviates_self (a : Accepted) : ¬ a.Deviates a := by
  simp [Deviates]

end Accepted

namespace Pool

/-- A complete observation of the market's source and asset that is neither old nor far ahead. -/
structure IsCurrent (mkt : Market) (msg : Msg) (observation : PriceObservation) : Prop where
  latest : msg.latestPrice = some observation
  complete : observation.complete = true
  price : 0 < observation.priceUsdWad
  source : observation.sourceId = mkt.oracleSourceId
  asset : observation.asset = mkt.collateralAsset
  chain : observation.marketChainId = mkt.marketChainId
  skew : observation.observedAt ≤ msg.timestamp + maxOracleFutureSkewSeconds
  age : msg.timestamp ≤ observation.observedAt + maxOracleAgeSeconds

/-- The accepted observation and the halt are the same. -/
def SameOracle (w w' : World) : Prop :=
  w'.pool.accepted = w.pool.accepted ∧
    w'.pool.oracleDeviationHalted = w.pool.oracleDeviationHalted

section Calls

variable {mkt : Market} {msg : Msg} {w w' : World}

theorem SameOracle.refl (w : World) : SameOracle w w := ⟨rfl, rfl⟩

theorem SameOracle.trans {w'' : World} (h : SameOracle w w') (h' : SameOracle w' w'') :
    SameOracle w w'' :=
  ⟨h'.1.trans h.1, h'.2.trans h.2⟩

theorem readValidObservation_ok {observation : PriceObservation}
    (h : readValidObservation mkt msg = .ok observation) : IsCurrent mkt msg observation := by
  simp only [readValidObservation, validateObservationBinding, bind_eq_ok, revertIf_eq_ok,
    add_eq_ok, pure_eq_ok] at h
  obtain ⟨o, hlatest, _, ⟨_, hbinding, horizon, ⟨_, rfl⟩, htime⟩, rfl⟩ := h
  have hread : msg.latestPrice = some o := by
    unfold latestPrice at hlatest
    split at hlatest
    · rename_i hsome
      rw [hsome, Except.ok.inj hlatest]
    · cases hlatest
  simp only [Option.any_some, not_or, not_not, decide_eq_true_eq, Bool.not_eq_false] at hbinding
  obtain ⟨hcomplete, hprice, _, _, _, hsource, hasset, hchain⟩ := hbinding
  exact ⟨hread, hcomplete, Nat.pos_of_ne_zero hprice, hsource, hasset, hchain, by omega, by omega⟩

theorem validateObservationSequence_ok {observation : PriceObservation} {st : Storage} {u : Unit}
    (h : validateObservationSequence observation st = .ok u) :
    st.accepted.Precedes observation.accepted := by
  simp only [validateObservationSequence, revertIf_eq_ok, not_or, not_and, not_not] at h
  obtain ⟨htime, hround, hsameTime, hsameRound⟩ := h
  by_cases heq : observation.observedAt = st.acceptedOracleObservedAt
  · obtain ⟨hr, hp⟩ := hsameTime heq
    exact .inl (Accepted.ext hp heq hr)
  · by_cases heq' : observation.roundId = st.acceptedOracleRoundId
    · exact absurd (hsameRound heq').1 heq
    · refine .inr ⟨?_, ?_⟩
      · show st.acceptedOracleObservedAt < observation.observedAt
        omega
      · show st.acceptedOracleRoundId < observation.roundId
        omega

theorem deviationExceeded_ok {observation : PriceObservation} {st : Storage} {exceeded : Bool}
    (h : deviationExceeded observation.priceUsdWad st = .ok exceeded) :
    exceeded = true ↔ st.accepted.Deviates observation.accepted := by
  simp only [deviationExceeded, bind_eq_ok, mulDivUp_eq_ok, pure_eq_ok] at h
  obtain ⟨difference, hdifference, deviation, ⟨hpos, _, rfl⟩, rfl⟩ := h
  have hsame : difference = max st.acceptedPriceUsdWad observation.priceUsdWad
      - min st.acceptedPriceUsdWad observation.priceUsdWad := by
    split at hdifference
    · obtain ⟨_, rfl⟩ := sub_eq_ok.1 hdifference
      omega
    · obtain ⟨_, rfl⟩ := sub_eq_ok.1 hdifference
      omega
  rw [decide_eq_true_eq, ← not_le, quoteUp_le_iff hpos, not_le, hsame]
  rfl

/-- What a successful call can do to the oracle: nothing, halt it, accept a current observation
within the bound, or accept one of any price and end the halt. -/
inductive Heard (mkt : Market) (msg : Msg) (c : Call) (w w' : World) : Prop
  | kept (same : SameOracle w w')
  | halted (active : w.pool.oracleDeviationHalted = false)
      (accepted : w'.pool.accepted = w.pool.accepted)
  | accepted (observation : PriceObservation) (active : w.pool.oracleDeviationHalted = false)
      (current : IsCurrent mkt msg observation)
      (follows : w.pool.accepted.Precedes observation.accepted)
      (within : ¬ w.pool.accepted.Deviates observation.accepted)
      (accepted : w'.pool.accepted = observation.accepted)
  | recovered (observation : PriceObservation) (call : c = .recoverOracleDeviation)
      (authority : msg.sender = mkt.recoveryAuthority)
      (halted : w.pool.oracleDeviationHalted = true) (current : IsCurrent mkt msg observation)
      (follows : w.pool.accepted.Precedes observation.accepted)
      (accepted : w'.pool.accepted = observation.accepted)

/-- A refresh reads the oracle and leaves its observation accepted. -/
theorem refreshCurrentPrice_heard {price : ℕ}
    (h : refreshCurrentPrice mkt msg w = .ok (w', price)) :
    ∃ observation, w.pool.oracleDeviationHalted = false ∧ IsCurrent mkt msg observation ∧
      w.pool.accepted.Precedes observation.accepted ∧
      ¬ w.pool.accepted.Deviates observation.accepted ∧
      w'.pool.accepted = observation.accepted ∧ price = observation.priceUsdWad := by
  simp only [refreshCurrentPrice, bind_eq_ok, revertIf_eq_ok] at h
  obtain ⟨_, hactive, observation, hread, _, hsequence, exceeded, hexceeded, _, hwithin, hw⟩ := h
  rw [deviationExceeded_ok hexceeded] at hwithin
  refine ⟨observation, Bool.eq_false_of_not_eq_true hactive, readValidObservation_ok hread,
    validateObservationSequence_ok hsequence, hwithin, ?_⟩
  split at hw
  · cases pure_eq_ok.1 hw
    exact ⟨rfl, rfl⟩
  · rename_i hsame
    simp only [not_or, not_not] at hsame
    cases pure_eq_ok.1 hw
    exact ⟨Accepted.ext hsame.2.2.symm hsame.1.symm hsame.2.1.symm, rfl⟩

theorem Accrues.sameOracle (h : Accrues mkt msg w w') : SameOracle w w' := by
  rcases h with rfl | ⟨now, chunks, interest, reserve, _, _, rfl⟩
  · exact .refl _
  · exact ⟨rfl, rfl⟩

theorem accrueToCurrent_sameOracle (h : accrueToCurrent mkt msg w = .ok w') : SameOracle w w' :=
  (accrueToCurrent_ok h).sameOracle

/-! ## Every call -/

/-- The operations that value collateral. -/
def Call.valuesCollateral : Call → Bool
  | .releaseCollateral _ | .borrow _ | .liquidate .. => true
  | _ => false

/-- **An operation that values collateral** accrues, refreshes the price and leaves it. -/
theorem exec_values {c : Call} (hc : c.valuesCollateral = true)
    (h : exec mkt msg w c = .ok w') :
    ∃ w₁ w₂ price, accrueToCurrent mkt msg w = .ok w₁ ∧
      refreshCurrentPrice mkt msg w₁ = .ok (w₂, price) ∧ SameOracle w₂ w' := by
  cases c with
  | releaseCollateral amount =>
    simp only [exec, releaseCollateral, bind_eq_ok, pure_eq_ok, Prod.exists] at h
    obtain ⟨_, _, _, _, w₁, hacc, w₂, price, hprice, _, _, _, _, _, _, _, _, _, _, t, _, rfl⟩ := h
    exact ⟨w₁, w₂, price, hacc, hprice, rfl, rfl⟩
  | borrow amount =>
    simp only [exec, borrow, bind_eq_ok, pure_eq_ok, Prod.exists, Prod.mk.injEq] at h
    obtain ⟨_, _, ⟨_, _, _, _, w₁, hacc, _, _, w₂, price, hprice, _, _, gross, _, _, _, _, _, _, _,
      _, _, _, _, _, _, _, _, cash, _, total, _, mine, _, t, _, _, _, rfl, _⟩, rfl⟩ := h
    exact ⟨w₁, w₂, price, hacc, hprice, rfl, rfl⟩
  | liquidate borrower amount minOut deadline =>
    simp only [exec, bind_eq_ok, pure_eq_ok, Prod.exists] at h
    obtain ⟨_, seized, bad, h, rfl⟩ := h
    obtain ⟨w₁, w₂, w₃, price, t, t', shares, reduced, debtAfter, hacc, hprice, _, _, _, _, _, rfl,
      _, _, _, hw⟩ := liquidate_ok h
    refine ⟨w₁, w₂, price, hacc, hprice, ?_⟩
    rcases hw with ⟨_, _, rfl⟩ | ⟨_, _, _, rfl⟩
    · exact ⟨rfl, rfl⟩
    · exact ⟨rfl, rfl⟩
  | _ => cases hc

/-- **No other call than the two of the oracle and those that value collateral touches it.** -/
theorem exec_keeps {c : Call} (hc : c.valuesCollateral = false) (hsync : c ≠ .syncOracle)
    (hrecover : c ≠ .recoverOracleDeviation) (h : exec mkt msg w c = .ok w') :
    SameOracle w w' := by
  cases c with
  | pauseNewRisk =>
    simp only [exec, pauseNewRisk, bind_eq_ok, pure_eq_ok] at h
    obtain ⟨_, _, _, _, rfl⟩ := h
    exact ⟨rfl, rfl⟩
  | resumeNewRisk =>
    simp only [exec, resumeNewRisk, bind_eq_ok, pure_eq_ok] at h
    obtain ⟨_, _, _, _, rfl⟩ := h
    exact ⟨rfl, rfl⟩
  | syncOracle => exact absurd rfl hsync
  | recoverOracleDeviation => exact absurd rfl hrecover
  | accrueInterest =>
    simp only [exec, bind_eq_ok, pure_eq_ok, Prod.exists] at h
    obtain ⟨_, i, r, n, current, h, rfl⟩ := h
    exact (accrueInterest_ok h).sameOracle
  | supply amount =>
    simp only [exec, bind_eq_ok, pure_eq_ok, Prod.exists] at h
    obtain ⟨_, shares, h, rfl⟩ := h
    obtain ⟨w₁, t, hacc, _, _, rfl⟩ := supply_ok h
    exact (accrueToCurrent_sameOracle hacc).trans ⟨rfl, rfl⟩
  | withdraw amount =>
    simp only [exec, bind_eq_ok, pure_eq_ok, Prod.exists] at h
    obtain ⟨_, shares, h, rfl⟩ := h
    obtain ⟨w₁, t, hacc, _, _, rfl⟩ := withdraw_ok h
    exact (accrueToCurrent_sameOracle hacc).trans ⟨rfl, rfl⟩
  | redeemAll =>
    simp only [exec, bind_eq_ok, pure_eq_ok, Prod.exists] at h
    obtain ⟨_, amount, h, rfl⟩ := h
    obtain ⟨w₁, t, hacc, _, _, rfl⟩ := redeemAll_ok h
    exact (accrueToCurrent_sameOracle hacc).trans ⟨rfl, rfl⟩
  | addCollateral amount =>
    obtain ⟨w₁, t, hacc, _, rfl⟩ := addCollateral_ok h
    exact (accrueToCurrent_sameOracle hacc).trans ⟨rfl, rfl⟩
  | repay amount =>
    simp only [exec, bind_eq_ok, pure_eq_ok, Prod.exists] at h
    obtain ⟨_, r, h, rfl⟩ := h
    obtain ⟨w₁, hacc, ⟨_, h⟩ | ⟨_, h⟩⟩ := repay_ok h
    · obtain ⟨t, _, _, _, rfl⟩ := repayBadDebt_ok h
      exact (accrueToCurrent_sameOracle hacc).trans ⟨rfl, rfl⟩
    · obtain ⟨t, debtAfter, _, _, _, _, hw⟩ := repayPerforming_ok h
      rw [hw]
      exact (accrueToCurrent_sameOracle hacc).trans ⟨rfl, rfl⟩
  | releaseCollateral amount => cases hc
  | borrow amount => cases hc
  | liquidate borrower amount minOut deadline => cases hc

theorem syncOracle_heard {accepted : Bool} (h : syncOracle mkt msg w = .ok (w', accepted)) :
    Heard mkt msg .syncOracle w w' := by
  simp only [syncOracle, bind_eq_ok, revertIf_eq_ok] at h
  obtain ⟨_, hactive, observation, hread, _, hsequence, exceeded, hexceeded, hw⟩ := h
  have hactive := Bool.eq_false_of_not_eq_true hactive
  split at hw
  · cases pure_eq_ok.1 hw
    exact .halted hactive rfl
  · rename_i hwithin
    rw [deviationExceeded_ok hexceeded] at hwithin
    cases pure_eq_ok.1 hw
    exact .accepted observation hactive (readValidObservation_ok hread)
      (validateObservationSequence_ok hsequence) hwithin rfl

theorem recoverOracleDeviation_heard (h : recoverOracleDeviation mkt msg w = .ok w') :
    Heard mkt msg .recoverOracleDeviation w w' := by
  simp only [recoverOracleDeviation, bind_eq_ok, revertIf_eq_ok, pure_eq_ok] at h
  obtain ⟨_, hauthority, _, hhalted, observation, hread, _, hsequence, rfl⟩ := h
  exact .recovered observation rfl (not_not.1 hauthority) (Bool.eq_true_of_not_eq_false hhalted)
    (readValidObservation_ok hread) (validateObservationSequence_ok hsequence) rfl

/-- What a valuing operation does to the oracle. -/
theorem exec_current {c : Call} (hc : c.valuesCollateral = true)
    (h : exec mkt msg w c = .ok w') :
    ∃ w₁ w₂ observation, accrueToCurrent mkt msg w = .ok w₁ ∧
      refreshCurrentPrice mkt msg w₁ = .ok (w₂, observation.priceUsdWad) ∧
      w.pool.oracleDeviationHalted = false ∧ IsCurrent mkt msg observation ∧
      w.pool.accepted.Precedes observation.accepted ∧
      ¬ w.pool.accepted.Deviates observation.accepted ∧
      w'.pool.accepted = observation.accepted := by
  obtain ⟨w₁, w₂, price, hacc, hprice, hsame⟩ := exec_values hc h
  obtain ⟨observation, hactive, hcurrent, hfollows, hwithin, haccepted, rfl⟩ :=
    refreshCurrentPrice_heard hprice
  obtain ⟨hkept, hhalt⟩ := accrueToCurrent_sameOracle hacc
  rw [hkept] at hfollows hwithin
  exact ⟨w₁, w₂, observation, hacc, hprice, hhalt ▸ hactive, hcurrent, hfollows, hwithin,
    hsame.1.trans haccepted⟩

/-- **What a call does to the oracle.** -/
theorem exec_heard {c : Call} (h : exec mkt msg w c = .ok w') : Heard mkt msg c w w' := by
  by_cases hc : c.valuesCollateral = true
  · obtain ⟨_, _, observation, _, _, hactive, hcurrent, hfollows, hwithin, haccepted⟩ :=
      exec_current hc h
    exact .accepted observation hactive hcurrent hfollows hwithin haccepted
  · by_cases hsync : c = .syncOracle
    · subst hsync
      simp only [exec, bind_eq_ok, pure_eq_ok, Prod.exists] at h
      obtain ⟨_, accepted, h, rfl⟩ := h
      exact syncOracle_heard h
    by_cases hrecover : c = .recoverOracleDeviation
    · subst hrecover
      exact recoverOracleDeviation_heard h
    exact .kept (exec_keeps (Bool.eq_false_of_not_eq_true hc) hsync hrecover h)

theorem Heard.precedes {c : Call} (h : Heard mkt msg c w w') :
    w.pool.accepted.Precedes w'.pool.accepted := by
  cases h with
  | kept same => exact .inl same.1
  | halted active accepted => exact .inl accepted
  | accepted observation active current follows within accepted => exact accepted ▸ follows
  | recovered observation call authority halted current follows accepted => exact accepted ▸ follows

/-! ## Runs of the chain -/

theorem chainStep_precedes (w : World) (i : ChainInput) :
    w.pool.accepted.Precedes (chainStep mkt w i).pool.accepted := by
  cases i with
  | call msg c =>
    simp only [chainStep]
    split
    · rename_i w' h
      exact (exec_heard h).precedes
    · exact .refl _
  | tokens debtToken collateralToken =>
    simp only [chainStep]
    split
    · exact .refl _
    · exact .refl _

/-- **Along a run the accepted observations are the same or strictly later.** -/
theorem run_precedes (w : World) (inputs : List ChainInput) :
    w.pool.accepted.Precedes (Run.run (chainStep mkt) w inputs).pool.accepted := by
  refine Run.run_induct (P := fun t : World ↦ w.pool.accepted.Precedes t.pool.accepted) ?_
    (.refl _) inputs
  exact fun t i h ↦ h.trans (chainStep_precedes t i)

/-- **Only a recovery accepts a price beyond the bound.** -/
theorem chainStep_deviates {i : ChainInput}
    (h : w.pool.accepted.Deviates (chainStep mkt w i).pool.accepted) :
    ∃ msg, i = .call msg .recoverOracleDeviation ∧ msg.sender = mkt.recoveryAuthority ∧
      w.pool.oracleDeviationHalted = true := by
  cases i with
  | tokens debtToken collateralToken =>
    simp only [chainStep] at h
    split at h
    · exact absurd h (Accepted.not_deviates_self _)
    · exact absurd h (Accepted.not_deviates_self _)
  | call msg c =>
    simp only [chainStep] at h
    split at h
    · rename_i w' hexec
      cases exec_heard hexec with
      | kept same => exact absurd (same.1 ▸ h) (Accepted.not_deviates_self _)
      | halted active accepted => exact absurd (accepted ▸ h) (Accepted.not_deviates_self _)
      | accepted observation active current follows within accepted =>
        exact absurd (accepted ▸ h) within
      | recovered observation call authority halted current follows accepted =>
        exact ⟨msg, by rw [call], authority, halted⟩
    · exact absurd h (Accepted.not_deviates_self _)

end Calls

end Pool

/-! ## The reference model -/

namespace Reference

/-- `q` is observed later than `p`, or it has its time, its round and its price. -/
def OracleObservation.Follows (p q : OracleObservation) : Prop :=
  p.observedAt < q.observedAt ∨
    q.observedAt = p.observedAt ∧ q.roundId = p.roundId ∧ q.priceUsdWad = p.priceUsdWad

/-- The prices are further apart than the deviation bound. -/
def OracleObservation.Deviates (p q : OracleObservation) : Prop :=
  p.priceUsdWad * Policy.maxOracleDeviationBps
    < (max p.priceUsdWad q.priceUsdWad - min p.priceUsdWad q.priceUsdWad) * Policy.bps

/-- Neither old nor far ahead. -/
def OracleObservation.IsCurrent (now : ℤ) (p : OracleObservation) : Prop :=
  p.observedAt ≤ now + Policy.maxOracleFutureSkewSeconds ∧
    now ≤ p.observedAt + Policy.maxOracleAgeSeconds

theorem OracleObservation.Follows.trans {p q r : OracleObservation} (h : p.Follows q)
    (h' : q.Follows r) : p.Follows r := by
  rcases h with htime | ⟨htime, hround, hprice⟩
  · rcases h' with htime' | ⟨htime', _, _⟩
    · exact .inl (htime.trans htime')
    · exact .inl (htime'.symm ▸ htime)
  · rcases h' with htime' | ⟨htime', hround', hprice'⟩
    · exact .inl (htime ▸ htime')
    · exact .inr ⟨htime'.trans htime, hround'.trans hround, hprice'.trans hprice⟩

variable {state next : State} {now : ℤ}

theorem assertFresh_ok {observation : OracleObservation} {u : Unit}
    (h : assertFresh observation now = .ok u) : observation.IsCurrent now := by
  rw [assertFresh, unavailableIf_eq_ok] at h
  simp only [Policy.maxOracleFutureSkewSeconds, Policy.maxOracleAgeSeconds] at h
  simp only [OracleObservation.IsCurrent, Policy.maxOracleFutureSkewSeconds,
    Policy.maxOracleAgeSeconds]
  omega

theorem assertFollows_ok {p q : OracleObservation} {u : Unit} (h : assertFollows p q = .ok u) :
    p.Follows q ∧ ¬ p.Deviates q := by
  simp only [assertFollows, bind_eq_ok, unavailableIf_eq_ok, not_lt, not_and, not_or, not_not] at h
  obtain ⟨_, htime, _, hwithin, hconflict⟩ := h
  have hsame : (if p.priceUsdWad < q.priceUsdWad then q.priceUsdWad - p.priceUsdWad
      else p.priceUsdWad - q.priceUsdWad)
        = max p.priceUsdWad q.priceUsdWad - min p.priceUsdWad q.priceUsdWad := by
    split <;> omega
  rw [hsame] at hwithin
  refine ⟨?_, not_lt.2 hwithin⟩
  rcases htime.lt_or_eq with hlt | heq
  · exact .inl hlt
  · exact .inr ⟨heq.symm, hconflict heq.symm⟩

theorem accrueChunks_lastAcceptedOracle (iterations : ℕ) {a a' : Accrued}
    (h : accrueChunks now iterations a = .ok a') :
    a'.state.lastAcceptedOracle = a.state.lastAcceptedOracle := by
  induction iterations generalizing a with
  | zero =>
    rw [accrueChunks, pure_eq_ok] at h
    rw [h]
  | succ iterations ih =>
    rw [accrueChunks] at h
    split at h
    · obtain ⟨b, hb, hrest⟩ := bind_eq_ok.1 h
      simp only [accrueChunk, bind_eq_ok, pure_eq_ok, Prod.exists] at hb
      obtain ⟨_, _, _, _, _, rfl⟩ := hb
      rw [ih hrest]
    · rw [pure_eq_ok] at h
      rw [h]

theorem accrueInternal_lastAcceptedOracle {a : Accrued} (h : accrueInternal state now = .ok a) :
    a.state.lastAcceptedOracle = state.lastAcceptedOracle := by
  simp only [accrueInternal, bind_eq_ok, pure_eq_ok] at h
  obtain ⟨_, hnow, _, _, _, _, _, _, _, _, a', ha, _, _, rfl⟩ := h
  exact accrueChunks_lastAcceptedOracle _ ha

@[simp] theorem lastAcceptedOracle_mutablePosition (state : State) (id : String) :
    (mutablePosition state id).lastAcceptedOracle = state.lastAcceptedOracle := by
  unfold mutablePosition
  split <;> rfl

/-- The health is computed with the accepted price, and only while that is current. -/
theorem healthFromState_current {id : String} {collateral : Option ℤ} {increase : ℤ}
    {health : Health} (h : healthFromState state id now collateral increase = .ok health) :
    ∃ observation, state.lastAcceptedOracle = some observation ∧ observation.IsCurrent now ∧
      health.priceUsdWad = observation.priceUsdWad := by
  simp only [healthFromState, assertCurrentOracle, bind_eq_ok, pure_eq_ok] at h
  obtain ⟨oracle, ⟨now', hnow, hcurrent⟩, _, _, _, _, _, _, _, _, _, _, rfl⟩ := h
  rw [(assertReferenceUint_ok hnow).1] at *
  split at hcurrent
  · cases hcurrent
  · rename_i observation hsome
    simp only [bind_eq_ok, pure_eq_ok] at hcurrent
    obtain ⟨_, _, _, hfresh, rfl⟩ := hcurrent
    exact ⟨observation, hsome, assertFresh_ok hfresh, rfl⟩

/-- The operations that value collateral. -/
def Operation.valuesCollateral : Operation → Bool
  | .releaseCollateral .. | .borrow .. | .liquidate .. => true
  | _ => false

/-- **An operation that values collateral succeeds only with a current price.** -/
theorem transition_current {op : Operation} (hop : op.valuesCollateral = true)
    (h : transition state now op = .ok next) :
    next.lastAcceptedOracle = state.lastAcceptedOracle ∧
      ∃ observation, state.lastAcceptedOracle = some observation ∧ observation.IsCurrent now := by
  have hcurrent : ∀ {a : Accrued} {id' id : String} {collateral : Option ℤ} {increase : ℤ}
      {health : Health}, accrueInternal state now = .ok a →
      healthFromState (mutablePosition a.state id') id now collateral increase = .ok health →
      ∃ observation, state.lastAcceptedOracle = some observation ∧ observation.IsCurrent now := by
    intro a id' id collateral increase health ha hhealth
    obtain ⟨observation, hsome, hcurrent, _⟩ := healthFromState_current hhealth
    rw [lastAcceptedOracle_mutablePosition, accrueInternal_lastAcceptedOracle ha] at hsome
    exact ⟨observation, hsome, hcurrent⟩
  cases op with
  | releaseCollateral id amount =>
    simp only [transition, releasePoolReferenceCollateral, bind_eq_ok, pure_eq_ok] at h
    obtain ⟨_, ⟨id', _, amount', _, a, ha, _, _, health, hhealth, _, _, _, _, rfl⟩, rfl⟩ := h
    refine ⟨?_, hcurrent ha hhealth⟩
    exact (lastAcceptedOracle_mutablePosition _ _).trans (accrueInternal_lastAcceptedOracle ha)
  | borrow id amount =>
    simp only [transition, borrowPoolReferenceAssets, bind_eq_ok, pure_eq_ok] at h
    obtain ⟨_, ⟨id', _, amount', _, a, ha, _, _, _, _, _, _, health, hhealth, _, _, _, _, _,
      _, _, _, _, _, rfl⟩, rfl⟩ := h
    refine ⟨?_, hcurrent ha hhealth⟩
    exact (lastAcceptedOracle_mutablePosition _ _).trans (accrueInternal_lastAcceptedOracle ha)
  | liquidate id amount =>
    simp only [transition, liquidatePoolReferencePosition, settlePoolReferenceLiquidation,
      repayPerformingInternal, bind_eq_ok, pure_eq_ok, Prod.exists, Prod.mk.injEq] at h
    obtain ⟨final, _, _, ⟨id', _, settled,
      ⟨amount', _, a, ha, health, hhealth, _, _, _, _, _, _, _, _, _, _, _, _, mid, r,
        ⟨_, _, _, _, shares, reduced, _, rfl, _⟩, _, _, _, _, _, _, rfl⟩, next', bad,
      hbad, _, _, rfl, _⟩, rfl⟩ := h
    refine ⟨?_, hcurrent ha hhealth⟩
    have hkept : next'.lastAcceptedOracle = (mutablePosition a.state id').lastAcceptedOracle := by
      split at hbad
      · simp only [recognizeBadDebtInternal, bind_eq_ok, pure_eq_ok, Prod.mk.injEq] at hbad
        obtain ⟨_, _, _, _, rfl, _⟩ := hbad
        rfl
      · obtain ⟨rfl, _⟩ := Prod.mk.inj (pure_eq_ok.1 hbad)
        rfl
    rw [hkept, lastAcceptedOracle_mutablePosition, accrueInternal_lastAcceptedOracle ha]
  | _ => cases hop

/-- **What a transition does to the accepted observation.** -/
theorem transition_oracle {op : Operation} (h : transition state now op = .ok next) :
    next.lastAcceptedOracle = state.lastAcceptedOracle ∨
      ∃ q, next.lastAcceptedOracle = some q ∧ q.IsCurrent now ∧
        ∀ p, state.lastAcceptedOracle = some p → p.Follows q ∧ ¬ p.Deviates q := by
  cases op with
  | acceptOracle observation =>
    simp only [transition, acceptPoolReferenceOracle, bind_eq_ok, pure_eq_ok] at h
    obtain ⟨_, _, now', hnow, _, _, _, hfresh, _, hfollows, _, _, rfl⟩ := h
    rw [(assertReferenceUint_ok hnow).1] at hfresh
    refine .inr ⟨observation, rfl, assertFresh_ok hfresh, fun p hp ↦ ?_⟩
    rw [hp] at hfollows
    exact assertFollows_ok hfollows
  | accrue =>
    simp only [transition, accruePoolReferenceInterest, bind_eq_ok, pure_eq_ok] at h
    obtain ⟨a, ha, rfl⟩ := h
    exact .inl (accrueInternal_lastAcceptedOracle ha)
  | supply id amount =>
    simp only [transition, supplyPoolReferenceAssets, bind_eq_ok, pure_eq_ok] at h
    obtain ⟨_, ⟨_, _, amount', _, a, ha, _, _, _, _, _, _, rfl⟩, rfl⟩ := h
    have hkept := accrueInternal_lastAcceptedOracle ha
    exact .inl hkept
  | donate amount =>
    simp only [transition, donatePoolReferenceCash, bind_eq_ok, pure_eq_ok] at h
    obtain ⟨_, ⟨amount', _, a, ha, _, _, rfl⟩, rfl⟩ := h
    have hkept := accrueInternal_lastAcceptedOracle ha
    exact .inl hkept
  | withdraw id amount =>
    simp only [transition, withdrawPoolReferenceAssets, bind_eq_ok, pure_eq_ok] at h
    obtain ⟨_, ⟨_, _, amount', _, a, ha, _, _, _, _, _, _, _, _, _, _, rfl⟩, rfl⟩ := h
    exact .inl ((lastAcceptedOracle_mutablePosition _ _).trans
      (accrueInternal_lastAcceptedOracle ha))
  | redeemAll id =>
    simp only [transition, redeemAllPoolReferenceShares, bind_eq_ok, pure_eq_ok] at h
    obtain ⟨_, ⟨_, _, a, ha, _, _, _, _, _, _, _, _, rfl⟩, rfl⟩ := h
    exact .inl ((lastAcceptedOracle_mutablePosition _ _).trans
      (accrueInternal_lastAcceptedOracle ha))
  | addCollateral id amount =>
    simp only [transition, addPoolReferenceCollateral, bind_eq_ok, pure_eq_ok] at h
    obtain ⟨_, ⟨_, _, amount', _, a, ha, _, _, rfl⟩, rfl⟩ := h
    exact .inl ((lastAcceptedOracle_mutablePosition _ _).trans
      (accrueInternal_lastAcceptedOracle ha))
  | repay id amount =>
    simp only [transition, repayPoolReferenceAssets, bind_eq_ok, pure_eq_ok] at h
    obtain ⟨_, ⟨_, _, amount', _, a, ha, h⟩, rfl⟩ := h
    refine .inl ?_
    rw [← accrueInternal_lastAcceptedOracle ha]
    split at h
    · simp only [bind_eq_ok, pure_eq_ok] at h
      obtain ⟨_, _, _, _, rfl⟩ := h
      exact lastAcceptedOracle_mutablePosition _ _
    · simp only [repayPerformingInternal, bind_eq_ok, pure_eq_ok, Prod.exists, Prod.mk.injEq] at h
      obtain ⟨mid, r, ⟨_, _, _, _, shares, reduced, _, rfl, _⟩, _, _, rfl⟩ := h
      exact lastAcceptedOracle_mutablePosition _ _
  | releaseCollateral id amount => exact .inl (transition_current rfl h).1
  | borrow id amount => exact .inl (transition_current rfl h).1
  | liquidate id amount => exact .inl (transition_current rfl h).1

/-- A caller of the reference model keeps the state it has when a transition throws. -/
def step (state : State) (input : ℤ × Operation) : State :=
  match transition state input.1 input.2 with
  | .ok next => next
  | .error _ => state

/-- Once there is an accepted observation there always is one, and the times only go forward. -/
theorem run_follows (p : OracleObservation) (inputs : List (ℤ × Operation))
    (hp : state.lastAcceptedOracle = some p) :
    ∃ q, (Run.run step state inputs).lastAcceptedOracle = some q ∧ p.Follows q := by
  refine Run.run_induct (P := fun t : State ↦ ∃ q, t.lastAcceptedOracle = some q ∧ p.Follows q) ?_
    ⟨p, hp, .inr ⟨rfl, rfl, rfl⟩⟩ inputs
  rintro t ⟨now, op⟩ ⟨q, hq, hpq⟩
  simp only [step]
  split
  · rename_i next h
    rcases transition_oracle h with hkept | ⟨r, hr, _, hfollows⟩
    · exact ⟨q, hkept.trans hq, hpq⟩
    · exact ⟨r, hr, hpq.trans (hfollows q hq).1⟩
  · exact ⟨q, hq, hpq⟩

/-- A step never accepts a price beyond the bound. -/
theorem step_not_deviates {p q : OracleObservation} (input : ℤ × Operation)
    (hp : state.lastAcceptedOracle = some p)
    (hq : (step state input).lastAcceptedOracle = some q) : q = p ∨ ¬ p.Deviates q := by
  simp only [step] at hq
  split at hq
  · rename_i next h
    rcases transition_oracle h with hkept | ⟨r, hr, _, hfollows⟩
    · rw [hkept, hp] at hq
      exact .inl (Option.some.inj hq).symm
    · rw [hr] at hq
      exact .inr (Option.some.inj hq ▸ (hfollows p hp).2)
  · rw [hp] at hq
    exact .inl (Option.some.inj hq).symm

end Reference

/-! ## Both pools -/

/-- **The sequence of accepted prices.**  Along every run of the contract the accepted observation
stays the same or moves to a strictly later time and round, two consecutive ones are further apart
than the bound only by a recovery of the recovery authority, and an operation that values collateral
succeeds only without a halt and with a current observation that it reads itself and leaves
accepted.  In the reference model the times are ordered so, the bound is never exceeded, and the
operations that value collateral succeed only while the accepted observation is current. -/
theorem oracle_sequence :
    (∀ mkt w, Pool.Reachable mkt w →
      (∀ inputs, w.pool.accepted.Precedes
        (Run.run (Pool.chainStep mkt) w inputs).pool.accepted) ∧
      (∀ i, w.pool.accepted.Deviates (Pool.chainStep mkt w i).pool.accepted →
        ∃ msg, i = .call msg .recoverOracleDeviation ∧ msg.sender = mkt.recoveryAuthority ∧
          w.pool.oracleDeviationHalted = true) ∧
      ∀ msg c w', c.valuesCollateral = true → Pool.exec mkt msg w c = .ok w' →
        w.pool.oracleDeviationHalted = false ∧
          ∃ w₁ w₂ observation, Pool.accrueToCurrent mkt msg w = .ok w₁ ∧
            Pool.refreshCurrentPrice mkt msg w₁ = .ok (w₂, observation.priceUsdWad) ∧
            Pool.IsCurrent mkt msg observation ∧ w'.pool.accepted = observation.accepted) ∧
    ∀ state : Reference.State,
      (∀ inputs p, state.lastAcceptedOracle = some p →
        ∃ q, (Run.run Reference.step state inputs).lastAcceptedOracle = some q ∧ p.Follows q) ∧
      (∀ input p q, state.lastAcceptedOracle = some p →
        (Reference.step state input).lastAcceptedOracle = some q → q = p ∨ ¬ p.Deviates q) ∧
      ∀ now op next, op.valuesCollateral = true →
        Reference.transition state now op = .ok next →
        ∃ observation, state.lastAcceptedOracle = some observation ∧ observation.IsCurrent now := by
  refine ⟨fun mkt w _ ↦ ⟨Pool.run_precedes w, fun i ↦ Pool.chainStep_deviates, ?_⟩, fun state ↦
    ⟨fun inputs p ↦ Reference.run_follows p inputs,
      fun input p q ↦ Reference.step_not_deviates input,
      fun now op next hop h ↦ (Reference.transition_current hop h).2⟩⟩
  intro msg c w' hc h
  obtain ⟨w₁, w₂, observation, hacc, hprice, hactive, hcurrent, _, _, haccepted⟩ :=
    Pool.exec_current hc h
  exact ⟨hactive, w₁, w₂, observation, hacc, hprice, hcurrent, haccepted⟩

/-- A loan of the contract, and a supply in the reference model. -/
theorem oracle_sequence_loan :
    (∃ observation, Pool.IsCurrent Pool.Sample.market Pool.Sample.borrower observation) ∧
      ∃ q, (Run.run Reference.step Reference.Sample.state
        [(605801, .supply "lp" 1)]).lastAcceptedOracle = some q := by
  constructor
  · have hok : (Pool.exec Pool.Sample.market Pool.Sample.borrower
        (Pool.Sample.after Pool.Sample.accruedLoan) (.borrow 1001)).isOk = true := by
      decide +kernel
    obtain ⟨w', h⟩ := isOk_iff.1 hok
    obtain ⟨_, _, _, observation, _, _, hcurrent, _⟩ :=
      (oracle_sequence.1 _ _ (Pool.Sample.reachable _)).2.2 _ _ _ rfl h
    exact ⟨observation, hcurrent⟩
  · obtain ⟨q, hq, _⟩ := (oracle_sequence.2 Reference.Sample.state).1 _ _ rfl
    exact ⟨q, hq⟩

/-- The accepted price is a week old, and the contract makes a loan: it reads a new one first.  And
the reference model accepts the first round after the second. -/
theorem oracle_refreshed_and_unordered :
    Pool.Reachable Pool.Sample.market (Pool.Sample.after Pool.Sample.accruedLoan) ∧
      (Pool.Sample.after Pool.Sample.accruedLoan).pool.acceptedOracleObservedAt
        + Pool.maxOracleAgeSeconds < Pool.Sample.borrower.timestamp ∧
      (Pool.exec Pool.Sample.market Pool.Sample.borrower
        (Pool.Sample.after Pool.Sample.accruedLoan) (.borrow 1001)).isOk = true ∧
      (Reference.transition Reference.Sample.state 605801
        (.acceptOracle (Reference.Sample.observation "round-1" 605801))).isOk = true :=
  ⟨Pool.Sample.reachable _, by decide +kernel, by decide +kernel, by decide +kernel⟩

end IpoOne
