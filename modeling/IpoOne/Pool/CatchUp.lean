import IpoOne.Pool.Limits
import IpoOne.Pool.Windows

/-!
# Catching up

One call of `accrueInterest` processes at most 32 windows, so after a long pause the pool has to be
called again.  `accrueUntil` does so, in one block, until a call reports that it caught up.

* `accrueInterest_debt` — a call leaves what all windows up to the block leave, or what 32 leave.
* `accrueUntil_cases` — enough calls catch up, unless an amount leaves the word.
* `exec_of_accrued` — an operation works on the debt that a call which catches up leaves.
* `chunked_accrual` — the calls, the reference model's single accrual, and the operations together.
-/

set_option autoImplicit false

namespace IpoOne

open Evm Fallible

namespace Debt

variable {cash bad now : ℕ} {d : Debt}

/-- Enough windows reach the time. -/
theorem lastAccruedAt_of_le {n : ℕ} (hle : d.lastAccruedAt ≤ now)
    (hn : now ≤ d.lastAccruedAt + n * window) :
    (d.windows cash bad now n).lastAccruedAt = now := by
  rw [lastAccruedAt_windows n hle]
  omega

/-- What is reached with the time bounds what is reached on the way. -/
theorem windows_le_of_current {n : ℕ} (m : ℕ)
    (hn : now ≤ (d.windows cash bad now n).lastAccruedAt) :
    (d.windows cash bad now m).Le (d.windows cash bad now n) := by
  rcases Nat.le_total m n with hle | hle
  · obtain ⟨k, rfl⟩ := Nat.exists_eq_add_of_le hle
    rw [windows_add]
    exact windows_le k _
  · obtain ⟨k, rfl⟩ := Nat.exists_eq_add_of_le hle
    rw [windows_add, windows_of_current hn]
    exact .refl _

end Debt

/-- The part of the storage that the accrual changes. -/
def Storage.debt (st : Storage) : Debt where
  gross := st.grossDebtAssets
  reserves := st.reservesAssets
  lastAccruedAt := st.lastAccruedAt

/-- What the storage comes to by `now`, with so many windows at most. -/
def Storage.accrued (st : Storage) (now windows : ℕ) : Debt :=
  st.debt.windows st.cashAssets st.badDebtAssets now windows

namespace Pool

/-- Where the time is reached the loop stops at once. -/
theorem accrueChunks_of_current {cash now : ℕ} {a : Accrual} (h : now ≤ a.lastAccruedAt)
    (chunksLeft : ℕ) : accrueChunks cash now chunksLeft a = .ok a := by
  cases chunksLeft with
  | zero => rfl
  | succ chunksLeft =>
    rw [accrueChunks, if_neg (not_lt.2 h)]
    rfl

/-- Calls `accrueInterest` in one block until a call catches up, at most so many times.  The flag
says whether one did. -/
def accrueUntil (mkt : Market) (msg : Msg) : ℕ → World → PoolTx (World × Bool)
  | 0, w => pure (w, false)
  | calls + 1, w => do
    let (w, _, _, _, caughtUp) ← accrueInterest mkt msg w
    if caughtUp = true then pure (w, true) else accrueUntil mkt msg calls w

variable {mkt : Market} {msg : Msg} {w w' : World}

/-! ## One call -/

/-- The accrual leaves the rest of the storage alone. -/
theorem Accrues.frame (h : Accrues mkt msg w w') : w'.pool.cashAssets = w.pool.cashAssets ∧
    w'.pool.badDebtAssets = w.pool.badDebtAssets ∧
    w'.pool.newRiskPaused = w.pool.newRiskPaused ∧
    w'.pool.collateralAssetsOf = w.pool.collateralAssetsOf := by
  rcases h with rfl | ⟨now, chunks, interest, reserve, _, _, rfl⟩
  · exact ⟨rfl, rfl, rfl, rfl⟩
  · exact ⟨rfl, rfl, rfl, rfl⟩

/-- The debt only grows, and what is written off of it stays. -/
theorem Accrues.bad_le (h : Accrues mkt msg w w')
    (hbad : w.pool.badDebtAssets ≤ w.pool.grossDebtAssets) :
    w'.pool.badDebtAssets ≤ w'.pool.grossDebtAssets := by
  rcases h with rfl | ⟨now, chunks, interest, reserve, _, _, rfl⟩
  · exact hbad
  · exact Nat.le_add_right_of_le hbad

theorem accrue_debt {maxChunks i r c n : ℕ}
    (hn : msg.timestamp ≤ w.pool.lastAccruedAt + n * Debt.window)
    (h : accrue mkt msg maxChunks w = .ok (w', i, r, c)) :
    w'.pool.debt = w.pool.accrued msg.timestamp n ∨
      w'.pool.debt = w.pool.accrued msg.timestamp maxChunks := by
  simp only [accrue, bind_eq_ok, revertIf_eq_ok, Storage.performingDebtAssets_eq_ok] at h
  obtain ⟨_, hnow, performing, ⟨hbad, rfl⟩, a, ha, hw⟩ := h
  have hdebt : w'.pool.debt = a.debt := by
    split at hw
    · cases pure_eq_ok.1 hw
      rfl
    · cases pure_eq_ok.1 hw
      rfl
  rw [hdebt]
  split at ha
  · -- without performing debt the clock jumps to the block, where the windows also end
    rename_i hidle
    left
    have hgross : w.pool.grossDebtAssets ≤ w.pool.badDebtAssets := Nat.sub_eq_zero_iff_le.1 hidle
    have hlast : (w.pool.accrued msg.timestamp n).lastAccruedAt = msg.timestamp :=
      Debt.lastAccruedAt_of_le (not_lt.1 hnow) hn
    rw [Storage.accrued] at hlast ⊢
    rw [← pure_eq_ok.1 ha, Debt.windows_of_idle n hgross, hlast]
    rfl
  · right
    exact accrueChunks_windows maxChunks ⟨hbad, rfl, Nat.zero_le _, Nat.zero_le _⟩ ha

theorem accrueInterest_debt {i r c n : ℕ} {caughtUp : Bool}
    (hn : msg.timestamp ≤ w.pool.lastAccruedAt + n * Debt.window)
    (h : accrueInterest mkt msg w = .ok (w', i, r, c, caughtUp)) :
    caughtUp = decide (w'.pool.lastAccruedAt = msg.timestamp) ∧
      (w'.pool.debt = w.pool.accrued msg.timestamp n ∨
        w'.pool.debt = w.pool.accrued msg.timestamp maxAccrualChunksPerCall) := by
  simp only [accrueInterest, bind_eq_ok, pure_eq_ok, Prod.exists, Prod.mk.injEq] at h
  obtain ⟨w₁, i, r, c, haccrue, rfl, _, _, _, rfl⟩ := h
  exact ⟨rfl, accrue_debt hn haccrue⟩

/-- A call that does not catch up has processed all the windows it may. -/
theorem accrueInterest_behind {i r c : ℕ} (hnow : w.pool.lastAccruedAt ≤ msg.timestamp)
    (h : accrueInterest mkt msg w = .ok (w', i, r, c, false)) :
    w'.pool.debt = w.pool.accrued msg.timestamp maxAccrualChunksPerCall ∧
      w'.pool.lastAccruedAt = w.pool.lastAccruedAt + maxAccrualChunksPerCall * Debt.window ∧
      w'.pool.lastAccruedAt < msg.timestamp := by
  have hn : msg.timestamp ≤ w.pool.lastAccruedAt + msg.timestamp * Debt.window :=
    Nat.le_add_left_of_le (Nat.le_mul_of_pos_right _ (by decide))
  obtain ⟨hflag, hdebt⟩ := accrueInterest_debt hn h
  have hbehind : w'.pool.lastAccruedAt ≠ msg.timestamp := of_decide_eq_false hflag.symm
  have hdebt : w'.pool.debt = w.pool.accrued msg.timestamp maxAccrualChunksPerCall :=
    hdebt.resolve_left fun hall ↦ hbehind
      ((congrArg Debt.lastAccruedAt hall).trans (Debt.lastAccruedAt_of_le hnow hn))
  have hlast : w'.pool.lastAccruedAt =
      min msg.timestamp (w.pool.lastAccruedAt + maxAccrualChunksPerCall * Debt.window) :=
    (congrArg Debt.lastAccruedAt hdebt).trans (Debt.lastAccruedAt_windows _ hnow)
  exact ⟨hdebt, by omega, by omega⟩

theorem onlyOverflows_accrueInterest (hnow : w.pool.lastAccruedAt ≤ msg.timestamp)
    (hbad : w.pool.badDebtAssets ≤ w.pool.grossDebtAssets) :
    OnlyOverflows (accrueInterest mkt msg w) := by
  refine OnlyOverflows.bind ?_ fun _ _ ↦ onlyOverflows_ok _
  rw [accrue, revertIf, failIf, if_neg (not_lt.2 hnow)]
  refine (onlyOverflows_sub hbad).bind fun performing _ ↦ OnlyOverflows.bind ?_ fun a _ ↦ ?_
  · split
    · exact onlyOverflows_ok _
    · exact onlyOverflows_accrueChunks _ _ _ _
  · split
    · exact onlyOverflows_ok _
    · exact onlyOverflows_ok _

theorem exists_accrueInterest {n : ℕ} (hnow : w.pool.lastAccruedAt ≤ msg.timestamp)
    (hbad : w.pool.badDebtAssets ≤ w.pool.grossDebtAssets)
    (hn : msg.timestamp ≤ w.pool.lastAccruedAt + n * Debt.window)
    (hfits : (w.pool.accrued msg.timestamp n).Fits w.pool.cashAssets) :
    ∃ r, accrueInterest mkt msg w = .ok r := by
  -- 32 windows end with no more than all of them
  have hchunks : (w.pool.accrued msg.timestamp maxAccrualChunksPerCall).Fits w.pool.cashAssets :=
    (Debt.windows_le_of_current _ (Debt.lastAccruedAt_of_le hnow hn).ge).fits hfits
  refine exists_bind_eq_ok ?_ fun _ _ ↦ ⟨_, rfl⟩
  rw [accrue, revertIf, failIf, if_neg (not_lt.2 hnow)]
  refine exists_bind_eq_ok (x := w.pool.performingDebtAssets) ⟨_, sub_eq_ok.2 ⟨hbad, rfl⟩⟩
    fun performing hperforming ↦ ?_
  obtain ⟨_, rfl⟩ := sub_eq_ok.1 hperforming
  refine exists_bind_eq_ok ?_ fun a _ ↦ ?_
  · split
    · exact ⟨_, rfl⟩
    · exact exists_accrueChunks _ ⟨hbad, rfl, Nat.zero_le _, Nat.zero_le _⟩ hchunks
  · split
    · exact ⟨_, rfl⟩
    · exact ⟨_, rfl⟩

/-! ## Calling until caught up -/

/-- What is known of an accrual that stays within the block carries over a call that is behind. -/
theorem accrued_behind {i r c n : ℕ} (hnow : w.pool.lastAccruedAt ≤ msg.timestamp)
    (hn : msg.timestamp ≤ w.pool.lastAccruedAt + n * Debt.window)
    (h : accrueInterest mkt msg w = .ok (w', i, r, c, false)) :
    w'.pool.accrued msg.timestamp n = w.pool.accrued msg.timestamp n := by
  obtain ⟨hcash, hbad, _, _⟩ := (accrueInterest_ok h).frame
  obtain ⟨hdebt, hlast, hlt⟩ := accrueInterest_behind hnow h
  rw [Storage.accrued, hdebt, hcash, hbad, Storage.accrued, ← Debt.windows_add]
  refine Debt.windows_eq_of_current ?_ (Debt.lastAccruedAt_of_le hnow hn).ge
  refine (Debt.lastAccruedAt_of_le hnow (hn.trans ?_)).ge
  exact Nat.add_le_add_left (Nat.mul_le_mul_right _ (Nat.le_add_left ..)) _

theorem accrueUntil_debt (calls : ℕ) {n : ℕ} {caughtUp : Bool}
    (hnow : w.pool.lastAccruedAt ≤ msg.timestamp)
    (hn : msg.timestamp ≤ w.pool.lastAccruedAt + n * Debt.window)
    (h : accrueUntil mkt msg calls w = .ok (w', caughtUp)) :
    (caughtUp = true → w'.pool.debt = w.pool.accrued msg.timestamp n) ∧
      (caughtUp = false → calls = 0 ∨ w.pool.lastAccruedAt +
        calls * (maxAccrualChunksPerCall * Debt.window) < msg.timestamp) := by
  induction calls generalizing w with
  | zero =>
    obtain ⟨rfl, rfl⟩ := Prod.mk.inj (pure_eq_ok.1 h)
    exact ⟨nofun, fun _ ↦ .inl rfl⟩
  | succ calls ih =>
    obtain ⟨⟨w₁, i, r, c, current⟩, hcall, h⟩ := bind_eq_ok.1 h
    cases current with
    | true =>
      obtain ⟨rfl, rfl⟩ := Prod.mk.inj (pure_eq_ok.1 h)
      obtain ⟨hflag, hdebt⟩ := accrueInterest_debt hn hcall
      have hlast : w₁.pool.debt.lastAccruedAt = msg.timestamp := of_decide_eq_true hflag.symm
      refine ⟨fun _ ↦ hdebt.elim id fun hchunks ↦ ?_, nofun⟩
      rw [hchunks] at hlast ⊢
      exact Debt.windows_eq_of_current hlast.ge (Debt.lastAccruedAt_of_le hnow hn).ge
    | false =>
      obtain ⟨_, hlast, hlt⟩ := accrueInterest_behind hnow hcall
      obtain ⟨hup, hbehind⟩ := ih hlt.le (by omega) h
      rw [accrued_behind hnow hn hcall] at hup
      refine ⟨hup, fun hflag ↦ .inr ?_⟩
      rcases hbehind hflag with rfl | hfar
      · rw [Nat.zero_add, Nat.one_mul]
        omega
      · rw [Nat.succ_mul]
        omega

/-- The calls leave the cash and the bad debt alone. -/
theorem accrueUntil_frame (calls : ℕ) {caughtUp : Bool}
    (h : accrueUntil mkt msg calls w = .ok (w', caughtUp)) :
    w'.pool.cashAssets = w.pool.cashAssets ∧ w'.pool.badDebtAssets = w.pool.badDebtAssets := by
  induction calls generalizing w with
  | zero =>
    obtain ⟨rfl, _⟩ := Prod.mk.inj (pure_eq_ok.1 h)
    exact ⟨rfl, rfl⟩
  | succ calls ih =>
    obtain ⟨⟨w₁, i, r, c, current⟩, hcall, h⟩ := bind_eq_ok.1 h
    obtain ⟨hcash, hbad, _, _⟩ := (accrueInterest_ok hcall).frame
    cases current with
    | true =>
      obtain ⟨rfl, _⟩ := Prod.mk.inj (pure_eq_ok.1 h)
      exact ⟨hcash, hbad⟩
    | false =>
      obtain ⟨hcash', hbad'⟩ := ih h
      exact ⟨hcash'.trans hcash, hbad'.trans hbad⟩

theorem onlyOverflows_accrueUntil (calls : ℕ) (hnow : w.pool.lastAccruedAt ≤ msg.timestamp)
    (hbad : w.pool.badDebtAssets ≤ w.pool.grossDebtAssets) :
    OnlyOverflows (accrueUntil mkt msg calls w) := by
  induction calls generalizing w with
  | zero => exact onlyOverflows_ok _
  | succ calls ih =>
    refine (onlyOverflows_accrueInterest hnow hbad).bind fun ⟨w₁, i, r, c, current⟩ hcall ↦ ?_
    cases current with
    | true => exact onlyOverflows_ok _
    | false =>
      obtain ⟨_, _, hlt⟩ := accrueInterest_behind hnow hcall
      exact ih hlt.le ((accrueInterest_ok hcall).bad_le hbad)

theorem exists_accrueUntil (calls : ℕ) {n : ℕ} (hnow : w.pool.lastAccruedAt ≤ msg.timestamp)
    (hbad : w.pool.badDebtAssets ≤ w.pool.grossDebtAssets)
    (hn : msg.timestamp ≤ w.pool.lastAccruedAt + n * Debt.window)
    (hfits : (w.pool.accrued msg.timestamp n).Fits w.pool.cashAssets) :
    ∃ r, accrueUntil mkt msg calls w = .ok r := by
  induction calls generalizing w with
  | zero => exact ⟨_, rfl⟩
  | succ calls ih =>
    obtain ⟨⟨w₁, i, r, c, current⟩, hcall⟩ := exists_accrueInterest hnow hbad hn hfits
    cases current with
    | true => exact ⟨_, bind_eq_ok.2 ⟨_, hcall, rfl⟩⟩
    | false =>
      obtain ⟨_, hlast, hlt⟩ := accrueInterest_behind hnow hcall
      obtain ⟨hcash, _⟩ := (accrueInterest_ok hcall).frame
      obtain ⟨s, hs⟩ := ih hlt.le ((accrueInterest_ok hcall).bad_le hbad) (by omega)
        (by rw [accrued_behind hnow hn hcall, hcash]; exact hfits)
      exact ⟨s, bind_eq_ok.2 ⟨_, hcall, hs⟩⟩

/-- **Enough calls catch up**, unless an amount leaves the word. -/
theorem accrueUntil_cases {calls : ℕ} (hnow : w.pool.lastAccruedAt ≤ msg.timestamp)
    (hbad : w.pool.badDebtAssets ≤ w.pool.grossDebtAssets) (hpos : 0 < calls)
    (hcalls : msg.timestamp ≤
      w.pool.lastAccruedAt + calls * (maxAccrualChunksPerCall * maxAccrualChunkSeconds)) :
    (∃ w', accrueUntil mkt msg calls w = .ok (w', true) ∧ w'.pool.debt =
        w.pool.accrued msg.timestamp (calls * maxAccrualChunksPerCall)) ∨
      (accrueUntil mkt msg calls w = .error (.panic .overflow) ∧
        ¬ (w.pool.accrued msg.timestamp (calls * maxAccrualChunksPerCall)).Fits
          w.pool.cashAssets) := by
  have hn : msg.timestamp ≤
      w.pool.lastAccruedAt + calls * maxAccrualChunksPerCall * Debt.window := by
    rw [Nat.mul_assoc]
    exact hcalls
  cases h : accrueUntil mkt msg calls w with
  | error e =>
    obtain rfl := onlyOverflows_accrueUntil calls hnow hbad e h
    refine .inr ⟨rfl, fun hfits ↦ ?_⟩
    obtain ⟨r, hr⟩ : ∃ r, accrueUntil mkt msg calls w = .ok r :=
      exists_accrueUntil calls hnow hbad hn hfits
    exact nomatch h.symm.trans hr
  | ok result =>
    obtain ⟨w', caughtUp⟩ := result
    obtain ⟨hup, hbehind⟩ := accrueUntil_debt calls hnow hn h
    cases caughtUp with
    | true => exact .inl ⟨w', rfl, hup rfl⟩
    | false =>
      have hfar := (hbehind rfl).resolve_left hpos.ne'
      exact absurd hcalls (not_le.2 hfar)

/-! ## Operations -/

/-- The calls that accrue up to the block before they do anything else. -/
def Call.accruesFirst : Call → Bool
  | .pauseNewRisk => false
  | .resumeNewRisk => false
  | .syncOracle => false
  | .recoverOracleDeviation => false
  | .accrueInterest => false
  | _ => true

theorem accrueToCurrent_eq_ok {w₁ : World} : accrueToCurrent mkt msg w = .ok w₁ ↔
    ∃ i r c, accrueInterest mkt msg w = .ok (w₁, i, r, c, true) := by
  simp only [accrueToCurrent, accrueInterest, bind_eq_ok, revertIf_eq_ok, pure_eq_ok, Prod.exists,
    Prod.mk.injEq, not_not]
  constructor
  · rintro ⟨w₁, i, r, c, haccrue, _, hlast, rfl⟩
    exact ⟨i, r, c, w₁, i, r, c, haccrue, rfl, rfl, rfl, rfl, decide_eq_true hlast⟩
  · rintro ⟨i, r, c, w₁, i, r, c, haccrue, rfl, rfl, rfl, rfl, hlast⟩
    exact ⟨w₁, i, r, c, haccrue, (), of_decide_eq_true hlast, rfl⟩

/-- Where the accrual has caught up, it has nothing to do. -/
theorem accrueToCurrent_of_current (hcurrent : w.pool.lastAccruedAt = msg.timestamp)
    (hbad : w.pool.badDebtAssets ≤ w.pool.grossDebtAssets) :
    accrueToCurrent mkt msg w = .ok w := by
  have haccrue : accrue mkt msg maxAccrualChunksPerCall w = .ok (w, 0, 0, 0) := by
    simp only [accrue, bind_eq_ok, revertIf_eq_ok, Storage.performingDebtAssets_eq_ok]
    refine ⟨(), by omega, _, ⟨hbad, rfl⟩,
      { grossDebtAssets := w.pool.grossDebtAssets, reservesAssets := w.pool.reservesAssets
        lastAccruedAt := w.pool.lastAccruedAt, performing := w.pool.book.performing
        interestAssets := 0, reserveAssets := 0, chunks := 0 }, ?_, ?_⟩
    · rw [← hcurrent]
      split
      · rfl
      · refine accrueChunks_of_current ?_ _
        exact le_rfl
    · rw [if_neg (not_not.2 rfl)]
      rfl
  refine accrueToCurrent_eq_ok.2 ⟨0, 0, 0, bind_eq_ok.2 ⟨_, haccrue, ?_⟩⟩
  simp only [hcurrent, decide_true]
  rfl

/-- What an operation does after the accrual it does already. -/
theorem accrueToCurrent_again {w₁ : World} (h : accrueToCurrent mkt msg w = .ok w₁) :
    accrueToCurrent mkt msg w₁ = .ok w₁ := by
  have haccrued := accrueToCurrent_ok h
  simp only [accrueToCurrent, accrue, bind_eq_ok, revertIf_eq_ok, pure_eq_ok, Prod.exists, not_not,
    Storage.performingDebtAssets_eq_ok] at h
  obtain ⟨_, _, _, _, ⟨_, _, _, ⟨hbad, _⟩, _⟩, _, hcurrent, rfl⟩ := h
  exact accrueToCurrent_of_current hcurrent (haccrued.bad_le hbad)

/-- **An operation is the same before and after a call that catches up.** -/
theorem exec_of_accrued {c : Call} {w₁ : World} (hc : c.accruesFirst = true)
    (h : accrueToCurrent mkt msg w = .ok w₁) : exec mkt msg w c = exec mkt msg w₁ c := by
  have hagain := accrueToCurrent_again h
  obtain ⟨_, _, hpaused, hcollateral⟩ := (accrueToCurrent_ok h).frame
  cases c with
  | pauseNewRisk => cases hc
  | resumeNewRisk => cases hc
  | syncOracle => cases hc
  | recoverOracleDeviation => cases hc
  | accrueInterest => cases hc
  | supply amount => simp only [exec, supply, h, hagain]
  | withdraw amount => simp only [exec, withdraw, hpaused, h, hagain]
  | redeemAll => simp only [exec, redeemAll, hpaused, h, hagain]
  | addCollateral amount => simp only [exec, addCollateral, h, hagain]
  | releaseCollateral amount =>
    simp only [exec, releaseCollateral, hpaused, hcollateral, h, hagain]
  | borrow amount => simp only [exec, borrow, hpaused, h, hagain]
  | repay amount => simp only [exec, repay, h, hagain]
  | liquidate borrower amount minOut deadline => simp only [exec, liquidate, h, hagain]

/-- Such an operation succeeds only where one call catches up. -/
theorem exists_accrueToCurrent {c : Call} (hc : c.accruesFirst = true)
    (h : exec mkt msg w c = .ok w') : ∃ w₁, accrueToCurrent mkt msg w = .ok w₁ := by
  cases c with
  | pauseNewRisk => cases hc
  | resumeNewRisk => cases hc
  | syncOracle => cases hc
  | recoverOracleDeviation => cases hc
  | accrueInterest => cases hc
  | supply amount =>
    obtain ⟨⟨w', _⟩, h, -⟩ := bind_eq_ok.1 h
    obtain ⟨w₁, _, hacc, _⟩ := supply_ok h
    exact ⟨w₁, hacc⟩
  | withdraw amount =>
    obtain ⟨⟨w', _⟩, h, -⟩ := bind_eq_ok.1 h
    obtain ⟨w₁, _, hacc, _⟩ := withdraw_ok h
    exact ⟨w₁, hacc⟩
  | redeemAll =>
    obtain ⟨⟨w', _⟩, h, -⟩ := bind_eq_ok.1 h
    obtain ⟨w₁, _, hacc, _⟩ := redeemAll_ok h
    exact ⟨w₁, hacc⟩
  | addCollateral amount =>
    obtain ⟨w₁, _, hacc, _⟩ := addCollateral_ok h
    exact ⟨w₁, hacc⟩
  | releaseCollateral amount =>
    obtain ⟨w₁, _, _, hacc, _⟩ := releaseCollateral_ok h
    exact ⟨w₁, hacc⟩
  | borrow amount =>
    obtain ⟨⟨w', _⟩, h, -⟩ := bind_eq_ok.1 h
    obtain ⟨w₁, _, _, _, hacc, _⟩ := borrow_ok h
    exact ⟨w₁, hacc⟩
  | repay amount =>
    obtain ⟨⟨w', _⟩, h, -⟩ := bind_eq_ok.1 h
    obtain ⟨w₁, hacc, _⟩ := repay_ok h
    exact ⟨w₁, hacc⟩
  | liquidate borrower amount minOut deadline =>
    obtain ⟨⟨w', _⟩, h, -⟩ := bind_eq_ok.1 h
    obtain ⟨w₁, _, _, _, _, _, _, _, _, hacc, _⟩ := liquidate_ok h
    exact ⟨w₁, hacc⟩

end Pool

/-! ## The reference model -/

namespace Reference

/-- A reference state stands for the storage of a pool: the amounts of the accrual are the same. -/
def State.Represents (state : State) (st : Storage) : Prop :=
  state.Books st.cashAssets st.badDebtAssets st.debt

/-- The accrual of the reference model: all windows, of which it takes 1024 at most. -/
theorem accrueInternal_represents {state : State} {st : Storage} {now : ℕ} {a : Accrued}
    (hstate : state.Represents st) (hbad : st.badDebtAssets ≤ st.grossDebtAssets)
    (h : accrueInternal state now = .ok a) :
    now ≤ st.lastAccruedAt + 1024 * Debt.window ∧
      a.state.Books st.cashAssets st.badDebtAssets (st.accrued now 1024) := by
  simp only [accrueInternal, bind_eq_ok, pure_eq_ok, unavailableIf_eq_ok, not_lt] at h
  obtain ⟨_, hnow, _, _, _, hle, chunks, hchunks, _, hbound, a', ha, _, _, rfl⟩ := h
  obtain ⟨rfl, _⟩ := assertReferenceUint_eq_ok.1 hnow
  have hlast : state.lastAccruedAt = (st.lastAccruedAt : ℤ) := hstate.lastAccruedAt
  rw [hlast] at hle hchunks
  have hle : st.lastAccruedAt ≤ now := by exact_mod_cast hle
  have hstart : (⟨state, 0, 0, 0⟩ : Accrued).state.Books st.cashAssets st.badDebtAssets st.debt :=
    hstate
  refine ⟨?_, accrueChunks_books _ hstart hbad hle ha⟩
  -- as many windows as the time asks for are 1024 at most
  split at hchunks
  · omega
  · obtain ⟨_, _, _, _, rfl⟩ := mulDivUp_eq_ok.1 hchunks
    rw [show ((now : ℤ) - st.lastAccruedAt).toNat = now - st.lastAccruedAt by omega] at hbound
    have hcount : Rounding.quoteUp (now - st.lastAccruedAt) 1 Debt.window ≤ 1024 :=
      Int.ofNat_le.1 hbound
    rw [Rounding.quoteUp_le_iff (by decide), Nat.mul_one, Nat.mul_comm] at hcount
    omega

end Reference

/-! ## The result -/

/-- **Accruing by calls is accruing at once.**  In every reachable state of the pool,
`accrueInterest` called again and again in one block catches up after as many calls as the time asks
for, unless an amount leaves the word, and then a call reverts.  Where the reference model's single
accrual to that time succeeds, which takes 1024 windows at most, the debt, the reserves and the time
of the accrual are its own.  An operation that accrues first succeeds only where one call catches
up, and works on what that call leaves. -/
theorem chunked_accrual (mkt : Market) (w : World) (msg : Msg) (hreach : Pool.Reachable mkt w)
    (hnow : w.pool.lastAccruedAt ≤ msg.timestamp) :
    (∀ calls, 0 < calls → msg.timestamp ≤ w.pool.lastAccruedAt +
        calls * (Pool.maxAccrualChunksPerCall * Pool.maxAccrualChunkSeconds) →
      (∃ w', Pool.accrueUntil mkt msg calls w = .ok (w', true) ∧ w'.pool.debt =
          w.pool.accrued msg.timestamp (calls * Pool.maxAccrualChunksPerCall)) ∨
        (Pool.accrueUntil mkt msg calls w = .error (.panic .overflow) ∧
          ¬ (w.pool.accrued msg.timestamp (calls * Pool.maxAccrualChunksPerCall)).Fits
            w.pool.cashAssets)) ∧
    (∀ (state : Reference.State) a, state.Represents w.pool →
      Reference.accruePoolReferenceInterest state msg.timestamp = .ok a →
      msg.timestamp ≤ w.pool.lastAccruedAt +
          Reference.Policy.maxAccrualChunksPerTransition * Pool.maxAccrualChunkSeconds ∧
        (∀ calls w', Pool.accrueUntil mkt msg calls w = .ok (w', true) →
          a.state.Represents w'.pool) ∧
        (w.pool.cashAssets + a.state.grossDebtAssets ≤ Reference.maxModelUint →
          ∃ w', Pool.accrueUntil mkt msg 32 w = .ok (w', true))) ∧
    (∀ c w', Pool.Call.accruesFirst c = true → Pool.exec mkt msg w c = .ok w' →
      ∃ w₁ i r n, Pool.accrueInterest mkt msg w = .ok (w₁, i, r, n, true) ∧
        Pool.exec mkt msg w₁ c = .ok w') := by
  have hbad : w.pool.badDebtAssets ≤ w.pool.grossDebtAssets := hreach.sound.books.bad_le
  refine ⟨fun calls ↦ Pool.accrueUntil_cases hnow hbad, fun state a hstate haccrue ↦ ?_,
    fun c w' hc hexec ↦ ?_⟩
  · obtain ⟨hn, hbooks⟩ := Reference.accrueInternal_represents hstate hbad haccrue
    refine ⟨hn, fun calls w' h ↦ ?_, fun hfits ↦ ?_⟩
    · obtain ⟨hcash, hbad'⟩ := Pool.accrueUntil_frame calls h
      rw [Reference.State.Represents, hcash, hbad', (Pool.accrueUntil_debt calls hnow hn h).1 rfl]
      exact hbooks
    · -- what the reference model accepts fits the words, but for the cash beside the debt
      have hbalanced := Reference.accrueInternal_balanced haccrue
      have hword : (w.pool.accrued msg.timestamp 1024).Fits w.pool.cashAssets := by
        have hreserves := hbalanced.reserves.2
        have hlast := hbalanced.lastAccruedAt.2
        rw [hbooks.gross] at hfits
        rw [hbooks.reserves] at hreserves
        rw [hbooks.lastAccruedAt] at hlast
        rw [Reference.maxModelUint] at hfits hreserves hlast
        exact ⟨by rw [wordModulus]; omega, by rw [wordModulus]; omega, by rw [wordModulus]; omega⟩
      rcases @Pool.accrueUntil_cases mkt msg w 32 hnow hbad (by decide) hn with
        ⟨w', h, _⟩ | ⟨_, hnot⟩
      · exact ⟨w', h⟩
      · exact absurd hword hnot
  · obtain ⟨w₁, hacc⟩ := Pool.exists_accrueToCurrent hc hexec
    obtain ⟨i, r, n, hcall⟩ := Pool.accrueToCurrent_eq_ok.1 hacc
    exact ⟨w₁, i, r, n, hcall, (Pool.exec_of_accrued hc hacc).symm.trans hexec⟩

/-! ## A loan nobody looks after -/

namespace Pool.Sample

/-- A message of the borrower, so many weeks after the deployment. -/
def later (weeks : ℕ) : Msg where
  sender := 2
  timestamp := 1000 + weeks * maxAccrualChunkSeconds
  latestPrice := some (observation (2000 * 10 ^ 18) (1000 + weeks * maxAccrualChunkSeconds) 2)

/-- Account `1` has all of the debt asset there is. -/
def scarce : Token Address where
  balanceOf account := if account = 1 then 2 ^ 256 - 1 else 0
  allowance _ := 2 ^ 256 - 1

/-- Account `1` supplies all there is, and account `2` borrows two. -/
def full : World := Run.run (chainStep market) { world with debtToken := scarce }
  [call 1 1000 (2000 * 10 ^ 18) 1 (.supply (2 ^ 256 - 1)),
    call 2 1000 (2000 * 10 ^ 18) 1 (.addCollateral (10 ^ 12)),
    call 2 1000 (2000 * 10 ^ 18) 1 (.borrow 2)]

theorem full_reachable : Reachable market full :=
  ⟨_, ⟨env, configuration, scarce, token, rfl⟩, _, rfl⟩

end Pool.Sample

namespace Reference.Sample

/-- The history of `Pool.Sample.loan` in the reference model. -/
def loan : List (ℤ × Operation) :=
  [(1000, .acceptOracle (observation "round-1" 1000)),
    (1000, .supply "lp" 1000),
    (1000, .addCollateral "first" (10 ^ 12)),
    (1000, .borrow "first" 1000)]

/-- The state after the history. -/
def borrowed : State where
  cashAssets := 0
  grossDebtAssets := 1000
  reservesAssets := 0
  badDebtAssets := 0
  totalSupplyShares := 1000
  totalDebtShares := 1000
  lastAccruedAt := 1000
  marketDebtCapAssets := 10 ^ 12
  borrowerDebtCapAssets := 10 ^ 11
  lastAcceptedOracle := some (observation "round-1" 1000)
  positions := [⟨"lp", 1000, 0, 0, 0⟩, ⟨"first", 0, 10 ^ 12, 1000, 0⟩]

end Reference.Sample

theorem Pool.Sample.loan_represented :
    Reference.Sample.borrowed.Represents (Pool.Sample.after Pool.Sample.loan).pool where
  cash := by decide +kernel
  bad := by decide +kernel
  gross := by decide +kernel
  reserves := by decide +kernel
  lastAccruedAt := by decide +kernel

theorem chunked_accrual_loan :
    (∃ w', Pool.accrueUntil Pool.Sample.market (Pool.Sample.later 40) 2
        (Pool.Sample.after Pool.Sample.loan) = .ok (w', true) ∧
      w'.pool.grossDebtAssets = 1728 ∧ w'.pool.reservesAssets = 54) ∧
    ∀ w', Pool.exec Pool.Sample.market (Pool.Sample.later 40)
      (Pool.Sample.after Pool.Sample.loan) (.repay 1000) ≠ .ok w' := by
  obtain ⟨hcalls, hreference, hoperations⟩ := chunked_accrual Pool.Sample.market
    (Pool.Sample.after Pool.Sample.loan) (Pool.Sample.later 40) (Pool.Sample.reachable _)
    (by decide +kernel)
  constructor
  · have hvalue : (Reference.accruePoolReferenceInterest Reference.Sample.borrowed
        (Pool.Sample.later 40).timestamp).map
          (fun a ↦ (a.state.grossDebtAssets, a.state.reservesAssets)) = .ok (1728, 54) := by
      decide +kernel
    obtain ⟨a, haccrue⟩ : ∃ a, Reference.accruePoolReferenceInterest Reference.Sample.borrowed
        (Pool.Sample.later 40).timestamp = .ok a := isOk_iff.1 (by decide +kernel)
    rw [haccrue] at hvalue
    obtain ⟨hgross, hreserves⟩ := Prod.mk.inj (Except.ok.inj hvalue)
    rcases hcalls 2 (by decide) (by decide +kernel) with ⟨w', h, _⟩ | ⟨_, hnot⟩
    · have hbooks := (hreference _ a Pool.Sample.loan_represented haccrue).2.1 2 w' h
      refine ⟨w', h, ?_, ?_⟩
      · exact_mod_cast hbooks.gross.symm.trans hgross
      · exact_mod_cast hbooks.reserves.symm.trans hreserves
    · exact absurd ⟨by decide +kernel, by decide +kernel, by decide +kernel⟩ hnot
  · -- one call processes 32 of the 40 windows
    intro w' h
    obtain ⟨w₁, i, r, n, hcall, _⟩ := hoperations _ w' rfl h
    have hflag : (Pool.accrueInterest Pool.Sample.market (Pool.Sample.later 40)
        (Pool.Sample.after Pool.Sample.loan)).map (fun r ↦ r.2.2.2.2) = .ok false := by
      decide +kernel
    rw [hcall] at hflag
    cases hflag

/-- 1025 windows, which the calls catch up with and the reference model refuses, and a pool whose
cash leaves no room in the word for the interest of two. -/
theorem accrual_refused_and_overflowing :
    (Pool.Reachable Pool.Sample.market (Pool.Sample.after Pool.Sample.loan) ∧
      (Reference.createSecuredPoolReferenceState 1000 (10 ^ 12) (10 ^ 11)).bind
        (Reference.Sample.loan.foldlM fun state input ↦
          Reference.transition state input.1 input.2) = .ok Reference.Sample.borrowed ∧
      Reference.Sample.borrowed.Represents (Pool.Sample.after Pool.Sample.loan).pool ∧
      (Pool.accrueUntil Pool.Sample.market (Pool.Sample.later 1025) 33
        (Pool.Sample.after Pool.Sample.loan)).map (fun r ↦ (r.2, r.1.pool.grossDebtAssets)) =
          .ok (true, 894519274) ∧
      (Reference.accruePoolReferenceInterest Reference.Sample.borrowed
        (Pool.Sample.later 1025).timestamp).isOk = false) ∧
    Pool.Reachable Pool.Sample.market Pool.Sample.full ∧
      ∀ calls w', Pool.accrueUntil Pool.Sample.market (Pool.Sample.later 2) calls
        Pool.Sample.full ≠ .ok (w', true) := by
  refine ⟨⟨Pool.Sample.reachable _, by decide +kernel, Pool.Sample.loan_represented,
    by decide +kernel, by decide +kernel⟩, Pool.Sample.full_reachable, fun calls w' h ↦ ?_⟩
  cases calls with
  | zero => cases h
  | succ calls =>
    obtain ⟨r, hcall, _⟩ := bind_eq_ok.1 h
    have hrefused : (Pool.accrueInterest Pool.Sample.market (Pool.Sample.later 2)
        Pool.Sample.full).isOk = false := by decide +kernel
    rw [hcall] at hrefused
    cases hrefused

end IpoOne
