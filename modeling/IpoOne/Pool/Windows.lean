import IpoOne.Pool.Fairness
import IpoOne.Pool.Positions

/-!
# Interest by windows

Both pools accrue interest by windows of at most seven days, each at the rate of the utilization it
starts with.  `Debt.windows` is that accrual on natural numbers, with nothing that can overflow and
as many windows as one likes at once.  It does not matter how the windows are split into calls
(`Debt.windows_add`), and once the time is reached more of them change nothing
(`Debt.windows_eq_of_current`).

* `Pool.accrueChunks_windows` — a loop of the contract that returns has computed it.
* `Pool.exists_accrueChunks` — the loop returns where the amounts it ends with fit a word.
* `Reference.accrueChunks_books` — the loop of the reference model computes it too.
-/

set_option autoImplicit false

namespace IpoOne

open Evm Fallible Rounding

/-! ## The accrual without overflow -/

/-- What the accrual changes. -/
structure Debt where
  gross : ℕ
  reserves : ℕ
  lastAccruedAt : ℕ
  deriving DecidableEq

namespace Debt

/-- The longest window. -/
def window : ℕ := 7 * 24 * 60 * 60

/-- The borrow rate at a utilization in basis points. -/
def rateBps (utilizationBps : ℕ) : ℕ :=
  if utilizationBps ≤ 8000 then 200 + 800 * utilizationBps / 8000
  else 1000 + 6000 * (utilizationBps - 8000) / 2000

/-- The borrow rate for the cash and the performing debt. -/
def aprBps (cash performing : ℕ) : ℕ := rateBps (performing * 10000 / (cash + performing))

/-- The interest on the performing debt, rounded up. -/
def interest (cash performing elapsed : ℕ) : ℕ :=
  quoteUp performing (aprBps cash performing * elapsed) (365 * 24 * 60 * 60 * 10000)

/-- One window: a tenth of the interest goes to the reserves. -/
def step (cash bad now : ℕ) (d : Debt) : Debt where
  gross := d.gross + interest cash (d.gross - bad) (min (now - d.lastAccruedAt) window)
  reserves :=
    d.reserves + interest cash (d.gross - bad) (min (now - d.lastAccruedAt) window) / 10
  lastAccruedAt := d.lastAccruedAt + min (now - d.lastAccruedAt) window

/-- At most so many windows, until the time is reached. -/
def windows (cash bad now : ℕ) : ℕ → Debt → Debt
  | 0, d => d
  | n + 1, d => if d.lastAccruedAt < now then windows cash bad now n (d.step cash bad now) else d

/-- With the cash beside it, the debt fits the words of the contract. -/
structure Fits (cash : ℕ) (d : Debt) : Prop where
  gross : cash + d.gross < wordModulus
  reserves : d.reserves < wordModulus
  lastAccruedAt : d.lastAccruedAt < wordModulus

/-- The debt, the reserves and the clock only grow. -/
structure Le (d d' : Debt) : Prop where
  gross : d.gross ≤ d'.gross
  reserves : d.reserves ≤ d'.reserves
  lastAccruedAt : d.lastAccruedAt ≤ d'.lastAccruedAt

variable {cash bad now : ℕ}

theorem Le.refl (d : Debt) : d.Le d := ⟨le_rfl, le_rfl, le_rfl⟩

theorem Le.trans {d d' d'' : Debt} (h : d.Le d') (h' : d'.Le d'') : d.Le d'' :=
  ⟨h.gross.trans h'.gross, h.reserves.trans h'.reserves, h.lastAccruedAt.trans h'.lastAccruedAt⟩

theorem Le.fits {d d' : Debt} (h : d.Le d') (hfits : d'.Fits cash) : d.Fits cash :=
  ⟨(Nat.add_le_add_left h.gross cash).trans_lt hfits.gross, h.reserves.trans_lt hfits.reserves,
    h.lastAccruedAt.trans_lt hfits.lastAccruedAt⟩

theorem step_le (cash bad now : ℕ) (d : Debt) : d.Le (d.step cash bad now) :=
  ⟨Nat.le_add_right .., Nat.le_add_right .., Nat.le_add_right ..⟩

theorem windows_le (n : ℕ) (d : Debt) : d.Le (d.windows cash bad now n) := by
  induction n generalizing d with
  | zero => exact .refl d
  | succ n ih =>
    rw [windows]
    split
    · exact (step_le cash bad now d).trans (ih _)
    · exact .refl d

theorem windows_of_current {d : Debt} (h : now ≤ d.lastAccruedAt) (n : ℕ) :
    d.windows cash bad now n = d := by
  cases n with
  | zero => rfl
  | succ n => rw [windows, if_neg (by omega)]

/-- **The windows may be split into calls.** -/
theorem windows_add (m n : ℕ) (d : Debt) :
    d.windows cash bad now (m + n) = (d.windows cash bad now m).windows cash bad now n := by
  induction m generalizing d with
  | zero => rw [Nat.zero_add, windows]
  | succ m ih =>
    rw [Nat.succ_add, windows, windows]
    split
    · exact ih _
    · rename_i hcurrent
      exact (windows_of_current (by omega) n).symm

/-- Once the time is reached, more windows change nothing. -/
theorem windows_eq_of_current {m n : ℕ} {d : Debt}
    (hm : now ≤ (d.windows cash bad now m).lastAccruedAt)
    (hn : now ≤ (d.windows cash bad now n).lastAccruedAt) :
    d.windows cash bad now m = d.windows cash bad now n := by
  rcases Nat.le_total m n with hle | hle
  · obtain ⟨k, rfl⟩ := Nat.exists_eq_add_of_le hle
    rw [windows_add, windows_of_current hm]
  · obtain ⟨k, rfl⟩ := Nat.exists_eq_add_of_le hle
    rw [windows_add, windows_of_current hn]

/-- The clock: it moves by a window at a time, and stops at the time. -/
theorem lastAccruedAt_windows (n : ℕ) {d : Debt} (hle : d.lastAccruedAt ≤ now) :
    (d.windows cash bad now n).lastAccruedAt = min now (d.lastAccruedAt + n * window) := by
  induction n generalizing d with
  | zero =>
    rw [windows]
    omega
  | succ n ih =>
    rw [windows]
    split
    · have hstep : (d.step cash bad now).lastAccruedAt =
          d.lastAccruedAt + min (now - d.lastAccruedAt) window := rfl
      rw [ih (by omega), hstep, Nat.succ_mul]
      omega
    · omega

/-- Without performing debt only the clock moves. -/
theorem windows_of_idle (n : ℕ) {d : Debt} (hidle : d.gross ≤ bad) :
    d.windows cash bad now n =
      { d with lastAccruedAt := (d.windows cash bad now n).lastAccruedAt } := by
  induction n generalizing d with
  | zero => rfl
  | succ n ih =>
    rw [windows]
    split
    · have hstep : d.step cash bad now =
          { d with lastAccruedAt := d.lastAccruedAt + min (now - d.lastAccruedAt) window } := by
        have hzero : d.gross - bad = 0 := by omega
        simp only [step, hzero, interest, quoteUp_zero, Nat.zero_div, Nat.add_zero]
      have hgross : (d.step cash bad now).gross ≤ bad := by
        rw [hstep]
        exact hidle
      rw [ih hgross, hstep]
    · rfl

/-! ## Bounds -/

theorem utilization_le (cash performing : ℕ) :
    performing * 10000 / (cash + performing) ≤ 10000 := by
  rcases Nat.eq_zero_or_pos (cash + performing) with hzero | hpos
  · rw [hzero, Nat.div_zero]
    exact Nat.zero_le _
  · exact Nat.div_le_of_le_mul (Nat.mul_le_mul_right _ (Nat.le_add_left ..))

theorem rateBps_le {utilizationBps : ℕ} (h : utilizationBps ≤ 10000) :
    rateBps utilizationBps ≤ 7000 := by
  unfold rateBps
  split <;> omega

theorem aprBps_le (cash performing : ℕ) : aprBps cash performing ≤ 7000 :=
  rateBps_le (utilization_le cash performing)

end Debt

/-! ## The contract -/

namespace SecuredPoolMathV1

variable {ε : Type}

theorem utilizationBps_eq_ok {cash performing utilization : ℕ} :
    (utilizationBps cash performing : Tx ε ℕ) = .ok utilization ↔
      cash + performing < wordModulus ∧ utilization = performing * 10000 / (cash + performing) := by
  simp only [utilizationBps, bind_eq_ok, add_eq_ok]
  constructor
  · rintro ⟨_, ⟨hlt, rfl⟩, h⟩
    refine ⟨hlt, ?_⟩
    split at h
    · rename_i hzero
      rw [pure_eq_ok] at h
      rw [hzero, Nat.div_zero, h]
    · exact (mulDiv_eq_ok.1 h).2.2
  · rintro ⟨hlt, rfl⟩
    refine ⟨_, ⟨hlt, rfl⟩, ?_⟩
    split
    · rename_i hzero
      rw [pure_eq_ok, hzero, Nat.div_zero]
    · have hle := Debt.utilization_le cash performing
      refine mulDiv_eq_ok.2 ⟨by omega, hle.trans_lt (by norm_num [wordModulus]), rfl⟩

theorem borrowAprBps_eq_ok {cash performing apr : ℕ} :
    (borrowAprBps cash performing : Tx ε ℕ) = .ok apr ↔
      cash + performing < wordModulus ∧ apr = Debt.aprBps cash performing := by
  have hle := Debt.utilization_le cash performing
  have hword : 10 ^ 9 < wordModulus := by norm_num [wordModulus]
  rw [borrowAprBps, bind_eq_ok, Debt.aprBps]
  simp only [utilizationBps_eq_ok]
  generalize performing * 10000 / (cash + performing) = u at hle ⊢
  have hslope : (if u ≤ kinkBps then do
        let slope ← mulDiv slope1Bps u kinkBps
        add baseBorrowAprBps slope
      else do
        let excess ← sub u kinkBps
        let slope ← mulDiv slope2Bps excess (bps - kinkBps)
        add (baseBorrowAprBps + slope1Bps) slope : Tx ε ℕ) = .ok apr ↔ apr = Debt.rateBps u := by
    rw [Debt.rateBps]
    by_cases hkink : u ≤ 8000
    · rw [if_pos (show u ≤ kinkBps from hkink), if_pos hkink]
      simp only [bind_eq_ok, mulDiv_eq_ok, add_eq_ok, slope1Bps, kinkBps, baseBorrowAprBps]
      constructor
      · rintro ⟨_, ⟨_, _, rfl⟩, _, rfl⟩
        rfl
      · rintro rfl
        exact ⟨_, ⟨by omega, by omega, rfl⟩, by omega, rfl⟩
    · rw [if_neg (show ¬ u ≤ kinkBps from hkink), if_neg hkink]
      simp only [bind_eq_ok, sub_eq_ok, mulDiv_eq_ok, add_eq_ok, slope1Bps, slope2Bps, kinkBps,
        baseBorrowAprBps, bps]
      constructor
      · rintro ⟨excess, ⟨_, hexcess⟩, slope, ⟨_, _, hslope⟩, _, hapr⟩
        rw [hapr, hslope, hexcess]
      · rintro rfl
        exact ⟨_, ⟨by omega, rfl⟩, _, ⟨by omega, by omega, rfl⟩, by omega, rfl⟩
  constructor
  · rintro ⟨_, ⟨hlt, rfl⟩, h⟩
    exact ⟨hlt, hslope.1 h⟩
  · rintro ⟨hlt, h⟩
    exact ⟨_, ⟨hlt, rfl⟩, hslope.2 h⟩

/-- The interest of a window and its reserve, for a window whose interest fits a word. -/
theorem interestAtRate_window {debt apr elapsed interest reserve : ℕ} (hapr : apr ≤ 7000)
    (helapsed : elapsed ≤ Debt.window) :
    (interestAtRate debt apr elapsed : Tx ε (ℕ × ℕ)) = .ok (interest, reserve) ↔
      quoteUp debt (apr * elapsed) (365 * 24 * 60 * 60 * 10000) < wordModulus ∧
        interest = quoteUp debt (apr * elapsed) (365 * 24 * 60 * 60 * 10000) ∧
        reserve = interest / 10 := by
  have hrate : apr * elapsed < wordModulus :=
    (Nat.mul_le_mul hapr helapsed).trans_lt (by norm_num [Debt.window, wordModulus])
  have htenth : ∀ i : ℕ, i * reserveFactorBps / bps = i / 10 := fun i ↦ by
    rw [reserveFactorBps, bps]
    omega
  simp only [interestAtRate, bind_eq_ok, mul_eq_ok, mulDivUp_eq_ok, mulDiv_eq_ok, pure_eq_ok,
    Prod.mk.injEq, htenth]
  constructor
  · rintro ⟨_, ⟨_, rfl⟩, _, ⟨_, hlt, rfl⟩, _, ⟨_, _, rfl⟩, rfl, rfl⟩
    exact ⟨hlt, rfl, rfl⟩
  · rintro ⟨hlt, rfl, rfl⟩
    exact ⟨_, ⟨hrate, rfl⟩, _, ⟨by decide, hlt, rfl⟩, _,
      ⟨by decide, (Nat.div_le_self ..).trans_lt hlt, rfl⟩, rfl, rfl⟩

theorem onlyOverflows_borrowAprBps (cash performing : ℕ) :
    OnlyOverflows (borrowAprBps cash performing : Tx ε ℕ) := by
  have hutilization : OnlyOverflows (utilizationBps cash performing : Tx ε ℕ) := by
    refine (onlyOverflows_add _ _).bind fun gross _ ↦ ?_
    split
    · exact onlyOverflows_ok _
    · exact onlyOverflows_mulDiv (by omega) _ _
  refine hutilization.bind fun utilization _ ↦ ?_
  split
  · exact (onlyOverflows_mulDiv (by decide) _ _).bind fun _ _ ↦ onlyOverflows_add _ _
  · refine (onlyOverflows_sub (by omega)).bind fun _ _ ↦ ?_
    exact (onlyOverflows_mulDiv (by decide) _ _).bind fun _ _ ↦ onlyOverflows_add _ _

theorem onlyOverflows_interestAtRate (debt apr elapsed : ℕ) :
    OnlyOverflows (interestAtRate debt apr elapsed : Tx ε (ℕ × ℕ)) := by
  refine (onlyOverflows_mul _ _).bind fun _ _ ↦ ?_
  refine (onlyOverflows_mulDivUp (by decide) _ _).bind fun _ _ ↦ ?_
  exact (onlyOverflows_mulDiv (by decide) _ _).bind fun _ _ ↦ onlyOverflows_ok _

end SecuredPoolMathV1

namespace Pool

/-- What the accrual loop changes. -/
def Accrual.debt (a : Accrual) : Debt where
  gross := a.grossDebtAssets
  reserves := a.reservesAssets
  lastAccruedAt := a.lastAccruedAt

/-- The loop works with the performing debt of the storage, and what it adds up is in the books. -/
structure Accrual.Performs (bad : ℕ) (a : Accrual) : Prop where
  bad_le : bad ≤ a.grossDebtAssets
  performing : a.performing = a.grossDebtAssets - bad
  interestAssets_le : a.interestAssets ≤ a.grossDebtAssets
  reserveAssets_le : a.reserveAssets ≤ a.reservesAssets

variable {cash bad now : ℕ} {a a' : Accrual}

theorem accrueChunk_step (hperforms : a.Performs bad) (h : accrueChunk cash now a = .ok a') :
    a'.debt = a.debt.step cash bad now ∧ a'.Performs bad := by
  obtain ⟨hbad, hperforming, hinterest, hreserve⟩ := hperforms
  simp only [accrueChunk, bind_eq_ok, add_eq_ok, pure_eq_ok, Prod.exists] at h
  obtain ⟨apr, hapr, i, r, hir, gross, ⟨_, rfl⟩, reserves, ⟨_, rfl⟩, interest, ⟨_, rfl⟩,
    reserve, ⟨_, rfl⟩, performing, ⟨_, rfl⟩, last, ⟨_, rfl⟩, rfl⟩ := h
  obtain ⟨_, rfl⟩ := SecuredPoolMathV1.borrowAprBps_eq_ok.1 hapr
  obtain ⟨_, rfl, rfl⟩ := (SecuredPoolMathV1.interestAtRate_window (Debt.aprBps_le _ _)
    (Nat.min_le_right _ _)).1 hir
  rw [hperforming]
  exact ⟨rfl, by simp only; omega, by simp only; omega, Nat.add_le_add_right hinterest _,
    Nat.add_le_add_right hreserve _⟩

/-- A chunk goes through if what it ends with fits. -/
theorem exists_accrueChunk (hperforms : a.Performs bad)
    (hfits : (a.debt.step cash bad now).Fits cash) : ∃ a', accrueChunk cash now a = .ok a' := by
  obtain ⟨hbad, hperforming, hinterest, hreserve⟩ := hperforms
  obtain ⟨hgross, hreserves, hlast⟩ := hfits
  simp only [Debt.step, Accrual.debt, Debt.interest] at hgross hreserves hlast
  have hapr : (SecuredPoolMathV1.borrowAprBps cash a.performing : PoolTx ℕ) =
      .ok (Debt.aprBps cash a.performing) :=
    SecuredPoolMathV1.borrowAprBps_eq_ok.2 ⟨by omega, rfl⟩
  rw [← hperforming] at hgross hreserves
  generalize hinterest' : quoteUp a.performing _ _ = interest at hgross hreserves
  have hir : (SecuredPoolMathV1.interestAtRate a.performing (Debt.aprBps cash a.performing)
      (min (now - a.lastAccruedAt) Debt.window) : PoolTx (ℕ × ℕ)) = .ok (interest, interest / 10) :=
    (SecuredPoolMathV1.interestAtRate_window (Debt.aprBps_le _ _) (Nat.min_le_right _ _)).2
      ⟨by rw [hinterest']; omega, hinterest'.symm, rfl⟩
  simp only [accrueChunk, bind_eq_ok, add_eq_ok, pure_eq_ok, Prod.exists]
  exact ⟨_, _, hapr, _, _, hir, _, ⟨by omega, rfl⟩, _, ⟨by omega, rfl⟩, _, ⟨by omega, rfl⟩, _,
    ⟨by omega, rfl⟩, _, ⟨by omega, rfl⟩, _, ⟨hlast, rfl⟩, rfl⟩

theorem onlyOverflows_accrueChunk (cash now : ℕ) (a : Accrual) :
    OnlyOverflows (accrueChunk cash now a) := by
  refine (SecuredPoolMathV1.onlyOverflows_borrowAprBps _ _).bind fun _ _ ↦ ?_
  refine (SecuredPoolMathV1.onlyOverflows_interestAtRate _ _ _).bind fun _ _ ↦ ?_
  refine (onlyOverflows_add _ _).bind fun _ _ ↦ (onlyOverflows_add _ _).bind fun _ _ ↦ ?_
  refine (onlyOverflows_add _ _).bind fun _ _ ↦ (onlyOverflows_add _ _).bind fun _ _ ↦ ?_
  exact (onlyOverflows_add _ _).bind fun _ _ ↦ (onlyOverflows_add _ _).bind fun _ _ ↦
    onlyOverflows_ok _

/-- A loop of the contract, by induction on the number of chunks it may still process. -/
theorem accrueChunks_windows (chunksLeft : ℕ) (hperforms : a.Performs bad)
    (h : accrueChunks cash now chunksLeft a = .ok a') :
    a'.debt = a.debt.windows cash bad now chunksLeft := by
  induction chunksLeft generalizing a with
  | zero =>
    rw [accrueChunks, pure_eq_ok] at h
    rw [h, Debt.windows]
  | succ chunksLeft ih =>
    rw [accrueChunks] at h
    rw [Debt.windows]
    split at h
    · rename_i hlt
      obtain ⟨b, hb, hrest⟩ := bind_eq_ok.1 h
      obtain ⟨hdebt, hperforms'⟩ := accrueChunk_step hperforms hb
      rw [if_pos (show a.debt.lastAccruedAt < now from hlt), ih hperforms' hrest, hdebt]
    · rename_i hcurrent
      rw [pure_eq_ok] at h
      rw [if_neg (show ¬ a.debt.lastAccruedAt < now from hcurrent), h]

/-- The loop goes through if what it ends with fits, since what it passes through is no larger. -/
theorem exists_accrueChunks (chunksLeft : ℕ) (hperforms : a.Performs bad)
    (hfits : (a.debt.windows cash bad now chunksLeft).Fits cash) :
    ∃ a', accrueChunks cash now chunksLeft a = .ok a' := by
  induction chunksLeft generalizing a with
  | zero => exact ⟨a, rfl⟩
  | succ chunksLeft ih =>
    rw [Debt.windows] at hfits
    rw [accrueChunks]
    split
    · rename_i hlt
      rw [if_pos (show a.debt.lastAccruedAt < now from hlt)] at hfits
      obtain ⟨b, hb⟩ := exists_accrueChunk hperforms ((Debt.windows_le _ _).fits hfits)
      obtain ⟨hdebt, hperforms'⟩ := accrueChunk_step hperforms hb
      obtain ⟨a', ha'⟩ := ih hperforms' (hdebt ▸ hfits)
      exact ⟨a', bind_eq_ok.2 ⟨b, hb, ha'⟩⟩
    · exact ⟨a, rfl⟩

theorem onlyOverflows_accrueChunks (cash now chunksLeft : ℕ) (a : Accrual) :
    OnlyOverflows (accrueChunks cash now chunksLeft a) := by
  induction chunksLeft generalizing a with
  | zero => exact onlyOverflows_ok _
  | succ chunksLeft ih =>
    rw [accrueChunks]
    split
    · exact (onlyOverflows_accrueChunk cash now a).bind fun b _ ↦ ih b
    · exact onlyOverflows_ok _

end Pool

/-! ## The reference model -/

namespace Reference

theorem calculateUtilizationBps_ok {cash performing : ℕ} {utilization : ℤ}
    (h : calculateUtilizationBps cash performing = .ok utilization) :
    utilization = (performing * 10000 / (cash + performing) : ℕ) := by
  simp only [calculateUtilizationBps, bind_eq_ok, assertReferenceUint_eq_ok] at h
  obtain ⟨_, ⟨rfl, _⟩, _, ⟨rfl, _⟩, h⟩ := h
  split at h
  · rename_i hzero
    rw [← pure_eq_ok.1 h, show cash + performing = 0 by omega, Nat.div_zero, Nat.cast_zero]
  · obtain ⟨_, _, _, _, hquotient⟩ := mulDivDown_eq_ok.1 h
    rw [hquotient]
    rfl

theorem calculateBorrowAprBps_ok {cash performing : ℕ} {apr : ℤ}
    (h : calculateBorrowAprBps cash performing = .ok apr) :
    apr = (Debt.aprBps cash performing : ℕ) := by
  obtain ⟨utilization, hutilization, h⟩ := bind_eq_ok.1 h
  obtain rfl := calculateUtilizationBps_ok hutilization
  rw [Debt.aprBps]
  generalize performing * 10000 / (cash + performing) = u at h ⊢
  rw [Debt.rateBps]
  by_cases hkink : u ≤ 8000
  · rw [if_pos (show (u : ℤ) ≤ Policy.kinkBps by rw [Policy.kinkBps]; omega)] at h
    rw [if_pos hkink]
    simp only [bind_eq_ok, mulDivDown_eq_ok, pure_eq_ok] at h
    obtain ⟨_, ⟨_, _, _, _, rfl⟩, rfl⟩ := h
    rfl
  · rw [if_neg (show ¬ (u : ℤ) ≤ Policy.kinkBps by rw [Policy.kinkBps]; omega)] at h
    rw [if_neg hkink]
    simp only [bind_eq_ok, mulDivDown_eq_ok, pure_eq_ok] at h
    obtain ⟨_, ⟨_, _, _, _, rfl⟩, rfl⟩ := h
    have hexcess : ((u : ℤ) - Policy.kinkBps).toNat = u - 8000 := by
      rw [Policy.kinkBps]
      omega
    rw [hexcess]
    rfl

theorem calculateInterestAtRate_window {debt apr elapsed : ℕ} {interest reserve : ℤ}
    (h : calculateInterestAtRate debt apr elapsed = .ok (interest, reserve)) :
    interest = (quoteUp debt (apr * elapsed) (365 * 24 * 60 * 60 * 10000) : ℕ) ∧
      reserve = (quoteUp debt (apr * elapsed) (365 * 24 * 60 * 60 * 10000) / 10 : ℕ) := by
  simp only [calculateInterestAtRate, bind_eq_ok, pure_eq_ok, Prod.mk.injEq,
    assertReferenceUint_eq_ok, mulDivUp_eq_ok, mulDivDown_eq_ok] at h
  obtain ⟨_, ⟨rfl, _⟩, _, ⟨rfl, _⟩, _, ⟨rfl, _⟩, _, ⟨_, _, _, _, rfl⟩, _, ⟨_, _, _, _, rfl⟩, rfl,
    rfl⟩ := h
  rw [← Nat.cast_mul, Int.toNat_natCast, Int.toNat_natCast, Int.toNat_natCast,
    show (Policy.secondsPerYear * Policy.bps).toNat = 365 * 24 * 60 * 60 * 10000 from rfl,
    show Policy.reserveFactorBps.toNat = 1000 from rfl, show Policy.bps.toNat = 10000 from rfl]
  refine ⟨rfl, ?_⟩
  congr 1
  omega

theorem minReference_ok {first second r : ℤ} (h : minReference first second = .ok r) :
    r = min first second := by
  simp only [minReference, bind_eq_ok, pure_eq_ok, assertReferenceUint_eq_ok] at h
  obtain ⟨_, ⟨rfl, _⟩, _, ⟨rfl, _⟩, rfl⟩ := h
  split <;> omega

/-- The amounts of the accrual, as they stand in a reference state. -/
structure State.Books (state : State) (cash bad : ℕ) (d : Debt) : Prop where
  cash : state.cashAssets = cash
  bad : state.badDebtAssets = bad
  gross : state.grossDebtAssets = d.gross
  reserves : state.reservesAssets = d.reserves
  lastAccruedAt : state.lastAccruedAt = d.lastAccruedAt

variable {cash bad now : ℕ} {d : Debt} {a a' : Accrued}

theorem accrueChunk_books (hbooks : a.state.Books cash bad d) (hbad : bad ≤ d.gross)
    (hle : d.lastAccruedAt ≤ now) (h : accrueChunk now a = .ok a') :
    a'.state.Books cash bad (d.step cash bad now) := by
  simp only [accrueChunk, bind_eq_ok, pure_eq_ok, Prod.exists] at h
  obtain ⟨elapsed, helapsed, interest, reserve, hir, rfl⟩ := h
  have helapsed : elapsed = (min (now - d.lastAccruedAt) Debt.window : ℕ) := by
    rw [minReference_ok helapsed, hbooks.lastAccruedAt, Policy.maxAccrualChunkSeconds, Debt.window]
    omega
  have hperforming : poolReferencePerformingDebtAssets a.state = (d.gross - bad : ℕ) := by
    rw [poolReferencePerformingDebtAssets, hbooks.gross, hbooks.bad]
    omega
  have hboth : interest = (Debt.interest cash (d.gross - bad)
        (min (now - d.lastAccruedAt) Debt.window) : ℕ) ∧
      reserve = (Debt.interest cash (d.gross - bad)
        (min (now - d.lastAccruedAt) Debt.window) / 10 : ℕ) := by
    rw [hperforming, helapsed, hbooks.cash] at hir
    split at hir
    · obtain ⟨apr, hapr, hir⟩ := bind_eq_ok.1 hir
      obtain rfl := calculateBorrowAprBps_ok hapr
      exact calculateInterestAtRate_window hir
    · -- without performing debt there is no interest
      rename_i hidle
      obtain ⟨rfl, rfl⟩ := Prod.mk.inj (pure_eq_ok.1 hir)
      rw [show d.gross - bad = 0 by omega, Debt.interest, quoteUp_zero]
      exact ⟨rfl, rfl⟩
  obtain ⟨rfl, rfl⟩ := hboth
  refine ⟨hbooks.cash, hbooks.bad, ?_, ?_, ?_⟩
  · simp only [hbooks.gross, Debt.step, Nat.cast_add]
  · simp only [hbooks.reserves, Debt.step, Nat.cast_add]
  · simp only [hbooks.lastAccruedAt, helapsed, Debt.step, Nat.cast_add]

/-- The loop of the reference model, by induction on its iterations. -/
theorem accrueChunks_books (iterations : ℕ) (hbooks : a.state.Books cash bad d)
    (hbad : bad ≤ d.gross) (hle : d.lastAccruedAt ≤ now)
    (h : accrueChunks now iterations a = .ok a') :
    a'.state.Books cash bad (d.windows cash bad now iterations) := by
  induction iterations generalizing a d with
  | zero =>
    rw [accrueChunks, pure_eq_ok] at h
    exact h ▸ hbooks
  | succ iterations ih =>
    rw [accrueChunks] at h
    rw [Debt.windows]
    split at h
    · rename_i hlt
      rw [hbooks.lastAccruedAt, Nat.cast_lt] at hlt
      rw [if_pos hlt]
      obtain ⟨b, hb, hrest⟩ := bind_eq_ok.1 h
      refine ih (accrueChunk_books hbooks hbad hle hb) (Nat.le_add_right_of_le hbad) ?_ hrest
      have hstep : (d.step cash bad now).lastAccruedAt =
          d.lastAccruedAt + min (now - d.lastAccruedAt) Debt.window := rfl
      omega
    · rename_i hcurrent
      rw [hbooks.lastAccruedAt, Nat.cast_lt] at hcurrent
      rw [if_neg hcurrent, ← pure_eq_ok.1 h]
      exact hbooks

end Reference

end IpoOne
