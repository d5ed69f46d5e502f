import IpoOne.Lib.Evm

/-!
# The fixture-policy arithmetic of the secured pool

`SecuredPoolMathV1.sol`, function by function: the kinked borrow rate, simple interest at a rate,
and the conversions between collateral and its value in the debt asset.  Every function may revert,
since each of them goes through `Math.mulDiv`.

The two facts the accounting needs are at the end: a chunk's reserve is never more than its
interest (`interestAtRate_eq_ok`), and none of these functions underflows.
-/

set_option autoImplicit false

namespace IpoOne
namespace SecuredPoolMathV1

open Evm Fallible

/-- One in basis points. -/
def bps : ℕ := 10000

/-- One in 18 decimals. -/
def wad : ℕ := 10 ^ 18

/-- The year of the rates has 365 days. -/
def secondsPerYear : ℕ := 365 * 24 * 60 * 60

/-- The utilization at which the rate's slope changes. -/
def kinkBps : ℕ := 8000

/-- The rate at no utilization. -/
def baseBorrowAprBps : ℕ := 200

/-- What the rate gains up to the kink. -/
def slope1Bps : ℕ := 800

/-- What the rate gains from the kink on. -/
def slope2Bps : ℕ := 6000

/-- The reserves' share of the interest. -/
def reserveFactorBps : ℕ := 1000

variable {ε : Type}

/-- The performing debt's share of cash and debt, rounded down. -/
def utilizationBps (cashAssets performingDebtAssets : ℕ) : Tx ε ℕ := do
  let grossAssets ← add cashAssets performingDebtAssets
  if grossAssets = 0 then pure 0 else mulDiv performingDebtAssets bps grossAssets

/-- The borrowers' yearly rate, linear on either side of the kink. -/
def borrowAprBps (cashAssets performingDebtAssets : ℕ) : Tx ε ℕ := do
  let utilization ← utilizationBps cashAssets performingDebtAssets
  if utilization ≤ kinkBps then do
    let slope ← mulDiv slope1Bps utilization kinkBps
    add baseBorrowAprBps slope
  else do
    let excess ← sub utilization kinkBps
    let slope ← mulDiv slope2Bps excess (bps - kinkBps)
    add (baseBorrowAprBps + slope1Bps) slope

/-- The lenders' yearly rate: the borrowers' at the utilization, less the reserves' share. -/
def supplyAprBps (cashAssets performingDebtAssets : ℕ) : Tx ε ℕ := do
  let borrowApr ← borrowAprBps cashAssets performingDebtAssets
  let utilization ← utilizationBps cashAssets performingDebtAssets
  let grossSupplyApr ← mulDiv borrowApr utilization bps
  mulDiv grossSupplyApr (bps - reserveFactorBps) bps

/-- Interest on `debtAssets` over `elapsedSeconds`, rounded up, and the reserve's part of it,
rounded down. -/
def interestAtRate (debtAssets aprBps elapsedSeconds : ℕ) : Tx ε (ℕ × ℕ) := do
  let rate ← mul aprBps elapsedSeconds
  let interestAssets ← mulDivUp debtAssets rate (secondsPerYear * bps)
  let reserveAssets ← mulDiv interestAssets reserveFactorBps bps
  pure (interestAssets, reserveAssets)

/-- The collateral's value in the debt asset, rounded down. -/
def collateralValueAssets (collateralAssets priceUsdWad : ℕ) : Tx ε ℕ :=
  mulDiv collateralAssets priceUsdWad (10 ^ 30)

/-- The collateral that is worth a value, rounded up. -/
def collateralRequiredForValue (valueAssets priceUsdWad : ℕ) : Tx ε ℕ :=
  mulDivUp valueAssets (10 ^ 30) priceUsdWad

/-! ## What the accounting needs to know -/

/-- The reserve takes a tenth of the interest, rounded down. -/
theorem interestAtRate_eq_ok {debtAssets aprBps elapsedSeconds interestAssets reserveAssets : ℕ}
    (h : (interestAtRate debtAssets aprBps elapsedSeconds : Tx ε (ℕ × ℕ))
      = .ok (interestAssets, reserveAssets)) :
    reserveAssets = interestAssets / 10 := by
  simp only [interestAtRate, bind_eq_ok, pure_eq_ok, mulDiv_eq_ok, Prod.mk.injEq] at h
  obtain ⟨_, _, interest, _, reserve, ⟨_, _, hreserve⟩, rfl, rfl⟩ := h
  rw [hreserve, reserveFactorBps, bps]
  omega

theorem avoids_utilizationBps (cashAssets performingDebtAssets : ℕ) :
    Avoids .underflow (utilizationBps cashAssets performingDebtAssets : Tx ε ℕ) := by
  refine (avoids_add _ _).bind fun grossAssets _ ↦ ?_
  split
  · exact avoids_ok _ _
  · exact avoids_mulDiv _ _ _

theorem avoids_borrowAprBps (cashAssets performingDebtAssets : ℕ) :
    Avoids .underflow (borrowAprBps cashAssets performingDebtAssets : Tx ε ℕ) := by
  refine (avoids_utilizationBps _ _).bind fun utilization _ ↦ ?_
  split
  · exact (avoids_mulDiv _ _ _).bind fun _ _ ↦ avoids_add _ _
  · -- past the kink the subtraction is the comparison that was just made
    refine (avoids_sub (by omega)).bind fun _ _ ↦ ?_
    exact (avoids_mulDiv _ _ _).bind fun _ _ ↦ avoids_add _ _

theorem avoids_supplyAprBps (cashAssets performingDebtAssets : ℕ) :
    Avoids .underflow (supplyAprBps cashAssets performingDebtAssets : Tx ε ℕ) := by
  refine (avoids_borrowAprBps _ _).bind fun _ _ ↦ (avoids_utilizationBps _ _).bind fun _ _ ↦ ?_
  exact (avoids_mulDiv _ _ _).bind fun _ _ ↦ avoids_mulDiv _ _ _

theorem avoids_interestAtRate (debtAssets aprBps elapsedSeconds : ℕ) :
    Avoids .underflow (interestAtRate debtAssets aprBps elapsedSeconds : Tx ε (ℕ × ℕ)) := by
  refine (avoids_mul _ _).bind fun _ _ ↦ ?_
  refine (avoids_mulDivUp _ _ _).bind fun _ _ ↦ ?_
  exact (avoids_mulDiv _ _ _).bind fun _ _ ↦ avoids_ok _ _

end SecuredPoolMathV1
end IpoOne
