import IpoOne.Trading.Facility

/-!
# The settlement waterfall

The validators of `hyperliquid-settlement` and `calculateTestnetSettlementWaterfall`, which divides
the final equity of a facility: first the provider's principal, then the subject's contribution, and
of what is left a fixed return and a share of the performance for the provider, of which the
platform takes a fee.

A minor-unit text of the source is an integer here, and `none` where the source has `null`.
-/

set_option autoImplicit false

namespace IpoOne
namespace Hyperliquid
namespace Settlement

open Fallible

/-! ## Validators -/

/-- `if (c) fail("invalid_testnet_settlement", message)` -/
def invalid (c : Prop) [Decidable c] (message : String) : Domain Unit :=
  throwIf c "invalid_testnet_settlement" message

@[simp] theorem invalid_eq_ok {c : Prop} [Decidable c] {message : String} {u : Unit} :
    invalid c message = .ok u ↔ ¬ c :=
  throwIf_eq_ok

/-- The value is an identifier. -/
def identifier (name value : String) : Domain Unit :=
  invalid (Trading.matchesIdentifierPattern value = false) (name ++ " is invalid")

/-- `/^[a-z0-9][a-z0-9_]{0,95}$/` -/
def matchesSafeCodePattern (value : String) : Bool :=
  match value.toList with
  | [] => false
  | first :: rest =>
    (first.isLower || first.isDigit) && rest.all (fun c ↦ c.isLower || c.isDigit || c = '_')
      && rest.length ≤ 95

/-- `code` -/
def safeCode (name value : String) : Domain Unit :=
  invalid (matchesSafeCodePattern value = false) (name ++ " is invalid")

/-- What a minor-unit check says of an amount, given the amounts it takes. -/
def amount (admits : ℤ → Prop) [DecidablePred admits] (name : String) (value : Option ℤ) :
    Domain ℤ :=
  match value with
  | none => .error { code := "invalid_testnet_settlement", message := name ++ " is invalid" }
  | some value => do
    invalid (¬ admits value) (name ++ " is invalid")
    pure value

/-- `minor`: `/^(?:0|[1-9][0-9]{0,77})$/` -/
def minor : String → Option ℤ → Domain ℤ :=
  amount fun value ↦ 0 ≤ value ∧ value < 10 ^ 78

/-- `signedMinor`: `/^(?:0|-?[1-9][0-9]{0,77})$/` -/
def signedMinor : String → Option ℤ → Domain ℤ :=
  amount fun value ↦ -10 ^ 78 < value ∧ value < 10 ^ 78

/-- An amount above 0. -/
def positiveMinor (name : String) (value : Option ℤ) : Domain ℤ := do
  let parsed ← minor name value
  invalid (parsed ≤ 0) (name ++ " must be positive")
  pure parsed

/-- The value lies between `minimum` and `maximum`. -/
def boundedInteger (name : String) (value minimum maximum : ℤ) : Domain Unit :=
  invalid (value < minimum ∨ maximum < value) (name ++ " is outside its closed range")

@[simp] theorem amount_eq_ok {admits : ℤ → Prop} [DecidablePred admits] {name : String}
    {value : Option ℤ} {parsed : ℤ} :
    amount admits name value = .ok parsed ↔ value = some parsed ∧ admits parsed := by
  cases value with
  | none => simp [amount]
  | some value =>
    simp only [amount, bind_eq_ok, invalid_eq_ok, not_not, pure_eq_ok, Option.some.injEq]
    constructor
    · rintro ⟨_, hadmits, rfl⟩
      exact ⟨rfl, hadmits⟩
    · rintro ⟨rfl, hadmits⟩
      exact ⟨(), hadmits, rfl⟩

/-! ## The waterfall -/

/-- How the parties agreed to divide the result. -/
inductive TemplateType where
  | credit
  | performanceParticipation
  | hybrid
  deriving DecidableEq, Repr

/-- `DAY_COUNT_DENOMINATOR` -/
def dayCountDenominator : ℤ := 3650000

/-- The argument of `calculateTestnetSettlementWaterfall`. -/
structure WaterfallInput where
  templateType : TemplateType
  providerContributionMinor : Option ℤ
  subjectContributionMinor : Option ℤ
  finalEquityMinor : Option ℤ
  realizedPnlMinor : Option ℤ
  venueCostMinor : Option ℤ
  closingCostMinor : Option ℤ
  fixedReturnBps : ℤ
  performanceParticipationBps : ℤ
  durationDays : ℤ
  ipoOneFeeBps : ℤ
  deriving DecidableEq

/-- How the equity is divided. -/
structure Waterfall where
  templateType : TemplateType
  totalCapitalMinor : ℤ
  providerContributionMinor : ℤ
  subjectContributionMinor : ℤ
  realizedPnlMinor : ℤ
  venueCostMinor : ℤ
  closingCostMinor : ℤ
  finalEquityMinor : ℤ
  providerPrincipalReturnMinor : ℤ
  providerPrincipalShortfallMinor : ℤ
  subjectContributionReturnMinor : ℤ
  subjectFirstLossMinor : ℤ
  realizedFinancialIncomeMinor : ℤ
  fixedReturnTargetMinor : ℤ
  providerFixedReturnGrossMinor : ℤ
  providerPerformanceParticipationGrossMinor : ℤ
  providerGrossIncomeMinor : ℤ
  ipoOneFeeBasisMinor : ℤ
  ipoOneFeeMinor : ℤ
  providerFixedReturnNetMinor : ℤ
  providerPerformanceParticipationNetMinor : ℤ
  providerNetIncomeMinor : ℤ
  providerTotalAllocationMinor : ℤ
  subjectProfitMinor : ℤ
  subjectTotalAllocationMinor : ℤ
  totalAllocatedMinor : ℤ
  waterfallBalanced : Bool
  deriving DecidableEq

/-- Divides the final equity between the parties and the fee. -/
def calculateTestnetSettlementWaterfall (input : WaterfallInput) : Domain Waterfall := do
  let provider ← positiveMinor "providerContributionMinor" input.providerContributionMinor
  let subject ← positiveMinor "subjectContributionMinor" input.subjectContributionMinor
  let equity ← minor "finalEquityMinor" input.finalEquityMinor
  let realizedPnl ← signedMinor "realizedPnlMinor" input.realizedPnlMinor
  let venueCost ← minor "venueCostMinor" input.venueCostMinor
  let closingCost ← minor "closingCostMinor" input.closingCostMinor
  boundedInteger "fixedReturnBps" input.fixedReturnBps 0 10000
  boundedInteger "performanceParticipationBps" input.performanceParticipationBps 0 10000
  boundedInteger "durationDays" input.durationDays 1 3650
  boundedInteger "ipoOneFeeBps" input.ipoOneFeeBps 0 10000
  invalid (input.templateType = .credit ∧ input.performanceParticipationBps ≠ 0 ∨
      input.templateType = .performanceParticipation ∧ input.fixedReturnBps ≠ 0)
    "template economics are inconsistent"
  let capital := provider + subject
  throwIf (capital + realizedPnl - venueCost - closingCost ≠ equity)
    "testnet_settlement_not_conserved"
    "final equity does not reconcile to capital, realized PnL, and costs"
  let providerPrincipalReturn := if equity < provider then equity else provider
  let remaining := equity - providerPrincipalReturn
  let subjectContributionReturn := if remaining < subject then remaining else subject
  let realizedFinancialIncome := remaining - subjectContributionReturn
  let fixedTarget :=
    (provider * input.fixedReturnBps * input.durationDays).tdiv dayCountDenominator
  let providerFixedReturnGross :=
    if input.templateType = .performanceParticipation then 0
    else if fixedTarget < realizedFinancialIncome then fixedTarget
    else realizedFinancialIncome
  let remaining := realizedFinancialIncome - providerFixedReturnGross
  let providerPerformanceParticipationGross :=
    if input.templateType = .credit then 0
    else (remaining * input.performanceParticipationBps).tdiv 10000
  let providerGrossIncome := providerFixedReturnGross + providerPerformanceParticipationGross
  let ipoOneFee := (providerGrossIncome * input.ipoOneFeeBps).tdiv 10000
  let feeFromPerformance :=
    if ipoOneFee < providerPerformanceParticipationGross then ipoOneFee
    else providerPerformanceParticipationGross
  let feeFromFixed := ipoOneFee - feeFromPerformance
  let providerFixedReturnNet := providerFixedReturnGross - feeFromFixed
  let providerPerformanceParticipationNet :=
    providerPerformanceParticipationGross - feeFromPerformance
  let providerNetIncome := providerFixedReturnNet + providerPerformanceParticipationNet
  let subjectProfit := realizedFinancialIncome - providerGrossIncome
  let providerTotalAllocation := providerPrincipalReturn + providerNetIncome
  let subjectTotalAllocation := subjectContributionReturn + subjectProfit
  let totalAllocated := providerTotalAllocation + subjectTotalAllocation + ipoOneFee
  throwIf (totalAllocated ≠ equity) "testnet_settlement_not_conserved"
    "waterfall lost a minor unit"
  pure
    { templateType := input.templateType
      totalCapitalMinor := capital
      providerContributionMinor := provider
      subjectContributionMinor := subject
      realizedPnlMinor := realizedPnl
      venueCostMinor := venueCost
      closingCostMinor := closingCost
      finalEquityMinor := equity
      providerPrincipalReturnMinor := providerPrincipalReturn
      providerPrincipalShortfallMinor := provider - providerPrincipalReturn
      subjectContributionReturnMinor := subjectContributionReturn
      subjectFirstLossMinor := subject - subjectContributionReturn
      realizedFinancialIncomeMinor := realizedFinancialIncome
      fixedReturnTargetMinor := fixedTarget
      providerFixedReturnGrossMinor := providerFixedReturnGross
      providerPerformanceParticipationGrossMinor := providerPerformanceParticipationGross
      providerGrossIncomeMinor := providerGrossIncome
      ipoOneFeeBasisMinor := providerGrossIncome
      ipoOneFeeMinor := ipoOneFee
      providerFixedReturnNetMinor := providerFixedReturnNet
      providerPerformanceParticipationNetMinor := providerPerformanceParticipationNet
      providerNetIncomeMinor := providerNetIncome
      providerTotalAllocationMinor := providerTotalAllocation
      subjectProfitMinor := subjectProfit
      subjectTotalAllocationMinor := subjectTotalAllocation
      totalAllocatedMinor := totalAllocated
      waterfallBalanced := true }

end Settlement
end Hyperliquid
end IpoOne
