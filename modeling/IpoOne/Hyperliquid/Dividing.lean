import IpoOne.Hyperliquid.Posting

/-!
# What the settlement waterfall divides

`calculateTestnetSettlementWaterfall` divides the final equity in stages, each of which takes what
it may of what the stage before it left.  Rounding happens in the shares in basis points only, and a
share is monotone and never takes more than it adds (`share_mono`, `sub_share_mono`), so that what
each party receives is monotone in the equity.

* `Divided` — what a waterfall that is calculated comes to.
* `settlement_waterfall` — it conserves the equity, respects the ranks, is monotone, and its posting
  balances.
-/

set_option autoImplicit false

namespace IpoOne
namespace Hyperliquid
namespace Settlement

open Fallible

/-! ## Shares in basis points -/

section Share

variable {x y bps : ℤ}

/-- A share of `x`, rounded down. -/
def share (x bps : ℤ) : ℤ := (x * bps).tdiv 10000

theorem share_eq (hx : 0 ≤ x) (hbps : 0 ≤ bps) : share x bps = x * bps / 10000 :=
  Int.tdiv_eq_ediv_of_nonneg (Int.mul_nonneg hx hbps)

theorem share_nonneg (hx : 0 ≤ x) (hbps : 0 ≤ bps) : 0 ≤ share x bps :=
  Int.tdiv_nonneg (Int.mul_nonneg hx hbps) (by decide)

theorem share_mono (hx : 0 ≤ x) (hxy : x ≤ y) (hbps : 0 ≤ bps) : share x bps ≤ share y bps := by
  rw [share_eq hx hbps, share_eq (hx.trans hxy) hbps]
  exact Int.ediv_le_ediv (by decide) (Int.mul_le_mul_of_nonneg_right hxy hbps)

/-- What a share leaves is monotone as well. -/
theorem sub_share_mono (hx : 0 ≤ x) (hxy : x ≤ y) (hbps : 0 ≤ bps) (hle : bps ≤ 10000) :
    x - share x bps ≤ y - share y bps := by
  rw [share_eq hx hbps, share_eq (hx.trans hxy) hbps]
  have hstep : y * bps ≤ x * bps + (y - x) * 10000 := by
    have hmore := Int.mul_le_mul_of_nonneg_left hle (Int.sub_nonneg_of_le hxy)
    rw [Int.sub_mul] at hmore
    omega
  have hdiv := Int.ediv_le_ediv (c := 10000) (by decide) hstep
  rw [Int.add_mul_ediv_right _ _ (by decide)] at hdiv
  omega

theorem share_le (hx : 0 ≤ x) (hbps : 0 ≤ bps) (hle : bps ≤ 10000) : share x bps ≤ x := by
  have hrest := sub_share_mono le_rfl hx hbps hle
  rw [show share 0 bps = 0 by simp [share]] at hrest
  omega

end Share

/-! ## What is calculated -/

/-- A waterfall as it is calculated: an input that is valid, and each stage from the ones before. -/
structure Divided (input : WaterfallInput) (w : Waterfall) : Prop where
  templateType : w.templateType = input.templateType
  provider : input.providerContributionMinor = some w.providerContributionMinor
  provider_pos : 0 < w.providerContributionMinor
  subject : input.subjectContributionMinor = some w.subjectContributionMinor
  subject_pos : 0 < w.subjectContributionMinor
  equity : input.finalEquityMinor = some w.finalEquityMinor
  equity_nonneg : 0 ≤ w.finalEquityMinor
  pnl : input.realizedPnlMinor = some w.realizedPnlMinor ∧
    -10 ^ 78 < w.realizedPnlMinor ∧ w.realizedPnlMinor < 10 ^ 78
  venue : input.venueCostMinor = some w.venueCostMinor ∧ 0 ≤ w.venueCostMinor
  closing : input.closingCostMinor = some w.closingCostMinor ∧ 0 ≤ w.closingCostMinor
  fixedReturnBps : 0 ≤ input.fixedReturnBps
  participationBps : 0 ≤ input.performanceParticipationBps ∧
    input.performanceParticipationBps ≤ 10000
  durationDays : 1 ≤ input.durationDays
  feeBps : 0 ≤ input.ipoOneFeeBps ∧ input.ipoOneFeeBps ≤ 10000
  reconciled : w.providerContributionMinor + w.subjectContributionMinor + w.realizedPnlMinor
    - w.venueCostMinor - w.closingCostMinor = w.finalEquityMinor
  principal : w.providerPrincipalReturnMinor = min w.finalEquityMinor w.providerContributionMinor
  contribution : w.subjectContributionReturnMinor
    = min (w.finalEquityMinor - w.providerPrincipalReturnMinor) w.subjectContributionMinor
  income : w.realizedFinancialIncomeMinor = w.finalEquityMinor - w.providerPrincipalReturnMinor
    - w.subjectContributionReturnMinor
  target : w.fixedReturnTargetMinor = (w.providerContributionMinor * input.fixedReturnBps
    * input.durationDays).tdiv dayCountDenominator
  fixed : w.providerFixedReturnGrossMinor = if input.templateType = .performanceParticipation then 0
    else min w.fixedReturnTargetMinor w.realizedFinancialIncomeMinor
  performance : w.providerPerformanceParticipationGrossMinor =
    if input.templateType = .credit then 0
    else share (w.realizedFinancialIncomeMinor - w.providerFixedReturnGrossMinor)
      input.performanceParticipationBps
  gross : w.providerGrossIncomeMinor
    = w.providerFixedReturnGrossMinor + w.providerPerformanceParticipationGrossMinor
  fee : w.ipoOneFeeMinor = share w.providerGrossIncomeMinor input.ipoOneFeeBps
  fixedNet : w.providerFixedReturnNetMinor = w.providerFixedReturnGrossMinor
    - (w.ipoOneFeeMinor - min w.ipoOneFeeMinor w.providerPerformanceParticipationGrossMinor)
  performanceNet : w.providerPerformanceParticipationNetMinor
    = w.providerPerformanceParticipationGrossMinor
      - min w.ipoOneFeeMinor w.providerPerformanceParticipationGrossMinor
  profit : w.subjectProfitMinor = w.realizedFinancialIncomeMinor - w.providerGrossIncomeMinor
  providerTotal : w.providerTotalAllocationMinor = w.providerPrincipalReturnMinor
    + (w.providerFixedReturnNetMinor + w.providerPerformanceParticipationNetMinor)
  subjectTotal : w.subjectTotalAllocationMinor
    = w.subjectContributionReturnMinor + w.subjectProfitMinor
  total : w.totalAllocatedMinor
    = w.providerTotalAllocationMinor + w.subjectTotalAllocationMinor + w.ipoOneFeeMinor

theorem ite_lt_eq_min (x y : ℤ) : (if x < y then x else y) = min x y := by
  split <;> omega

/-- What is allocated is the equity, whatever the fee. -/
theorem allocated_eq (principal contribution income fixed performance fee fromPerformance : ℤ) :
    principal + (fixed - (fee - fromPerformance) + (performance - fromPerformance))
      + (contribution + (income - (fixed + performance))) + fee
      = principal + contribution + income := by
  omega

theorem positiveMinor_eq_ok {name : String} {value : Option ℤ} {parsed : ℤ} :
    positiveMinor name value = .ok parsed ↔ value = some parsed ∧ 0 < parsed ∧
      parsed < 10 ^ 78 := by
  simp only [positiveMinor, minor, bind_eq_ok, amount_eq_ok, invalid_eq_ok, pure_eq_ok, not_le]
  constructor
  · rintro ⟨_, ⟨rfl, _, hlt⟩, _, hpos, rfl⟩
    exact ⟨rfl, hpos, hlt⟩
  · rintro ⟨rfl, hpos, hlt⟩
    exact ⟨parsed, ⟨rfl, hpos.le, hlt⟩, (), hpos, rfl⟩

theorem calculate_ok {input : WaterfallInput} {w : Waterfall}
    (h : calculateTestnetSettlementWaterfall input = .ok w) : Divided input w := by
  simp only [calculateTestnetSettlementWaterfall, minor, signedMinor, boundedInteger, bind_eq_ok,
    positiveMinor_eq_ok, amount_eq_ok, invalid_eq_ok, throwIf_eq_ok, pure_eq_ok, not_or, not_lt,
    not_not] at h
  obtain ⟨provider, ⟨hprovider, hprovider_pos, _⟩, subject, ⟨hsubject, hsubject_pos, _⟩, equity,
    ⟨hequity, hequity_nonneg, _⟩, pnl, ⟨hpnl, hpnl_lower, hpnl_upper⟩, venue,
    ⟨hvenue, hvenue_nonneg, _⟩, closing, ⟨hclosing, hclosing_nonneg, _⟩, _, ⟨hfixed, _⟩, _,
    ⟨hperformance, hperformance_le⟩, _, ⟨hduration, _⟩, _, ⟨hfee, hfee_le⟩, _, _, _,
    hreconciled, _, _, rfl⟩ := h
  simp only [ite_lt_eq_min]
  exact ⟨rfl, hprovider, hprovider_pos, hsubject, hsubject_pos, hequity, hequity_nonneg,
    ⟨hpnl, hpnl_lower, hpnl_upper⟩, ⟨hvenue, hvenue_nonneg⟩, ⟨hclosing, hclosing_nonneg⟩, hfixed,
    ⟨hperformance, hperformance_le⟩, hduration, ⟨hfee, hfee_le⟩, hreconciled, rfl, rfl, rfl, rfl,
    rfl, rfl, rfl, rfl, rfl, rfl, rfl, rfl, rfl, rfl⟩

/-! ## What each party receives -/

/-- A division of the equity: everything is allocated, the provider's principal goes before the
subject's contribution, and the fee is taken of the provider's income only. -/
structure Waterfall.Fair (w : Waterfall) : Prop where
  principal_nonneg : 0 ≤ w.providerPrincipalReturnMinor
  contribution_nonneg : 0 ≤ w.subjectContributionReturnMinor
  fixedNet_nonneg : 0 ≤ w.providerFixedReturnNetMinor
  performanceNet_nonneg : 0 ≤ w.providerPerformanceParticipationNetMinor
  profit_nonneg : 0 ≤ w.subjectProfitMinor
  fee_nonneg : 0 ≤ w.ipoOneFeeMinor
  provider_nonneg : 0 ≤ w.providerTotalAllocationMinor
  subject_nonneg : 0 ≤ w.subjectTotalAllocationMinor
  conserved : w.providerPrincipalReturnMinor + w.providerFixedReturnNetMinor
    + w.providerPerformanceParticipationNetMinor + w.subjectContributionReturnMinor
    + w.subjectProfitMinor + w.ipoOneFeeMinor = w.finalEquityMinor
  allocated : w.providerTotalAllocationMinor + w.subjectTotalAllocationMinor + w.ipoOneFeeMinor
    = w.finalEquityMinor
  senior : 0 < w.subjectTotalAllocationMinor →
    w.providerPrincipalReturnMinor = w.providerContributionMinor
  fee_le : w.ipoOneFeeMinor ≤ w.providerGrossIncomeMinor
  fee_senior : w.providerPrincipalReturnMinor ≠ w.providerContributionMinor → w.ipoOneFeeMinor = 0

section Divided

variable {input : WaterfallInput} {w : Waterfall}

theorem Divided.target_nonneg (h : Divided input w) : 0 ≤ w.fixedReturnTargetMinor := by
  have hduration := h.durationDays
  rw [h.target]
  exact Int.tdiv_nonneg (Int.mul_nonneg (Int.mul_nonneg h.provider_pos.le h.fixedReturnBps)
    (by omega)) (by decide)

theorem Divided.income_nonneg (h : Divided input w) : 0 ≤ w.realizedFinancialIncomeMinor := by
  have hcontribution := h.contribution
  rw [h.income]
  omega

/-- The fixed return takes no more than there is. -/
theorem Divided.fixed_bounds (h : Divided input w) :
    0 ≤ w.providerFixedReturnGrossMinor ∧
      w.providerFixedReturnGrossMinor ≤ w.realizedFinancialIncomeMinor := by
  have htarget := h.target_nonneg
  have hincome := h.income_nonneg
  rw [h.fixed]
  split <;> omega

/-- Nor does the share of the performance. -/
theorem Divided.performance_bounds (h : Divided input w) :
    0 ≤ w.providerPerformanceParticipationGrossMinor ∧
      w.providerPerformanceParticipationGrossMinor
        ≤ w.realizedFinancialIncomeMinor - w.providerFixedReturnGrossMinor := by
  obtain ⟨_, hfixed⟩ := h.fixed_bounds
  obtain ⟨hbps, hle⟩ := h.participationBps
  have hrest := Int.sub_nonneg_of_le hfixed
  rw [h.performance]
  split
  · exact ⟨le_rfl, hrest⟩
  · exact ⟨share_nonneg hrest hbps, share_le hrest hbps hle⟩

/-- Nor does the fee. -/
theorem Divided.fee_bounds (h : Divided input w) :
    0 ≤ w.ipoOneFeeMinor ∧ w.ipoOneFeeMinor ≤ w.providerGrossIncomeMinor := by
  obtain ⟨hfixed, _⟩ := h.fixed_bounds
  obtain ⟨hperformance, _⟩ := h.performance_bounds
  obtain ⟨hbps, hle⟩ := h.feeBps
  have hgross : 0 ≤ w.providerGrossIncomeMinor := by
    rw [h.gross]
    omega
  rw [h.fee]
  exact ⟨share_nonneg hgross hbps, share_le hgross hbps hle⟩

theorem Divided.fair (h : Divided input w) : w.Fair := by
  obtain ⟨hfixed, hfixed_le⟩ := h.fixed_bounds
  obtain ⟨hperformance, hperformance_le⟩ := h.performance_bounds
  obtain ⟨hfee, hfee_le⟩ := h.fee_bounds
  have hprovider := h.provider_pos
  have hsubject := h.subject_pos
  have hequity := h.equity_nonneg
  have hprincipal := h.principal
  have hcontribution := h.contribution
  have hincome := h.income
  have hgross := h.gross
  have hfixedNet := h.fixedNet
  have hperformanceNet := h.performanceNet
  have hprofit := h.profit
  have hproviderTotal := h.providerTotal
  have hsubjectTotal := h.subjectTotal
  constructor <;> omega

/-- The terms of a waterfall: what is not the outcome of the trading. -/
structure SameTerms (input input' : WaterfallInput) : Prop where
  templateType : input'.templateType = input.templateType
  provider : input'.providerContributionMinor = input.providerContributionMinor
  subject : input'.subjectContributionMinor = input.subjectContributionMinor
  fixedReturnBps : input'.fixedReturnBps = input.fixedReturnBps
  participationBps : input'.performanceParticipationBps = input.performanceParticipationBps
  durationDays : input'.durationDays = input.durationDays
  feeBps : input'.ipoOneFeeBps = input.ipoOneFeeBps

variable {input' : WaterfallInput} {w' : Waterfall}

/-- More equity is more income, and no more than that. -/
theorem Divided.income_mono (h : Divided input w) (h' : Divided input' w')
    (hterms : SameTerms input input') (hle : w.finalEquityMinor ≤ w'.finalEquityMinor) :
    w'.providerContributionMinor = w.providerContributionMinor ∧
      w'.subjectContributionMinor = w.subjectContributionMinor ∧
      w.providerPrincipalReturnMinor ≤ w'.providerPrincipalReturnMinor ∧
      w.subjectContributionReturnMinor ≤ w'.subjectContributionReturnMinor ∧
      w.realizedFinancialIncomeMinor ≤ w'.realizedFinancialIncomeMinor := by
  have hprovider : w'.providerContributionMinor = w.providerContributionMinor :=
    Option.some.inj (h'.provider.symm.trans (hterms.provider.trans h.provider))
  have hsubject : w'.subjectContributionMinor = w.subjectContributionMinor :=
    Option.some.inj (h'.subject.symm.trans (hterms.subject.trans h.subject))
  have hpositive := h.provider_pos
  have hpositive' := h.subject_pos
  have := h.principal
  have := h'.principal
  have := h.contribution
  have := h'.contribution
  have := h.income
  have := h'.income
  refine ⟨hprovider, hsubject, ?_, ?_, ?_⟩ <;> omega

/-- The provider's income and what it leaves to the subject are both monotone. -/
theorem Divided.gross_mono (h : Divided input w) (h' : Divided input' w')
    (hterms : SameTerms input input') (hle : w.finalEquityMinor ≤ w'.finalEquityMinor) :
    w.providerGrossIncomeMinor ≤ w'.providerGrossIncomeMinor ∧
      w.subjectProfitMinor ≤ w'.subjectProfitMinor := by
  obtain ⟨hprovider, _, _, _, hincome⟩ := h.income_mono h' hterms hle
  obtain ⟨hbps, hbps_le⟩ := h.participationBps
  have htarget : w'.fixedReturnTargetMinor = w.fixedReturnTargetMinor := by
    rw [h'.target, h.target, hprovider, hterms.fixedReturnBps, hterms.durationDays]
  have hfixed := h.fixed
  have hfixed' := h'.fixed
  rw [hterms.templateType, htarget] at hfixed'
  have hpositive := h.target_nonneg
  -- the fixed return and what it leaves
  have hstage : w.providerFixedReturnGrossMinor ≤ w'.providerFixedReturnGrossMinor ∧
      w.realizedFinancialIncomeMinor - w.providerFixedReturnGrossMinor
        ≤ w'.realizedFinancialIncomeMinor - w'.providerFixedReturnGrossMinor := by
    rw [hfixed, hfixed']
    split <;> omega
  obtain ⟨_, hrest⟩ := h.fixed_bounds
  have hperformance := h.performance
  have hperformance' := h'.performance
  rw [hterms.templateType, hterms.participationBps] at hperformance'
  have hstage' : w.providerPerformanceParticipationGrossMinor
        ≤ w'.providerPerformanceParticipationGrossMinor ∧
      w.realizedFinancialIncomeMinor - w.providerFixedReturnGrossMinor
          - w.providerPerformanceParticipationGrossMinor
        ≤ w'.realizedFinancialIncomeMinor - w'.providerFixedReturnGrossMinor
          - w'.providerPerformanceParticipationGrossMinor := by
    rw [hperformance, hperformance']
    split
    · exact ⟨le_rfl, by omega⟩
    · exact ⟨share_mono (Int.sub_nonneg_of_le hrest) hstage.2 hbps,
        sub_share_mono (Int.sub_nonneg_of_le hrest) hstage.2 hbps hbps_le⟩
  rw [h.profit, h'.profit, h.gross, h'.gross]
  omega

/-- **What each party receives is monotone in the equity.** -/
theorem Divided.mono (h : Divided input w) (h' : Divided input' w')
    (hterms : SameTerms input input') (hle : w.finalEquityMinor ≤ w'.finalEquityMinor) :
    w.providerTotalAllocationMinor ≤ w'.providerTotalAllocationMinor ∧
      w.subjectTotalAllocationMinor ≤ w'.subjectTotalAllocationMinor ∧
      w.ipoOneFeeMinor ≤ w'.ipoOneFeeMinor := by
  obtain ⟨_, _, hprincipal, hcontribution, _⟩ := h.income_mono h' hterms hle
  obtain ⟨hgross, hprofit⟩ := h.gross_mono h' hterms hle
  obtain ⟨hbps, hbps_le⟩ := h.feeBps
  have hpositive : 0 ≤ w.providerGrossIncomeMinor := h.fee_bounds.1.trans h.fee_bounds.2
  have hfee := h.fee
  have hfee' := h'.fee
  rw [hterms.feeBps] at hfee'
  have hmore := share_mono hpositive hgross hbps
  have hnet := sub_share_mono hpositive hgross hbps hbps_le
  rw [← hfee, ← hfee'] at hmore hnet
  have hsum := h.gross
  have hsum' := h'.gross
  rw [h.providerTotal, h'.providerTotal, h.subjectTotal, h'.subjectTotal, h.fixedNet, h'.fixedNet,
    h.performanceNet, h'.performanceNet]
  omega

end Divided

/-- The check at the end of the waterfall. -/
def lostMinorUnit : DomainError where
  code := "testnet_settlement_not_conserved"
  message := "waterfall lost a minor unit"

theorem ne_lostMinorUnit {code message : String} (h : code ≠ lostMinorUnit.code) :
    ({ code, message } : DomainError) ≠ lostMinorUnit :=
  fun heq ↦ h (congrArg DomainError.code heq)

theorem invalid_errorsIn {c : Prop} [Decidable c] (message : String) :
    ErrorsIn (· ≠ lostMinorUnit) (invalid c message) :=
  errorsIn_throwIf (ne_lostMinorUnit (by decide))

theorem amount_errorsIn {admits : ℤ → Prop} [DecidablePred admits] (name : String)
    (value : Option ℤ) : ErrorsIn (· ≠ lostMinorUnit) (amount admits name value) := by
  cases value with
  | none => exact errorsIn_error (ne_lostMinorUnit (by decide))
  | some value => exact errorsIn_bind (invalid_errorsIn _) fun _ _ ↦ errorsIn_pure _

theorem positiveMinor_errorsIn (name : String) (value : Option ℤ) :
    ErrorsIn (· ≠ lostMinorUnit) (positiveMinor name value) :=
  errorsIn_bind (amount_errorsIn name value) fun _ _ ↦
    errorsIn_bind (invalid_errorsIn _) fun _ _ ↦ errorsIn_pure _

/-- **The check at the end never fails.** -/
theorem calculate_errorsIn (input : WaterfallInput) :
    ErrorsIn (· ≠ lostMinorUnit) (calculateTestnetSettlementWaterfall input) := by
  rw [calculateTestnetSettlementWaterfall]
  refine errorsIn_bind (positiveMinor_errorsIn _ _) fun provider _ ↦
    errorsIn_bind (positiveMinor_errorsIn _ _) fun subject _ ↦
    errorsIn_bind (amount_errorsIn _ _) fun equity _ ↦
    errorsIn_bind (amount_errorsIn _ _) fun pnl _ ↦ errorsIn_bind (amount_errorsIn _ _) fun _ _ ↦
    errorsIn_bind (amount_errorsIn _ _) fun _ _ ↦ errorsIn_bind (invalid_errorsIn _) fun _ _ ↦
    errorsIn_bind (invalid_errorsIn _) fun _ _ ↦ errorsIn_bind (invalid_errorsIn _) fun _ _ ↦
    errorsIn_bind (invalid_errorsIn _) fun _ _ ↦ errorsIn_bind (invalid_errorsIn _) fun _ _ ↦
    errorsIn_bind (errorsIn_throwIf fun h ↦ absurd (congrArg DomainError.message h) (by decide))
      fun _ _ ↦ errorsIn_bind (fun e he ↦ ?_) fun _ _ ↦ errorsIn_pure _
  -- all that is taken from the equity is allocated again
  rw [throwIf, failIf, if_neg] at he
  · cases he
  · rw [not_not, allocated_eq]
    omega

/-! ## The posting -/

section Posting

variable {H : Type} {hashId : SettlementPreimage H → H}

/-- What is posted of a list of amounts: those that are positive, in their order. -/
def normalizedEntries (hashId : SettlementPreimage H → H) (identity : RecordIdentity H)
    (specs : List (SettlementAccountType × Credit.LedgerEntryDirection × ℤ)) (start : ℕ) :
    List (Credit.LedgerEntry H) :=
  ((specs.filter fun (_, _, amount) ↦ 0 < amount).zipIdx start).map
    fun ((accountType, direction, amountMinor), sequence) ↦
      { ledgerAccountId := hashId (.ledgerAccountId
          { ownerId := identity.facilityId, assetId := identity.assetId, accountType })
        direction
        amountMinor
        sequence }

/-- Of amounts that are not negative all is posted. -/
theorem sideTotal_normalizedEntries (identity : RecordIdentity H)
    (direction : Credit.LedgerEntryDirection)
    {specs : List (SettlementAccountType × Credit.LedgerEntryDirection × ℤ)}
    (hnonneg : ∀ spec ∈ specs, 0 ≤ spec.2.2) (start : ℕ) :
    Credit.sideTotal direction (normalizedEntries hashId identity specs start)
      = (specs.map fun spec ↦ if spec.2.1 = direction then spec.2.2 else 0).sum := by
  induction specs generalizing start with
  | nil => rfl
  | cons spec rest ih =>
    obtain ⟨hspec, hrest⟩ := List.forall_mem_cons.1 hnonneg
    rw [List.map_cons, List.sum_cons, normalizedEntries, List.filter_cons]
    by_cases hpos : 0 < spec.2.2
    · rw [if_pos (decide_eq_true hpos), List.zipIdx_cons, List.map_cons, ← ih hrest (start + 1),
        Credit.sideTotal, List.filter_cons]
      by_cases hside : spec.2.1 = direction
      · rw [if_pos (decide_eq_true hside), if_pos hside]
        rfl
      · rw [if_neg (by simpa using hside), if_neg hside, zero_add]
        rfl
    · have h0 : spec.2.2 = 0 := by omega
      rw [if_neg (by simpa using hpos), h0, ite_self, zero_add]
      exact ih hrest start

/-- **The posting of a waterfall balances.** -/
theorem Divided.balanced {record : SettlementRecord H} {w : Waterfall}
    (h : Divided (waterfallInput record.identity record.finalEquityMinor record.realizedPnlMinor
      record.venueCostMinor record.closingCostMinor) w) (now : ℕ) :
    ∃ ledger, createSettlementLedger hashId record w now = .ok ledger ∧
      ledger.transaction.debitTotalMinor = ledger.transaction.creditTotalMinor := by
  have hfair := h.fair
  have hprovider : record.identity.providerContributionMinor = w.providerContributionMinor :=
    Option.some.inj h.provider
  have hsubject : record.identity.subjectContributionMinor = w.subjectContributionMinor :=
    Option.some.inj h.subject
  obtain ⟨hpnl, hpnl_lower, hpnl_upper⟩ := h.pnl
  obtain ⟨hvenue, hvenue_nonneg⟩ := h.venue
  obtain ⟨hclosing, hclosing_nonneg⟩ := h.closing
  have hprovider_pos := h.provider_pos
  have hsubject_pos := h.subject_pos
  have hreconciled := h.reconciled
  have hconserved := hfair.conserved
  -- the amounts of the posting are not negative
  have hnonneg : ∀ spec ∈ entrySpecs record w w.realizedPnlMinor w.venueCostMinor
      w.closingCostMinor, 0 ≤ spec.2.2 := by
    have hgain : 0 ≤ if 0 < w.realizedPnlMinor then w.realizedPnlMinor else 0 := by split <;> omega
    have hloss : 0 ≤ if w.realizedPnlMinor < 0 then -w.realizedPnlMinor else 0 := by
      split <;> omega
    simp only [entrySpecs, List.forall_mem_cons, List.not_mem_nil, false_implies, implies_true,
      and_true]
    exact ⟨by omega, by omega, hgain, hloss, hvenue_nonneg, hclosing_nonneg,
      hfair.principal_nonneg, hfair.contribution_nonneg, hfair.fixedNet_nonneg,
      hfair.performanceNet_nonneg, hfair.profit_nonneg, hfair.fee_nonneg⟩
  have hsides : ∀ direction, Credit.sideTotal direction (normalizedEntries hashId record.identity
      (entrySpecs record w w.realizedPnlMinor w.venueCostMinor w.closingCostMinor) 0)
        = ((entrySpecs record w w.realizedPnlMinor w.venueCostMinor w.closingCostMinor).map
          fun spec ↦ if spec.2.1 = direction then spec.2.2 else 0).sum :=
    fun direction ↦ sideTotal_normalizedEntries record.identity direction hnonneg 0
  have hcredit := hsides .credit
  have hdebit := hsides .debit
  simp only [entrySpecs, List.map_cons, List.map_nil, List.sum_cons, List.sum_nil, if_true,
    reduceCtorEq, if_false] at hcredit hdebit
  have hsame : Credit.sideTotal .debit (normalizedEntries hashId record.identity
      (entrySpecs record w w.realizedPnlMinor w.venueCostMinor w.closingCostMinor) 0)
        = Credit.sideTotal .credit (normalizedEntries hashId record.identity
      (entrySpecs record w w.realizedPnlMinor w.venueCostMinor w.closingCostMinor) 0) := by
    rw [entrySpecs, hcredit, hdebit]
    split <;> split <;> omega
  have hpositive : Credit.sideTotal .debit (normalizedEntries hashId record.identity
      (entrySpecs record w w.realizedPnlMinor w.venueCostMinor w.closingCostMinor) 0) ≠ 0 := by
    rw [hsame, entrySpecs, hcredit]
    split <;> omega
  have hlength : 2 ≤ (normalizedEntries hashId record.identity
      (entrySpecs record w w.realizedPnlMinor w.venueCostMinor w.closingCostMinor) 0).length := by
    rw [normalizedEntries, List.length_map, List.length_zipIdx, entrySpecs, List.filter_cons,
      if_pos (decide_eq_true (hprovider.symm ▸ hprovider_pos)), List.filter_cons,
      if_pos (decide_eq_true (hsubject.symm ▸ hsubject_pos))]
    exact Nat.le_add_left _ _
  simp only [createSettlementLedger, bind_eq_ok]
  refine ⟨_, ⟨w.realizedPnlMinor, amount_eq_ok.2 ⟨hpnl, hpnl_lower, hpnl_upper⟩, w.venueCostMinor,
    ?_, w.closingCostMinor, ?_, (), throwIf_eq_ok.2 ?_, rfl⟩, hsame⟩
  · rw [show record.venueCostMinor = some w.venueCostMinor from hvenue]
    rfl
  · rw [show record.closingCostMinor = some w.closingCostMinor from hclosing]
    rfl
  · rintro (hzero | hdifferent | hshort)
    · exact hpositive hzero
    · exact hdifferent hsame
    · exact absurd hlength (not_le.2 hshort)

end Posting

/-- **The settlement waterfall.**  It never loses a minor unit; of what is calculated every
allocation is nonnegative, they come to the final equity, the provider's principal goes before all
that the subject receives, and the fee is at most the provider's income and nothing before the
principal is back; under the same terms what each party receives is monotone in the final equity;
and the posting of a record's waterfall always balances. -/
theorem settlement_waterfall {H : Type} (hashId : SettlementPreimage H → H) :
    (∀ input, ErrorsIn (· ≠ lostMinorUnit) (calculateTestnetSettlementWaterfall input)) ∧
    (∀ input w, calculateTestnetSettlementWaterfall input = .ok w →
      w.Fair ∧ input.finalEquityMinor = some w.finalEquityMinor) ∧
    (∀ input input' w w', calculateTestnetSettlementWaterfall input = .ok w →
      calculateTestnetSettlementWaterfall input' = .ok w' → SameTerms input input' →
      w.finalEquityMinor ≤ w'.finalEquityMinor →
      w.providerTotalAllocationMinor ≤ w'.providerTotalAllocationMinor ∧
        w.subjectTotalAllocationMinor ≤ w'.subjectTotalAllocationMinor ∧
        w.ipoOneFeeMinor ≤ w'.ipoOneFeeMinor) ∧
    (∀ (record : SettlementRecord H) (w : Waterfall) (now : ℕ),
      calculateTestnetSettlementWaterfall (waterfallInput record.identity record.finalEquityMinor
        record.realizedPnlMinor record.venueCostMinor record.closingCostMinor) = .ok w →
      ∃ ledger, createSettlementLedger hashId record w now = .ok ledger ∧
        ledger.transaction.debitTotalMinor = ledger.transaction.creditTotalMinor) := by
  refine ⟨calculate_errorsIn, fun input w h ↦ ?_, fun input input' w w' h h' hterms hle ↦ ?_,
    fun record w now h ↦ (calculate_ok h).balanced now⟩
  · exact ⟨(calculate_ok h).fair, (calculate_ok h).equity⟩
  · exact (calculate_ok h).mono (calculate_ok h') hterms hle

namespace Sample

/-- A hybrid facility of 1000 and 200, a year at 10% and half of the performance. -/
def division (pnl : ℤ) : WaterfallInput where
  templateType := .hybrid
  providerContributionMinor := some 1000
  subjectContributionMinor := some 200
  finalEquityMinor := some (1200 + pnl - 7)
  realizedPnlMinor := some pnl
  venueCostMinor := some 5
  closingCostMinor := some 2
  fixedReturnBps := 1000
  performanceParticipationBps := 5000
  durationDays := 365
  ipoOneFeeBps := 1234

end Sample

/-- A loss and a gain of the same facility. -/
theorem settlement_waterfall_sample :
    ∃ loss gain, calculateTestnetSettlementWaterfall (Sample.division (-300)) = .ok loss ∧
      calculateTestnetSettlementWaterfall (Sample.division 301) = .ok gain ∧
      gain.Fair ∧ gain.ipoOneFeeMinor = 24 ∧
      loss.providerTotalAllocationMinor ≤ gain.providerTotalAllocationMinor := by
  have hloss : (calculateTestnetSettlementWaterfall (Sample.division (-300))).isOk
      = true := by decide +kernel
  have hgain : (calculateTestnetSettlementWaterfall (Sample.division 301)).isOk
      = true := by decide +kernel
  obtain ⟨loss, hloss⟩ := isOk_iff.1 hloss
  obtain ⟨gain, hgain⟩ := isOk_iff.1 hgain
  have hfee : (calculateTestnetSettlementWaterfall (Sample.division 301)).map
      (·.ipoOneFeeMinor) = .ok 24 := by decide +kernel
  rw [hgain] at hfee
  obtain ⟨_, hfair, hmono, _⟩ := settlement_waterfall Sample.hashId
  have hequity := (hfair _ _ hloss).2
  have hequity' := (hfair _ _ hgain).2
  refine ⟨loss, gain, hloss, hgain, (hfair _ _ hgain).1, Except.ok.inj hfee,
    (hmono _ _ _ _ hloss hgain ⟨rfl, rfl, rfl, rfl, rfl, rfl, rfl⟩ ?_).1⟩
  rw [← Option.some.inj hequity, ← Option.some.inj hequity']
  decide

end Settlement
end Hyperliquid
end IpoOne
