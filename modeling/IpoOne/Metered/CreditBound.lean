import IpoOne.Metered.Agreement

/-!
# Metered charges and the credit of the obligation

The posting compares each charge by itself with the outstanding principal of the obligation, which
is written back as it was.  So what is payable to the provider can pass the principal, although no
single charge does: `second_charge_exceeds_credit`.

`metered_credit_iff` says when it does not.
-/

set_option autoImplicit false

namespace IpoOne
namespace Metered

open Fallible

variable {H : Type} [DecidableEq H]

/-- What is payable to the provider for the obligation. -/
def payableOf (obligation : UsageObligation) (store : UsageStore H) : ℤ :=
  -balanceOf (payableAccount obligation) store

/-- What an evidence would add: its charge, less that of the evidence that it corrects. -/
def addedCharge (store : UsageStore H) (evidence : EvidenceTerms) : ℤ :=
  match evidence.correctionOfUsageEvidenceId with
  | none => evidence.chargeMinor
  | some corrected => evidence.chargeMinor -
    ((findEvidence store corrected).map fun previous ↦ (previous.chargeMinor : ℤ)).getD 0

/-- The error of the posting for a charge that the obligation does not cover. -/
def creditExceeded : DomainError :=
  { code := "metered_usage_credit_exceeded"
    message := "charge exceeds the current Obligation balance" }

/-- What is payable for an obligation is within its outstanding principal. -/
def WithinCredit (store : UsageStore H) : Prop :=
  ∀ obligation, store.obligations.get obligation.obligationId = some obligation →
    payableOf obligation store ≤ obligation.outstandingPrincipalMinor

/-- A command that the posting is reached with, and that would take what is payable past the
outstanding principal, is refused for that. -/
def RefusesExcess (hashId : UsagePreimage H → H) (store : UsageStore H) (command : AdmitCommand H) :
    Prop :=
  ∀ considered, Considers hashId store command considered →
    considered.records.obligation.outstandingPrincipalMinor <
      payableOf considered.records.obligation store + addedCharge store
        command.evidence.toEvidenceTerms →
    admitMeteredUsage hashId store command = .error creditExceeded

/-- If the posting is reached, the charge is above the outstanding principal by itself, or it is
within the principal together with what is payable already. -/
def AloneOrTogether (hashId : UsagePreimage H → H) (store : UsageStore H)
    (command : AdmitCommand H) :
    Prop :=
  ∀ considered, Considers hashId store command considered →
    considered.records.obligation.outstandingPrincipalMinor <
        addedCharge store command.evidence.toEvidenceTerms ∨
      payableOf considered.records.obligation store + addedCharge store
        command.evidence.toEvidenceTerms ≤
        considered.records.obligation.outstandingPrincipalMinor

section Posting

variable {hashId : UsagePreimage H → H} {store : UsageStore H} {command : AdmitCommand H}
  {considered : Considered H} {outcome : Outcome H}

omit [DecidableEq H] in
theorem createMeteredUsageEvidence_checked {terms : EvidenceTerms}
    {evidence : MeteredUsageEvidence H}
    (h : createMeteredUsageEvidence hashId terms = .ok evidence) :
    0 < terms.chargeMinor ∧ terms.chargeMinor < 10 ^ 78 ∧ terms.scope.assetId ≠ "" := by
  simp only [createMeteredUsageEvidence, assertPositive, assertId, bind_eq_ok, throwIf_eq_ok,
    exists_const, not_or, not_le] at h
  obtain ⟨-, -, -, -, -, -, -, -, -, -, -, ⟨hpos, hlt⟩, hasset, -⟩ := h
  refine ⟨Nat.pos_of_ne_zero hpos, hlt, fun hempty ↦ hasset ?_⟩
  rw [hempty]
  rfl

theorem Considers.evidence_created (h : Considers hashId store command considered) :
    createMeteredUsageEvidence hashId command.evidence.toEvidenceTerms = .ok command.evidence :=
  (normalizePayload_ok h.normalized).2

/-- What is admitted is what the evidence adds. -/
theorem Considers.delta_eq (hrecorded : Recorded store)
    (h : Considers hashId store command considered) :
    considered.delta = addedCharge store command.evidence.toEvidenceTerms := by
  rw [addedCharge]
  rcases h.first_or_corrects hrecorded with ⟨hnone, hdelta⟩
    | ⟨record, hrecord, -, hcorrects, -, hdelta⟩
  · rw [hnone]
    exact hdelta
  · rw [hcorrects.corrected]
    simp only [hrecorded.findEvidence_eq hrecord, Option.map_some, Option.getD_some]
    exact hdelta

theorem Considers.delta_bounds (hrecorded : Recorded store)
    (h : Considers hashId store command considered) :
    considered.delta ≠ 0 ∧ considered.delta < 10 ^ 78 := by
  obtain ⟨hpos, hlt, -⟩ := createMeteredUsageEvidence_checked h.evidence_created
  rcases h.first_or_corrects hrecorded with ⟨-, hdelta⟩ | ⟨record, -, -, hcorrects, -, hdelta⟩
  · rw [hdelta]
    omega
  · have hcharge := hcorrects.charge
    rw [hdelta]
    omega

/-- The obligation is one that can be posted to. -/
theorem Considers.postable (h : Considers hashId store command considered) :
    ¬ (considered.records.obligation.schemaVersion ≠ "obligation.v2" ∨
      considered.records.obligation.obligationId ≠ considered.admission.obligationId ∨
      considered.records.obligation.assetId = "" ∨
      considered.records.obligation.executionStatus ≠ .executed ∨
      considered.records.obligation.status ≠ .active ∨
      considered.records.obligation.sandboxOnly ≠ true ∨
      considered.records.obligation.productionFundsMoved ≠ false ∨
      considered.records.obligation.withdrawable ≠ false) := by
  obtain ⟨hschema, hid, -, -, -, -, hassetId, hexecuted, hactive, hsandbox, hfunds,
    hwithdrawable⟩ :=
    h.authority.2.1
  have hasset : considered.records.obligation.assetId ≠ "" := by
    rw [hassetId]
    exact (createMeteredUsageEvidence_checked h.evidence_created).2.2
  have hadmission : considered.admission.obligationId = command.evidence.scope.obligationId := by
    rw [h.taken.2.2]
    rfl
  simp only [hschema, hid, hadmission, hasset, hexecuted, hactive, hsandbox, hfunds, hwithdrawable,
    ne_eq, not_true_eq_false, or_self, not_false_eq_true]

/-- A charge that the obligation does not cover is not posted. -/
theorem Considers.posting_eq_error (hrecorded : Recorded store)
    (h : Considers hashId store command considered) (hpos : 0 < considered.delta)
    (hexceeds : considered.records.obligation.outstandingPrincipalMinor < considered.delta) :
    createMeteredUsageLedgerPosting hashId considered.records.obligation considered.admission =
      .error creditExceeded := by
  obtain ⟨hzero, hlt⟩ := h.delta_bounds hrecorded
  rw [createMeteredUsageLedgerPosting, bind_of_ok (throwIf_eq_ok (u := ()) |>.2 h.postable),
    bind_of_ok (throwIf_eq_ok (u := ()) |>.2 ?_), bind_of_error]
  · rw [throwIf, failIf, if_pos ⟨hpos, hexceeds⟩]
    rfl
  · rw [not_or, not_le, abs_of_pos hpos]
    exact ⟨hzero, hlt⟩

/-- A charge that the obligation covers by itself is not refused for it. -/
theorem Considers.not_refused (h : Considers hashId store command considered)
    (hcovers : considered.delta ≤ considered.records.obligation.outstandingPrincipalMinor) :
    admitMeteredUsage hashId store command ≠ .error creditExceeded := by
  have hposting : ErrorsIn (· ≠ creditExceeded)
      (createMeteredUsageLedgerPosting hashId considered.records.obligation
        considered.admission) := by
    refine errorsIn_bind (errorsIn_throwIf (by decide)) fun _ _ ↦
      errorsIn_bind (errorsIn_throwIf (by decide)) fun _ _ ↦ ?_
    rw [bind_of_ok (throwIf_eq_ok (u := ()) |>.2 fun hexceeds ↦ not_lt.2 hcovers hexceeds.2)]
    exact errorsIn_pure _
  have hsettle : ErrorsIn (· ≠ creditExceeded) (settleReservation hashId store considered.admission
      command.evidence.toEvidenceTerms considered.prior considered.records command.now) := by
    rw [settleReservation]
    split
    · exact errorsIn_pure _
    · split
      · exact errorsIn_bind (errorsIn_bind (errorsIn_orUnavailable (by decide)) fun _ _ ↦
          errorsIn_bind (errorsIn_failIf (by decide)) fun _ _ ↦ errorsIn_pure _) fun _ _ ↦
            errorsIn_pure _
      · exact errorsIn_pure _
  have hplan : ErrorsIn (· ≠ creditExceeded) (plan hashId store command) := by
    rw [h.plan_eq, planAdmission, bind_of_ok h.prior, bind_of_ok h.admitted]
    refine errorsIn_bind hposting fun _ _ ↦ errorsIn_bind hsettle fun _ _ ↦ ?_
    exact errorsIn_bind (errorsIn_failIf (by decide)) fun _ _ ↦
      errorsIn_bind (errorsIn_failIf (by decide)) fun _ _ ↦ errorsIn_pure _
  intro herror
  rw [admitMeteredUsage, bind_of_ok h.preflight_ok] at herror
  refine errorsIn_bind hplan (fun planned _ ↦ errorsIn_bind ?_ fun _ _ ↦ errorsIn_pure _) _
    herror rfl
  exact errorsIn_bind (errorsIn_throwIf (by decide)) fun _ _ ↦
    errorsIn_bind (errorsIn_throwIf (by decide)) fun _ _ ↦ errorsIn_pure _

theorem RefusesExcess.aloneOrTogether (hrecorded : Recorded store)
    (h : RefusesExcess hashId store command) : AloneOrTogether hashId store command := by
  intro considered hconsiders
  rw [or_iff_not_imp_left, not_lt, ← hconsiders.delta_eq hrecorded]
  intro hcovers
  by_contra hexceeds
  rw [not_le, hconsiders.delta_eq hrecorded] at hexceeds
  exact hconsiders.not_refused hcovers (h considered hconsiders hexceeds)

theorem AloneOrTogether.refusesExcess (hrecorded : Recorded store) (hcredit : WithinCredit store)
    (h : AloneOrTogether hashId store command) : RefusesExcess hashId store command := by
  intro considered hconsiders hexceeds
  have halone := (h considered hconsiders).resolve_right (not_le.2 hexceeds)
  have hobligation := hconsiders.get_records.1
  rw [← hconsiders.authority.2.1.2.1] at hobligation
  have hwithin := hcredit _ hobligation
  rw [← hconsiders.delta_eq hrecorded] at hexceeds halone
  exact hconsiders.refused (hconsiders.posting_eq_error hrecorded (by omega) halone)

/-- What is payable after an admitted command. -/
theorem payableOf_written (h : Admits hashId store command outcome) (obligation : UsageObligation) :
    payableOf obligation (written store command outcome) = payableOf obligation store +
      if payableAccount outcome.records.obligation = payableAccount obligation then outcome.delta
      else 0 := by
  have hexpense : ¬ expenseAccount outcome.records.obligation = payableAccount obligation :=
    fun heq ↦
    nomatch congrArg UsageAccount.accountType heq
  rw [payableOf, payableOf, balanceOf_written h, if_neg hexpense]
  omega

theorem WithinCredit.step (hrecorded : Recorded store) (hcredit : WithinCredit store)
    (h : AloneOrTogether hashId store command) : WithinCredit (step hashId store command) := by
  rcases step_eq_self_or_written hashId store command with hself | ⟨outcome, hadmits, hwritten⟩
  · rw [hself]
    exact hcredit
  rw [hwritten]
  intro obligation hget
  have hwithin := hcredit obligation hget
  rw [payableOf_written hadmits]
  split
  · rename_i haccount
    -- the account says which obligation it is
    have hid : command.evidence.scope.obligationId = obligation.obligationId :=
      hadmits.authority.2.1.2.1.symm.trans (congrArg UsageAccount.ownerId haccount)
    have hread := hadmits.get_records.1
    rw [hid, show store.obligations.get obligation.obligationId
      = some obligation from hget] at hread
    obtain rfl := Option.some.inj hread
    have hcases := h outcome.toConsidered hadmits.toConsiders
    rw [← hadmits.delta_eq hrecorded] at hcases
    rcases hcases with halone | htogether
    · by_cases hpos : 0 < outcome.delta
      · have herror := hadmits.posting_eq_error hrecorded hpos halone
        rw [hadmits.posted] at herror
        cases herror
      · omega
    · exact htogether
  · rw [add_zero]
    exact hwithin

theorem Recorded.step (hrecorded : Recorded store) : Recorded (step hashId store command) := by
  rcases step_eq_self_or_written hashId store command with hself | ⟨outcome, hadmits, hwritten⟩
  · rw [hself]
    exact hrecorded
  · rw [hwritten]
    exact hrecorded.written hadmits

end Posting

section Run

variable (hashId : UsagePreimage H → H) (obligations : InsertionMap String UsageObligation)
  (mandates : InsertionMap String UsageMandate) (lockboxes : InsertionMap String UsageLockbox)
  (spendPolicies : InsertionMap String SpendPolicy.Policy)
  (providers : InsertionMap String SpendPolicy.Provider)

/-- **When metered charges stay within the credit of the obligation.**  What is payable is within
the outstanding principal all along a run, and what would exceed it is refused, exactly if no step
posts a charge that is within the principal by itself but not together with what is payable
already. -/
theorem metered_credit_iff (commands : List (AdmitCommand H))
    (hnonneg : ∀ obligationId obligation, obligations.get obligationId = some obligation →
      0 ≤ obligation.outstandingPrincipalMinor) :
    (Run.Along (step hashId) WithinCredit
        (.initial obligations mandates lockboxes spendPolicies providers) commands ∧
      Run.Steps (step hashId) (RefusesExcess hashId)
        (.initial obligations mandates lockboxes spendPolicies providers) commands) ↔
      Run.Steps (step hashId) (AloneOrTogether hashId)
        (.initial obligations mandates lockboxes spendPolicies providers) commands := by
  have hinitial : Recorded (.initial obligations mandates lockboxes spendPolicies providers :
      UsageStore H) ∧ WithinCredit
      (.initial obligations mandates lockboxes spendPolicies providers : UsageStore H) :=
    ⟨recorded_initial .., fun obligation hget ↦ hnonneg _ obligation hget⟩
  have hkept : ∀ (store : UsageStore H) (command : AdmitCommand H),
      Recorded store ∧ WithinCredit store → AloneOrTogether hashId store command →
        Recorded (step hashId store command) ∧ WithinCredit (step hashId store command) :=
    fun _ _ h hcondition ↦ ⟨h.1.step, h.2.step h.1 hcondition⟩
  have hiff : Run.Steps (step hashId) (AloneOrTogether hashId)
        (.initial obligations mandates lockboxes spendPolicies providers) commands ↔
      Run.Steps (step hashId) (RefusesExcess hashId)
        (.initial obligations mandates lockboxes spendPolicies providers) commands :=
    Run.steps_iff_steps (T := fun _ _ ↦ True) (fun store command h _ ↦ hkept store command h)
      (fun _ _ h _ ↦ ⟨fun hcondition ↦ hcondition.refusesExcess h.1 h.2,
        fun hrefuses ↦ hrefuses.aloneOrTogether h.1⟩) commands hinitial
      (Run.steps_of_invariant (I := fun _ ↦ True) (fun _ _ h ↦ h) (fun _ _ h ↦ h) commands trivial)
  constructor
  · intro h
    exact hiff.2 h.2
  · intro h
    exact ⟨(Run.along_of_steps hkept commands hinitial h).mono fun _ h ↦ h.2, hiff.1 h⟩

end Run

theorem aloneOrTogether_of_get {hashId : UsagePreimage H → H} {store : UsageStore H}
    {command : AdmitCommand H} (obligation : UsageObligation)
    (hget : store.obligations.get command.evidence.scope.obligationId = some obligation)
    (h : obligation.outstandingPrincipalMinor < addedCharge store command.evidence.toEvidenceTerms ∨
      payableOf obligation store + addedCharge store command.evidence.toEvidenceTerms ≤
        obligation.outstandingPrincipalMinor) : AloneOrTogether hashId store command := by
  intro considered hconsiders
  obtain rfl := Option.some.inj (hget.symm.trans hconsiders.get_records.1)
  exact h

namespace Sample

/-- The store after a charge of 60. -/
def afterSixty : UsageStore String :=
  next (store 100) 10000 (evidence "first" none 30) (usageOf 100 0 0) 60

/-- The store after another charge of 40. -/
def afterForty : UsageStore String :=
  next afterSixty 11000 (evidence "second" none 20) (usageOf 100 60 10000) 40

/-- The store after another charge of 60. -/
def afterBoth : UsageStore String :=
  next afterSixty 11000 (evidence "second" none 30) (usageOf 100 60 10000) 60

/-- What the charges read, and what they have come to. -/
theorem charges_read :
    Reads (store 100) 10000 (evidence "first" none 30) (usageOf 100 0 0) 0 60 ∧
      Reads afterSixty 11000 (evidence "second" none 20) (usageOf 100 60 10000) 60 40 ∧
      Reads afterSixty 11000 (evidence "second" none 30) (usageOf 100 60 10000) 60 60 ∧
      Reads afterForty 12000 (evidence "third" none 60) (usageOf 100 100 11000) 100 120 ∧
      createMeteredUsageLedgerPosting digest (obligation 100)
        (outcome afterForty 12000 (evidence "third" none 60) (usageOf 100 100 11000) 120).admission
          = .error creditExceeded ∧
      afterForty.admissions.map (·.chargeDeltaMinor) = [60, 40] ∧
      afterBoth.admissions.map (·.chargeDeltaMinor) = [60, 60] ∧
      payableOf (obligation 100) afterSixty = 60 ∧ payableOf (obligation 100) afterBoth = 120 := by
  decide +kernel

theorem step_sixty :
    step digest (store 100) (command 10000 (evidence "first" none 30)) = afterSixty :=
  step_charge (named _ (by decide)) charges_read.1 (by decide) (by decide)

theorem step_forty :
    step digest afterSixty (command 11000 (evidence "second" none 20)) = afterForty :=
  step_charge (named _ (by decide)) charges_read.2.1 (by decide) (by decide)

theorem step_both :
    step digest afterSixty (command 11000 (evidence "second" none 30)) = afterBoth :=
  step_charge (named _ (by decide)) charges_read.2.2.1 (by decide) (by decide)

/-- A charge of 120 is above the principal by itself. -/
theorem step_third :
    step digest afterForty (command 12000 (evidence "third" none 60)) = afterForty := by
  obtain ⟨-, -, -, hreads, hrefused, -⟩ := charges_read
  have hconsiders : Considers digest afterForty (command 12000 (evidence "third" none 60))
      (outcome afterForty 12000 (evidence "third" none 60) (usageOf 100 100 11000)
        120).toConsidered :=
    considers (evidence_created (named _ (by decide)) (by simp) (by decide)) hreads
      (chargeDelta_eq_ok.2 (.inl ⟨rfl, rfl, rfl⟩)) (by decide)
  rw [step, hconsiders.refused hrefused]

end Sample

/-- Two charges that are within the principal together, and a third above it by itself. -/
def coveredUsage : List (AdmitCommand String) :=
  [Sample.command 10000 (Sample.evidence "first" none 30),
    Sample.command 11000 (Sample.evidence "second" none 20),
    Sample.command 12000 (Sample.evidence "third" none 60)]

theorem metered_credit_covered :
    (Run.run (step Sample.digest) (Sample.store 100) coveredUsage).admissions.map
        (·.chargeDeltaMinor) = [60, 40] ∧
      Run.Along (step Sample.digest) WithinCredit (Sample.store 100) coveredUsage ∧
      Run.Steps (step Sample.digest) (RefusesExcess Sample.digest) (Sample.store 100)
        coveredUsage := by
  have hnonneg : ∀ obligationId obligation,
      (Sample.obligations 100).get obligationId = some obligation →
        0 ≤ obligation.outstandingPrincipalMinor := by
    intro obligationId obligation hget
    rw [Sample.obligations, InsertionMap.get_set] at hget
    split at hget
    · obtain rfl := Option.some.inj hget
      decide
    · cases hget
  obtain ⟨-, -, -, -, -, hcharges, -, hsixty, -⟩ := Sample.charges_read
  have hrun : Run.run (step Sample.digest) (Sample.store 100) coveredUsage = Sample.afterForty := by
    rw [coveredUsage, Run.run, Sample.step_sixty, Run.run, Sample.step_forty, Run.run,
      Sample.step_third, Run.run]
  have hsteps : Run.Steps (step Sample.digest) (AloneOrTogether Sample.digest) (Sample.store 100)
      coveredUsage := by
    rw [coveredUsage, Run.Steps, Sample.step_sixty, Run.Steps, Sample.step_forty, Run.Steps]
    refine ⟨aloneOrTogether_of_get (Sample.obligation 100) rfl (.inr ?_),
      aloneOrTogether_of_get (Sample.obligation 100) rfl (.inr ?_),
      aloneOrTogether_of_get (Sample.obligation 100) rfl (.inl ?_), trivial⟩
    · decide
    · rw [hsixty]
      decide
    · decide
  refine ⟨?_, (metered_credit_iff Sample.digest (Sample.obligations 100) _ _ _ _ coveredUsage
    hnonneg).2 hsteps⟩
  rw [hrun, hcharges]

/-- **Two charges of 60 against a principal of 100** are both admitted. -/
theorem second_charge_exceeds_credit :
    (Run.run (step Sample.digest) (Sample.store 100)
        [Sample.command 10000 (Sample.evidence "first" none 30),
          Sample.command 11000 (Sample.evidence "second" none 30)]).admissions.map
        (·.chargeDeltaMinor) = [60, 60] ∧
      payableOf (Sample.obligation 100) (Run.run (step Sample.digest) (Sample.store 100)
        [Sample.command 10000 (Sample.evidence "first" none 30),
          Sample.command 11000 (Sample.evidence "second" none 30)]) = 120 ∧
      ¬ WithinCredit (Run.run (step Sample.digest) (Sample.store 100)
        [Sample.command 10000 (Sample.evidence "first" none 30),
          Sample.command 11000 (Sample.evidence "second" none 30)]) := by
  have hrun : Run.run (step Sample.digest) (Sample.store 100)
      [Sample.command 10000 (Sample.evidence "first" none 30),
        Sample.command 11000 (Sample.evidence "second" none 30)] = Sample.afterBoth := by
    rw [Run.run, Sample.step_sixty, Run.run, Sample.step_both, Run.run]
  obtain ⟨-, -, -, -, -, -, hcharges, -, hpayable⟩ := Sample.charges_read
  rw [hrun]
  refine ⟨hcharges, hpayable, fun h ↦ ?_⟩
  have hwithin := h (Sample.obligation 100) rfl
  rw [hpayable] at hwithin
  exact absurd hwithin (by decide)

end Metered
end IpoOne
