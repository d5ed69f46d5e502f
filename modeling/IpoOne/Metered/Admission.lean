import IpoOne.Lib.Amendments
import IpoOne.Lib.Run
import IpoOne.Metered.Handler

/-!
# What an admitted command has checked and written

`Admits` lists what the handler has checked of a command that it admits, in the order of the source,
and `written` is the state it leaves; `admitMeteredUsage_eq_ok` says that nothing else is admitted.
-/

set_option autoImplicit false

namespace IpoOne
namespace Metered

open Fallible

variable {H : Type} [DecidableEq H]

/-- What the handler works out for a command before it posts the charge. -/
structure Considered (H : Type) where
  policy : MeteredUsagePolicy H
  records : UsageRecords
  prior : PriorUsage H
  admission : MeteredUsageAdmission H

/-- What the handler works out for a command. -/
structure Outcome (H : Type) extends Considered H where
  transaction : UsageTransaction H
  reservation : Option (MeteredReservation H)
  release : Option (MeteredRelease H)

/-- The charge that is added, or taken back. -/
abbrev Considered.delta (considered : Considered H) : ℤ := considered.admission.chargeDeltaMinor

/-- What the spend policy has spent on the day after the command. -/
def Outcome.dailySpentAfter (outcome : Outcome H) (now : ℕ) : ℤ :=
  dailySpentBefore outcome.records.spendPolicy now + outcome.delta

/-- The command passes the checks that come before the posting. -/
structure Considers (hashId : UsagePreimage H → H) (store : UsageStore H) (command : AdmitCommand H)
    (considered : Considered H) : Prop where
  verified : command.signatureVerified = true
  normalized : normalizePayload hashId command = .ok command.evidence
  resolved : command.resolvedPolicy = some considered.policy.toUsagePolicyTerms
  created : createMeteredUsagePolicy hashId considered.policy.toUsagePolicyTerms =
    .ok considered.policy
  unused : ¬ isConsumed hashId store command.evidence.toEvidenceTerms
  read : readRecords store command.evidence.toEvidenceTerms considered.policy.policyId =
    .ok considered.records
  authority : exactAuthority command considered.policy considered.records
  prior : readPrior store command.evidence.toEvidenceTerms = .ok considered.prior
  admitted : admitMeteredUsageEvidence hashId considered.policy command.evidence considered.prior
    (getMeteredUsageWindowCharge store considered.policy.policyId command.evidence.window)
    command.now = .ok considered.admission

/-- The command passes the checks of the handler, with this outcome. -/
structure Admits (hashId : UsagePreimage H → H) (store : UsageStore H) (command : AdmitCommand H)
    (outcome : Outcome H) : Prop extends
    Considers hashId store command outcome.toConsidered where
  posted : createMeteredUsageLedgerPosting hashId outcome.records.obligation outcome.admission =
    .ok outcome.transaction
  settled : settleReservation hashId store outcome.admission command.evidence.toEvidenceTerms
    outcome.prior outcome.records command.now = .ok (outcome.reservation, outcome.release)
  utilized : 0 ≤ outcome.records.mandate.utilizedMinor + outcome.delta
  daily : 0 ≤ outcome.dailySpentAfter command.now
  dailyLimit : outcome.dailySpentAfter command.now ≤ outcome.records.spendPolicy.dailyLimitMinor
  newEvidence : ∀ recorded ∈ store.evidence,
    recorded.usageEvidenceHash ≠ command.evidence.usageEvidenceHash
  newAdmission : ∀ recorded ∈ store.admissions,
    recorded.admissionHash ≠ outcome.admission.admissionHash

/-- The state that an admitted command leaves. -/
def written (store : UsageStore H) (command : AdmitCommand H) (outcome : Outcome H) :
    UsageStore H :=
  { store with
    evidence := store.evidence ++ [command.evidence]
    admissions := store.admissions ++ [outcome.admission]
    reservations := match outcome.reservation with
      | none => store.reservations
      | some reservation => store.reservations.set reservation.reservationId reservation
    releases := store.releases ++ outcome.release.toList
    mandates := store.mandates.set outcome.records.mandate.mandateId
      { outcome.records.mandate with
        utilizedMinor := outcome.records.mandate.utilizedMinor + outcome.delta
        updatedAt := command.now }
    spendPolicies := store.spendPolicies.set outcome.records.spendPolicy.spendPolicyId
      { outcome.records.spendPolicy with
        dailySpentMinor := outcome.dailySpentAfter command.now
        dailySpentDate := dayOf command.now }
    spendRequests := store.spendRequests ++ (if 0 < outcome.delta then
        some (createSpendRequest outcome.admission command.evidence.toEvidenceTerms
          outcome.records.spendPolicy.category command.now)
      else none).toList
    transactions := store.transactions ++ [outcome.transaction] }

variable {hashId : UsagePreimage H → H} {store next : UsageStore H} {command : AdmitCommand H}

omit [DecidableEq H] in
/-- What is created from an evidence is the evidence with its digest. -/
theorem createMeteredUsageEvidence_ok {terms : EvidenceTerms} {evidence : MeteredUsageEvidence H}
    (h : createMeteredUsageEvidence hashId terms = .ok evidence) :
    evidence = { terms with usageEvidenceHash := hashId (.evidence terms) } := by
  simp only [createMeteredUsageEvidence, bind_eq_ok, pure_eq_ok] at h
  obtain ⟨_, _, _, _, _, _, _, _, _, _, _, _, _, _, _, _, _, _, _, _, _, _, _, _, _, _, _, _, h⟩ :=
    h
  exact h.symm

omit [DecidableEq H] in
theorem createMeteredUsagePolicy_ok {terms : UsagePolicyTerms} {policy : MeteredUsagePolicy H}
    (h : createMeteredUsagePolicy hashId terms = .ok policy) :
    policy = { terms with policyHash := hashId (.policy terms) } := by
  simp only [createMeteredUsagePolicy, bind_eq_ok, pure_eq_ok] at h
  obtain ⟨_, _, _, _, _, _, _, _, _, _, _, _, _, _, _, _, _, _, h⟩ := h
  exact h.symm

/-- An evidence that is taken in is the one that was handed in. -/
theorem normalizePayload_ok {evidence : MeteredUsageEvidence H}
    (h : normalizePayload hashId command = .ok evidence) :
    evidence = command.evidence ∧
      createMeteredUsageEvidence hashId command.evidence.toEvidenceTerms
        = .ok command.evidence := by
  simp only [normalizePayload, bind_eq_ok, failIf_eq_ok, pure_eq_ok, not_not] at h
  obtain ⟨_, _, created, hcreated, _, hhash, rfl⟩ := h
  have hfields := createMeteredUsageEvidence_ok hcreated
  have heq : created = command.evidence := by
    rw [hfields] at hhash ⊢
    cases hcommand : command.evidence with
    | mk terms digest =>
      rw [hcommand] at hhash
      obtain rfl : digest = hashId (.evidence terms) := hhash
      rfl
  exact ⟨heq, heq ▸ hcreated⟩

theorem plan_eq_ok {planned : UsagePlan H} :
    plan hashId store command = .ok planned ↔ ∃ evidence policyValue policy records,
      normalizePayload hashId command = .ok evidence ∧ command.resolvedPolicy = some policyValue ∧
        createMeteredUsagePolicy hashId policyValue = .ok policy ∧
        ¬ isConsumed hashId store evidence.toEvidenceTerms ∧
        readRecords store evidence.toEvidenceTerms policy.policyId = .ok records ∧
        exactAuthority command policy records ∧
        planAdmission hashId store command policy evidence records = .ok planned := by
  simp only [plan, bind_eq_ok, orUnavailable_eq_ok, throwIf_eq_ok, failIf_eq_ok, not_not]
  constructor
  · rintro ⟨evidence, hevidence, policyValue, hvalue, policy, hpolicy, _, hunused, records,
      hrecords, _, hauthority, hplanned⟩
    exact ⟨evidence, policyValue, policy, records, hevidence, hvalue, hpolicy, hunused, hrecords,
      hauthority, hplanned⟩
  · rintro ⟨evidence, policyValue, policy, records, hevidence, hvalue, hpolicy, hunused, hrecords,
      hauthority, hplanned⟩
    exact ⟨evidence, hevidence, policyValue, hvalue, policy, hpolicy, (), hunused, records,
      hrecords, (), hauthority, hplanned⟩

/-- **What is admitted, and what it leaves.** -/
theorem admitMeteredUsage_eq_ok {admission : MeteredUsageAdmission H} :
    admitMeteredUsage hashId store command = .ok (next, admission) ↔
      ∃ outcome, Admits hashId store command outcome ∧ outcome.admission = admission ∧
        next = written store command outcome := by
  constructor
  · intro h
    simp only [admitMeteredUsage, preflight, bind_eq_ok, throwIf_eq_ok, pure_eq_ok, Prod.mk.injEq]
      at h
    obtain ⟨_, ⟨_, _, hverified⟩, planned, hplan, written, hcommit, rfl, rfl⟩ := h
    obtain ⟨evidence, policyValue, policy, records, hnormalized, hresolved, hpolicy, hunused,
      hrecords, hauthority, hplanned⟩ := plan_eq_ok.1 hplan
    obtain ⟨rfl, hevidence⟩ := normalizePayload_ok hnormalized
    have hterms : policy.toUsagePolicyTerms = policyValue :=
      by rw [createMeteredUsagePolicy_ok hpolicy]
    simp only [planAdmission, bind_eq_ok, failIf_eq_ok, pure_eq_ok] at hplanned
    obtain ⟨prior, hprior, admission, hadmission, transaction, hposted, ⟨reservation, release⟩,
      hsettled, _, hutilized, _, hdaily, rfl⟩ := hplanned
    simp only [commit, bind_eq_ok, throwIf_eq_ok, pure_eq_ok, not_exists, not_and] at hcommit
    obtain ⟨_, hnewEvidence, _, hnewAdmission, rfl⟩ := hcommit
    rw [not_or, not_lt, not_lt] at hdaily
    refine ⟨⟨⟨policy, records, prior, admission⟩, transaction, reservation, release⟩,
      { verified := Bool.of_not_eq_false hverified
        normalized := hnormalized
        resolved := by rw [hresolved, hterms]
        created := by rw [hterms, hpolicy]
        unused := hunused
        read := hrecords
        authority := hauthority
        prior := hprior
        admitted := hadmission
        posted := hposted
        settled := hsettled
        utilized := not_lt.1 hutilized
        daily := hdaily.1
        dailyLimit := hdaily.2
        newEvidence := hnewEvidence
        newAdmission := hnewAdmission }, rfl, rfl⟩
  · rintro ⟨outcome, hadmits, rfl, rfl⟩
    have hplan : plan hashId store command = .ok
        { evidence := command.evidence
          admission := outcome.admission
          reservation := outcome.reservation
          release := outcome.release
          mandate :=
            { outcome.records.mandate with
              utilizedMinor := outcome.records.mandate.utilizedMinor + outcome.delta
              updatedAt := command.now }
          spendPolicy :=
            { outcome.records.spendPolicy with
              dailySpentMinor := outcome.dailySpentAfter command.now
              dailySpentDate := dayOf command.now }
          spendRequest := if 0 < outcome.delta then
              some (createSpendRequest outcome.admission command.evidence.toEvidenceTerms
                outcome.records.spendPolicy.category command.now)
            else none
          transaction := outcome.transaction } := by
      refine plan_eq_ok.2 ⟨command.evidence, _, outcome.policy, outcome.records, hadmits.normalized,
        hadmits.resolved, hadmits.created, hadmits.unused, hadmits.read, hadmits.authority, ?_⟩
      simp only [planAdmission, bind_eq_ok, failIf_eq_ok, pure_eq_ok]
      exact ⟨_, hadmits.prior, _, hadmits.admitted, _, hadmits.posted, _, hadmits.settled, (),
        not_lt.2 hadmits.utilized, (),
        not_or.2 ⟨not_lt.2 hadmits.daily, not_lt.2 hadmits.dailyLimit⟩, rfl⟩
    simp only [admitMeteredUsage, preflight, commit, hplan, hadmits.normalized, bind_eq_ok,
      throwIf_eq_ok, pure_eq_ok, Prod.mk.injEq, not_exists, not_and]
    refine ⟨(), ⟨_, rfl, ?_⟩, _, rfl, _, ⟨(), hadmits.newEvidence, (), hadmits.newAdmission, rfl⟩,
      rfl, rfl⟩
    rw [hadmits.verified]
    decide

theorem Considers.preflight_ok {considered : Considered H}
    (h : Considers hashId store command considered) : preflight hashId command = .ok () := by
  rw [preflight, bind_of_ok h.normalized, throwIf_eq_ok, h.verified]
  decide

theorem Considers.plan_eq {considered : Considered H}
    (h : Considers hashId store command considered) :
    plan hashId store command =
      planAdmission hashId store command considered.policy command.evidence considered.records := by
  rw [plan, bind_of_ok h.normalized, bind_of_ok (orUnavailable_eq_ok.2 h.resolved),
    bind_of_ok h.created, bind_of_ok (throwIf_eq_ok (u := ()) |>.2 h.unused), bind_of_ok h.read,
    bind_of_ok (failIf_eq_ok (u := ()) |>.2 (not_not.2 h.authority))]

/-- A command whose charge cannot be posted is refused with the error of the posting. -/
theorem Considers.refused {considered : Considered H} {e : DomainError}
    (h : Considers hashId store command considered)
    (he : createMeteredUsageLedgerPosting hashId considered.records.obligation
      considered.admission = .error e) :
    admitMeteredUsage hashId store command = .error e := by
  rw [admitMeteredUsage, bind_of_ok h.preflight_ok, h.plan_eq, bind_of_error]
  rw [planAdmission, bind_of_ok h.prior, bind_of_ok h.admitted, bind_of_error he]

theorem step_of_admits {outcome : Outcome H} (h : Admits hashId store command outcome) :
    step hashId store command = written store command outcome := by
  rw [step, admitMeteredUsage_eq_ok.2 ⟨outcome, h, rfl, rfl⟩]

theorem step_eq_self_or_written (hashId : UsagePreimage H → H) (store : UsageStore H)
    (command : AdmitCommand H) :
    step hashId store command = store ∨ ∃ outcome, Admits hashId store command outcome ∧
      step hashId store command = written store command outcome := by
  rcases h : admitMeteredUsage hashId store command with _ | ⟨next, admission⟩
  · exact .inl (by rw [step, h])
  · obtain ⟨outcome, hadmits, _, rfl⟩ := admitMeteredUsage_eq_ok.1 h
    exact .inr ⟨outcome, hadmits, step_of_admits hadmits⟩

/-! ## The admission -/

/-- The admission of an evidence whose charge differs by `delta` from what it corrects. -/
def admissionOf (hashId : UsagePreimage H → H) (policy : MeteredUsagePolicy H)
    (evidence : MeteredUsageEvidence H) (before delta : ℤ) (admittedAt : ℕ) :
    MeteredUsageAdmission H :=
  let terms : AdmissionTerms H :=
    { policyId := policy.policyId
      policyHash := policy.policyHash
      usageEvidenceId := evidence.usageEvidenceId
      usageEvidenceHash := evidence.usageEvidenceHash
      correctionOfUsageEvidenceId := evidence.correctionOfUsageEvidenceId
      obligationId := evidence.scope.obligationId
      chargeMinor := evidence.chargeMinor
      chargeDeltaMinor := delta
      windowChargeBeforeMinor := before
      windowChargeAfterMinor := before + delta
      admittedAt }
  { terms with admissionHash := hashId (.admission terms) }

/-- The policy takes the evidence, where the charges of the window come to `before` and the evidence
adds `delta`. -/
structure PolicyTakes (policy : MeteredUsagePolicy H) (evidence : MeteredUsageEvidence H)
    (before delta : ℤ) (admittedAt : ℕ) : Prop where
  active : policy.status = .active
  started : policy.validFrom ≤ admittedAt
  unexpired : admittedAt < policy.expiresAt
  scope : policy.scope = evidence.scope
  finalized : evidence.finality = .finalized
  reconciled : evidence.reconciliation = .reconciled
  before_nonneg : 0 ≤ before
  before_lt : before < 10 ^ 78
  quantity : evidence.quantity ≤ policy.maxQuantityPerEvent
  charge : evidence.chargeMinor ≤ policy.maxChargePerEventMinor
  after_nonneg : 0 ≤ before + delta
  after_le : before + delta ≤ policy.maxChargePerWindowMinor

variable {policy : MeteredUsagePolicy H} {evidence : MeteredUsageEvidence H} {prior : PriorUsage H}

omit [DecidableEq H] in
theorem admitMeteredUsageEvidence_eq_ok {before : ℤ} {admittedAt : ℕ}
    {admission : MeteredUsageAdmission H}
    (hpolicy : createMeteredUsagePolicy hashId policy.toUsagePolicyTerms = .ok policy)
    (hevidence : createMeteredUsageEvidence hashId evidence.toEvidenceTerms = .ok evidence) :
    admitMeteredUsageEvidence hashId policy evidence prior before admittedAt = .ok admission ↔
      ∃ delta, chargeDelta hashId policy evidence prior = .ok delta ∧
        PolicyTakes policy evidence before delta admittedAt ∧
        admission = admissionOf hashId policy evidence before delta admittedAt := by
  simp only [admitMeteredUsageEvidence, hpolicy, hevidence, bind_eq_ok, throwIf_eq_ok,
    assertSameScope_eq_ok, pure_eq_ok, Except.ok.injEq, exists_eq_left', exists_const, not_or,
    not_lt, not_le, ne_eq, not_not]
  constructor
  · rintro ⟨hactive, ⟨hstarted, hexpires⟩, hscope, ⟨hfinal, hreconciled⟩, ⟨hbefore, hlt⟩, delta,
      hdelta, ⟨hquantity, hcharge, hafter, hcap⟩, rfl⟩
    exact ⟨delta, hdelta, ⟨hactive, hstarted, hexpires, hscope, hfinal, hreconciled, hbefore, hlt,
      hquantity, hcharge, hafter, hcap⟩, rfl⟩
  · rintro ⟨delta, hdelta, htakes, rfl⟩
    exact ⟨htakes.active, ⟨htakes.started, htakes.unexpired⟩, htakes.scope,
      ⟨htakes.finalized, htakes.reconciled⟩, ⟨htakes.before_nonneg, htakes.before_lt⟩,
      delta, hdelta, ⟨htakes.quantity, htakes.charge, htakes.after_nonneg, htakes.after_le⟩, rfl⟩

/-- What an evidence that corrects another has in common with it. -/
structure Corrects (policy : MeteredUsagePolicy H) (evidence previous : MeteredUsageEvidence H)
    (priorAdmission : MeteredUsageAdmission H) : Prop where
  corrected : evidence.correctionOfUsageEvidenceId = some previous.usageEvidenceId
  admission : priorAdmission.usageEvidenceId = previous.usageEvidenceId
  obligation : priorAdmission.obligationId = evidence.scope.obligationId
  policy : priorAdmission.policyId = policy.policyId
  scope : previous.scope = evidence.scope
  window : previous.window = evidence.window
  charge : evidence.chargeMinor ≠ previous.chargeMinor

omit [DecidableEq H] in
/-- What an evidence adds is all of its charge, or the difference from what it corrects. -/
theorem chargeDelta_eq_ok {delta : ℤ} : chargeDelta hashId policy evidence prior = .ok delta ↔
    (evidence.correctionOfUsageEvidenceId = none ∧ prior = ⟨none, none⟩ ∧
      delta = evidence.chargeMinor) ∨
    ∃ priorEvidence priorAdmission, prior = ⟨some priorEvidence, some priorAdmission⟩ ∧
      (∃ created, createMeteredUsageEvidence hashId priorEvidence.toEvidenceTerms = .ok created) ∧
      Corrects policy evidence priorEvidence priorAdmission ∧
      delta = evidence.chargeMinor - priorEvidence.chargeMinor := by
  obtain ⟨priorEvidence, priorAdmission⟩ := prior
  rcases hcorrection : evidence.correctionOfUsageEvidenceId with _ | corrected
  · have hnot : ¬ ∃ pe pa, (⟨priorEvidence, priorAdmission⟩ : PriorUsage H) = ⟨some pe, some pa⟩ ∧
        (∃ created, createMeteredUsageEvidence hashId pe.toEvidenceTerms = .ok created) ∧
        Corrects policy evidence pe pa ∧ delta = evidence.chargeMinor - pe.chargeMinor := by
      rintro ⟨pe, pa, -, -, hcorrects, -⟩
      rw [hcorrects.corrected] at hcorrection
      cases hcorrection
    rw [or_iff_left hnot]
    simp only [chargeDelta, hcorrection, bind_eq_ok, throwIf_eq_ok, pure_eq_ok,
      exists_const, not_or, Bool.not_eq_true, Option.isSome_eq_false_iff, Option.isNone_iff_eq_none,
      PriorUsage.mk.injEq, true_and]
    exact and_congr_right fun _ ↦ eq_comm
  · simp only [reduceCtorEq, false_and, false_or]
    constructor
    · intro h
      simp only [chargeDelta, hcorrection] at h
      rcases priorEvidence with _ | priorEvidence
      · cases h
      rcases priorAdmission with _ | priorAdmission
      · cases h
      simp only [bind_eq_ok, throwIf_eq_ok, assertSameScope_eq_ok, pure_eq_ok, exists_const, not_or,
        ne_eq, not_not] at h
      obtain ⟨created, hcreated, ⟨hid, hadmission, hobligation, hpolicy⟩, hscope, hstart, hend,
        hcharge, rfl⟩ := h
      have hfields := createMeteredUsageEvidence_ok hcreated
      subst hfields
      refine ⟨priorEvidence, priorAdmission, rfl, ⟨_, hcreated⟩,
        { corrected := by rw [hcorrection]; exact congrArg some hid.symm
          admission := hadmission
          obligation := hobligation
          policy := hpolicy
          scope := hscope
          window := ?_
          charge := fun heq ↦ hcharge (by rw [heq]; exact sub_self _) }, rfl⟩
      exact UsageWindow.ext hstart hend
    · rintro ⟨pe, pa, hprior, ⟨created, hcreated⟩, hcorrects, rfl⟩
      obtain ⟨rfl, rfl⟩ := PriorUsage.mk.inj hprior
      have hfields := createMeteredUsageEvidence_ok hcreated
      subst hfields
      have hid : pe.usageEvidenceId = corrected :=
        Option.some.inj (hcorrects.corrected.symm.trans hcorrection)
      simp only [chargeDelta, hcorrection, bind_eq_ok, throwIf_eq_ok, assertSameScope_eq_ok,
        pure_eq_ok, exists_const, not_or, ne_eq, not_not]
      refine ⟨_, hcreated, ⟨hid, hcorrects.admission, hcorrects.obligation, hcorrects.policy⟩,
        hcorrects.scope, ?_, ?_, ?_, rfl⟩
      · exact congrArg UsageWindow.windowStartedAt hcorrects.window
      · exact congrArg UsageWindow.windowEndedAt hcorrects.window
      · have hcharge := hcorrects.charge
        show ¬ (evidence.chargeMinor : ℤ) - (pe.chargeMinor : ℤ) = 0
        omega

end Metered
end IpoOne
