import IpoOne.Metered.CreditBound

/-!
# Taking back a part of a charge

A correction with a smaller charge releases what it takes back from the reservation of the admission
that it corrects, and from what the spend policy has spent on the day.  The one is there only if
that admission had raised the charge, the other only on the day on which it was spent; and the whole
of the new charge has to fit into the mandate once more, although the old one is in it already.

`Reservable` says what the state has for each admission, and `correction_taken_iff` when a
well-formed correction is taken.
-/

set_option autoImplicit false

namespace IpoOne
namespace Metered

open Fallible Amendments

variable {H : Type} [DecidableEq H]

/-! ## What the state has for each admission -/

/-- The reservation of an admission: what it has raised the charge by, all of it still reserved
while nothing corrects the evidence. -/
def ReservedFor (store : UsageStore H) (record : MeteredUsageEvidence H × MeteredUsageAdmission H) :
    Prop :=
  (0 < record.2.chargeDeltaMinor → ∃ reservation,
    store.reservations.get record.2.admissionHash = some reservation ∧
      reservation.amountMinor = record.2.chargeDeltaMinor ∧
      reservation.mandateId = record.1.scope.mandateId ∧
      (isLatest store record.1 → reservation.releasedMinor = 0)) ∧
    (record.2.chargeDeltaMinor ≤ 0 → store.reservations.get record.2.admissionHash = none)

/-- The charge of an evidence is within what the mandate and the spend policy allow at once. -/
structure WithinLimits (store : UsageStore H)
    (record : MeteredUsageEvidence H × MeteredUsageAdmission H) : Prop where
  mandate : ∀ mandate, store.mandates.get record.1.scope.mandateId = some mandate →
    (record.1.chargeMinor : ℤ) ≤ mandate.perActionLimitMinor
  spendPolicy : ∀ spendPolicy, store.spendPolicies.get record.2.policyId = some spendPolicy →
    (record.1.chargeMinor : ℤ) ≤ spendPolicy.perTxLimitMinor ∧
      (record.1.chargeMinor : ℤ) ≤ spendPolicy.obligationCapMinor ∧
      spendPolicy.dailySpentMinor ≤ spendPolicy.dailyLimitMinor

/-- What the state has for each admission. -/
structure Reservable (hashId : UsagePreimage H → H) (store : UsageStore H) : Prop where
  hashes : (store.admissions.map (·.admissionHash)).Nodup
  created : ∀ record ∈ records store,
    createMeteredUsageEvidence hashId record.1.toEvidenceTerms = .ok record.1
  obligation : ∀ record ∈ records store, record.2.obligationId = record.1.scope.obligationId
  reserved : ∀ record ∈ records store, ReservedFor store record
  limits : ∀ record ∈ records store, WithinLimits store record

section Step

variable {hashId : UsagePreimage H → H} {store : UsageStore H} {command : AdmitCommand H}
  {considered : Considered H} {outcome : Outcome H}
  {obligations : InsertionMap String UsageObligation}
  {mandates : InsertionMap String UsageMandate}

theorem isLatest_of_written {evidence : MeteredUsageEvidence H}
    (h : isLatest (written store command outcome) evidence) : isLatest store evidence :=
  fun recorded hrecorded ↦ h recorded (List.mem_append_left _ hrecorded)

/-- The reservations of earlier admissions, after an admitted command. -/
theorem Reservable.reserved_written (hrecorded : Recorded store)
    (hposted : Posted obligations mandates store) (hreservable : Reservable hashId store)
    (h : Admits hashId store command outcome)
    {record : MeteredUsageEvidence H × MeteredUsageAdmission H} (hrecord : record ∈ records store) :
    ReservedFor (written store command outcome) record := by
  have hmem : record.2 ∈ store.admissions := by
    rw [hrecorded.admissions_eq]
    exact List.mem_map_of_mem hrecord
  obtain ⟨hpositive, hnone⟩ := hreservable.reserved record hrecord
  -- where the reservation is kept, so is what is known of it
  have hframe : (written store command outcome).reservations.get record.2.admissionHash =
      store.reservations.get record.2.admissionHash →
      ReservedFor (written store command outcome) record := by
    intro hkept
    rw [ReservedFor, hkept]
    refine ⟨fun hpos ↦ ?_, hnone⟩
    obtain ⟨reservation, hget, hamount, hmandate, hreleased⟩ := hpositive hpos
    exact ⟨reservation, hget, hamount, hmandate,
      fun hlatest ↦ hreleased (isLatest_of_written hlatest)⟩
  rcases h.settled_cases with ⟨-, hset⟩ | ⟨priorAdmission, old, hprior, hold, -, hset⟩
  · refine hframe ?_
    rw [hset, InsertionMap.get_set_of_ne]
    exact h.newAdmission record.2 hmem
  · have hid := (hposted.reservationIds _ old hold).1
    by_cases hhash : record.2.admissionHash = priorAdmission.admissionHash
    · -- it is the admission that is corrected, which is the latest no more
      obtain ⟨corrected, hcorrected, hpriorEq, hcorrects⟩ : ∃ corrected ∈ records store,
          outcome.prior = ⟨some corrected.1, some corrected.2⟩ ∧
            Corrects outcome.policy command.evidence corrected.1 corrected.2 := by
        rcases h.first_or_corrects hrecorded with ⟨hfirst, -⟩
          | ⟨corrected, hmem, hprior', hcorrects, -⟩
        · rcases readPrior_eq_ok.1 h.prior with ⟨-, hnothing⟩ | ⟨id, hsome, -⟩
          · rw [hnothing] at hprior
            cases hprior
          · rw [hfirst] at hsome
            cases hsome
        · exact ⟨corrected, hmem, hprior', hcorrects⟩
      rw [hpriorEq] at hprior
      obtain rfl := Option.some.inj hprior
      have hsame : record = corrected := by
        have hnodup := hreservable.hashes
        rw [hrecorded.admissions_eq, List.map_map] at hnodup
        exact List.inj_on_of_nodup_map hnodup hrecord hcorrected hhash
      subst hsame
      have hnotLatest : ¬ isLatest (written store command outcome) record.1 := fun hlatest ↦
        hlatest command.evidence (List.mem_append_right _ (List.mem_singleton_self _))
          hcorrects.corrected
      have hpos : 0 < record.2.chargeDeltaMinor := by
        by_contra hnonpos
        rw [hnone (not_lt.1 hnonpos)] at hold
        cases hold
      obtain ⟨reservation, hget, hamount, hmandate, -⟩ := hpositive hpos
      obtain rfl := Option.some.inj (hold.symm.trans hget)
      refine ⟨fun _ ↦ ⟨{ old with releasedMinor := old.releasedMinor - outcome.delta }, ?_, hamount,
        hmandate, fun hlatest ↦ absurd hlatest hnotLatest⟩,
          fun hnonpos ↦ absurd hpos (not_lt.2 hnonpos)⟩
      rw [hset, hid, InsertionMap.get_set_self]
    · refine hframe ?_
      rw [hset, hid, InsertionMap.get_set_of_ne _ _ hhash]

/-- The reservation of the new admission. -/
theorem Reservable.reserved_new (hposted : Posted obligations mandates store)
    (h : Admits hashId store command outcome) :
    ReservedFor (written store command outcome) (command.evidence, outcome.admission) := by
  have hfree : ∀ {id reservation}, store.reservations.get id = some reservation →
      id ≠ outcome.admission.admissionHash := by
    intro id reservation hget heq
    obtain ⟨-, admission, hadmission, hhash⟩ := hposted.reservationIds id reservation hget
    exact h.newAdmission admission hadmission (hhash.trans heq)
  rcases settleReservation_ok h.delta_ne_zero h.settled with ⟨hpos, hreservation⟩ |
    ⟨priorAdmission, old, hneg, hprior, hget, hmandate, -, hreservation⟩
  · refine ⟨fun _ ↦ ⟨createReservation hashId outcome.admission command.evidence.toEvidenceTerms
      outcome.records.spendPolicy.category command.now, ?_, rfl, rfl, fun _ ↦ rfl⟩,
      fun hnonpos ↦ absurd hpos (not_lt.2 hnonpos)⟩
    simp only [written, hreservation]
    exact InsertionMap.get_set_self _ _ _
  · refine ⟨fun hpos ↦ absurd hpos (not_lt.2 hneg.le), fun _ ↦ ?_⟩
    simp only [written, hreservation]
    rw [(hposted.reservationIds _ old hget).1, InsertionMap.get_set_of_ne _ _ (hfree hget).symm]
    rcases hnew : store.reservations.get outcome.admission.admissionHash with _ | reservation
    · rfl
    · exact absurd rfl (hfree hnew)

/-- The limits that a record is within are those of the new state too. -/
theorem WithinLimits.written (h : Admits hashId store command outcome)
    {record : MeteredUsageEvidence H × MeteredUsageAdmission H}
    (hlimits : WithinLimits store record) :
    WithinLimits (written store command outcome) record := by
  obtain ⟨-, hmandate, hspendPolicy⟩ := h.get_records
  have hmandateId : outcome.records.mandate.mandateId = command.evidence.scope.mandateId :=
    h.authority.2.2.1.2.2.1
  have hspendPolicyId : outcome.records.spendPolicy.spendPolicyId = outcome.policy.policyId :=
    h.authority.2.2.2.2.1.2.1
  constructor
  · intro mandate hget
    change (store.mandates.set outcome.records.mandate.mandateId _).get _ = _ at hget
    rw [InsertionMap.get_set] at hget
    split at hget
    · rename_i hid
      rw [← Option.some.inj hget]
      exact hlimits.mandate outcome.records.mandate (by rw [hid, hmandateId, hmandate])
    · exact hlimits.mandate mandate hget
  · intro spendPolicy hget
    change (store.spendPolicies.set outcome.records.spendPolicy.spendPolicyId _).get _ = _ at hget
    rw [InsertionMap.get_set] at hget
    split at hget
    · rename_i hid
      obtain ⟨htx, hcap, -⟩ := hlimits.spendPolicy outcome.records.spendPolicy
        (by rw [hid, hspendPolicyId, hspendPolicy])
      rw [← Option.some.inj hget]
      exact ⟨htx, hcap, h.dailyLimit⟩
    · exact hlimits.spendPolicy spendPolicy hget

/-- The new record is within the limits. -/
theorem withinLimits_new (h : Admits hashId store command outcome) :
    WithinLimits (written store command outcome) (command.evidence, outcome.admission) := by
  have hmandateId : outcome.records.mandate.mandateId = command.evidence.scope.mandateId :=
    h.authority.2.2.1.2.2.1
  have hspendPolicyId : outcome.records.spendPolicy.spendPolicyId = outcome.admission.policyId := by
    rw [h.taken.2.2]
    exact h.authority.2.2.2.2.1.2.1
  obtain ⟨haction, -, htx, hcap⟩ := h.authority.2.2.2.2.2.2
  constructor
  · intro mandate hget
    change (store.mandates.set outcome.records.mandate.mandateId _).get _ = _ at hget
    rw [hmandateId, InsertionMap.get_set_self] at hget
    rw [← Option.some.inj hget]
    exact haction
  · intro spendPolicy hget
    change (store.spendPolicies.set outcome.records.spendPolicy.spendPolicyId _).get _ = _ at hget
    rw [hspendPolicyId, InsertionMap.get_set_self] at hget
    rw [← Option.some.inj hget]
    exact ⟨htx, hcap, h.dailyLimit⟩

theorem Reservable.written (hrecorded : Recorded store)
    (hposted : Posted obligations mandates store)
    (hreservable : Reservable hashId store) (h : Admits hashId store command outcome) :
    Reservable hashId (written store command outcome) := by
  have hrecords : records (Metered.written store command outcome) =
      records store ++ [(command.evidence, outcome.admission)] := records_written hrecorded.length
  constructor
  · show ((store.admissions ++ [outcome.admission]).map _).Nodup
    rw [List.map_append, List.nodup_append]
    refine ⟨hreservable.hashes, List.nodup_singleton _, ?_⟩
    intro a ha b hb
    obtain ⟨admission, hadmission, rfl⟩ := List.mem_map.1 ha
    rw [List.mem_singleton.1 hb]
    exact h.newAdmission admission hadmission
  · rw [hrecords, List.forall_mem_append]
    exact ⟨hreservable.created, List.forall_mem_singleton.2 h.evidence_created⟩
  · rw [hrecords, List.forall_mem_append]
    refine ⟨hreservable.obligation, List.forall_mem_singleton.2 ?_⟩
    rw [h.taken.2.2]
    rfl
  · rw [hrecords, List.forall_mem_append]
    exact ⟨fun record hrecord ↦ hreservable.reserved_written hrecorded hposted h hrecord,
      List.forall_mem_singleton.2 (Reservable.reserved_new hposted h)⟩
  · rw [hrecords, List.forall_mem_append]
    exact ⟨fun record hrecord ↦ (hreservable.limits record hrecord).written h,
      List.forall_mem_singleton.2 (withinLimits_new h)⟩

end Step

/-! ## Well-formed corrections -/

/-- A correction with a smaller charge, of an evidence that nothing has corrected, with all that it
is checked against active.  That no digest collides is a property of the digest. -/
structure WellFormedCorrection (hashId : UsagePreimage H → H) (store : UsageStore H)
    (command : AdmitCommand H) (previous : MeteredUsageEvidence H × MeteredUsageAdmission H)
    (policy : MeteredUsagePolicy H) (usage : UsageRecords) : Prop where
  recorded : previous ∈ records store
  latest : isLatest store previous.1
  corrected : command.evidence.correctionOfUsageEvidenceId = some previous.1.usageEvidenceId
  scope : previous.1.scope = command.evidence.scope
  window : previous.1.window = command.evidence.window
  smaller : command.evidence.chargeMinor < previous.1.chargeMinor
  verified : command.signatureVerified = true
  normalized : normalizePayload hashId command = .ok command.evidence
  unused : ¬ isConsumed hashId store command.evidence.toEvidenceTerms
  finalized : command.evidence.finality = .finalized
  reconciled : command.evidence.reconciliation = .reconciled
  resolved : command.resolvedPolicy = some policy.toUsagePolicyTerms
  created : createMeteredUsagePolicy hashId policy.toUsagePolicyTerms = .ok policy
  policyId : previous.2.policyId = policy.policyId
  policyScope : policy.scope = command.evidence.scope
  policyActive : policy.status = .active
  policyStarted : policy.validFrom ≤ command.now
  policyUnexpired : command.now < policy.expiresAt
  quantity : command.evidence.quantity ≤ policy.maxQuantityPerEvent
  charge : command.evidence.chargeMinor ≤ policy.maxChargePerEventMinor
  read : readRecords store command.evidence.toEvidenceTerms policy.policyId = .ok usage
  caller : callerExact command policy
  obligation : obligationExact command.evidence.toEvidenceTerms usage.obligation
  mandate : mandateExact command.evidence.toEvidenceTerms usage.mandate command.now
  lockbox : lockboxExact command.evidence.toEvidenceTerms usage.lockbox
  spendPolicy : spendPolicyExact command.evidence.toEvidenceTerms policy.policyId usage.spendPolicy
  provider : providerExact command.evidence.toEvidenceTerms usage.provider
  newEvidence : ∀ recorded ∈ store.evidence,
    recorded.usageEvidenceHash ≠ command.evidence.usageEvidenceHash
  newAdmission : ∀ recorded ∈ store.admissions, ∀ terms : AdmissionTerms H,
    terms.usageEvidenceId = command.evidence.usageEvidenceId →
      recorded.admissionHash ≠ hashId (.admission terms)

/-- What a correction takes back. -/
def takenBack (command : AdmitCommand H)
    (previous : MeteredUsageEvidence H × MeteredUsageAdmission H) :
    ℤ :=
  previous.1.chargeMinor - command.evidence.chargeMinor

/-- The correction is taken, and what is utilized and what is payable are lower by what it takes
back. -/
def CorrectionTaken (hashId : UsagePreimage H → H) (store : UsageStore H) (command : AdmitCommand H)
    (previous : MeteredUsageEvidence H × MeteredUsageAdmission H) (usage : UsageRecords) : Prop :=
  ∃ next admission, admitMeteredUsage hashId store command = .ok (next, admission) ∧
    utilizedOf usage.mandate.mandateId next =
      some (usage.mandate.utilizedMinor - takenBack command previous) ∧
    payableOf usage.obligation next = payableOf usage.obligation store - takenBack command previous

/-- The admission that is corrected has raised the charge by what is taken back, which was spent on
the day of the command, and the mandate has room for the new charge once more. -/
structure Releasable (command : AdmitCommand H)
    (previous : MeteredUsageEvidence H × MeteredUsageAdmission H) (usage : UsageRecords) :
    Prop where
  raised : takenBack command previous ≤ previous.2.chargeDeltaMinor
  sameDay : usage.spendPolicy.dailySpentDate = dayOf command.now
  spent : takenBack command previous ≤ usage.spendPolicy.dailySpentMinor
  room : usage.mandate.utilizedMinor + command.evidence.chargeMinor
    ≤ usage.mandate.aggregateLimitMinor

section Correction

variable {hashId : UsagePreimage H → H} {store : UsageStore H} {command : AdmitCommand H}
  {previous : MeteredUsageEvidence H × MeteredUsageAdmission H} {policy : MeteredUsagePolicy H}
  {usage : UsageRecords}

omit [DecidableEq H] in
/-- The charge of the latest evidence is part of what was charged for its key. -/
theorem charge_le_netCharge (hrecorded : Recorded store) (hprevious : previous ∈ records store)
    (hlatest : isLatest store previous.1) {q : UsageKey → Prop} [DecidablePred q]
    (hq : q (keyOf previous)) : (previous.1.chargeMinor : ℤ) ≤ netCharge q store := by
  have hlatest' : IsLatest (usageLog store) (entryOf previous) := by
    rw [isLatest, hrecorded.evidence_eq, List.forall_mem_map] at hlatest
    rw [IsLatest, usageLog, List.forall_mem_map]
    exact hlatest
  rw [netCharge_eq_sumOver hrecorded, sum_change_eq_sum_latest hrecorded.valid]
  refine value_le_sumOver_latest (e := entryOf previous) ?_ (List.mem_map_of_mem hprevious)
    hlatest' hq
  rw [usageLog, List.forall_mem_map]
  exact fun record _ ↦ Int.natCast_nonneg record.1.chargeMinor

omit [DecidableEq H] in
theorem createMeteredUsagePolicy_checked {terms : UsagePolicyTerms} {created : MeteredUsagePolicy H}
    (h : createMeteredUsagePolicy hashId terms = .ok created) :
    terms.maxChargePerWindowMinor < 10 ^ 78 := by
  simp only [createMeteredUsagePolicy, assertPositive, assertId, bind_eq_ok, throwIf_eq_ok,
    exists_const, not_or, not_le] at h
  obtain ⟨-, -, -, -, -, -, -, -, -, ⟨-, hlt⟩, -⟩ := h
  exact hlt

/-- What the handler works out for a well-formed correction. -/
def consideredOf (hashId : UsagePreimage H → H) (store : UsageStore H) (command : AdmitCommand H)
    (previous : MeteredUsageEvidence H × MeteredUsageAdmission H) (policy : MeteredUsagePolicy H)
    (usage : UsageRecords) : Considered H where
  policy
  records := usage
  prior := ⟨some previous.1, some previous.2⟩
  admission := admissionOf hashId policy command.evidence
    (getMeteredUsageWindowCharge store policy.policyId command.evidence.window)
    (-takenBack command previous) command.now

theorem WellFormedCorrection.readPrior_eq (hrecorded : Recorded store)
    (h : WellFormedCorrection hashId store command previous policy usage) :
    readPrior store command.evidence.toEvidenceTerms = .ok ⟨some previous.1, some previous.2⟩ := by
  refine readPrior_eq_ok.2 (.inr ⟨_, h.corrected, h.latest, ?_⟩)
  rw [hrecorded.findEvidence_eq h.recorded, hrecorded.findAdmission_eq h.recorded]

theorem WellFormedCorrection.chargeDelta_eq (hrecorded : Recorded store)
    (hreservable : Reservable hashId store)
    (h : WellFormedCorrection hashId store command previous policy usage) :
    chargeDelta hashId policy command.evidence ⟨some previous.1, some previous.2⟩ =
      .ok (-takenBack command previous) := by
  refine chargeDelta_eq_ok.2 (.inr ⟨previous.1, previous.2, rfl,
    ⟨_, hreservable.created _ h.recorded⟩, ?_, by rw [takenBack, neg_sub]⟩)
  exact
    { corrected := h.corrected
      admission := hrecorded.paired _ h.recorded
      obligation := by rw [hreservable.obligation _ h.recorded, h.scope]
      policy := h.policyId
      scope := h.scope
      window := h.window
      charge := h.smaller.ne }

/-- The window has room for the correction: it charges what it charged for the evidence before. -/
theorem WellFormedCorrection.policyTakes {all : List (AdmitCommand H)} (hrecorded : Recorded store)
    (hcaps : WithinCaps all store) (hcommand : command ∈ all)
    (h : WellFormedCorrection hashId store command previous policy usage) :
    PolicyTakes policy command.evidence
      (getMeteredUsageWindowCharge store policy.policyId command.evidence.window)
      (-takenBack command previous) command.now := by
  have hcharged : (previous.1.chargeMinor : ℤ) ≤
      getMeteredUsageWindowCharge store policy.policyId command.evidence.window := by
    rw [hrecorded.windowCharge_eq]
    exact charge_le_netCharge hrecorded h.recorded h.latest ⟨h.policyId, h.window⟩
  have hcap := hcaps.cap command hcommand _ h.resolved command.evidence.window
  have hlt := createMeteredUsagePolicy_checked h.created
  have hback : takenBack command previous = previous.1.chargeMinor - command.evidence.chargeMinor :=
    rfl
  have hsmaller := h.smaller
  exact
    { active := h.policyActive
      started := h.policyStarted
      unexpired := h.policyUnexpired
      scope := h.policyScope
      finalized := h.finalized
      reconciled := h.reconciled
      before_nonneg := by omega
      before_lt := by omega
      quantity := h.quantity
      charge := h.charge
      after_nonneg := by omega
      after_le := by omega }

theorem WellFormedCorrection.considers {all : List (AdmitCommand H)} (hrecorded : Recorded store)
    (hreservable : Reservable hashId store) (hcaps : WithinCaps all store)
    (hcommand : command ∈ all)
    (h : WellFormedCorrection hashId store command previous policy usage)
    (hroom : usage.mandate.utilizedMinor + command.evidence.chargeMinor ≤
      usage.mandate.aggregateLimitMinor) :
    Considers hashId store command (consideredOf hashId store command previous policy usage) := by
  obtain ⟨-, hmandate, -, hspendPolicy, -⟩ := readRecords_eq_ok.1 h.read
  have hlimits := hreservable.limits _ h.recorded
  have haction := hlimits.mandate usage.mandate (by rw [h.scope, hmandate])
  obtain ⟨htx, hcap, -⟩ := hlimits.spendPolicy usage.spendPolicy (by rw [h.policyId, hspendPolicy])
  have hsmaller := h.smaller
  have hcreated := (normalizePayload_ok h.normalized).2
  exact
    { verified := h.verified
      normalized := h.normalized
      resolved := h.resolved
      created := h.created
      unused := h.unused
      read := h.read
      authority := ⟨h.caller, h.obligation, h.mandate, h.lockbox, h.spendPolicy, h.provider,
        show (command.evidence.chargeMinor : ℤ) ≤ usage.mandate.perActionLimitMinor by omega, hroom,
        show (command.evidence.chargeMinor : ℤ) ≤ usage.spendPolicy.perTxLimitMinor by omega,
        show (command.evidence.chargeMinor : ℤ) ≤ usage.spendPolicy.obligationCapMinor by omega⟩
      prior := h.readPrior_eq hrecorded
      admitted := (admitMeteredUsageEvidence_eq_ok h.created hcreated).2
        ⟨_, h.chargeDelta_eq hrecorded hreservable, h.policyTakes hrecorded hcaps hcommand, rfl⟩ }

theorem WellFormedCorrection.takenBack_bounds (hreservable : Reservable hashId store)
    (h : WellFormedCorrection hashId store command previous policy usage) :
    0 < takenBack command previous ∧ takenBack command previous ≤ previous.1.chargeMinor ∧
      previous.1.chargeMinor < 10 ^ 78 := by
  obtain ⟨-, hlt, -⟩ := createMeteredUsageEvidence_checked (hreservable.created _ h.recorded)
  have hsmaller := h.smaller
  rw [takenBack]
  exact ⟨by omega, by omega, hlt⟩

/-- What is taken back is utilized. -/
theorem WellFormedCorrection.utilized_nonneg {obligations : InsertionMap String UsageObligation}
    {mandates : InsertionMap String UsageMandate} (hrecorded : Recorded store)
    (hposted : Posted obligations mandates store) (hreservable : Reservable hashId store)
    (hmandates : ∀ mandateId mandate, mandates.get mandateId = some mandate →
      0 ≤ mandate.utilizedMinor)
    (h : WellFormedCorrection hashId store command previous policy usage) :
    0 ≤ usage.mandate.utilizedMinor - takenBack command previous := by
  obtain ⟨-, hget, -⟩ := readRecords_eq_ok.1 h.read
  have hutilized := hposted.utilized command.evidence.scope.mandateId
  rw [utilizedOf, hget, Option.map_some] at hutilized
  obtain ⟨mandate, hmandate, heq⟩ := Option.map_eq_some_iff.1 hutilized.symm
  have hnonneg := hmandates _ mandate hmandate
  have hcharged := charge_le_netCharge hrecorded h.recorded h.latest
    (q := OfMandate command.evidence.scope.mandateId) (congrArg UsageScope.mandateId h.scope)
  obtain ⟨-, hle, -⟩ := h.takenBack_bounds hreservable
  omega

/-- A charge that is taken back is posted. -/
theorem Considers.posting_eq_ok {considered : Considered H}
    (h : Considers hashId store command considered)
    (hneg : considered.admission.chargeDeltaMinor < 0)
    (hlt : -considered.admission.chargeDeltaMinor < 10 ^ 78) :
    ∃ transaction, createMeteredUsageLedgerPosting hashId considered.records.obligation
      considered.admission = .ok transaction := by
  rw [createMeteredUsageLedgerPosting, bind_of_ok (throwIf_eq_ok (u := ()) |>.2 h.postable),
    bind_of_ok (throwIf_eq_ok (u := ()) |>.2 ?_), bind_of_ok (throwIf_eq_ok (u := ()) |>.2 ?_)]
  · exact ⟨_, rfl⟩
  · exact fun hexceeds ↦ absurd hneg (not_lt.2 hexceeds.1.le)
  · rw [not_or, not_le, abs_of_neg hneg]
    exact ⟨hneg.ne, hlt⟩

theorem settleReservation_of_covered (admission : MeteredUsageAdmission H)
    (evidence : EvidenceTerms)
    (prior : PriorUsage H) (now : ℕ) {priorAdmission : MeteredUsageAdmission H}
    {old : MeteredReservation H} (hneg : admission.chargeDeltaMinor < 0)
    (hprior : prior.priorAdmission = some priorAdmission)
    (hget : store.reservations.get priorAdmission.admissionHash = some old)
    (hmandate : old.mandateId = usage.mandate.mandateId)
    (hcovers : old.releasedMinor - admission.chargeDeltaMinor ≤ old.amountMinor) :
    ∃ reservation release, settleReservation hashId store admission evidence prior usage now =
      .ok (reservation, release) := by
  rw [settleReservation, if_neg (not_lt.2 hneg.le), if_pos hneg]
  simp only [releaseReservation, bind_eq_ok, orUnavailable_eq_ok, failIf_eq_ok, pure_eq_ok,
    exists_const, not_or, ne_eq, not_not, not_lt, hprior, Option.bind_some, hget]
  exact ⟨_, _, _, ⟨old, rfl, ⟨hmandate, by omega⟩, rfl⟩, rfl⟩

/-- What an admitted correction leaves. -/
theorem correctionTaken_of_admits (outcome : Outcome H)
    (hadmits : Admits hashId store command outcome) (hrecords : outcome.records = usage)
    (hdelta : outcome.delta = -takenBack command previous) :
    CorrectionTaken hashId store command previous usage := by
  refine ⟨written store command outcome, outcome.admission,
    admitMeteredUsage_eq_ok.2 ⟨outcome, hadmits, rfl, rfl⟩, ?_, ?_⟩
  · show ((store.mandates.set outcome.records.mandate.mandateId _).get _).map _ = _
    rw [hrecords, InsertionMap.get_set_self, hdelta, sub_eq_add_neg]
    rfl
  · rw [payableOf_written hadmits, hrecords, if_pos rfl, hdelta, sub_eq_add_neg]

theorem WellFormedCorrection.taken_of_releasable {all : List (AdmitCommand H)}
    {obligations : InsertionMap String UsageObligation}
    {mandates : InsertionMap String UsageMandate}
    (hrecorded : Recorded store) (hposted : Posted obligations mandates store)
    (hreservable : Reservable hashId store) (hcaps : WithinCaps all store)
    (hcommand : command ∈ all)
    (hmandates : ∀ mandateId mandate, mandates.get mandateId = some mandate →
      0 ≤ mandate.utilizedMinor)
    (h : WellFormedCorrection hashId store command previous policy usage)
    (hreleasable : Releasable command previous usage) :
    CorrectionTaken hashId store command previous usage := by
  obtain ⟨hpos, hle, hlt⟩ := h.takenBack_bounds hreservable
  have hraised := hreleasable.raised
  have hconsiders := h.considers hrecorded hreservable hcaps hcommand hreleasable.room
  have hdelta : (consideredOf hashId store command previous policy usage).admission.chargeDeltaMinor
      = -takenBack command previous := rfl
  obtain ⟨transaction, hposting⟩ := hconsiders.posting_eq_ok (by omega) (by omega)
  -- nothing was released of the reservation of the admission that is corrected
  obtain ⟨old, hget, hamount, hmandate, hreleased⟩ :=
    (hreservable.reserved _ h.recorded).1 (by omega)
  have hunreleased := hreleased h.latest
  obtain ⟨reservation, release, hsettled⟩ := settleReservation_of_covered
    (consideredOf hashId store command previous policy usage).admission
    command.evidence.toEvidenceTerms (consideredOf hashId store command previous policy usage).prior
    command.now (by omega) rfl hget (hmandate.trans (by rw [h.scope, h.mandate.2.2.1])) (by omega)
  have hbefore : dailySpentBefore usage.spendPolicy command.now
      = usage.spendPolicy.dailySpentMinor :=
    if_pos hreleasable.sameDay
  have hspent := hreleasable.spent
  have hlimit := ((hreservable.limits _ h.recorded).spendPolicy usage.spendPolicy
    (by rw [h.policyId]; exact (readRecords_eq_ok.1 h.read).2.2.2.1)).2.2
  refine correctionTaken_of_admits
    ⟨consideredOf hashId store command previous policy usage, transaction, reservation, release⟩
    { toConsiders := hconsiders
      posted := hposting
      settled := hsettled
      utilized := ?_
      daily := ?_
      dailyLimit := ?_
      newEvidence := h.newEvidence
      newAdmission := fun recorded hmem ↦ h.newAdmission recorded hmem _ rfl } rfl hdelta
  · have hnonneg := h.utilized_nonneg hrecorded hposted hreservable hmandates
    show 0 ≤ usage.mandate.utilizedMinor + -takenBack command previous
    omega
  · show 0 ≤ dailySpentBefore usage.spendPolicy command.now + -takenBack command previous
    omega
  · show dailySpentBefore usage.spendPolicy command.now + -takenBack command previous ≤
      usage.spendPolicy.dailyLimitMinor
    omega

theorem WellFormedCorrection.releasable_of_taken (hrecorded : Recorded store)
    (hreservable : Reservable hashId store)
    (h : WellFormedCorrection hashId store command previous policy usage)
    (htaken : CorrectionTaken hashId store command previous usage) :
    Releasable command previous usage := by
  obtain ⟨next, admission, hadmitted, -⟩ := htaken
  obtain ⟨outcome, hadmits, -, -⟩ := admitMeteredUsage_eq_ok.1 hadmitted
  obtain ⟨hpos, -, -⟩ := h.takenBack_bounds hreservable
  have hpolicy : outcome.policy = policy := by
    have hterms := Option.some.inj (hadmits.resolved.symm.trans h.resolved)
    have hcreated := hadmits.created
    rw [hterms, h.created] at hcreated
    exact (Except.ok.inj hcreated).symm
  have hrecords : outcome.records = usage := by
    have hread := hadmits.read
    rw [hpolicy, h.read] at hread
    exact (Except.ok.inj hread).symm
  have hprior : outcome.prior = ⟨some previous.1, some previous.2⟩ :=
    (Except.ok.inj ((h.readPrior_eq hrecorded).symm.trans hadmits.prior)).symm
  have hdelta : outcome.admission.chargeDeltaMinor = -takenBack command previous := by
    have hcharge := hadmits.taken.1
    rw [hpolicy, hprior, h.chargeDelta_eq hrecorded hreservable] at hcharge
    exact (Except.ok.inj hcharge).symm
  obtain ⟨priorAdmission, old, -, hpriorAdmission, hget, -, hcovers, -⟩ :=
    (settleReservation_ok hadmits.delta_ne_zero hadmits.settled).resolve_left
      fun hcharge ↦ absurd hcharge.1 (by rw [not_lt]; omega)
  rw [hprior] at hpriorAdmission
  obtain rfl := Option.some.inj hpriorAdmission
  obtain ⟨hpositive, hnone⟩ := hreservable.reserved _ h.recorded
  have hraised : 0 < previous.2.chargeDeltaMinor := by
    by_contra hnot
    rw [hnone (not_lt.1 hnot)] at hget
    cases hget
  obtain ⟨reservation, hget', hamount, -, hreleased⟩ := hpositive hraised
  obtain rfl := Option.some.inj (hget.symm.trans hget')
  have hunreleased := hreleased h.latest
  have hdaily := hadmits.daily
  rw [Outcome.dailySpentAfter, hrecords, dailySpentBefore, Considered.delta] at hdaily
  have hsameDay : usage.spendPolicy.dailySpentDate = dayOf command.now := by
    by_contra hother
    rw [if_neg hother] at hdaily
    omega
  rw [if_pos hsameDay] at hdaily
  have hroom := hadmits.authority.2.2.2.2.2.2.2.1
  rw [hrecords] at hroom
  exact ⟨by omega, hsameDay, by omega, hroom⟩

end Correction

section Run

variable (hashId : UsagePreimage H → H) (obligations : InsertionMap String UsageObligation)
  (mandates : InsertionMap String UsageMandate) (lockboxes : InsertionMap String UsageLockbox)
  (spendPolicies : InsertionMap String SpendPolicy.Policy)
  (providers : InsertionMap String SpendPolicy.Provider)

theorem reservable_initial : Reservable hashId
    (.initial obligations mandates lockboxes spendPolicies providers) where
  hashes := List.nodup_nil
  created := List.forall_mem_nil _
  obligation := List.forall_mem_nil _
  reserved := List.forall_mem_nil _
  limits := List.forall_mem_nil _

theorem reservable_run (commands : List (AdmitCommand H)) :
    Recorded (Run.run (step hashId)
        (.initial obligations mandates lockboxes spendPolicies providers) commands) ∧
      Reservable hashId (Run.run (step hashId)
        (.initial obligations mandates lockboxes spendPolicies providers) commands) := by
  have hstep : ∀ store command, Recorded store ∧ Posted obligations mandates store ∧
      Reservable hashId store → Recorded (step hashId store command) ∧
        Posted obligations mandates (step hashId store command) ∧
          Reservable hashId (step hashId store command) := by
    rintro store command ⟨hrecorded, hposted, hreservable⟩
    rcases step_eq_self_or_written hashId store command with hself | ⟨outcome, hadmits, hwritten⟩
    · rw [hself]
      exact ⟨hrecorded, hposted, hreservable⟩
    · rw [hwritten]
      exact ⟨hrecorded.written hadmits, hposted.written hrecorded hadmits,
        hreservable.written hrecorded hposted hadmits⟩
  obtain ⟨hrecorded, -, hreservable⟩ := Run.run_induct hstep
    ⟨recorded_initial .., posted_initial .., reservable_initial ..⟩ commands
  exact ⟨hrecorded, hreservable⟩

/-- A well-formed correction that does not meet the conditions is not taken. -/
theorem not_correctionTaken (commands : List (AdmitCommand H)) {command : AdmitCommand H}
    {previous : MeteredUsageEvidence H × MeteredUsageAdmission H} {policy : MeteredUsagePolicy H}
    {usage : UsageRecords}
    (hwell : WellFormedCorrection hashId (Run.run (step hashId)
      (.initial obligations mandates lockboxes spendPolicies providers) commands) command previous
      policy usage) (hnot : ¬ Releasable command previous usage) :
    ¬ CorrectionTaken hashId (Run.run (step hashId)
      (.initial obligations mandates lockboxes spendPolicies providers) commands) command previous
      usage := by
  obtain ⟨hrecorded, hreservable⟩ := reservable_run hashId obligations mandates lockboxes
    spendPolicies providers commands
  exact fun htaken ↦ hnot (hwell.releasable_of_taken hrecorded hreservable htaken)

/-- **When a charge can be taken back.**  After any commands, a well-formed correction with a
smaller charge is taken, and lowers what is utilized and what is payable by the difference, exactly
if the admission that it corrects had raised the charge by as much, as much was spent on the day of
the command, and the mandate has room for the new charge once more. -/
theorem correction_taken_iff (commands : List (AdmitCommand H)) (command : AdmitCommand H)
    (previous : MeteredUsageEvidence H × MeteredUsageAdmission H) (policy : MeteredUsagePolicy H)
    (usage : UsageRecords) (hbind : PolicyIdsBind (commands ++ [command]))
    (hmandates : ∀ mandateId mandate, mandates.get mandateId = some mandate →
      0 ≤ mandate.utilizedMinor)
    (hwell : WellFormedCorrection hashId (Run.run (step hashId)
      (.initial obligations mandates lockboxes spendPolicies providers) commands) command previous
      policy usage) :
    CorrectionTaken hashId (Run.run (step hashId)
        (.initial obligations mandates lockboxes spendPolicies providers) commands) command previous
        usage ↔
      Releasable command previous usage := by
  obtain ⟨hrecorded, hposted, hcaps⟩ := agreement_run hashId obligations mandates lockboxes
    spendPolicies providers hbind fun _ h ↦ List.mem_append_left [command] h
  obtain ⟨-, hreservable⟩ := reservable_run hashId obligations mandates lockboxes spendPolicies
    providers commands
  exact ⟨hwell.releasable_of_taken hrecorded hreservable,
    hwell.taken_of_releasable hrecorded hposted hreservable hcaps
      (List.mem_append_right commands (List.mem_singleton_self command)) hmandates⟩

end Run

/-! ## Three corrections -/

namespace Sample

/-- The record of an evidence that was admitted at `now`. -/
def record (now : ℕ) (evidence : MeteredUsageEvidence String) (before delta : ℤ) :
    MeteredUsageEvidence String × MeteredUsageAdmission String :=
  (evidence, admissionOf digest policyRecord evidence before delta now)

/-- The records of the tenant, where `charged` has been charged on the first day. -/
def usage (charged : ℤ) (now : ℕ) : UsageRecords := usageOf 5000 charged now

/-- The evidence that is corrected. -/
def first : AdmitCommand String := command 10000 (evidence "first" none 250)

/-- Its correction. -/
def lower : AdmitCommand String := command 11000 (evidence "lower" (some "first") 200)

/-- The correction of `lower`. -/
def lowest : AdmitCommand String := command 12000 (evidence "lowest" (some "lower") 150)

/-- The correction of `first`, a day later. -/
def nextDay : AdmitCommand String :=
  command (24 * 60 * 60 * 1000) (evidence "later" (some "first") 200)

theorem newAdmission {store : UsageStore String} {command : AdmitCommand String}
    (h : ∀ recorded ∈ store.admissions,
      recorded.admissionHash ≠ "admission:" ++ command.evidence.usageEvidenceId) :
    ∀ recorded ∈ store.admissions, ∀ terms : AdmissionTerms String,
      terms.usageEvidenceId = command.evidence.usageEvidenceId →
        recorded.admissionHash ≠ digest (.admission terms) := by
  intro recorded hrecorded terms hid
  rw [digest, hid]
  exact h recorded hrecorded

/-- What a well-formed correction asks of the store. -/
def Stored (store : UsageStore String) (command : AdmitCommand String)
    (previous : MeteredUsageEvidence String × MeteredUsageAdmission String) (usage : UsageRecords) :
    Prop :=
  previous ∈ records store ∧ isLatest store previous.1 ∧
    ¬ isConsumed digest store command.evidence.toEvidenceTerms ∧
    readRecords store command.evidence.toEvidenceTerms policyRecord.policyId = .ok usage ∧
    (∀ recorded ∈ store.evidence,
      recorded.usageEvidenceHash ≠ command.evidence.usageEvidenceHash) ∧
    ∀ recorded ∈ store.admissions,
      recorded.admissionHash ≠ "admission:" ++ command.evidence.usageEvidenceId

instance (store : UsageStore String) (command : AdmitCommand String)
    (previous : MeteredUsageEvidence String × MeteredUsageAdmission String) (usage : UsageRecords) :
    Decidable (Stored store command previous usage) :=
  inferInstanceAs (Decidable (_ ∧ _))

theorem run_first : Run.run (step digest) (store 5000) [first] = afterFirst := by
  rw [Run.run, first, step_first, Run.run]

theorem run_lower : Run.run (step digest) (store 5000) [first, lower] = afterLower := by
  rw [Run.run, first, step_first, Run.run, lower, step_lower, Run.run]

/-- A smaller charge than that of an evidence of the samples is a well-formed correction, if the
store has what it reads. -/
theorem wellFormed {store : UsageStore String} {now charged quantity earlier updated : ℕ}
    {id previous : String} {before : Option String} (admission : MeteredUsageAdmission String)
    (hnamed : Named id) (hprevious : isId previous = true) (hnow : now < 10 ^ 12)
    (hquantity : 0 < quantity ∧ quantity ≤ 1000) (hroom : (charged : ℤ) + 2 * quantity ≤ 9000)
    (hsmaller : quantity < earlier) (hpolicy : admission.policyId = "policy")
    (hstored : Stored store (command now (evidence id (some previous) quantity))
      (evidence previous before earlier, admission) (usage charged updated)) :
    WellFormedCorrection digest store (command now (evidence id (some previous) quantity))
      (evidence previous before earlier, admission) policyRecord (usage charged updated) := by
  obtain ⟨hrecorded, hlatest, hunused, hread, hevidence, hadmission⟩ := hstored
  have hauthority : exactAuthority (command now (evidence id (some previous) quantity))
      policyRecord (usage charged updated) := authorized hnow hquantity.2 hroom
  obtain ⟨hcaller, hobligation, hmandate, hlockbox, hspendPolicy, hprovider, -⟩ := hauthority
  have hcreated : createMeteredUsageEvidence digest
      (evidence id (some previous) quantity).toEvidenceTerms =
        .ok (evidence id (some previous) quantity) :=
    evidence_created hnamed (by rintro _ ⟨⟩; exact hprevious) hquantity
  exact
    { recorded := hrecorded
      latest := hlatest
      corrected := rfl
      scope := rfl
      window := rfl
      smaller := show 2 * quantity < 2 * earlier by omega
      verified := rfl
      normalized := normalized hcreated
      unused := hunused
      finalized := rfl
      reconciled := rfl
      resolved := rfl
      created := policyRecord_created
      policyId := hpolicy
      policyScope := rfl
      policyActive := rfl
      policyStarted := Nat.zero_le _
      policyUnexpired := hnow
      quantity := hquantity.2
      charge := show 2 * quantity ≤ 2000 by omega
      read := hread
      caller := hcaller
      obligation := hobligation
      mandate := hmandate
      lockbox := hlockbox
      spendPolicy := hspendPolicy
      provider := hprovider
      newEvidence := hevidence
      newAdmission := newAdmission hadmission }

/-- What the corrections read. -/
theorem corrections_stored :
    Stored afterFirst lower (record 10000 first.evidence 0 500) (usage 500 10000) ∧
      Stored afterLower lowest (record 11000 lower.evidence 500 (-100)) (usage 400 11000) ∧
      Stored afterFirst nextDay (record 10000 first.evidence 0 500) (usage 500 10000) := by
  decide +kernel

theorem wellFormed_lower : WellFormedCorrection digest (Run.run (step digest) (store 5000) [first])
    lower (record 10000 first.evidence 0 500) policyRecord (usage 500 10000) := by
  rw [run_first]
  exact wellFormed _ (named _ (by decide)) (named "first" (by decide)).1 (by decide) (by decide)
    (by decide) (by decide) rfl corrections_stored.1

theorem wellFormed_lowest :
    WellFormedCorrection digest (Run.run (step digest) (store 5000) [first, lower]) lowest
      (record 11000 lower.evidence 500 (-100)) policyRecord (usage 400 11000) := by
  rw [run_lower]
  exact wellFormed _ (named _ (by decide)) (named "lower" (by decide)).1 (by decide) (by decide)
    (by decide) (by decide) rfl corrections_stored.2.1

theorem wellFormed_nextDay : WellFormedCorrection digest
    (Run.run (step digest) (store 5000) [first])
    nextDay (record 10000 first.evidence 0 500) policyRecord (usage 500 10000) := by
  rw [run_first]
  exact wellFormed _ (named _ (by decide)) (named "first" (by decide)).1 (by decide) (by decide)
    (by decide) (by decide) rfl corrections_stored.2.2

end Sample

/-- The first correction of a charge, on the same day, is taken. -/
theorem correction_taken_lower :
    CorrectionTaken Sample.digest (Run.run (step Sample.digest) (Sample.store 5000) [Sample.first])
      Sample.lower (Sample.record 10000 Sample.first.evidence 0 500) (Sample.usage 500 10000) := by
  have hbind : PolicyIdsBind ([Sample.first] ++ [Sample.lower]) := Sample.policyIdsBind (by decide)
  have hmandates : ∀ mandateId mandate, Sample.mandates.get mandateId = some mandate →
      0 ≤ mandate.utilizedMinor := by
    intro mandateId mandate hget
    rw [Sample.mandates, InsertionMap.get_set] at hget
    split at hget
    · obtain rfl := Option.some.inj hget
      decide
    · cases hget
  refine (correction_taken_iff _ _ _ _ _ _ _ _ _ _ _ hbind hmandates Sample.wellFormed_lower).2 ?_
  exact ⟨by decide, by decide, by decide, by decide⟩

/-- **A second correction downwards, and a correction on the next day, are refused**, although they
are well formed. -/
theorem corrections_refused :
    (WellFormedCorrection Sample.digest
        (Run.run (step Sample.digest) (Sample.store 5000) [Sample.first, Sample.lower])
          Sample.lowest
        (Sample.record 11000 Sample.lower.evidence 500 (-100)) Sample.policyRecord
        (Sample.usage 400 11000) ∧
      ¬ CorrectionTaken Sample.digest
        (Run.run (step Sample.digest) (Sample.store 5000) [Sample.first, Sample.lower])
          Sample.lowest
        (Sample.record 11000 Sample.lower.evidence 500 (-100)) (Sample.usage 400 11000)) ∧
    WellFormedCorrection Sample.digest
        (Run.run (step Sample.digest) (Sample.store 5000) [Sample.first]) Sample.nextDay
        (Sample.record 10000 Sample.first.evidence 0 500) Sample.policyRecord
        (Sample.usage 500 10000) ∧
      ¬ CorrectionTaken Sample.digest
        (Run.run (step Sample.digest) (Sample.store 5000) [Sample.first]) Sample.nextDay
        (Sample.record 10000 Sample.first.evidence 0 500) (Sample.usage 500 10000) :=
  ⟨⟨Sample.wellFormed_lowest, not_correctionTaken _ _ _ _ _ _ _ Sample.wellFormed_lowest
      fun h ↦ absurd h.raised (by decide)⟩,
    Sample.wellFormed_nextDay, not_correctionTaken _ _ _ _ _ _ _ Sample.wellFormed_nextDay
      fun h ↦ absurd h.sameDay (by decide)⟩

end Metered
end IpoOne
