import IpoOne.Metered.Admission

/-!
# Metered usage across its representations

A charge is kept as a signed difference in the admissions, as an amount with a side in the ledger,
as an amount and what was released of it in the reservations, and in the mandate's utilization.
`usageLog` is the log behind all of them (`Amendments`): the evidences, each of which may replace an
earlier one.  `Recorded` says that the admissions carry the changes of that log, and `Posted` that
the other representations carry what the admissions do.

`metered_usage_agrees` is what follows for a whole run.
-/

set_option autoImplicit false

namespace IpoOne
namespace Metered

open Fallible Amendments

variable {H : Type} [DecidableEq H]

/-! ## The log -/

/-- The evidences with their admissions. -/
def records (store : UsageStore H) : List (MeteredUsageEvidence H × MeteredUsageAdmission H) :=
  store.evidence.zip store.admissions

/-- What a correction keeps of the evidence that it corrects. -/
structure UsageKey where
  policyId : String
  scope : UsageScope
  window : UsageWindow
  deriving DecidableEq

/-- What a record shares with its corrections. -/
def keyOf (record : MeteredUsageEvidence H × MeteredUsageAdmission H) : UsageKey :=
  ⟨record.2.policyId, record.1.scope, record.1.window⟩

/-- A record as an entry of the log of amendments. -/
def entryOf (record : MeteredUsageEvidence H × MeteredUsageAdmission H) :
    Amendments.Entry String UsageKey where
  id := record.1.usageEvidenceId
  replaces := record.1.correctionOfUsageEvidenceId
  key := keyOf record
  value := record.1.chargeMinor

/-- The records of the store as a log of amendments. -/
def usageLog (store : UsageStore H) : List (Amendments.Entry String UsageKey) :=
  (records store).map entryOf

/-- What was charged, and not taken back, for the keys in `q`. -/
def netCharge (q : UsageKey → Prop) [DecidablePred q] (store : UsageStore H) : ℤ :=
  ((records store).map fun record ↦ if q (keyOf record) then record.2.chargeDeltaMinor else 0).sum

/-- The admissions are those of the evidences, with the changes of the log. -/
structure Recorded (store : UsageStore H) : Prop where
  length : store.evidence.length = store.admissions.length
  valid : Valid (usageLog store)
  paired : ∀ record ∈ records store, record.2.usageEvidenceId = record.1.usageEvidenceId
  delta : ∀ record ∈ records store,
    record.2.chargeDeltaMinor = change (usageLog store) (entryOf record)

section Recorded

variable {hashId : UsagePreimage H → H} {store : UsageStore H} {command : AdmitCommand H}
  {considered : Considered H} {outcome : Outcome H}

omit [DecidableEq H] in
theorem Recorded.evidence_eq (h : Recorded store) : store.evidence = (records store).map Prod.fst :=
  (List.map_fst_zip h.length.le).symm

omit [DecidableEq H] in
theorem Recorded.admissions_eq (h : Recorded store) :
    store.admissions = (records store).map Prod.snd :=
  (List.map_snd_zip h.length.ge).symm

omit [DecidableEq H] in
theorem Recorded.nodup (h : Recorded store) :
    ((records store).map fun record ↦ record.1.usageEvidenceId).Nodup := by
  have hnodup := h.valid.nodup
  rw [usageLog, List.map_map] at hnodup
  exact hnodup

omit [DecidableEq H] in
theorem Recorded.findEvidence_eq (h : Recorded store)
    {record : MeteredUsageEvidence H × MeteredUsageAdmission H} (hrecord : record ∈ records store) :
    findEvidence store record.1.usageEvidenceId = some record.1 := by
  have hnodup := h.nodup
  rw [findEvidence]
  refine find?_of_nodup_map (f := fun e : MeteredUsageEvidence H ↦ e.usageEvidenceId) ?_ ?_
  · rw [h.evidence_eq, List.map_map]
    exact hnodup
  · rw [h.evidence_eq]
    exact List.mem_map_of_mem hrecord

omit [DecidableEq H] in
theorem Recorded.findAdmission_eq (h : Recorded store)
    {record : MeteredUsageEvidence H × MeteredUsageAdmission H} (hrecord : record ∈ records store) :
    findAdmission store record.1.usageEvidenceId = some record.2 := by
  have hnodup := h.nodup
  rw [findAdmission, ← h.paired record hrecord]
  refine find?_of_nodup_map (f := fun a : MeteredUsageAdmission H ↦ a.usageEvidenceId) ?_ ?_
  · rw [h.admissions_eq, List.map_map]
    exact List.map_congr_left h.paired ▸ hnodup
  · rw [h.admissions_eq]
    exact List.mem_map_of_mem hrecord

omit [DecidableEq H] in
/-- A recorded evidence is one of the records. -/
theorem Recorded.exists_record (h : Recorded store) {evidence : MeteredUsageEvidence H}
    (hevidence : evidence ∈ store.evidence) : ∃ record ∈ records store, record.1 = evidence := by
  rw [h.evidence_eq] at hevidence
  exact List.mem_map.1 hevidence

omit [DecidableEq H] in
theorem readPrior_eq_ok {evidence : EvidenceTerms} {prior : PriorUsage H} :
    readPrior store evidence = .ok prior ↔
      (evidence.correctionOfUsageEvidenceId = none ∧ prior = ⟨none, none⟩) ∨
      ∃ corrected, evidence.correctionOfUsageEvidenceId = some corrected ∧
        (∀ recorded ∈ store.evidence, recorded.correctionOfUsageEvidenceId ≠ some corrected) ∧
        prior = ⟨findEvidence store corrected, findAdmission store corrected⟩ := by
  rw [readPrior]
  rcases evidence.correctionOfUsageEvidenceId with _ | corrected
  · simp only [pure_eq_ok, true_and, reduceCtorEq, false_and, exists_false, or_false]
    exact eq_comm
  · simp only [bind_eq_ok, throwIf_eq_ok, pure_eq_ok, exists_const, reduceCtorEq, false_and,
      false_or, Option.some.injEq, exists_eq_left', not_exists, not_and]
    exact and_congr_right fun _ ↦ eq_comm

/-- What was checked of the admission of an admitted command. -/
theorem Considers.taken (h : Considers hashId store command considered) :
    chargeDelta hashId considered.policy command.evidence considered.prior = .ok considered.delta ∧
      PolicyTakes considered.policy command.evidence
        (getMeteredUsageWindowCharge store considered.policy.policyId command.evidence.window)
        considered.delta command.now ∧
      considered.admission = admissionOf hashId considered.policy command.evidence
        (getMeteredUsageWindowCharge store considered.policy.policyId command.evidence.window)
        considered.delta command.now := by
  obtain ⟨delta, hdelta, htakes, hadmission⟩ :=
    (admitMeteredUsageEvidence_eq_ok h.created (normalizePayload_ok h.normalized).2).1 h.admitted
  have heq : considered.delta = delta := by
    rw [Considered.delta, hadmission]
    rfl
  rw [heq]
  exact ⟨hdelta, htakes, hadmission⟩

/-- An admitted evidence is charged in full, or it corrects one that nothing has corrected. -/
theorem Considers.first_or_corrects (hrecorded : Recorded store)
    (h : Considers hashId store command considered) :
    (command.evidence.correctionOfUsageEvidenceId = none ∧
      considered.delta = command.evidence.chargeMinor) ∨
    ∃ record ∈ records store, considered.prior = ⟨some record.1, some record.2⟩ ∧
      Corrects considered.policy command.evidence record.1 record.2 ∧
      (∀ recorded ∈ store.evidence,
        recorded.correctionOfUsageEvidenceId ≠ some record.1.usageEvidenceId) ∧
      considered.delta = command.evidence.chargeMinor - record.1.chargeMinor := by
  rcases chargeDelta_eq_ok.1 h.taken.1 with ⟨hnone, -, hdelta⟩ |
    ⟨priorEvidence, priorAdmission, hprior, -, hcorrects, hdelta⟩
  · exact .inl ⟨hnone, hdelta⟩
  · right
    rcases readPrior_eq_ok.1 h.prior with ⟨hnone, -⟩ | ⟨corrected, hcorrected, hfree, hfound⟩
    · rw [hcorrects.corrected] at hnone
      cases hnone
    rw [hcorrects.corrected] at hcorrected
    obtain rfl := Option.some.inj hcorrected
    obtain ⟨hevidence, hadmission⟩ := PriorUsage.mk.inj (hprior.symm.trans hfound)
    obtain ⟨record, hrecord, hfst⟩ :=
      hrecorded.exists_record (List.mem_of_find?_eq_some hevidence.symm)
    rw [← hfst, hrecorded.findAdmission_eq hrecord] at hadmission
    obtain rfl := Option.some.inj hadmission
    subst hfst
    exact ⟨record, hrecord, hprior, hcorrects, hfree, hdelta⟩

omit [DecidableEq H] in
theorem records_append (hlength : store.evidence.length = store.admissions.length)
    {evidence : MeteredUsageEvidence H} {admission : MeteredUsageAdmission H} :
    (store.evidence ++ [evidence]).zip (store.admissions ++ [admission]) =
      records store ++ [(evidence, admission)] := by
  rw [List.zip_append hlength, records]
  rfl

theorem records_written (hlength : store.evidence.length = store.admissions.length) :
    records (written store command outcome) =
      records store ++ [(command.evidence, outcome.admission)] :=
  records_append hlength

theorem usageLog_written (hlength : store.evidence.length = store.admissions.length) :
    usageLog (written store command outcome) =
      usageLog store ++ [entryOf (command.evidence, outcome.admission)] := by
  rw [usageLog, records_written hlength, List.map_append]
  rfl

theorem netCharge_written (hlength : store.evidence.length = store.admissions.length)
    (q : UsageKey → Prop) [DecidablePred q] :
    netCharge q (written store command outcome) = netCharge q store +
      if q (keyOf (command.evidence, outcome.admission)) then outcome.delta else 0 := by
  rw [netCharge, records_written hlength, List.map_append, List.sum_append, List.map_singleton,
    List.sum_singleton, netCharge]

theorem Recorded.appends (hrecorded : Recorded store) (h : Admits hashId store command outcome) :
    Appends (usageLog store) (entryOf (command.evidence, outcome.admission)) := by
  rcases h.first_or_corrects hrecorded with ⟨hnone, -⟩ | ⟨record, hrecord, -, hcorrects, hfree, -⟩
  · exact .new hnone
  · refine .replaced (List.mem_map_of_mem hrecord) hcorrects.corrected ?_ ?_
    · intro x hx
      obtain ⟨other, hother, rfl⟩ := List.mem_map.1 hx
      refine hfree other.1 ?_
      rw [hrecorded.evidence_eq]
      exact List.mem_map_of_mem hother
    · have hpolicy : outcome.admission.policyId = record.2.policyId := by
        rw [h.taken.2.2, hcorrects.policy]
        rfl
      show (⟨outcome.admission.policyId, command.evidence.scope, command.evidence.window⟩ :
        UsageKey) =
        ⟨record.2.policyId, record.1.scope, record.1.window⟩
      rw [hpolicy, hcorrects.scope, hcorrects.window]

theorem Recorded.unused (hrecorded : Recorded store) (h : Admits hashId store command outcome) :
    ∀ x ∈ usageLog store, x.id ≠ (entryOf (command.evidence, outcome.admission)).id := by
  intro x hx heq
  obtain ⟨record, hrecord, rfl⟩ := List.mem_map.1 hx
  refine h.unused ⟨record.1, ?_, .inl heq⟩
  rw [hrecorded.evidence_eq]
  exact List.mem_map_of_mem hrecord

/-- What is admitted is the change that the evidence makes. -/
theorem Recorded.change_eq (hrecorded : Recorded store) (h : Admits hashId store command outcome) :
    outcome.delta = change (usageLog store ++ [entryOf (command.evidence, outcome.admission)])
      (entryOf (command.evidence, outcome.admission)) := by
  rw [change]
  rcases h.first_or_corrects hrecorded with ⟨hnone, hdelta⟩ |
    ⟨record, hrecord, -, hcorrects, -, hdelta⟩
  · rw [show (entryOf (command.evidence, outcome.admission)).replaces = none from hnone]
    exact hdelta
  · have hmem : entryOf record ∈ usageLog store := List.mem_map_of_mem hrecord
    rw [show (entryOf (command.evidence, outcome.admission)).replaces
      = some (entryOf record).id from
      hcorrects.corrected]
    simp only [valueOf_append hrecorded.valid hmem, valueOf_eq hrecorded.valid hmem]
    exact hdelta

theorem Recorded.written (hrecorded : Recorded store) (h : Admits hashId store command outcome) :
    Recorded (written store command outcome) := by
  have hadmission := h.taken.2.2
  constructor
  · show (store.evidence ++ [command.evidence]).length =
      (store.admissions ++ [outcome.admission]).length
    rw [List.length_append, List.length_append, hrecorded.length]
    rfl
  · rw [usageLog_written hrecorded.length]
    exact .append hrecorded.valid (hrecorded.unused h) (hrecorded.appends h)
  · rw [records_written hrecorded.length, List.forall_mem_append]
    refine ⟨hrecorded.paired, List.forall_mem_singleton.2 ?_⟩
    rw [hadmission]
    rfl
  · rw [records_written hrecorded.length, usageLog_written hrecorded.length, List.forall_mem_append]
    refine ⟨fun record hrecord ↦ ?_, List.forall_mem_singleton.2 (hrecorded.change_eq h)⟩
    rw [change_append hrecorded.valid (List.mem_map_of_mem hrecord)]
    exact hrecorded.delta record hrecord

end Recorded

/-! ## The other representations -/

/-- What the ledger has for an account: its debits less its credits. -/
def balanceOf (account : UsageAccount) (store : UsageStore H) : ℤ :=
  (store.transactions.map fun transaction ↦ Credit.entryBalance account transaction.entries).sum

/-- What is reserved against a mandate and not released. -/
def reservedOf (mandateId : String) (store : UsageStore H) : ℤ :=
  (store.reservations.values.map fun reservation ↦ if reservation.mandateId = mandateId then
    reservation.amountMinor - reservation.releasedMinor else 0).sum

/-- What is utilized of a mandate. -/
def utilizedOf (mandateId : String) (store : UsageStore H) : Option ℤ :=
  (store.mandates.get mandateId).map (·.utilizedMinor)

/-- Debits and credits are the same, and what the transaction says they are. -/
structure UsageTransaction.Balanced (transaction : UsageTransaction H) : Prop where
  debit : Credit.sideTotal .debit transaction.entries = transaction.debitTotalMinor
  credit : Credit.sideTotal .credit transaction.entries = transaction.creditTotalMinor
  totals : transaction.debitTotalMinor = transaction.creditTotalMinor

/-- The obligation with this scope. -/
def OfObligation (obligationId : String) (key : UsageKey) : Prop :=
  key.scope.obligationId = obligationId

/-- The mandate with this scope. -/
def OfMandate (mandateId : String) (key : UsageKey) : Prop := key.scope.mandateId = mandateId

instance (obligationId : String) : DecidablePred (OfObligation obligationId) := fun key ↦
  inferInstanceAs (Decidable (key.scope.obligationId = obligationId))

instance (mandateId : String) : DecidablePred (OfMandate mandateId) := fun key ↦
  inferInstanceAs (Decidable (key.scope.mandateId = mandateId))

/-- The ledger, the reservations and the mandates carry what the admissions do. -/
structure Posted (obligations : InsertionMap String UsageObligation)
    (mandates : InsertionMap String UsageMandate) (store : UsageStore H) : Prop where
  unchanged : store.obligations = obligations
  exact : ∀ evidence ∈ store.evidence, ∃ obligation,
    obligations.get evidence.scope.obligationId = some obligation ∧
      obligationExact evidence.toEvidenceTerms obligation
  reservationIds : ∀ id reservation, store.reservations.get id = some reservation →
    reservation.reservationId = id ∧ ∃ admission ∈ store.admissions, admission.admissionHash = id
  utilized : ∀ mandateId, utilizedOf mandateId store = (mandates.get mandateId).map
    (·.utilizedMinor + netCharge (OfMandate mandateId) store)
  reserved : ∀ mandateId, reservedOf mandateId store = netCharge (OfMandate mandateId) store
  payable : ∀ obligation, obligations.get obligation.obligationId = some obligation →
    balanceOf (payableAccount obligation) store
      = -netCharge (OfObligation obligation.obligationId) store
  expense : ∀ obligation, obligations.get obligation.obligationId = some obligation →
    balanceOf (expenseAccount obligation) store
      = netCharge (OfObligation obligation.obligationId) store
  balanced : ∀ transaction ∈ store.transactions, transaction.Balanced
  correctedOnce : (store.evidence.filterMap (·.correctionOfUsageEvidenceId)).Nodup

section Posted

variable {hashId : UsagePreimage H → H} {store : UsageStore H} {command : AdmitCommand H}
  {considered : Considered H} {outcome : Outcome H}
  {obligations : InsertionMap String UsageObligation} {mandates : InsertionMap String UsageMandate}

/-- What a posting comes to for an account. -/
theorem entryBalance_postingEntries (account : UsageAccount) (obligation : UsageObligation)
    (delta : ℤ) : Credit.entryBalance account (postingEntries obligation delta) =
      (if expenseAccount obligation = account then delta else 0) -
        if payableAccount obligation = account then delta else 0 := by
  rw [postingEntries]
  split
  · rename_i hpos
    simp only [Credit.entryBalance, List.map_cons, List.map_nil, List.sum_cons, List.sum_nil,
      Credit.LedgerEntry.signed, abs_of_pos hpos]
    split <;> split <;> omega
  · rename_i hpos
    simp only [Credit.entryBalance, List.map_cons, List.map_nil, List.sum_cons, List.sum_nil,
      Credit.LedgerEntry.signed, abs_of_nonpos (not_lt.1 hpos)]
    split <;> split <;> omega

omit [DecidableEq H] in
theorem createMeteredUsageLedgerPosting_ok {obligation : UsageObligation}
    {admission : MeteredUsageAdmission H} {transaction : UsageTransaction H}
    (h : createMeteredUsageLedgerPosting hashId obligation admission = .ok transaction) :
    transaction.entries = postingEntries obligation admission.chargeDeltaMinor ∧
      transaction.debitTotalMinor = |admission.chargeDeltaMinor| ∧
      transaction.creditTotalMinor = |admission.chargeDeltaMinor| ∧
      admission.chargeDeltaMinor ≠ 0 := by
  simp only [createMeteredUsageLedgerPosting, bind_eq_ok, throwIf_eq_ok, pure_eq_ok, exists_const,
    not_or] at h
  obtain ⟨-, ⟨hzero, -⟩, -, rfl⟩ := h
  exact ⟨rfl, rfl, rfl, hzero⟩

omit [DecidableEq H] in
theorem createMeteredUsageLedgerPosting_balanced {obligation : UsageObligation}
    {admission : MeteredUsageAdmission H} {transaction : UsageTransaction H}
    (h : createMeteredUsageLedgerPosting hashId obligation admission = .ok transaction) :
    transaction.Balanced := by
  obtain ⟨hentries, hdebit, hcredit, -⟩ := createMeteredUsageLedgerPosting_ok h
  refine ⟨?_, ?_, hdebit.trans hcredit.symm⟩
  · rw [hentries, hdebit, postingEntries]
    split <;> simp [Credit.sideTotal]
  · rw [hentries, hcredit, postingEntries]
    split <;> simp [Credit.sideTotal]

omit [DecidableEq H] in
theorem readRecords_eq_ok {evidence : EvidenceTerms} {policyId : String} {usage : UsageRecords} :
    readRecords store evidence policyId = .ok usage ↔
      store.obligations.get evidence.scope.obligationId = some usage.obligation ∧
        store.mandates.get evidence.scope.mandateId = some usage.mandate ∧
        store.lockboxes.get evidence.scope.obligationId = some usage.lockbox ∧
        store.spendPolicies.get policyId = some usage.spendPolicy ∧
        store.providers.get evidence.scope.providerId = some usage.provider := by
  simp only [readRecords, bind_eq_ok, orUnavailable_eq_ok, pure_eq_ok]
  constructor
  · rintro ⟨obligation, hobligation, mandate, hmandate, lockbox, hlockbox, spendPolicy,
      hspendPolicy, provider, hprovider, rfl⟩
    exact ⟨hobligation, hmandate, hlockbox, hspendPolicy, hprovider⟩
  · rintro ⟨hobligation, hmandate, hlockbox, hspendPolicy, hprovider⟩
    exact ⟨_, hobligation, _, hmandate, _, hlockbox, _, hspendPolicy, _, hprovider, rfl⟩

/-- The records that a command was checked against. -/
theorem Considers.get_records (h : Considers hashId store command considered) :
    store.obligations.get command.evidence.scope.obligationId = some considered.records.obligation ∧
      store.mandates.get command.evidence.scope.mandateId = some considered.records.mandate ∧
      store.spendPolicies.get considered.policy.policyId = some considered.records.spendPolicy := by
  obtain ⟨hobligation, hmandate, -, hspendPolicy, -⟩ := readRecords_eq_ok.1 h.read
  exact ⟨hobligation, hmandate, hspendPolicy⟩

theorem Posted.utilized_written (hrecorded : Recorded store)
    (hposted : Posted obligations mandates store)
    (h : Admits hashId store command outcome) (mandateId : String) :
    utilizedOf mandateId (written store command outcome) = (mandates.get mandateId).map
      (·.utilizedMinor + netCharge (OfMandate mandateId) (written store command outcome)) := by
  have hmandateId : outcome.records.mandate.mandateId = command.evidence.scope.mandateId :=
    h.authority.2.2.1.2.2.1
  have hold := hposted.utilized mandateId
  rw [netCharge_written hrecorded.length, utilizedOf]
  show ((store.mandates.set outcome.records.mandate.mandateId _).get mandateId).map _ = _
  rw [InsertionMap.get_set]
  by_cases hid : mandateId = outcome.records.mandate.mandateId
  · rw [hid, hmandateId, utilizedOf, h.get_records.2.1] at hold
    have hkey : OfMandate mandateId (keyOf (command.evidence, outcome.admission)) :=
      hmandateId.symm.trans hid.symm
    rw [if_pos hid, if_pos hkey, hid, hmandateId]
    rcases hget : mandates.get command.evidence.scope.mandateId with _ | mandate
    · rw [hget] at hold
      cases hold
    · rw [hget] at hold
      have hvalue := Option.some.inj hold
      rw [Option.map_some, Option.map_some, ← add_assoc]
      exact congrArg (fun value ↦ some (value + outcome.delta)) hvalue
  · have hkey : ¬ OfMandate mandateId (keyOf (command.evidence, outcome.admission)) := fun heq ↦
      hid (heq.symm.trans hmandateId.symm)
    rw [if_neg hid, if_neg hkey, add_zero]
    exact hold

/-- What a charge reserves or a correction releases. -/
theorem settleReservation_ok {admission : MeteredUsageAdmission H} {evidence : EvidenceTerms}
    {prior : PriorUsage H} {usage : UsageRecords} {now : ℕ}
    {reservation : Option (MeteredReservation H)} {release : Option (MeteredRelease H)}
    (hzero : admission.chargeDeltaMinor ≠ 0)
    (h : settleReservation hashId store admission evidence prior usage now =
      .ok (reservation, release)) :
    (0 < admission.chargeDeltaMinor ∧
      reservation = some (createReservation hashId admission evidence
        usage.spendPolicy.category now)) ∨
    ∃ priorAdmission old, admission.chargeDeltaMinor < 0 ∧
      prior.priorAdmission = some priorAdmission ∧
      store.reservations.get priorAdmission.admissionHash = some old ∧
      old.mandateId = usage.mandate.mandateId ∧
      old.releasedMinor - admission.chargeDeltaMinor ≤ old.amountMinor ∧
      reservation = some { old with releasedMinor := old.releasedMinor -
        admission.chargeDeltaMinor } := by
  rw [settleReservation] at h
  split at h
  · rename_i hpos
    simp only [pure_eq_ok, Prod.mk.injEq] at h
    exact .inl ⟨hpos, h.1.symm⟩
  · rename_i hpos
    rw [if_pos (lt_of_le_of_ne (not_lt.1 hpos) hzero)] at h
    simp only [releaseReservation, bind_eq_ok, orUnavailable_eq_ok, failIf_eq_ok,
      pure_eq_ok, not_or, Option.bind_eq_some_iff, exists_const, ne_eq, not_not, not_lt,
      Prod.mk.injEq] at h
    obtain ⟨_, ⟨old, ⟨priorAdmission, hprior, hget⟩, ⟨hmandate, hcovers⟩, rfl⟩, hreservation, -⟩ :=
      h
    refine .inr ⟨priorAdmission, old, lt_of_le_of_ne (not_lt.1 hpos) hzero, hprior, hget, hmandate,
      by omega, ?_⟩
    rw [← hreservation, sub_eq_add_neg]

theorem Admits.delta_ne_zero (h : Admits hashId store command outcome) : outcome.delta ≠ 0 :=
  (createMeteredUsageLedgerPosting_ok h.posted).2.2.2

/-- The reservations that an admitted command leaves. -/
theorem Admits.settled_cases (h : Admits hashId store command outcome) :
    (outcome.delta > 0 ∧ (written store command outcome).reservations =
      store.reservations.set outcome.admission.admissionHash
        (createReservation hashId outcome.admission command.evidence.toEvidenceTerms
          outcome.records.spendPolicy.category command.now)) ∨
    ∃ priorAdmission old, outcome.prior.priorAdmission = some priorAdmission ∧
      store.reservations.get priorAdmission.admissionHash = some old ∧
      old.mandateId = outcome.records.mandate.mandateId ∧
      (written store command outcome).reservations = store.reservations.set old.reservationId
        { old with releasedMinor := old.releasedMinor - outcome.delta } := by
  rcases settleReservation_ok h.delta_ne_zero h.settled with ⟨hpos, hreservation⟩ |
    ⟨priorAdmission, old, -, hprior, hget, hmandate, -, hreservation⟩
  · refine .inl ⟨hpos, ?_⟩
    simp only [written, hreservation]
    rfl
  · refine .inr ⟨priorAdmission, old, hprior, hget, hmandate, ?_⟩
    simp only [written, hreservation]

theorem Posted.reserved_written (hrecorded : Recorded store)
    (hposted : Posted obligations mandates store)
    (h : Admits hashId store command outcome) (mandateId : String) :
    reservedOf mandateId (written store command outcome) =
      netCharge (OfMandate mandateId) (written store command outcome) := by
  have hold := hposted.reserved mandateId
  have hmandateId : outcome.records.mandate.mandateId = command.evidence.scope.mandateId :=
    h.authority.2.2.1.2.2.1
  rw [netCharge_written hrecorded.length, ← hold, reservedOf, reservedOf]
  rcases h.settled_cases with ⟨hpos, hset⟩ | ⟨priorAdmission, old, -, hget, hmandate, hset⟩
  · have hnone : store.reservations.get outcome.admission.admissionHash = none := by
      rcases hget : store.reservations.get outcome.admission.admissionHash with _ | old
      · rfl
      · obtain ⟨-, admission, hadmission, hhash⟩ := hposted.reservationIds _ old hget
        exact absurd hhash (h.newAdmission admission hadmission)
    have hsum := InsertionMap.sum_map_values_set store.reservations outcome.admission.admissionHash
      (createReservation hashId outcome.admission command.evidence.toEvidenceTerms
        outcome.records.spendPolicy.category command.now) (fun reservation ↦
        if reservation.mandateId = mandateId then
          reservation.amountMinor - reservation.releasedMinor else 0)
    rw [hnone, Option.map_none, Option.getD_none, add_zero] at hsum
    rw [hset, hsum]
    exact congrArg (_ + ·) (if_congr Iff.rfl (sub_zero _) rfl)
  · have hid := (hposted.reservationIds _ old hget).1
    have hsum := InsertionMap.sum_map_values_set store.reservations old.reservationId
      { old with releasedMinor := old.releasedMinor - outcome.delta } (fun reservation ↦
        if reservation.mandateId = mandateId then
          reservation.amountMinor - reservation.releasedMinor else 0)
    rw [hid, hget, Option.map_some, Option.getD_some] at hsum
    rw [hset, hid]
    have hiff : OfMandate mandateId (keyOf (command.evidence, outcome.admission)) ↔
        old.mandateId = mandateId := by
      rw [hmandate, hmandateId]
      exact Iff.rfl
    rw [if_congr hiff rfl rfl]
    dsimp only at hsum
    split_ifs at hsum ⊢ <;> omega

theorem balanceOf_written (h : Admits hashId store command outcome) (account : UsageAccount) :
    balanceOf account (written store command outcome) = balanceOf account store +
      ((if expenseAccount outcome.records.obligation = account then outcome.delta else 0) -
        if payableAccount outcome.records.obligation = account then outcome.delta else 0) := by
  show ((store.transactions ++ [outcome.transaction]).map _).sum = _
  rw [List.map_append, List.sum_append, List.map_singleton, List.sum_singleton,
    (createMeteredUsageLedgerPosting_ok h.posted).1, entryBalance_postingEntries]
  rfl

/-- The account of an obligation is the one a command posts to exactly if the command is for that
obligation. -/
theorem Posted.account_iff (hposted : Posted obligations mandates store)
    (h : Admits hashId store command outcome) {obligation : UsageObligation}
    (hobligation : obligations.get obligation.obligationId = some obligation) :
    outcome.records.obligation.obligationId = obligation.obligationId ∧
        outcome.records.obligation.assetId = obligation.assetId ↔
      OfObligation obligation.obligationId (keyOf (command.evidence, outcome.admission)) := by
  have hid : outcome.records.obligation.obligationId = command.evidence.scope.obligationId :=
    h.authority.2.1.2.1
  constructor
  · rintro ⟨heq, -⟩
    exact hid.symm.trans heq
  · intro heq
    have hread := h.get_records.1
    rw [hposted.unchanged, show command.evidence.scope.obligationId
      = obligation.obligationId from heq, hobligation] at hread
    rw [Option.some.inj hread]
    exact ⟨rfl, rfl⟩

theorem Posted.payable_written (hrecorded : Recorded store)
    (hposted : Posted obligations mandates store)
    (h : Admits hashId store command outcome) {obligation : UsageObligation}
    (hobligation : obligations.get obligation.obligationId = some obligation) :
    balanceOf (payableAccount obligation) (written store command outcome) =
      -netCharge (OfObligation obligation.obligationId) (written store command outcome) := by
  have hiff := hposted.account_iff h hobligation
  have hpayable : payableAccount outcome.records.obligation = payableAccount obligation ↔
      OfObligation obligation.obligationId (keyOf (command.evidence, outcome.admission)) := by
    rw [← hiff, payableAccount, payableAccount, UsageAccount.mk.injEq]
    exact and_congr_right fun _ ↦ and_iff_left rfl
  have hexpense : ¬ expenseAccount outcome.records.obligation = payableAccount obligation :=
    fun heq ↦
    nomatch congrArg UsageAccount.accountType heq
  rw [balanceOf_written h, netCharge_written hrecorded.length,
    hposted.payable obligation hobligation, if_neg hexpense, if_congr hpayable rfl rfl]
  omega

theorem Posted.expense_written (hrecorded : Recorded store)
    (hposted : Posted obligations mandates store)
    (h : Admits hashId store command outcome) {obligation : UsageObligation}
    (hobligation : obligations.get obligation.obligationId = some obligation) :
    balanceOf (expenseAccount obligation) (written store command outcome) =
      netCharge (OfObligation obligation.obligationId) (written store command outcome) := by
  have hiff := hposted.account_iff h hobligation
  have hexpense : expenseAccount outcome.records.obligation = expenseAccount obligation ↔
      OfObligation obligation.obligationId (keyOf (command.evidence, outcome.admission)) := by
    rw [← hiff, expenseAccount, expenseAccount, UsageAccount.mk.injEq]
    exact and_congr_right fun _ ↦ and_iff_left rfl
  have hpayable : ¬ payableAccount outcome.records.obligation = expenseAccount obligation :=
    fun heq ↦
    nomatch congrArg UsageAccount.accountType heq
  rw [balanceOf_written h, netCharge_written hrecorded.length,
    hposted.expense obligation hobligation, if_neg hpayable, if_congr hexpense rfl rfl, sub_zero]

theorem Posted.reservationIds_written (hposted : Posted obligations mandates store)
    (h : Admits hashId store command outcome) :
    ∀ id reservation, (written store command outcome).reservations.get id = some reservation →
      reservation.reservationId = id ∧
        ∃ admission ∈ store.admissions ++ [outcome.admission], admission.admissionHash = id := by
  -- a reservation that is kept is that of an earlier admission
  have hkept : ∀ {id reservation}, store.reservations.get id = some reservation →
      reservation.reservationId = id ∧
        ∃ admission ∈ store.admissions ++ [outcome.admission], admission.admissionHash = id := by
    intro id reservation hget
    obtain ⟨hid, admission, hadmission, hhash⟩ := hposted.reservationIds id reservation hget
    exact ⟨hid, admission, List.mem_append_left _ hadmission, hhash⟩
  intro id reservation hget
  rcases h.settled_cases with ⟨-, hset⟩ | ⟨priorAdmission, old, -, hold, -, hset⟩
  · rw [hset, InsertionMap.get_set] at hget
    split at hget
    · rename_i hid
      rw [← Option.some.inj hget, hid]
      exact ⟨rfl, outcome.admission, List.mem_append_right _ (List.mem_singleton_self _), rfl⟩
    · exact hkept hget
  · rw [hset, InsertionMap.get_set] at hget
    split at hget
    · rename_i hid
      obtain ⟨hidOld, hadmissions⟩ := hkept hold
      rw [← Option.some.inj hget, hid]
      refine ⟨rfl, ?_⟩
      rw [hidOld]
      exact hadmissions
    · exact hkept hget

theorem Posted.correctedOnce_written (hrecorded : Recorded store)
    (hposted : Posted obligations mandates store) (h : Admits hashId store command outcome) :
    ((store.evidence ++ [command.evidence]).filterMap (·.correctionOfUsageEvidenceId)).Nodup := by
  rw [List.filterMap_append]
  rcases h.first_or_corrects hrecorded with ⟨hnone, -⟩ | ⟨record, -, -, hcorrects, hfree, -⟩
  · simp only [List.filterMap_cons, hnone, List.filterMap_nil, List.append_nil]
    exact hposted.correctedOnce
  · simp only [List.filterMap_cons, hcorrects.corrected, List.filterMap_nil, List.nodup_append]
    refine ⟨hposted.correctedOnce, List.nodup_singleton _, ?_⟩
    intro id hid other hother heq
    rw [List.mem_singleton.1 hother] at heq
    obtain ⟨evidence, hevidence, hcorrection⟩ := List.mem_filterMap.1 hid
    exact hfree evidence hevidence (by rw [hcorrection, heq])

theorem Posted.written (hrecorded : Recorded store) (hposted : Posted obligations mandates store)
    (h : Admits hashId store command outcome) :
    Posted obligations mandates (written store command outcome) where
  unchanged := hposted.unchanged
  exact := by
    show ∀ evidence ∈ store.evidence ++ [command.evidence], _
    rw [List.forall_mem_append]
    refine ⟨hposted.exact, List.forall_mem_singleton.2 ⟨outcome.records.obligation, ?_, ?_⟩⟩
    · rw [← hposted.unchanged]
      exact h.get_records.1
    · exact h.authority.2.1
  reservationIds := hposted.reservationIds_written h
  utilized := hposted.utilized_written hrecorded h
  reserved := hposted.reserved_written hrecorded h
  payable _ hobligation := hposted.payable_written hrecorded h hobligation
  expense _ hobligation := hposted.expense_written hrecorded h hobligation
  balanced := by
    show ∀ transaction ∈ store.transactions ++ [outcome.transaction], _
    rw [List.forall_mem_append]
    exact ⟨hposted.balanced,
      List.forall_mem_singleton.2 (createMeteredUsageLedgerPosting_balanced h.posted)⟩
  correctedOnce := hposted.correctedOnce_written hrecorded h

end Posted

/-! ## Windows -/

/-- The evidences of a policy and a window. -/
def OfWindow (policyId : String) (window : UsageWindow) (key : UsageKey) : Prop :=
  key.policyId = policyId ∧ key.window = window

instance (policyId : String) (window : UsageWindow) : DecidablePred (OfWindow policyId window) :=
  fun key ↦ inferInstanceAs (Decidable (key.policyId = policyId ∧ key.window = window))

/-- Nothing corrects the evidence: it is the latest of its chain of corrections. -/
def isLatest (store : UsageStore H) (evidence : MeteredUsageEvidence H) : Prop :=
  ∀ recorded ∈ store.evidence, recorded.correctionOfUsageEvidenceId ≠ some evidence.usageEvidenceId

instance (store : UsageStore H) : DecidablePred (isLatest store) := fun evidence ↦
  inferInstanceAs (Decidable (∀ recorded ∈ store.evidence,
    recorded.correctionOfUsageEvidenceId ≠ some evidence.usageEvidenceId))

/-- The policy under which an evidence was admitted. -/
def policyOf (store : UsageStore H) (evidence : MeteredUsageEvidence H) : Option String :=
  (findAdmission store evidence.usageEvidenceId).map (·.policyId)

/-- What the latest evidences of a policy and a window charge. -/
def latestCharge (store : UsageStore H) (policyId : String) (window : UsageWindow) : ℤ :=
  ((store.evidence.filter fun evidence ↦ policyOf store evidence = some policyId ∧
    evidence.window = window ∧ isLatest store evidence).map fun evidence ↦
      (evidence.chargeMinor : ℤ)).sum

/-- The policies and windows of what was admitted for the keys in `q`. -/
def windowsOf (q : UsageKey → Prop) [DecidablePred q] (store : UsageStore H) :
    Finset (String × UsageWindow) :=
  (((records store).filter fun record ↦ q (keyOf record)).map fun record ↦
    (record.2.policyId, record.1.window)).toFinset

section Windows

variable {hashId : UsagePreimage H → H} {store : UsageStore H} {command : AdmitCommand H}
  {outcome : Outcome H}

/-- A sum over a part of a list, as a sum over the list. -/
theorem sum_map_filter {α : Type} (p : α → Prop) [DecidablePred p] (f : α → ℤ) (xs : List α) :
    ((xs.filter fun x ↦ p x).map f).sum = (xs.map fun x ↦ if p x then f x else 0).sum := by
  induction xs with
  | nil => rfl
  | cons x xs ih =>
    by_cases hp : p x
    · simp [hp, ih]
    · simp [hp, ih]

omit [DecidableEq H] in
theorem Recorded.windowCharge_eq (h : Recorded store) (policyId : String) (window : UsageWindow) :
    getMeteredUsageWindowCharge store policyId window
      = netCharge (OfWindow policyId window) store := by
  rw [getMeteredUsageWindowCharge, sum_map_filter, netCharge]
  nth_rewrite 1 [h.admissions_eq]
  rw [List.map_map]
  refine congrArg List.sum (List.map_congr_left fun record hrecord ↦ ?_)
  have hwindow : windowOf store record.2 = some record.1.window := by
    rw [windowOf, h.paired record hrecord, h.findEvidence_eq hrecord]
    rfl
  simp only [Function.comp_apply, hwindow, Option.some.injEq]
  rfl

omit [DecidableEq H] in
theorem netCharge_eq_sumOver (h : Recorded store) (q : UsageKey → Prop) [DecidablePred q] :
    netCharge q store = sumOver q (change (usageLog store)) (usageLog store) := by
  rw [sumOver, netCharge, usageLog, List.map_map]
  refine congrArg List.sum (List.map_congr_left fun record hrecord ↦ ?_)
  rw [h.delta record hrecord]
  rfl

omit [DecidableEq H] in
theorem latestCharge_eq_sumOver (h : Recorded store) (policyId : String) (window : UsageWindow) :
    latestCharge store policyId window =
      sumOver (OfWindow policyId window) (latestValue (usageLog store)) (usageLog store) := by
  rw [latestCharge, sum_map_filter, sumOver]
  nth_rewrite 1 [h.evidence_eq]
  rw [usageLog, List.map_map, List.map_map]
  refine congrArg List.sum (List.map_congr_left fun record hrecord ↦ ?_)
  have hpolicy : policyOf store record.1 = some record.2.policyId := by
    rw [policyOf, h.findAdmission_eq hrecord]
    rfl
  have hlatest : isLatest store record.1 ↔ IsLatest (usageLog store) (entryOf record) := by
    rw [isLatest, IsLatest, usageLog, List.forall_mem_map, h.evidence_eq, List.forall_mem_map]
    exact Iff.rfl
  have hkey : OfWindow policyId window (entryOf record).key ↔
      record.2.policyId = policyId ∧ record.1.window = window := Iff.rfl
  simp only [Function.comp_apply, hpolicy, hlatest, Option.some.injEq, latestValue, hkey,
    ← and_assoc, ite_and]
  rfl

omit [DecidableEq H] in
/-- The charge of a window is what its latest evidences charge. -/
theorem Recorded.windowCharge_eq_latestCharge (h : Recorded store) (policyId : String)
    (window : UsageWindow) :
    getMeteredUsageWindowCharge store policyId window = latestCharge store policyId window := by
  rw [h.windowCharge_eq, netCharge_eq_sumOver h, sum_change_eq_sum_latest h.valid,
    ← latestCharge_eq_sumOver h]

omit [DecidableEq H] in
/-- Where a policy is for the keys in `q` or for none of them, the windows come to what was charged
for `q`. -/
theorem Recorded.sum_windowsOf (h : Recorded store) {q : UsageKey → Prop} [DecidablePred q]
    (hpolicy : ∀ a ∈ records store, ∀ b ∈ records store, a.2.policyId = b.2.policyId →
      q (keyOf a) → q (keyOf b)) :
    ∑ pair ∈ windowsOf q store, getMeteredUsageWindowCharge store pair.1 pair.2
      = netCharge q store := by
  rw [netCharge, ← sum_map_filter (fun record ↦ q (keyOf record)),
    ← sum_fiber fun record : MeteredUsageEvidence H × MeteredUsageAdmission H ↦
      (record.2.policyId, record.1.window)]
  refine Finset.sum_congr rfl fun pair hpair ↦ ?_
  obtain ⟨a, ha, rfl⟩ := List.mem_map.1 (List.mem_toFinset.1 hpair)
  obtain ⟨hmem, hq⟩ := List.mem_filter.1 ha
  rw [decide_eq_true_eq] at hq
  rw [h.windowCharge_eq, netCharge, sum_map_filter fun record ↦ q (keyOf record)]
  refine congrArg List.sum (List.map_congr_left fun record hrecord ↦ ?_)
  have hkey : OfWindow a.2.policyId a.1.window (keyOf record) ↔
      (record.2.policyId, record.1.window) = (a.2.policyId, a.1.window) := by
    rw [Prod.mk.injEq]
    exact Iff.rfl
  by_cases heq : (record.2.policyId, record.1.window) = (a.2.policyId, a.1.window)
  · rw [if_pos (hkey.2 heq), if_pos heq,
      if_pos (hpolicy a hmem record hrecord (congrArg Prod.fst heq).symm hq)]
  · rw [if_neg (mt hkey.1 heq), if_neg heq, ite_self]

end Windows

end Metered
end IpoOne
