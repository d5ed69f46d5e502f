import IpoOne.Hyperliquid.Posting

/-!
# When performance evidence can be revoked

A revision of the performance evidence, a new issue or a revocation, takes one more of the 100
versions that `assertRecord` admits.  `reviseEvidence_iff` says that this, the version of the record
and the dates of the evidence are all that a revision of a settled record can fail for under a key
of its own.  Issues and revocations share their keys: under one that was used, a revocation is
answered as a replay and revokes nothing.  `revocation_accepted_iff` is what that comes to for a
revocation in a run of the service.  By `issues_run` any number of issues up to 100 goes through,
and the last of them cannot be revoked (`evidence_irrevocable`).
-/

set_option autoImplicit false

namespace IpoOne
namespace Hyperliquid
namespace Settlement

open Fallible

/-! ## A revision of a settled record -/

section Revision

variable {H : Type} [DecidableEq H] {hashId : SettlementPreimage H → H}
  {record next : SettlementRecord H} {nowMs : ℕ}

/-- There is a version left for a revision. -/
def VersionsLeft (record : SettlementRecord H) : Prop :=
  record.performanceEvidenceVersion < 100 ∧ record.version < 1000000

/-- A revision at `nowMs` does not run into a limit. -/
def Revisable (record : SettlementRecord H) (nowMs : ℕ) : Prop :=
  VersionsLeft record ∧ nowMs + proofLifetimeMs ≤ maxDateMs

/-- The status that a revision leads to. -/
def PerformanceEvidenceStatus.revised :
    PerformanceEvidenceStatus → HyperliquidTestnetSettlementStatus
  | .active => .evidenceActive
  | .revoked => .evidenceRevoked

/-- The evidence of a revision. -/
def revisedEvidence (hashId : SettlementPreimage H → H) (record : SettlementRecord H)
    (waterfall : Waterfall) (actorHash : H) (status : PerformanceEvidenceStatus)
    (reasonCode : String) (nowMs : ℕ) : PerformanceEvidence H :=
  let core : PerformanceEvidenceCore H :=
    { settlementId := record.settlementId
      settlementHash := record.settlementHash
      facilityId := record.identity.facilityId
      facilityHash := record.identity.facilityHash
      obligationId := record.identity.obligationId
      obligationHash := record.identity.obligationHash
      ledgerTransactionHash := record.ledgerTransactionHash
      claims := performanceClaims record waterfall
      status
      reasonCode
      previousEvidenceHash := record.currentPerformanceEvidence.map (·.performanceEvidenceHash)
      evidenceVersion := record.performanceEvidenceVersion + 1
      issuedByActorHash := actorHash
      issuedAt := nowMs
      expiresAt := nowMs + proofLifetimeMs }
  { core with
    performanceEvidenceId := hashId (.performanceEvidenceId (hashId (.performanceEvidence core)))
    performanceEvidenceHash := hashId (.performanceEvidence core) }

/-- The record of a revision. -/
def revisedRecord (hashId : SettlementPreimage H → H) (record : SettlementRecord H)
    (evidence : PerformanceEvidence H) (nowMs : ℕ) : SettlementRecord H :=
  let state : RecordState H :=
    { record.toRecordState with
      currentPerformanceEvidence := some evidence
      performanceEvidenceVersion := record.performanceEvidenceVersion + 1
      status := evidence.status.revised
      version := record.version + 1
      updatedAt := nowMs }
  { record with toRecordState := state, stateHash := hashId (.settlementState state) }

/-- The evidence of a revision is the one that its record expects. -/
theorem assertRecordEvidence_revisedRecord (hlt : record.performanceEvidenceVersion < 100)
    (waterfall : Waterfall) (actorHash : H) (status : PerformanceEvidenceStatus)
    (reasonCode : String) (nowMs : ℕ) :
    assertRecordEvidence hashId (revisedRecord hashId record
      (revisedEvidence hashId record waterfall
      actorHash status reasonCode nowMs) nowMs) = .ok () := by
  have hrevised : status.revised = .evidenceActive ∨ status.revised = .evidenceRevoked := by
    cases status <;> decide
  have hstatus : (if status.revised = .evidenceActive then PerformanceEvidenceStatus.active
      else .revoked) = status := by
    cases status <;> rfl
  set next := revisedRecord hashId record (revisedEvidence hashId record waterfall actorHash status
    reasonCode nowMs) nowMs
  have hnext : next.status = .evidenceActive ∨ next.status = .evidenceRevoked := hrevised
  rw [assertRecordEvidence, if_pos hnext]
  show (do
    assertPerformanceEvidence hashId (revisedEvidence hashId record waterfall actorHash status
      reasonCode nowMs) next
    _ : Domain Unit) = _
  simp only [assertPerformanceEvidence, boundedInteger, evidenceUnavailable, settlementUnavailable,
    bind_eq_ok, invalid_eq_ok, throwIf_eq_ok]
  refine ⟨(), ⟨(), ?_, (), ?_, ?_⟩, ?_⟩
  · show ¬ (((record.performanceEvidenceVersion + 1 : ℕ) : ℤ) < 1 ∨
      100 < ((record.performanceEvidenceVersion + 1 : ℕ) : ℤ))
    omega
  · rintro (hother | hother | hother)
    · exact hother rfl
    · exact hother rfl
    · exact hother rfl
  · exact fun hother ↦ hother rfl
  · rintro (hversion | hother)
    · exact hversion rfl
    · exact hother hstatus.symm

/-- **A revision passes the check where its versions do.** -/
theorem assertRecord_revisedRecord (h : assertRecord hashId record = .ok ())
    (hsettled : record.status.hasSettled) (waterfall : Waterfall) (actorHash : H)
    (status : PerformanceEvidenceStatus) (reasonCode : String) (nowMs : ℕ) :
    assertRecord hashId (revisedRecord hashId record (revisedEvidence hashId record waterfall
      actorHash status reasonCode nowMs) nowMs) = .ok () ↔ VersionsLeft record := by
  simp only [assertRecord, settlementUnavailable, identifier, boundedInteger, invalid_eq_ok,
    bind_eq_ok, throwIf_eq_ok, exists_and_left, exists_const] at h ⊢
  obtain ⟨hreasons, hfacility, hfunding, hclose, hobligation, hsubject, hasset, hpolicy, subject,
    hsubjectMinor, provider, hproviderMinor, hversion, hcount, hevidenceVersion, hidentity,
    hlifecycle, hawaiting, hready, hevidence⟩ := h
  have hrevised : (revisedRecord hashId record (revisedEvidence hashId record waterfall actorHash
      status reasonCode nowMs) nowMs).status = status.revised := rfl
  have hnot : status.revised ≠ .awaitingFinality ∧ status.revised ≠ .readyToSettle ∧
      ¬ status.revised.preSettlement := by
    cases status <;> decide
  constructor
  · rintro ⟨_, _, _, _, _, _, _, _, _, _, _, _, hversion', _, hevidenceVersion', _⟩
    simp only [revisedRecord] at hversion' hevidenceVersion'
    exact ⟨by omega, by omega⟩
  · rintro ⟨hlt, hlt'⟩
    refine ⟨hreasons, hfacility, hfunding, hclose, hobligation, hsubject, hasset, hpolicy, subject,
      hsubjectMinor, provider, hproviderMinor, ?_, hcount, ?_, ?_, ?_, ?_, ?_, ?_⟩
    · simp only [revisedRecord]
      omega
    · simp only [revisedRecord]
      omega
    · -- the identity is that of the record, and the state hash is new
      rw [not_or, not_not, not_not] at hidentity ⊢
      exact ⟨hidentity.1, rfl⟩
    · rw [not_not] at hlifecycle ⊢
      refine ⟨fun hpending ↦ absurd hpending ?_, fun _ ↦ hlifecycle.2 hsettled⟩
      rw [hrevised]
      exact hnot.2.2
    · rw [hrevised]
      exact fun hpending ↦ hnot.1 hpending.1
    · rw [hrevised]
      exact fun hpending ↦ hnot.2.1 hpending.1
    · exact assertRecordEvidence_revisedRecord hlt waterfall actorHash status reasonCode nowMs

/-- A settled record has its waterfall. -/
theorem exists_waterfall (h : assertRecord hashId record = .ok ())
    (hsettled : record.status.hasSettled) :
    ∃ waterfall, record.waterfall = some waterfall := by
  simp only [assertRecord, settlementUnavailable, identifier, boundedInteger, invalid_eq_ok,
    bind_eq_ok, throwIf_eq_ok, exists_and_left, exists_const] at h
  obtain ⟨_, _, _, _, _, _, _, _, _, _, _, _, _, _, _, _, hlifecycle, _⟩ := h
  obtain ⟨_, _, hwaterfall, _⟩ := (not_not.1 hlifecycle).2 hsettled
  obtain ⟨waterfall, hsome, _⟩ := Option.map_eq_some_iff.1 hwaterfall
  exact ⟨waterfall, hsome⟩

/-- **When a revision is accepted**, and what it leaves. -/
theorem revise_eq_ok_iff (h : assertRecord hashId record = .ok ())
    (hsettled : record.status.hasSettled) (actorHash : H) (status : PerformanceEvidenceStatus)
    {reasonCode : String} (hreason : safeCode "reasonCode" reasonCode = .ok ()) (nowMs : ℕ) :
    ∃ evidence, evidence.status = status ∧ ∀ next,
      revisePerformanceEvidence hashId record actorHash status reasonCode nowMs = .ok next ↔
        Revisable record nowMs ∧ next = revisedRecord hashId record evidence nowMs := by
  obtain ⟨waterfall, hwaterfall⟩ := exists_waterfall h hsettled
  refine ⟨revisedEvidence hashId record waterfall actorHash status reasonCode nowMs, rfl,
    fun next ↦ ?_⟩
  have hchecked := assertRecord_revisedRecord h hsettled waterfall actorHash status reasonCode nowMs
  simp only [revisePerformanceEvidence, evidenceUnavailable, h, hreason, hwaterfall, bind_eq_ok,
    throwIf_eq_ok, toISOString_eq_ok, not_not, exists_and_left, exists_const]
  constructor
  · rintro ⟨_, _, _, _, _, ⟨_, rfl⟩, _, ⟨hdate, rfl⟩, hnext⟩
    rw [← hwaterfall] at hnext
    have hstate : (assertRecord hashId (revisedRecord hashId record (revisedEvidence hashId record
        waterfall actorHash status reasonCode nowMs) nowMs) >>= fun _ ↦ pure (revisedRecord hashId
        record (revisedEvidence hashId record waterfall actorHash status reasonCode nowMs) nowMs))
          = .ok next := by
      cases status <;> exact hnext
    simp only [bind_eq_ok, pure_eq_ok] at hstate
    obtain ⟨_, hok, rfl⟩ := hstate
    exact ⟨⟨hchecked.1 hok, hdate⟩, rfl⟩
  · rintro ⟨⟨hversions, hdate⟩, rfl⟩
    have hstate : (assertRecord hashId (revisedRecord hashId record (revisedEvidence hashId record
        waterfall actorHash status reasonCode nowMs) nowMs) >>= fun _ ↦ pure (revisedRecord hashId
        record (revisedEvidence hashId record waterfall actorHash status reasonCode nowMs) nowMs))
          = .ok (revisedRecord hashId record (revisedEvidence hashId record waterfall actorHash
            status reasonCode nowMs) nowMs) := by
      rw [hchecked.2 hversions]
      rfl
    have hlimit := hversions.1
    refine ⟨trivial, hsettled, trivial, by omega, _, ⟨by omega, rfl⟩, _, ⟨hdate, rfl⟩, ?_⟩
    rw [← hwaterfall]
    cases status <;> exact hstate

end Revision

/-! ## The records of the repository -/

section Records

variable {H : Type} [DecidableEq H] {hashId : SettlementPreimage H → H} {repo : Repository H}

omit [DecidableEq H] in
theorem pushEvent_records (event : Domain (SettlementEvent H)) (result : SettlementResult H) :
    (pushEvent repo event result).2.records = repo.records := by
  cases event <;> rfl

omit [DecidableEq H] in
theorem pushEvent_commands (event : Domain (SettlementEvent H)) (result : SettlementResult H) :
    (pushEvent repo event result).2.commands = repo.commands := by
  cases event <;> rfl

/-- A method succeeds when the event of its record is appended. -/
theorem pushEvent_eq_ok {record : SettlementRecord H} (h : assertRecord hashId record = .ok ())
    (eventType : SettlementEventType) (actorId : String) (reasonCode : Option String) (nowMs : ℕ)
    (result : SettlementResult H) :
    (pushEvent repo (eventFor hashId record eventType actorId reasonCode nowMs) result).1
      = .ok result := by
  obtain ⟨event, hevent, _⟩ := eventFor_ok h eventType actorId reasonCode nowMs
  rw [hevent]
  rfl

variable (hashId) in
/-- Every record passes the check. -/
def RecordsValid (repo : Repository H) : Prop :=
  ∀ id record, repo.records.get id = some record → assertRecord hashId record = .ok ()

theorem RecordsValid.set {repo' : Repository H} (h : RecordsValid hashId repo) {settlementId : H}
    {next : SettlementRecord H} (hnext : assertRecord hashId next = .ok ())
    (hrecords : repo'.records = repo.records.set settlementId next) :
    RecordsValid hashId repo' := by
  intro id record hget
  rw [hrecords, InsertionMap.get_set] at hget
  split at hget
  · rw [← Option.some.inj hget]
    exact hnext
  · exact h id record hget

theorem RecordsValid.invoke (h : RecordsValid hashId repo) (call : Call H) :
    RecordsValid hashId (Settlement.invoke hashId repo call).2 := by
  cases call with
  | create snapshot feePolicy guard idempotencyKeyHash nowMs =>
    rw [Settlement.invoke, create]
    split
    · exact h
    · rename_i candidate hcandidate
      split
      · split <;> exact h
      · split
        · exact h
        · exact h.set (createPendingRecord_ok hcandidate).1 (pushEvent_records _ _)
  | consumeObservation settlementId observation snapshot actorId nowMs =>
    rw [Settlement.invoke, consumeObservation]
    split
    · exact h
    · split
      · split <;> exact h
      · split
        · exact h
        · split
          · exact h
          · rename_i next hnext
            have hvalid : assertRecord hashId next = .ok () := by
              rcases transitionObservation_ok hnext with ⟨rfl, hvalid⟩ | ⟨_, hunsettled⟩
              · exact hvalid
              · exact hunsettled.valid
            exact h.set hvalid (pushEvent_records _ _)
  | settle settlementId snapshot guard feePolicy idempotencyKeyHash nowMs =>
    rw [Settlement.invoke, settle]
    split
    · split <;> exact h
    · split
      · exact h
      · split
        · exact h
        · rename_i outcome houtcome
          have hvalid : assertRecord hashId outcome.record = .ok () := by
            obtain ⟨_, _, ⟨_, _, hunsettled⟩ | ⟨_, _, _, hvalid, _⟩⟩ := settleRecord_ok houtcome
            · exact hunsettled.valid
            · exact hvalid
          exact h.set hvalid (pushEvent_records _ _)
  | reviseEvidence settlementId actorHash status reasonCode idempotencyKeyHash nowMs =>
    rw [Settlement.invoke, reviseEvidence.eq_def]
    split
    · split <;> exact h
    · split
      · exact h
      · split
        · exact h
        · rename_i next hnext
          exact h.set (revisePerformanceEvidence_ok hnext).1 (pushEvent_records _ _)

theorem RecordsValid.step {s : Service H} (h : RecordsValid hashId s.repository)
    (input : ServiceInput H) : RecordsValid hashId (serviceStep hashId s input).repository := by
  cases input with
  | request request answers =>
    rw [serviceStep]
    split <;> exact h
  | perform call =>
    rw [serviceStep]
    split
    · exact h.invoke _
    · exact h

/-- **Every record of every run passes the check.** -/
theorem recordsValid_after (inputs : List (ServiceInput H)) :
    RecordsValid hashId (Run.run (serviceStep hashId) .new inputs).repository := by
  have hnew : RecordsValid hashId (Service.new : Service H).repository := by
    intro id record hrecord
    cases hrecord
  exact Run.run_induct (P := fun s : Service H ↦ RecordsValid hashId s.repository)
    (fun _ input h ↦ h.step input) hnew inputs

/-- **A revision on the repository**, under a key that was not used before. -/
theorem reviseEvidence_iff (h : RecordsValid hashId repo) {settlementId : H}
    {record : SettlementRecord H} (hrecord : repo.records.get settlementId = some record)
    (hsettled : record.status.hasSettled) (actorHash : H) (status : PerformanceEvidenceStatus)
    {reasonCode : String} (hreason : safeCode "reasonCode" reasonCode = .ok ())
    {idempotencyKeyHash : H} (hfresh : repo.commands.get (.evidence, idempotencyKeyHash) = none)
    (nowMs : ℕ) :
    ∃ evidence, evidence.status = status ∧
      ((reviseEvidence hashId repo settlementId actorHash status reasonCode idempotencyKeyHash
          nowMs).1.isOk = true ↔ Revisable record nowMs) ∧
      (Revisable record nowMs →
        (reviseEvidence hashId repo settlementId actorHash status reasonCode idempotencyKeyHash
          nowMs).2.records
            = repo.records.set settlementId (revisedRecord hashId record evidence nowMs) ∧
        (reviseEvidence hashId repo settlementId actorHash status reasonCode idempotencyKeyHash
          nowMs).2.commands
            = repo.commands.set (.evidence, idempotencyKeyHash) ⟨none, settlementId⟩) ∧
      (¬ Revisable record nowMs →
        (reviseEvidence hashId repo settlementId actorHash status reasonCode idempotencyKeyHash
          nowMs).2 = repo) := by
  obtain ⟨evidence, hstatus, hrevise⟩ := revise_eq_ok_iff (h _ _ hrecord) hsettled actorHash status
    hreason nowMs
  refine ⟨evidence, hstatus, ?_⟩
  rw [reviseEvidence.eq_def, hfresh, hrecord]
  dsimp only
  by_cases hrevisable : Revisable record nowMs
  · have hok := (hrevise _).2 ⟨hrevisable, rfl⟩
    have hvalid := (revisePerformanceEvidence_ok hok).1
    rw [hok]
    dsimp only
    rw [pushEvent_eq_ok hvalid, pushEvent_records, pushEvent_commands]
    exact ⟨iff_of_true rfl hrevisable, fun _ ↦ ⟨rfl, rfl⟩, fun hnot ↦ absurd hrevisable hnot⟩
  · have herror : ∃ e, revisePerformanceEvidence hashId record actorHash status reasonCode nowMs
        = .error e := by
      cases hresult : revisePerformanceEvidence hashId record actorHash status reasonCode nowMs with
      | ok next => exact absurd ((hrevise next).1 hresult).1 hrevisable
      | error e => exact ⟨e, rfl⟩
    obtain ⟨e, herror⟩ := herror
    rw [herror]
    exact ⟨iff_of_false (fun h ↦ by cases h) hrevisable, fun hyes ↦ absurd hyes hrevisable,
      fun _ ↦ rfl⟩

end Records

/-! ## Revocations and issues -/

section Requests

variable {H : Type} [DecidableEq H] (hashId : SettlementPreimage H → H)

/-- A request whose call on the repository follows at once. -/
def respond (repo : Repository H) (answers : Answers H) (request : Request H) :
    Domain (SettlementResult H) × Repository H :=
  match plan hashId repo answers request with
  | .error e => (.error e, repo)
  | .ok call => invoke hashId repo call

/-- The request was accepted, and its settlement's evidence is now revoked. -/
def RevocationAccepted (settlementId : H)
    (outcome : Domain (SettlementResult H) × Repository H) : Prop :=
  outcome.1.isOk = true ∧
    (outcome.2.records.get settlementId).map (·.status) = some .evidenceRevoked

/-- `reasonCode` of a revocation -/
def revocationReasonCodes : List String :=
  ["source_evidence_invalidated", "settlement_correction_required", "privacy_revocation"]

variable {hashId} {repo : Repository H} {settlementId : H} {record : SettlementRecord H}

theorem safeCode_revocation {reasonCode : String} (h : reasonCode ∈ revocationReasonCodes) :
    safeCode "reasonCode" reasonCode = .ok () := by
  simp only [revocationReasonCodes, List.mem_cons, List.not_mem_nil, or_false] at h
  rcases h with rfl | rfl | rfl <;> decide

omit [DecidableEq H] in
theorem safeCode_issue (current : SettlementRecord H) :
    safeCode "reasonCode" (issueReasonCode current) = .ok () := by
  rw [issueReasonCode]
  split
  · decide
  · split <;> decide

/-- A revocation by a party that the guard admits gets as far as its call. -/
theorem plan_revoke (hrecord : repo.records.get settlementId = some record)
    (hactive : record.status = .evidenceActive) {idempotencyKey reasonCode : String}
    (hkey : identifier "idempotencyKey" idempotencyKey = .ok ())
    (hreason : reasonCode ∈ revocationReasonCodes) {answers : Answers H} {guard : GuardDecision H}
    (hanswer : answers.guard = .ok guard)
    (hguard : assertSettlementGuardDecision hashId guard "revoke_evidence" = .ok ()) :
    plan hashId repo answers (.revokePerformanceEvidence settlementId idempotencyKey reasonCode)
      = .ok (.reviseEvidence settlementId guard.actorHash .revoked reasonCode
          (hashId (.idempotencyKey idempotencyKey)) answers.nowMs) := by
  have hstatus : (repo.records.get settlementId).map (·.status) = some .evidenceActive := by
    rw [hrecord, Option.map_some, hactive]
  simp only [plan, hkey, hanswer, bind_eq_ok, invalid_eq_ok, evidenceUnavailable, throwIf_eq_ok,
    pure_eq_ok, not_not]
  exact ⟨(), hreason, (), trivial, (), hstatus, guard, rfl, (), hguard, rfl⟩

/-- An issue by a party that the guard admits gets as far as its call. -/
theorem plan_issue (hrecord : repo.records.get settlementId = some record)
    {idempotencyKey : String} (hkey : identifier "idempotencyKey" idempotencyKey = .ok ())
    {answers : Answers H} {guard : GuardDecision H} (hanswer : answers.guard = .ok guard)
    (hguard : assertSettlementGuardDecision hashId guard "issue_evidence" = .ok ()) :
    plan hashId repo answers (.issuePerformanceEvidence settlementId idempotencyKey)
      = .ok (.reviseEvidence settlementId guard.actorHash .active (issueReasonCode record)
          (hashId (.idempotencyKey idempotencyKey)) answers.nowMs) := by
  simp only [plan, findRecord, hrecord, hkey, hanswer, bind_eq_ok, pure_eq_ok]
  exact ⟨(), trivial, record, rfl, guard, rfl, (), hguard, rfl⟩

/-- Under a key that was used for an issue or a revocation, nothing is revised. -/
theorem reviseEvidence_of_used {actorHash : H} {status : PerformanceEvidenceStatus}
    {reasonCode : String} {idempotencyKeyHash : H} {entry : CommandEntry H}
    (hused : repo.commands.get (.evidence, idempotencyKeyHash) = some entry) (nowMs : ℕ) :
    (reviseEvidence hashId repo settlementId actorHash status reasonCode idempotencyKeyHash nowMs).2
      = repo := by
  rw [reviseEvidence.eq_def, hused]
  dsimp only
  split <;> rfl

/-- What decides a revocation on a repository whose records pass the check. -/
theorem respond_revoke_iff (h : RecordsValid hashId repo)
    (hrecord : repo.records.get settlementId = some record)
    (hactive : record.status = .evidenceActive) {idempotencyKey reasonCode : String}
    (hkey : identifier "idempotencyKey" idempotencyKey = .ok ())
    (hreason : reasonCode ∈ revocationReasonCodes) {answers : Answers H} {guard : GuardDecision H}
    (hanswer : answers.guard = .ok guard)
    (hguard : assertSettlementGuardDecision hashId guard "revoke_evidence" = .ok ()) :
    RevocationAccepted settlementId (respond hashId repo answers
        (.revokePerformanceEvidence settlementId idempotencyKey reasonCode)) ↔
      repo.commands.get (.evidence, hashId (.idempotencyKey idempotencyKey)) = none ∧
        Revisable record answers.nowMs := by
  have hsettled : record.status.hasSettled := by
    rw [hactive]
    decide
  rw [RevocationAccepted, respond, plan_revoke hrecord hactive hkey hreason hanswer hguard]
  dsimp only [invoke]
  cases hcommand : repo.commands.get (.evidence, hashId (.idempotencyKey idempotencyKey)) with
  | some entry =>
    rw [reviseEvidence_of_used hcommand]
    refine iff_of_false ?_ fun h ↦ by cases h.1
    rintro ⟨-, hrevoked⟩
    rw [hrecord, Option.map_some, hactive] at hrevoked
    cases hrevoked
  | none =>
    obtain ⟨evidence, hstatus, hiff, hafter, _⟩ := reviseEvidence_iff h hrecord hsettled
      guard.actorHash .revoked (safeCode_revocation hreason) hcommand answers.nowMs
    constructor
    · rintro ⟨hok, _⟩
      exact ⟨rfl, hiff.1 hok⟩
    · rintro ⟨-, hrevisable⟩
      refine ⟨hiff.2 hrevisable, ?_⟩
      rw [(hafter hrevisable).1, InsertionMap.get_set_self, Option.map_some]
      simp only [revisedRecord, hstatus, PerformanceEvidenceStatus.revised]

/-- **The evidence of a settlement can be revoked as long as there is a version for it.**  In every
run, a revocation of active evidence that the guard admits is accepted, and leaves it revoked, if
and only if its key was not used for an issue or a revocation before, the record has not reached the
limits of its two versions, and the evidence expires on a date. -/
theorem revocation_accepted_iff (inputs : List (ServiceInput H))
    (hrecord : (Run.run (serviceStep hashId) .new inputs).repository.records.get settlementId
      = some record)
    (hactive : record.status = .evidenceActive) {idempotencyKey reasonCode : String}
    (hkey : identifier "idempotencyKey" idempotencyKey = .ok ())
    (hreason : reasonCode ∈ revocationReasonCodes) {answers : Answers H} {guard : GuardDecision H}
    (hanswer : answers.guard = .ok guard)
    (hguard : assertSettlementGuardDecision hashId guard "revoke_evidence" = .ok ()) :
    RevocationAccepted settlementId
        (respond hashId (Run.run (serviceStep hashId) .new inputs).repository answers
          (.revokePerformanceEvidence settlementId idempotencyKey reasonCode)) ↔
      (Run.run (serviceStep hashId) .new inputs).repository.commands.get
          (.evidence, hashId (.idempotencyKey idempotencyKey)) = none ∧
        (record.performanceEvidenceVersion < 100 ∧ record.version < 1000000) ∧
          answers.nowMs + proofLifetimeMs ≤ maxDateMs :=
  respond_revoke_iff (recordsValid_after inputs) hrecord hactive hkey hreason hanswer hguard

/-! ## Runs of issues -/

/-- One more issue of a settlement's evidence, under a key of its own. -/
def issue (settlementId : H) (answers : Answers H) (idempotencyKey : String) :
    List (ServiceInput H) :=
  [.request (.issuePerformanceEvidence settlementId idempotencyKey) answers, .perform 0]

/-- What a run of issues has got to. -/
structure Issued (hashId : SettlementPreimage H → H) (settlementId : H) (keys : List String)
    (evidenceVersion version : ℕ) (s : Service H) : Prop where
  valid : RecordsValid hashId s.repository
  calls : s.calls = []
  /-- The keys that are still to come have not been used. -/
  fresh : ∀ key ∈ keys, s.repository.commands.get (.evidence, hashId (.idempotencyKey key)) = none
  record : ∃ record, s.repository.records.get settlementId = some record ∧
    record.status.hasSettled ∧ record.performanceEvidenceVersion = evidenceVersion ∧
    record.version = version ∧ (0 < evidenceVersion → record.status = .evidenceActive)

variable {keys : List String} {evidenceVersion version : ℕ} {s : Service H} {key : String}

/-- One issue takes one version of each kind. -/
theorem Issued.step (h : Issued hashId settlementId (key :: keys) evidenceVersion version s)
    (hkey : identifier "idempotencyKey" key = .ok ())
    (hapart : hashId (.idempotencyKey key) ∉ keys.map fun other ↦ hashId (.idempotencyKey other))
    (hevidence : evidenceVersion < 100) (hversion : version < 1000000)
    {answers : Answers H} {guard : GuardDecision H}
    (hdate : answers.nowMs + proofLifetimeMs ≤ maxDateMs) (hanswer : answers.guard = .ok guard)
    (hguard : assertSettlementGuardDecision hashId guard "issue_evidence" = .ok ()) :
    Issued hashId settlementId keys (evidenceVersion + 1) (version + 1)
      (Run.run (serviceStep hashId) s (issue settlementId answers key)) := by
  obtain ⟨record, hrecord, hsettled, rfl, rfl, _⟩ := h.record
  have hplan := plan_issue hrecord hkey hanswer hguard
  obtain ⟨evidence, hstatus, _, hafter, _⟩ := reviseEvidence_iff h.valid hrecord hsettled
    guard.actorHash .active (safeCode_issue record) (h.fresh key (List.mem_cons_self ..))
    answers.nowMs
  obtain ⟨hrecords, hcommands⟩ := hafter ⟨⟨hevidence, hversion⟩, hdate⟩
  have hrun : Run.run (serviceStep hashId) s (issue settlementId answers key)
      = { repository := (reviseEvidence hashId s.repository settlementId guard.actorHash .active
            (issueReasonCode record) (hashId (.idempotencyKey key)) answers.nowMs).2
          calls := [] } := by
    simp only [issue, Run.run, serviceStep, hplan, h.calls, List.nil_append,
      List.getElem?_cons_zero, invoke, List.eraseIdx_cons_zero]
  have hvalid := (h.valid.step (.request (.issuePerformanceEvidence settlementId key) answers)).step
    (.perform 0)
  refine ⟨hvalid, ?_, ?_, ?_⟩
  · rw [hrun]
  · intro other hother
    have hne : ((.evidence, hashId (.idempotencyKey other)) : CommandKind × H)
        ≠ (.evidence, hashId (.idempotencyKey key)) := by
      intro heq
      exact hapart (List.mem_map.2 ⟨other, hother, (Prod.mk.inj heq).2⟩)
    rw [hrun, hcommands, InsertionMap.get_set_of_ne _ _ hne]
    exact h.fresh other (List.mem_cons_of_mem _ hother)
  · refine ⟨_, by rw [hrun, hrecords, InsertionMap.get_set_self], ?_, rfl, rfl, fun _ ↦ ?_⟩
    · simp only [revisedRecord, hstatus, PerformanceEvidenceStatus.revised]
      decide
    · simp only [revisedRecord, hstatus, PerformanceEvidenceStatus.revised]

/-- **Issues go through up to the limit**, each of them taking one version. -/
theorem issues_run {answers : Answers H} {guard : GuardDecision H}
    (hdate : answers.nowMs + proofLifetimeMs ≤ maxDateMs)
    (hanswer : answers.guard = .ok guard)
    (hguard : assertSettlementGuardDecision hashId guard "issue_evidence" = .ok ())
    {rest : List String} :
    ∀ (keys : List String) {evidenceVersion version : ℕ} {s : Service H},
      Issued hashId settlementId (keys ++ rest) evidenceVersion version s →
      (∀ key ∈ keys, identifier "idempotencyKey" key = .ok ()) →
      ((keys ++ rest).map fun key ↦ hashId (.idempotencyKey key)).Nodup →
      evidenceVersion + keys.length ≤ 100 → version + keys.length ≤ 1000000 →
      Issued hashId settlementId rest (evidenceVersion + keys.length) (version + keys.length)
        (Run.run (serviceStep hashId) s (keys.flatMap (issue settlementId answers))) := by
  intro keys
  induction keys with
  | nil =>
    intro evidenceVersion version s h _ _ _ _
    exact h
  | cons key keys ih =>
    intro evidenceVersion version s h hkeys hnodup hevidence hversion
    rw [List.cons_append, List.map_cons, List.nodup_cons] at hnodup
    rw [List.length_cons] at hevidence hversion ⊢
    have hstep := h.step (hkeys key (List.mem_cons_self ..)) hnodup.1 (by omega) (by omega) hdate
      hanswer hguard
    rw [List.flatMap_cons, Run.run_append]
    have hrest := ih hstep (fun other hother ↦ hkeys other (List.mem_cons_of_mem _ hother)) hnodup.2
      (by omega) (by omega)
    rwa [Nat.add_right_comm, Nat.add_right_comm version 1] at hrest

end Requests

namespace Sample

/-- The sample run up to where the settlement is posted. -/
def settled : List (ServiceInput (List ℕ)) := inputs.take 8

/-- A key of its own for each issue. -/
def issueKey (k : ℕ) : String := String.ofList (List.replicate (k + 1) 'k')

/-- The keys of the issues that use up the versions. -/
def issueKeys : List String := (List.range 100).map issueKey

/-- Every version of the evidence is issued. -/
def exhausting : List (ServiceInput (List ℕ)) :=
  settled ++ issueKeys.flatMap (issue settlementId (answers "issue_evidence" 240))

theorem identifier_issueKey {k : ℕ} (hk : k < 100) :
    identifier "idempotencyKey" (issueKey k) = .ok () := by
  have hchar : 'k'.isAlphanum = true := by
    decide
  have hmatches : Trading.matchesIdentifierPattern (issueKey k) = true := by
    simp only [Trading.matchesIdentifierPattern, issueKey, String.toList_ofList,
      List.replicate_succ, List.all_replicate, hchar, List.length_replicate, Bool.true_or,
      Bool.true_and, decide_eq_true_eq, ite_self]
    omega
  rw [identifier, invalid_eq_ok, hmatches]
  rintro ⟨⟩

theorem issueKey_injective : Function.Injective fun k ↦ hashId (.idempotencyKey (issueKey k)) := by
  intro k l h
  have hlength := congrArg List.length h
  simp only [hashId, issueKey, String.toList_ofList, List.length_cons, List.length_map,
    List.length_replicate] at hlength
  omega

theorem issued_settled :
    Issued hashId settlementId (issueKeys ++ ["revoke"]) 0 3
      (Run.run (serviceStep hashId) .new settled) := by
  have hfacts : (Run.run (serviceStep hashId) .new settled).calls = [] ∧
      (∀ key ∈ (Run.run (serviceStep hashId) .new settled).repository.commands.keys,
        key.1 ≠ .evidence) ∧
      ((Run.run (serviceStep hashId) .new settled).repository.records.get settlementId).any
        (fun record ↦ record.status.hasSettled ∧ record.performanceEvidenceVersion = 0 ∧
          record.version = 3) = true := by
    decide +kernel
  obtain ⟨hcalls, hkinds, hrecord⟩ := hfacts
  refine ⟨recordsValid_after settled, hcalls, fun key _ ↦ ?_, ?_⟩
  · cases hget : (Run.run (serviceStep hashId) .new settled).repository.commands.get
        (.evidence, hashId (.idempotencyKey key)) with
    | none => rfl
    | some entry =>
      have hmem := (InsertionMap.mem_entries_iff _ _ _).2 hget
      exact absurd rfl (hkinds _ (List.mem_map_of_mem hmem))
  · rw [Option.any_eq_true] at hrecord
    obtain ⟨record, hget, hfacts⟩ := hrecord
    rw [decide_eq_true_eq] at hfacts
    exact ⟨record, hget, hfacts.1, hfacts.2.1, hfacts.2.2, fun hpos ↦ absurd hpos (by omega)⟩

/-- The hundred issues are all accepted. -/
theorem issued_exhausting :
    Issued hashId settlementId ["revoke"] 100 103
      (Run.run (serviceStep hashId) .new exhausting) := by
  have hkeys : ∀ key ∈ issueKeys, identifier "idempotencyKey" key = .ok () := by
    intro key hkey
    obtain ⟨k, hk, rfl⟩ := List.mem_map.1 hkey
    exact identifier_issueKey (List.mem_range.1 hk)
  have hnodup : ((issueKeys ++ ["revoke"]).map fun key ↦ hashId (.idempotencyKey key)).Nodup := by
    rw [List.map_append, issueKeys, List.map_map]
    refine List.nodup_append'.2 ⟨List.nodup_range.map issueKey_injective,
      List.nodup_singleton _, ?_⟩
    intro hash hissue hrevoke
    obtain ⟨k, _, rfl⟩ := List.mem_map.1 hissue
    have hfirst := congrArg (fun hash ↦ hash[1]?) (List.mem_singleton.1 hrevoke)
    simp only [Function.comp_apply, hashId, issueKey, String.toList_ofList, List.replicate_succ,
      List.map_cons, List.getElem?_cons_succ, List.getElem?_cons_zero] at hfirst
    exact absurd hfirst (by decide)
  have hlength : issueKeys.length = 100 := by
    rw [issueKeys, List.length_map, List.length_range]
  have hguard : (answers "issue_evidence" 240).guard = .ok _ := rfl
  have hrun := issues_run (by decide) hguard (by decide) issueKeys issued_settled hkeys hnodup
      (by omega)
    (by omega)
  rw [hlength, ← Run.run_append] at hrun
  exact hrun

/-- The settlement can be revoked where its evidence has been issued once. -/
theorem revocable :
    ∃ record, (Run.run (serviceStep hashId) .new (inputs.take 10)).repository.records.get
      settlementId
        = some record ∧ record.status = .evidenceActive ∧ record.performanceEvidenceVersion = 1 ∧
      record.version = 4 ∧
      (Run.run (serviceStep hashId) .new (inputs.take 10)).repository.commands.get
        (.evidence, hashId (.idempotencyKey "revoke")) = none := by
  have hfacts : ((Run.run (serviceStep hashId) .new (inputs.take 10)).repository.records.get
      settlementId).any (fun record ↦ record.status = .evidenceActive ∧
        record.performanceEvidenceVersion = 1 ∧ record.version = 4) = true ∧
      (Run.run (serviceStep hashId) .new (inputs.take 10)).repository.commands.get
        (.evidence, hashId (.idempotencyKey "revoke")) = none := by
    decide +kernel
  rw [Option.any_eq_true] at hfacts
  obtain ⟨⟨record, hget, hfacts⟩, hfresh⟩ := hfacts
  rw [decide_eq_true_eq] at hfacts
  exact ⟨record, hget, hfacts.1, hfacts.2.1, hfacts.2.2, hfresh⟩

end Sample

/-- Evidence that was issued once can be revoked. -/
theorem revocation_accepted_first :
    RevocationAccepted Sample.settlementId
      (respond Sample.hashId
        (Run.run (serviceStep Sample.hashId) .new (Sample.inputs.take 10)).repository
        (Sample.answers "revoke_evidence" 250)
        (.revokePerformanceEvidence Sample.settlementId "revoke" "privacy_revocation")) := by
  obtain ⟨record, hrecord, hactive, hevidence, hversion, hfresh⟩ := Sample.revocable
  exact (revocation_accepted_iff (Sample.inputs.take 10) hrecord hactive (by decide) (by decide) rfl
    (by decide)).2 ⟨hfresh, ⟨by omega, by omega⟩, by decide⟩

/-- **Evidence that was issued a hundred times cannot be revoked.** -/
theorem evidence_irrevocable :
    ∃ record, (Run.run (serviceStep Sample.hashId) .new Sample.exhausting).repository.records.get
        Sample.settlementId = some record ∧
      record.status = .evidenceActive ∧
      ((Sample.answers "revoke_evidence" 250).guard >>= fun guard ↦
        assertSettlementGuardDecision Sample.hashId guard "revoke_evidence") = .ok () ∧
      (Run.run (serviceStep Sample.hashId) .new Sample.exhausting).repository.commands.get
        (.evidence, Sample.hashId (.idempotencyKey "revoke")) = none ∧
      ¬ RevocationAccepted Sample.settlementId
        (respond Sample.hashId
          (Run.run (serviceStep Sample.hashId) .new Sample.exhausting).repository
          (Sample.answers "revoke_evidence" 250)
          (.revokePerformanceEvidence Sample.settlementId "revoke" "privacy_revocation")) := by
  obtain ⟨hvalid, _, hfresh, record, hrecord, hsettled, hevidence, _, hactive⟩ :=
    Sample.issued_exhausting
  have hunused := hfresh "revoke" (List.mem_cons_self ..)
  refine ⟨record, hrecord, hactive (by decide), by decide, hunused, fun haccepted ↦ ?_⟩
  obtain ⟨-, hversions, -⟩ := (respond_revoke_iff hvalid hrecord (hactive (by decide)) (by decide)
    (by decide) rfl (by decide)).1 haccepted
  exact absurd hversions.1 (by omega)

end Settlement
end Hyperliquid
end IpoOne
