import IpoOne.Hyperliquid.Revocation
import IpoOne.Lib.PrefixCode

/-!
# Preparing a settlement twice

A retry of `prepare` is recognized by its request hash.  That is a digest of what the collaborators
answered, and of the identity of the settlement, whose `createdAt` is the time of the call.  So
`prepare_retry_iff`: the same request under the same key is answered with the stored record if and
only if the collaborators answer alike and the clock has not moved, and any other request under the
key is refused.
-/

set_option autoImplicit false

namespace IpoOne
namespace Hyperliquid
namespace Settlement

open Fallible

/-! ## The terms of a preparation -/

/-- What a preparation is asked with, but for the key and the clock. -/
structure PrepareTerms (H : Type) where
  /-- The identity, dated at the origin of time. -/
  identity : RecordIdentity H
  authorizationDecisionHash : H
  admissionDecisionHash : H
  deriving DecidableEq

section Terms

variable {H : Type} [DecidableEq H] (hashId : SettlementPreimage H → H)

/-- The terms that the answers of the collaborators make. -/
def prepareTerms (snapshot : KernelSnapshot H) (feePolicy : FeePolicy H)
    (guard : GuardDecision H) : PrepareTerms H where
  identity := draft snapshot feePolicy 0
  authorizationDecisionHash := guard.authorizationDecisionHash
  admissionDecisionHash := guard.admissionDecisionHash

/-- The identity of a settlement that is prepared on these terms at `nowMs`. -/
def PrepareTerms.identityAt {H : Type} (terms : PrepareTerms H) (nowMs : ℕ) : RecordIdentity H :=
  { terms.identity with createdAt := nowMs }

/-- `requestHash` of a preparation -/
def requestHashOf (terms : PrepareTerms H) (idempotencyKeyHash : H) (nowMs : ℕ) : H :=
  hashId (.settlementPrepareRequest (hashId (.settlementIdentity (terms.identityAt nowMs)))
    idempotencyKeyHash terms.authorizationDecisionHash terms.admissionDecisionHash)

/-- What `#commands` keeps of a preparation. -/
def prepareEntry (terms : PrepareTerms H) (idempotencyKeyHash : H) (nowMs : ℕ) :
    CommandEntry H where
  requestHash := some (requestHashOf hashId terms idempotencyKeyHash nowMs)
  settlementId := settlementIdOf hashId (terms.identityAt nowMs)

/-- The collaborators lead a preparation of a facility with this hash to these terms. -/
def Prepares (answers : Answers H) (facilityHash : H) (terms : PrepareTerms H) : Prop :=
  ∃ snapshot feePolicy guard, answers.snapshot = .ok snapshot ∧
    snapshot.facilityHash = facilityHash ∧ answers.feePolicy = .ok feePolicy ∧
    answers.guard = .ok guard ∧ assertSettlementGuardDecision hashId guard "prepare" = .ok () ∧
    prepareTerms snapshot feePolicy guard = terms

/-- The kernel resolver answers for the facility that it is asked about. -/
def Resolves (answers : Answers H) (facilityId : String) : Prop :=
  ∀ snapshot, answers.snapshot = .ok snapshot → snapshot.facilityId = facilityId

/-- Two preparations are told apart by their request hashes, and two settlements by theirs. -/
structure PreparationsApart : Prop where
  request_eq : ∀ {a b key key' authorization authorization' admission admission' : H},
    hashId (.settlementPrepareRequest a key authorization admission)
        = hashId (.settlementPrepareRequest b key' authorization' admission') →
      a = b ∧ authorization = authorization' ∧ admission = admission'
  identity_eq : ∀ {a b : RecordIdentity H},
    hashId (.settlementIdentity a) = hashId (.settlementIdentity b) → a = b

variable {hashId} {repo : Repository H} {terms terms' : PrepareTerms H}

omit [DecidableEq H] in
/-- **The request hash tells the terms, and the time.** -/
theorem requestHashOf_inj (hapart : PreparationsApart hashId) {idempotencyKeyHash : H}
    {nowMs nowMs' : ℕ} (h : requestHashOf hashId terms idempotencyKeyHash nowMs
      = requestHashOf hashId terms' idempotencyKeyHash nowMs') :
    terms.identityAt nowMs = terms'.identityAt nowMs' ∧
      terms.authorizationDecisionHash = terms'.authorizationDecisionHash ∧
      terms.admissionDecisionHash = terms'.admissionDecisionHash := by
  obtain ⟨hidentity, hauthorization, hadmission⟩ := hapart.request_eq h
  exact ⟨hapart.identity_eq hidentity, hauthorization, hadmission⟩

/-- The request hash of terms that the collaborators gave. -/
theorem terms_eq_of_requestHashOf (hapart : PreparationsApart hashId) {answers answers' : Answers H}
    {facilityHash facilityHash' : H} (hterms : Prepares hashId answers facilityHash terms)
    (hterms' : Prepares hashId answers' facilityHash' terms') {idempotencyKeyHash : H}
    {nowMs nowMs' : ℕ} (h : requestHashOf hashId terms idempotencyKeyHash nowMs
      = requestHashOf hashId terms' idempotencyKeyHash nowMs') :
    terms = terms' ∧ nowMs = nowMs' := by
  obtain ⟨hidentity, hauthorization, hadmission⟩ := requestHashOf_inj hapart h
  obtain ⟨snapshot, feePolicy, guard, _, _, _, _, _, rfl⟩ := hterms
  obtain ⟨snapshot', feePolicy', guard', _, _, _, _, _, rfl⟩ := hterms'
  have hundated := congrArg (fun identity ↦ { identity with createdAt := 0 }) hidentity
  have hdated := congrArg RecordIdentity.createdAt hidentity
  refine ⟨?_, hdated⟩
  rw [prepareTerms, prepareTerms, PrepareTerms.mk.injEq]
  exact ⟨hundated, hauthorization, hadmission⟩

/-! ## One call -/

/-- A request to prepare gets as far as its call exactly if its input is well formed and its
collaborators lead it to terms. -/
theorem plan_prepare {answers : Answers H} {facilityId idempotencyKey : String} {facilityHash : H}
    {call : Call H} :
    plan hashId repo answers (.prepare facilityId facilityHash idempotencyKey) = .ok call ↔
      identifier "facilityId" facilityId = .ok () ∧
        identifier "idempotencyKey" idempotencyKey = .ok () ∧
        ∃ snapshot feePolicy guard, answers.snapshot = .ok snapshot ∧
          snapshot.facilityHash = facilityHash ∧ answers.feePolicy = .ok feePolicy ∧
          answers.guard = .ok guard ∧
          assertSettlementGuardDecision hashId guard "prepare" = .ok () ∧
          call = .create snapshot feePolicy guard (hashId (.idempotencyKey idempotencyKey))
            answers.nowMs := by
  simp only [plan, kernelUnavailable, bind_eq_ok, throwIf_eq_ok, pure_eq_ok, not_not]
  constructor
  · rintro ⟨_, hfacility, _, hkey, snapshot, hsnapshot, _, hhash, feePolicy, hpolicy, guard,
      hanswer, _, hguard, rfl⟩
    exact ⟨hfacility, hkey, snapshot, feePolicy, guard, hsnapshot, hhash, hpolicy, hanswer, hguard,
      rfl⟩
  · rintro ⟨hfacility, hkey, snapshot, feePolicy, guard, hsnapshot, hhash, hpolicy, hanswer, hguard,
      rfl⟩
    exact ⟨(), hfacility, (), hkey, snapshot, hsnapshot, (), hhash, feePolicy, hpolicy, guard,
      hanswer, (), hguard, rfl⟩

/-- What a pending record takes from its terms. -/
theorem createPendingRecord_eq_of_terms {snapshot snapshot' : KernelSnapshot H}
    {feePolicy feePolicy' : FeePolicy H} {guard guard' : GuardDecision H}
    (h : prepareTerms snapshot feePolicy guard = prepareTerms snapshot' feePolicy' guard')
    (idempotencyKeyHash : H) (nowMs : ℕ) :
    createPendingRecord hashId snapshot feePolicy guard idempotencyKeyHash nowMs
      = createPendingRecord hashId snapshot' feePolicy' guard' idempotencyKeyHash nowMs := by
  rw [prepareTerms, prepareTerms, PrepareTerms.mk.injEq] at h
  obtain ⟨hidentity, hauthorization, hadmission⟩ := h
  have hdraft : draft snapshot feePolicy nowMs = draft snapshot' feePolicy' nowMs :=
    congrArg (fun identity ↦ { identity with createdAt := nowMs }) hidentity
  simp only [createPendingRecord, hdraft, hauthorization, hadmission]

/-- The record of a preparation carries its entry. -/
theorem createPendingRecord_entry {snapshot : KernelSnapshot H} {feePolicy : FeePolicy H}
    {guard : GuardDecision H} {idempotencyKeyHash : H} {nowMs : ℕ} {record : SettlementRecord H}
    (h : createPendingRecord hashId snapshot feePolicy guard idempotencyKeyHash nowMs
      = .ok record) :
    CommandEntry.mk (some record.requestHash) record.settlementId
      = prepareEntry hashId (prepareTerms snapshot feePolicy guard) idempotencyKeyHash nowMs := by
  simp only [createPendingRecord, bind_eq_ok, pure_eq_ok] at h
  obtain ⟨_, _, rfl⟩ := h
  rfl

end Terms

/-! ## The preparations of a run -/

section Preparations

variable {H : Type} [DecidableEq H] {hashId : SettlementPreimage H → H} {repo repo' : Repository H}

/-- What a call does to the records and to the preparations. -/
inductive Prepared (hashId : SettlementPreimage H → H) (repo repo' : Repository H) : Prop
  | unchanged (records : repo'.records = repo.records)
      (commands : ∀ key, repo'.commands.get (.prepare, key) = repo.commands.get (.prepare, key))
  | updated (settlementId : H) (next : SettlementRecord H)
      (records : repo'.records = repo.records.set settlementId next)
      (commands : ∀ key, repo'.commands.get (.prepare, key) = repo.commands.get (.prepare, key))
  | prepared (terms : PrepareTerms H) (key : H) (nowMs : ℕ) (next : SettlementRecord H)
      (fresh : repo.commands.get (.prepare, key) = none)
      (records : repo'.records
        = repo.records.set (settlementIdOf hashId (terms.identityAt nowMs)) next)
      (commands : repo'.commands
        = repo.commands.set (.prepare, key) (prepareEntry hashId terms key nowMs))

theorem get_prepare_set (kind : CommandKind) (hkind : kind ≠ .prepare) (key key' : H)
    (entry : CommandEntry H) :
    (repo.commands.set (kind, key') entry).get (.prepare, key)
      = repo.commands.get (.prepare, key) :=
  InsertionMap.get_set_of_ne _ _ fun heq ↦ hkind (Prod.mk.inj heq).1.symm

theorem prepared_invoke (repo : Repository H) (call : Call H) :
    Prepared hashId repo (invoke hashId repo call).2 := by
  have hunchanged : Prepared hashId repo repo := .unchanged rfl fun _ ↦ rfl
  cases call with
  | create snapshot feePolicy guard idempotencyKeyHash nowMs =>
    rw [invoke, create]
    split
    · exact hunchanged
    · rename_i candidate hcandidate
      split
      · split <;> exact hunchanged
      · rename_i hfresh
        split
        · exact hunchanged
        · have hentry := createPendingRecord_entry hcandidate
          refine .prepared (prepareTerms snapshot feePolicy guard) idempotencyKeyHash nowMs
            candidate
            hfresh ?_ ?_
          · rw [pushEvent_records, (CommandEntry.mk.inj hentry).2]
          · rw [pushEvent_commands, ← hentry]
  | consumeObservation settlementId observation snapshot actorId nowMs =>
    rw [invoke, consumeObservation]
    split
    · exact hunchanged
    · split
      · split <;> exact hunchanged
      · split
        · exact hunchanged
        · split
          · exact hunchanged
          · refine .updated settlementId _ (pushEvent_records _ _) fun key ↦ ?_
            rw [pushEvent_commands]
  | settle settlementId snapshot guard feePolicy idempotencyKeyHash nowMs =>
    rw [invoke, settle]
    split
    · split <;> exact hunchanged
    · split
      · exact hunchanged
      · split
        · exact hunchanged
        · refine .updated settlementId _ (pushEvent_records _ _) fun key ↦ ?_
          rw [pushEvent_commands]
          exact get_prepare_set .settle (by decide) key _ _
  | reviseEvidence settlementId actorHash status reasonCode idempotencyKeyHash nowMs =>
    rw [invoke, reviseEvidence.eq_def]
    split
    · split <;> exact hunchanged
    · split
      · exact hunchanged
      · split
        · exact hunchanged
        · refine .updated settlementId _ (pushEvent_records _ _) fun key ↦ ?_
          rw [pushEvent_commands]
          exact get_prepare_set .evidence (by decide) key _ _

theorem prepared_step (s : Service H) (input : ServiceInput H) :
    Prepared hashId s.repository (serviceStep hashId s input).repository := by
  cases input with
  | request request answers =>
    rw [serviceStep]
    split <;> exact .unchanged rfl fun _ ↦ rfl
  | perform call =>
    rw [serviceStep]
    split
    · exact prepared_invoke s.repository _
    · exact .unchanged rfl fun _ ↦ rfl

/-- A key whose preparation is kept, and whose record is there. -/
structure HasPreparation (key : H) (entry : CommandEntry H) (repo : Repository H) : Prop where
  kept : repo.commands.get (.prepare, key) = some entry
  stored : ∃ record, repo.records.get entry.settlementId = some record

theorem exists_get_set {m : InsertionMap H (SettlementRecord H)} {id : H} (id' : H)
    (next : SettlementRecord H) (h : ∃ record, m.get id = some record) :
    ∃ record, (m.set id' next).get id = some record := by
  obtain ⟨record, hrecord⟩ := h
  rw [InsertionMap.get_set]
  split
  · exact ⟨next, rfl⟩
  · exact ⟨record, hrecord⟩

/-- **A preparation stays as it is**, whatever is done next. -/
theorem HasPreparation.of_prepared {key : H} {entry : CommandEntry H}
    (h : HasPreparation key entry repo) (hprepared : Prepared hashId repo repo') :
    HasPreparation key entry repo' := by
  obtain ⟨hentry, hrecord⟩ := h
  cases hprepared with
  | unchanged records commands =>
    exact ⟨by rw [commands, hentry], by rwa [records]⟩
  | updated settlementId next records commands =>
    exact ⟨by rw [commands, hentry], by rw [records]; exact exists_get_set _ _ hrecord⟩
  | prepared terms key' nowMs next fresh records commands =>
    have hne : ((.prepare, key) : CommandKind × H) ≠ (.prepare, key') := by
      rintro ⟨⟩
      rw [fresh] at hentry
      cases hentry
    refine ⟨?_, by rw [records]; exact exists_get_set _ _ hrecord⟩
    rw [commands, InsertionMap.get_set_of_ne _ _ hne, hentry]

theorem HasPreparation.run {key : H} {entry : CommandEntry H} {s : Service H}
    (h : HasPreparation key entry s.repository) (inputs : List (ServiceInput H)) :
    HasPreparation key entry (Run.run (serviceStep hashId) s inputs).repository :=
  Run.run_induct (P := fun s : Service H ↦ HasPreparation key entry s.repository)
    (fun s input hs ↦ hs.of_prepared (prepared_step s input)) h inputs

variable (hashId) in
/-- Every preparation that is kept is one on some terms, and has its record. -/
def PreparationsKept (repo : Repository H) : Prop :=
  ∀ key entry, repo.commands.get (.prepare, key) = some entry →
    HasPreparation key entry repo ∧ ∃ terms nowMs, entry = prepareEntry hashId terms key nowMs

theorem PreparationsKept.of_prepared (h : PreparationsKept hashId repo)
    (hprepared : Prepared hashId repo repo') : PreparationsKept hashId repo' := by
  intro key entry hentry
  by_cases hold : repo.commands.get (.prepare, key) = some entry
  · obtain ⟨hhas, hterms⟩ := h key entry hold
    exact ⟨hhas.of_prepared hprepared, hterms⟩
  · -- it is the one that was just made
    cases hprepared with
    | unchanged records commands =>
      rw [commands] at hentry
      exact absurd hentry hold
    | updated settlementId next records commands =>
      rw [commands] at hentry
      exact absurd hentry hold
    | prepared terms key' nowMs next fresh records commands =>
      have hget := hentry
      rw [commands, InsertionMap.get_set] at hget
      split at hget
      · rename_i heq
        cases heq
        cases hget
        exact ⟨⟨hentry, next, by rw [records]; exact InsertionMap.get_set_self ..⟩, terms,
          nowMs, rfl⟩
      · exact absurd hget hold

theorem preparationsKept_after (inputs : List (ServiceInput H)) :
    PreparationsKept hashId (Run.run (serviceStep hashId) .new inputs).repository := by
  have hnew : PreparationsKept hashId (Service.new : Service H).repository := by
    intro key entry hentry
    cases hentry
  exact Run.run_induct (P := fun s : Service H ↦ PreparationsKept hashId s.repository)
    (fun s input hs ↦ hs.of_prepared (prepared_step s input)) hnew inputs

/-- **The store of settlements is sound** in every run, whatever the calls and however they
interleave: every record passes the check of the service, and every preparation that was accepted
has its settlement, under the entry that its terms give. -/
theorem settlement_store_sound (inputs : List (ServiceInput H)) :
    RecordsValid hashId (Run.run (serviceStep hashId) .new inputs).repository ∧
      PreparationsKept hashId (Run.run (serviceStep hashId) .new inputs).repository :=
  ⟨recordsValid_after inputs, preparationsKept_after inputs⟩

end Preparations

/-! ## A call and its retry -/

section Retry

variable {H : Type} [DecidableEq H] {hashId : SettlementPreimage H → H} {repo : Repository H}
  {answers : Answers H} {facilityId idempotencyKey : String} {facilityHash : H}
  {terms : PrepareTerms H}

/-- What a preparation that succeeds has met. -/
structure PrepareSucceeds (hashId : SettlementPreimage H → H) (repo' : Repository H)
    (answers : Answers H) (facilityId idempotencyKey : String) (terms : PrepareTerms H) : Prop where
  facility : identifier "facilityId" facilityId = .ok ()
  key : identifier "idempotencyKey" idempotencyKey = .ok ()
  candidate : ∀ snapshot feePolicy guard, prepareTerms snapshot feePolicy guard = terms →
    ∃ record, createPendingRecord hashId snapshot feePolicy guard
      (hashId (.idempotencyKey idempotencyKey)) answers.nowMs = .ok record
  kept : HasPreparation (hashId (.idempotencyKey idempotencyKey))
    (prepareEntry hashId terms (hashId (.idempotencyKey idempotencyKey)) answers.nowMs) repo'

/-- **A preparation that succeeds is kept** under its own terms, also where it was a retry. -/
theorem prepareSucceeds (hapart : PreparationsApart hashId) (hkept : PreparationsKept hashId repo)
    (hterms : Prepares hashId answers facilityHash terms)
    (h : (respond hashId repo answers (.prepare facilityId facilityHash idempotencyKey)).1.isOk
      = true) :
    PrepareSucceeds hashId
      (respond hashId repo answers (.prepare facilityId facilityHash idempotencyKey)).2 answers
      facilityId idempotencyKey terms := by
  cases hplan : plan hashId repo answers (.prepare facilityId facilityHash idempotencyKey) with
  | error e =>
    rw [respond, hplan] at h
    cases h
  | ok call =>
    obtain ⟨hfacility, hkey, snapshot, feePolicy, guard, hsnapshot, _, hpolicy, hanswer, _, rfl⟩ :=
      plan_prepare.1 hplan
    -- the terms are those of what the collaborators answered
    obtain ⟨snapshot', feePolicy', guard', hsnapshot', _, hpolicy', hanswer', _, hterms⟩ := hterms
    obtain rfl := Except.ok.inj (hsnapshot.symm.trans hsnapshot')
    obtain rfl := Except.ok.inj (hpolicy.symm.trans hpolicy')
    obtain rfl := Except.ok.inj (hanswer.symm.trans hanswer')
    rw [respond, hplan] at h ⊢
    dsimp only [invoke] at h ⊢
    set key := hashId (.idempotencyKey idempotencyKey)
    cases hcandidate : createPendingRecord hashId snapshot feePolicy guard key answers.nowMs with
    | error e =>
      rw [create, hcandidate] at h
      cases h
    | ok candidate =>
      have hentry := createPendingRecord_entry hcandidate
      rw [hterms] at hentry
      obtain ⟨hrequest, hid⟩ := CommandEntry.mk.inj hentry
      refine ⟨hfacility, hkey, ?_, ?_⟩
      · intro snapshot' feePolicy' guard' hterms'
        exact ⟨candidate, by
          rw [createPendingRecord_eq_of_terms (hterms'.trans hterms.symm), hcandidate]⟩
      · rw [create, hcandidate] at h ⊢
        dsimp only at h ⊢
        cases hreplay : repo.commands.get (.prepare, key) with
        | some entry =>
          rw [hreplay] at h
          obtain ⟨hhas, terms', nowMs', rfl⟩ := hkept key entry hreplay
          dsimp only at h ⊢
          split at h
          · cases h
          · rename_i hsame
            rw [if_neg hsame]
            rw [not_not, hrequest] at hsame
            obtain ⟨hidentity, _⟩ := requestHashOf_inj hapart (Option.some.inj hsame)
            have heq : prepareEntry hashId terms' key nowMs'
                = prepareEntry hashId terms key answers.nowMs := by
              rw [prepareEntry, prepareEntry, Option.some.inj hsame, hidentity]
            rwa [heq] at hhas
        | none =>
          rw [hreplay] at h
          dsimp only at h ⊢
          split at h
          · cases h
          · rename_i hfree
            rw [if_neg hfree]
            refine ⟨?_, candidate, ?_⟩
            · rw [pushEvent_commands, ← hentry]
              exact InsertionMap.get_set_self ..
            · rw [pushEvent_records]
              exact hid ▸ InsertionMap.get_set_self ..

/-- What a caller of `prepare` asks for, but for the key. -/
def SameRequest (facilityId : String) (facilityHash : H) (facilityId' : String)
    (facilityHash' : H) : Prop :=
  facilityId' = facilityId ∧ facilityHash' = facilityHash

/-- The collaborators lead the later call to the terms of the earlier one, in the same
millisecond. -/
structure AnswersAlike (hashId : SettlementPreimage H → H) (answers answers' : Answers H)
    (facilityHash : H) (terms : PrepareTerms H) : Prop where
  terms : Prepares hashId answers' facilityHash terms
  now : answers'.nowMs = answers.nowMs

/-- The answer is the stored record, as a replay, and nothing changes. -/
def Replayed (repo : Repository H) (settlementId : H)
    (outcome : Domain (SettlementResult H) × Repository H) : Prop :=
  ∃ record, repo.records.get settlementId = some record ∧
    outcome = (.ok { record := some record, replayed := true }, repo)

/-- The call is refused, and nothing changes. -/
def Rejected (repo : Repository H) (outcome : Domain (SettlementResult H) × Repository H) : Prop :=
  ∃ e, outcome = (.error e, repo)

variable {repo' : Repository H} {answers' : Answers H} {facilityId' : String} {facilityHash' : H}

/-- A call under a key that is kept is a replay exactly if it has the same request hash. -/
theorem create_of_kept {snapshot : KernelSnapshot H} {feePolicy : FeePolicy H}
    {guard : GuardDecision H} {key : H} {nowMs nowMs' : ℕ} {record : SettlementRecord H}
    (hkept : HasPreparation key (prepareEntry hashId terms key nowMs) repo)
    (hcandidate : createPendingRecord hashId snapshot feePolicy guard key nowMs' = .ok record) :
    (requestHashOf hashId terms key nowMs
          = requestHashOf hashId (prepareTerms snapshot feePolicy guard) key nowMs' →
        Replayed repo (settlementIdOf hashId (terms.identityAt nowMs))
          (create hashId repo snapshot feePolicy guard key nowMs')) ∧
      (requestHashOf hashId terms key nowMs
          ≠ requestHashOf hashId (prepareTerms snapshot feePolicy guard) key nowMs' →
        Rejected repo (create hashId repo snapshot feePolicy guard key nowMs')) := by
  obtain ⟨hentry, stored, hstored⟩ := hkept
  obtain ⟨hrequest, _⟩ := CommandEntry.mk.inj (createPendingRecord_entry hcandidate)
  rw [create, hcandidate, hentry]
  dsimp only
  rw [hrequest]
  constructor
  · intro heq
    have hsame : (prepareEntry hashId terms key nowMs).requestHash
        = some (requestHashOf hashId (prepareTerms snapshot feePolicy guard) key nowMs') :=
      congrArg some heq
    rw [if_neg (not_not.2 hsame)]
    exact ⟨stored, hstored, by rw [hstored]⟩
  · intro hne
    have hother : (prepareEntry hashId terms key nowMs).requestHash
        ≠ some (requestHashOf hashId (prepareTerms snapshot feePolicy guard) key nowMs') :=
      fun heq ↦ hne (Option.some.inj heq)
    rw [if_pos hother]
    exact ⟨_, rfl⟩

/-- **What a second call under the key of a preparation comes to.** -/
theorem respond_retry (hapart : PreparationsApart hashId)
    (hterms : Prepares hashId answers facilityHash terms) (hresolves : Resolves answers facilityId)
    (hresolves' : Resolves answers' facilityId')
    (h : PrepareSucceeds hashId repo' answers facilityId idempotencyKey terms) :
    (SameRequest facilityId facilityHash facilityId' facilityHash' ∧
          AnswersAlike hashId answers answers' facilityHash terms →
        Replayed repo' (settlementIdOf hashId (terms.identityAt answers.nowMs))
          (respond hashId repo' answers' (.prepare facilityId' facilityHash' idempotencyKey))) ∧
      (¬ (SameRequest facilityId facilityHash facilityId' facilityHash' ∧
          AnswersAlike hashId answers answers' facilityHash terms) →
        Rejected repo'
          (respond hashId repo' answers' (.prepare facilityId' facilityHash' idempotencyKey))) := by
  constructor
  · rintro ⟨⟨rfl, rfl⟩,
      ⟨snapshot, feePolicy, guard, hsnapshot, hhash, hpolicy, hanswer, hguard, rfl⟩, hnow⟩
    have hplan : plan hashId repo' answers' (.prepare facilityId' facilityHash' idempotencyKey)
        = .ok (.create snapshot feePolicy guard (hashId (.idempotencyKey idempotencyKey))
          answers'.nowMs) :=
      plan_prepare.2 ⟨h.facility, h.key, snapshot, feePolicy, guard, hsnapshot, hhash, hpolicy,
        hanswer, hguard, rfl⟩
    obtain ⟨record, hrecord⟩ := h.candidate snapshot feePolicy guard rfl
    rw [respond, hplan]
    dsimp only [invoke]
    rw [hnow]
    exact (create_of_kept h.kept hrecord).1 rfl
  · intro hother
    cases hplan : plan hashId repo' answers'
      (.prepare facilityId' facilityHash' idempotencyKey) with
    | error e =>
      rw [respond, hplan]
      exact ⟨e, rfl⟩
    | ok call =>
      obtain ⟨_, _, snapshot, feePolicy, guard, hsnapshot, hhash, hpolicy, hanswer, hguard, rfl⟩ :=
        plan_prepare.1 hplan
      rw [respond, hplan]
      dsimp only [invoke]
      cases hcandidate : createPendingRecord hashId snapshot feePolicy guard
          (hashId (.idempotencyKey idempotencyKey)) answers'.nowMs with
      | error e =>
        rw [create, hcandidate]
        exact ⟨e, rfl⟩
      | ok record =>
        refine (create_of_kept h.kept hcandidate).2 fun heq ↦ hother ?_
        have hterms' : Prepares hashId answers' facilityHash'
            (prepareTerms snapshot feePolicy guard) :=
          ⟨snapshot, feePolicy, guard, hsnapshot, hhash, hpolicy, hanswer, hguard, rfl⟩
        obtain ⟨hsame, hnow⟩ := terms_eq_of_requestHashOf hapart hterms hterms' heq
        have hfacilityHash : facilityHash' = facilityHash := by
          obtain ⟨first, _, _, _, hfirst, _, _, _, rfl⟩ := hterms
          rw [← hhash, ← hfirst]
          exact (congrArg (fun terms ↦ terms.identity.facilityHash) hsame).symm
        refine ⟨⟨?_, hfacilityHash⟩, ⟨hfacilityHash ▸ hsame ▸ hterms', hnow.symm⟩⟩
        obtain ⟨first, _, _, hfirst, _, _, _, _, rfl⟩ := hterms
        rw [← hresolves' snapshot hsnapshot, ← hresolves first hfirst]
        exact (congrArg (fun terms ↦ terms.identity.facilityId) hsame).symm

/-- **A retry is recognized only while the clock stands still.**  In every run, after a preparation
that succeeded and whatever was done since, a second call under its key meets what is asked of it,
to be answered with the stored record if the request is the same and to be refused if it is not, if
and only if it is another request, or the collaborators answer alike and it comes at the same
millisecond. -/
theorem prepare_retry_iff (hapart : PreparationsApart hashId) (inputs later : List (ServiceInput H))
    (hterms : Prepares hashId answers facilityHash terms) (hresolves : Resolves answers facilityId)
    (hresolves' : Resolves answers' facilityId')
    (hfirst : (respond hashId (Run.run (serviceStep hashId) .new inputs).repository answers
      (.prepare facilityId facilityHash idempotencyKey)).1.isOk = true) :
    let first := Run.run (serviceStep hashId) .new inputs
    let prepared := respond hashId first.repository answers
      (.prepare facilityId facilityHash idempotencyKey)
    let repo := (Run.run (serviceStep hashId) ⟨prepared.2, first.calls⟩ later).repository
    let retried := respond hashId repo answers' (.prepare facilityId' facilityHash' idempotencyKey)
    let same := SameRequest facilityId facilityHash facilityId' facilityHash'
    ((same → Replayed repo (settlementIdOf hashId (terms.identityAt answers.nowMs)) retried) ∧
      (¬ same → Rejected repo retried)) ↔
    (same → AnswersAlike hashId answers answers' facilityHash terms) := by
  intro first prepared repo retried same
  have hsucceeds : PrepareSucceeds hashId prepared.2 answers facilityId idempotencyKey terms :=
    prepareSucceeds hapart (preparationsKept_after inputs) hterms hfirst
  have hlater : PrepareSucceeds hashId repo answers facilityId idempotencyKey terms :=
    { hsucceeds with kept := hsucceeds.kept.run (s := ⟨prepared.2, first.calls⟩) later }
  obtain ⟨hreplayed, hrejected⟩ := respond_retry hapart hterms hresolves hresolves' hlater
  constructor
  · rintro ⟨hsame, _⟩ his
    by_contra halike
    obtain ⟨e, herror⟩ := hrejected fun hboth ↦ halike hboth.2
    obtain ⟨record, _, hok⟩ := hsame his
    cases congrArg Prod.fst (hok.symm.trans herror)
  · intro halike
    exact ⟨fun his ↦ hreplayed ⟨his, halike his⟩, fun hnot ↦ hrejected fun hboth ↦ hnot hboth.1⟩

end Retry

namespace Sample

theorem templateType_ctorIdx : Function.Injective TemplateType.ctorIdx := fun a b h ↦ by
  cases a <;> cases b <;> first | rfl | cases h

instance : Coded TemplateType := .of TemplateType.ctorIdx templateType_ctorIdx

instance : Coded (RecordIdentity (List ℕ)) :=
  .of (fun c ↦ (c.facilityId, c.facilityHash, c.facilityStateHashBefore, c.facilityVersionBefore,
    c.fundingId, c.fundingHash, c.closeRequestId, c.closeRequestHash, c.obligationId,
    c.obligationHash, c.subjectId, c.assetId, c.templateType, c.termsHash, c.fixedReturnBps,
    c.performanceParticipationBps, c.durationDays, c.subjectContributionMinor,
    c.providerContributionMinor, c.finalReconciliationHash, c.feePolicyId, c.feePolicyHash,
    c.feeApprovalEvidenceHash, c.ipoOneFeeBps, c.canonicalLedgerStateHashBefore,
    c.ledgerTransactionCountBefore, c.createdAt)) fun a b h ↦ by
    obtain ⟨⟩ := a
    obtain ⟨⟩ := b
    cases h
    rfl

/-- `hashId`, which keeps apart all the preparations too. -/
def prepareHashId : SettlementPreimage (List ℕ) → List ℕ
  | .settlementIdentity identity => 24 :: Coded.encode identity
  | .settlementPrepareRequest settlementHash key authorization admission =>
    26 :: Coded.encode (settlementHash, key, authorization, admission)
  | preimage => hashId preimage

theorem preparationsApart : PreparationsApart prepareHashId where
  request_eq h := by
    have hparts := Coded.encode_injective (List.cons.inj h).2
    cases hparts
    exact ⟨rfl, rfl, rfl⟩
  identity_eq h := Coded.encode_injective (List.cons.inj h).2

/-- The guard's decision on the preparation. -/
def prepareGuard : GuardDecision (List ℕ) where
  approved := true
  operation := "prepare"
  actorId := "actor_worker"
  actorHash := prepareHashId (.trading (.actor "actor_worker"))
  authorizationDecisionHash := [47]
  admissionDecisionHash := [48]
  privilegedSettlement := false
  tenantContextResolved := true
  clientIdentityAccepted := false

/-- The collaborators answer the same at any time. -/
def prepareAnswers (nowMs : ℕ) : Answers (List ℕ) where
  nowMs
  snapshot := .ok snapshot
  observation := .ok observation
  feePolicy := .ok feePolicy
  guard := .ok prepareGuard

/-- The terms that these answers make. -/
def sampleTerms : PrepareTerms (List ℕ) := prepareTerms snapshot feePolicy prepareGuard

theorem prepares (nowMs : ℕ) :
    Prepares prepareHashId (prepareAnswers nowMs) [1, 2000] sampleTerms :=
  ⟨snapshot, feePolicy, prepareGuard, rfl, rfl, rfl, rfl, by decide, rfl⟩

theorem resolves (nowMs : ℕ) : Resolves (prepareAnswers nowMs) "facility" := by
  rintro _ ⟨⟩
  rfl

/-- The first preparation, at `200`. -/
def firstPreparation : Domain (SettlementResult (List ℕ)) × Repository (List ℕ) :=
  respond prepareHashId .new (prepareAnswers 200) (.prepare "facility" [1, 2000] "prepare")

/-- A retry right after it. -/
def retry (nowMs : ℕ) : Domain (SettlementResult (List ℕ)) × Repository (List ℕ) :=
  respond prepareHashId firstPreparation.2 (prepareAnswers nowMs)
    (.prepare "facility" [1, 2000] "prepare")

end Sample

/-- A retry at the same millisecond is answered with the record. -/
theorem prepare_retry_at_once :
    Sample.firstPreparation.1.isOk = true ∧
      Replayed Sample.firstPreparation.2
        (settlementIdOf Sample.prepareHashId (Sample.sampleTerms.identityAt 200))
        (Sample.retry 200) := by
  have hfirst : Sample.firstPreparation.1.isOk = true := by
    decide +kernel
  have hretry : SameRequest "facility" [1, 2000] "facility" [1, 2000] →
      Replayed Sample.firstPreparation.2
        (settlementIdOf Sample.prepareHashId (Sample.sampleTerms.identityAt 200))
        (Sample.retry 200) :=
    ((prepare_retry_iff Sample.preparationsApart [] [] (Sample.prepares 200) (Sample.resolves 200)
      (Sample.resolves 200) hfirst).2 fun _ ↦ ⟨Sample.prepares 200, rfl⟩).1
  exact ⟨hfirst, hretry ⟨rfl, rfl⟩⟩

/-- **A retry that comes a millisecond later is refused**, although the collaborators answer
alike. -/
theorem prepare_retry_refused :
    Sample.firstPreparation.1.isOk = true ∧
      SameRequest "facility" [1, 2000] "facility" [1, 2000] ∧
      Prepares Sample.prepareHashId (Sample.prepareAnswers 201) [1, 2000] Sample.sampleTerms ∧
      Sample.retry 201
        = (.error (idempotencyConflict "prepare identity was reused"),
          Sample.firstPreparation.2) := by
  refine ⟨by decide +kernel, ⟨rfl, rfl⟩, Sample.prepares 201, ?_⟩
  decide +kernel

end Settlement
end Hyperliquid
end IpoOne
