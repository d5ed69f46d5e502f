import IpoOne.Hyperliquid.SettlementService
import IpoOne.Trading.Invariant

/-!
# A settlement is posted once

What the repository holds about one settlement is its record, its posting in the ledger, its settled
facility, and the events that say that something was posted.  `Transition` is the lifecycle of a
settlement in these terms: it is prepared, waits, is posted once, and then only its evidence
changes.

`serviceStep_transition` says that the service follows the lifecycle: whatever step it takes, every
settlement moves by one transition, or not at all.  Everything else is about the lifecycle.
-/

set_option autoImplicit false

namespace IpoOne
namespace Hyperliquid
namespace Settlement

open Fallible

/-! ## The lifecycle -/

/-- What is settled by a record, and may not change any more: its terms, the final values, the
waterfall and the posting. -/
structure Economics (H : Type) where
  identity : RecordIdentity H
  realizedPnlMinor : Option ℤ
  venueCostMinor : Option ℤ
  closingCostMinor : Option ℤ
  finalEquityMinor : Option ℤ
  finalObservationHash : Option H
  finalSourceEvidenceHash : Option H
  waterfall : Option Waterfall
  ledgerTransactionId : Option H
  ledgerTransactionHash : Option H
  facilityStateHashAfter : Option H
  facilityVersionAfter : Option ℕ
  settledAt : Option ℕ
  canonicalLedgerTransactionCreated : Bool

/-- The economic fields of a record. -/
def SettlementRecord.economics {H : Type} (record : SettlementRecord H) : Economics H where
  identity := record.identity
  realizedPnlMinor := record.realizedPnlMinor
  venueCostMinor := record.venueCostMinor
  closingCostMinor := record.closingCostMinor
  finalEquityMinor := record.finalEquityMinor
  finalObservationHash := record.finalObservationHash
  finalSourceEvidenceHash := record.finalSourceEvidenceHash
  waterfall := record.waterfall
  ledgerTransactionId := record.ledgerTransactionId
  ledgerTransactionHash := record.ledgerTransactionHash
  facilityStateHashAfter := record.facilityStateHashAfter
  facilityVersionAfter := record.facilityVersionAfter
  settledAt := record.settledAt
  canonicalLedgerTransactionCreated := record.canonicalLedgerTransactionCreated

/-- What there is about one settlement. -/
structure SettlementView (H : Type) where
  record : Option (SettlementRecord H)
  ledger : Option (SettlementLedger H)
  facility : Option (Trading.TradingFacility H)
  postings : ℕ

section Lifecycle

variable {H : Type}

/-- The posting of a settlement, as its record has it. -/
structure IsPosting (id : H) (record : SettlementRecord H) (ledger : SettlementLedger H) :
    Prop where
  id_eq : record.ledgerTransactionId = some ledger.transaction.ledgerTransactionId
  hash_eq : record.ledgerTransactionHash = some ledger.transaction.transactionHash
  reference : ledger.transaction.referenceId = id
  balanced : ledger.transaction.debitTotalMinor = ledger.transaction.creditTotalMinor

variable (hashId : SettlementPreimage H → H)

/-- A record is kept under the identifier that its identity gives it. -/
structure Named (id : H) (record : SettlementRecord H) : Prop where
  own : record.settlementId = id
  derived : settlementIdOf hashId record.identity = id

/-- One move of the settlement `id`. -/
inductive Transition (id : H) : SettlementView H → SettlementView H → Prop
  | stay (v : SettlementView H) : Transition id v v
  | prepare {record ledger facility postings} (pending : record.status = .awaitingFinality)
      (named : Named hashId id record) :
      Transition id ⟨none, ledger, facility, postings⟩ ⟨some record, ledger, facility, postings⟩
  | observe {record next ledger facility postings} (before : record.status.preSettlement)
      (after : ¬ next.status.hasSettled) (own : next.settlementId = record.settlementId)
      (identity : next.identity = record.identity) :
      Transition id ⟨some record, ledger, facility, postings⟩
        ⟨some next, ledger, facility, postings⟩
  | post {record next ledger ledger' facility facility' postings}
      (ready : record.status = .readyToSettle) (final : record.finalObservationHash ≠ none)
      (settled : next.status = .settled) (own : next.settlementId = record.settlementId)
      (identity : next.identity = record.identity) (posting : IsPosting id next ledger') :
      Transition id ⟨some record, ledger, facility, postings⟩
        ⟨some next, some ledger', some facility', postings + 1⟩
  | revise {record next ledger facility postings} (before : record.status.hasSettled)
      (after : next.status = .evidenceActive ∨ next.status = .evidenceRevoked)
      (own : next.settlementId = record.settlementId)
      (economics : next.economics = record.economics) :
      Transition id ⟨some record, ledger, facility, postings⟩
        ⟨some next, ledger, facility, postings⟩

variable {hashId} {id : H} {v v' : SettlementView H}

/-- There is a record, and it has been settled. -/
def SettlementView.Settled (v : SettlementView H) : Prop :=
  ∃ record, v.record = some record ∧ record.status.hasSettled

/-- **Exactly one posting once the record is settled, and none before.** -/
structure Accounted (id : H) (v : SettlementView H) : Prop where
  after : ∀ record, v.record = some record → record.status.hasSettled →
    v.postings = 1 ∧ v.facility ≠ none ∧ ∃ ledger, v.ledger = some ledger ∧
      IsPosting id record ledger
  before : ¬ v.Settled → v.postings = 0 ∧ v.ledger = none ∧ v.facility = none

theorem Transition.named (h : Transition hashId id v v')
    (hnamed : ∀ record, v.record = some record → Named hashId id record) :
    ∀ record, v'.record = some record → Named hashId id record := by
  cases h with
  | stay => exact hnamed
  | prepare pending named =>
    rintro _ ⟨⟩
    exact named
  | observe before after own identity =>
    rintro _ ⟨⟩
    obtain ⟨hown, hderived⟩ := hnamed _ rfl
    exact ⟨own.trans hown, by rw [identity, hderived]⟩
  | post ready final settled own identity posting =>
    rintro _ ⟨⟩
    obtain ⟨hown, hderived⟩ := hnamed _ rfl
    exact ⟨own.trans hown, by rw [identity, hderived]⟩
  | revise before after own economics =>
    rintro _ ⟨⟩
    obtain ⟨hown, hderived⟩ := hnamed _ rfl
    have hidentity := congrArg Economics.identity economics
    exact ⟨own.trans hown, (congrArg (settlementIdOf hashId) hidentity).trans hderived⟩

theorem not_settled_of_preSettlement {record : SettlementRecord H}
    (h : record.status.preSettlement) : ¬ record.status.hasSettled := by
  intro hsettled
  rcases h with h | h <;> rw [h] at hsettled <;> rcases hsettled with h | h | h <;> cases h

theorem SettlementView.settled_iff {record : SettlementRecord H}
    {ledger : Option (SettlementLedger H)} {facility : Option (Trading.TradingFacility H)}
    {postings : ℕ} :
    SettlementView.Settled ⟨some record, ledger, facility, postings⟩ ↔
      record.status.hasSettled := by
  constructor
  · rintro ⟨_, ⟨⟩, h⟩
    exact h
  · exact fun h ↦ ⟨record, rfl, h⟩

/-- **Every move keeps the postings accounted for.** -/
theorem Transition.accounted (h : Transition hashId id v v') (haccounted : Accounted id v) :
    Accounted id v' := by
  cases h with
  | stay => exact haccounted
  | prepare pending named =>
    have hbefore := haccounted.before (fun ⟨_, hnone, _⟩ ↦ nomatch hnone)
    refine ⟨?_, fun _ ↦ hbefore⟩
    rintro _ ⟨⟩ hsettled
    exact absurd hsettled (not_settled_of_preSettlement (.inl pending))
  | observe before after own identity =>
    have hbefore := haccounted.before fun hsettled ↦
      not_settled_of_preSettlement before (SettlementView.settled_iff.1 hsettled)
    refine ⟨?_, fun _ ↦ hbefore⟩
    rintro _ ⟨⟩ hsettled
    exact absurd hsettled after
  | post ready final settled own identity posting =>
    obtain ⟨hzero, _, _⟩ := haccounted.before fun hsettled ↦
      not_settled_of_preSettlement (.inr ready) (SettlementView.settled_iff.1 hsettled)
    refine ⟨?_, fun hunsettled ↦ absurd (SettlementView.settled_iff.2 (.inl settled)) hunsettled⟩
    rintro _ ⟨⟩ _
    exact ⟨congrArg (· + 1) hzero, Option.some_ne_none _, _, rfl, posting⟩
  | revise before after own economics =>
    obtain ⟨hone, hfacility, ledger, hledger, hposting⟩ := haccounted.after _ rfl before
    have hid := congrArg Economics.ledgerTransactionId economics
    have hhash := congrArg Economics.ledgerTransactionHash economics
    refine ⟨?_, fun hunsettled ↦ absurd (SettlementView.settled_iff.2 (.inr after)) hunsettled⟩
    rintro _ ⟨⟩ _
    exact ⟨hone, hfacility, ledger, hledger, hid.trans hposting.id_eq, hhash.trans hposting.hash_eq,
      hposting.reference, hposting.balanced⟩

/-- What is left of a settlement after it was posted: the economics, the posting and the facility
are what they were. -/
structure Kept (v v' : SettlementView H) : Prop where
  record : ∀ record, v.record = some record → record.status.hasSettled →
    ∃ next, v'.record = some next ∧ next.status.hasSettled ∧ next.economics = record.economics ∧
      (next.status = .settled → record.status = .settled)
  ledger : v.Settled → v'.ledger = v.ledger
  facility : v.Settled → v'.facility = v.facility
  postings : v.Settled → v'.postings = v.postings

theorem Kept.refl (v : SettlementView H) : Kept v v := by
  refine ⟨fun record hrecord hsettled ↦ ?_, fun _ ↦ rfl, fun _ ↦ rfl, fun _ ↦ rfl⟩
  exact ⟨record, hrecord, hsettled, rfl, fun h ↦ h⟩

/-- **No move changes what was settled.** -/
theorem Transition.kept (h : Transition hashId id v v') : Kept v v' := by
  cases h with
  | stay => exact .refl _
  | prepare pending named =>
    refine ⟨?_, fun _ ↦ rfl, fun _ ↦ rfl, fun _ ↦ rfl⟩
    rintro _ ⟨⟩
  | observe before after own identity =>
    refine ⟨?_, fun _ ↦ rfl, fun _ ↦ rfl, fun _ ↦ rfl⟩
    rintro _ ⟨⟩ hsettled
    exact absurd hsettled (not_settled_of_preSettlement before)
  | post ready final settled own identity posting =>
    have hnot := not_settled_of_preSettlement (.inr ready)
    refine ⟨?_, fun h ↦ ?_, fun h ↦ ?_, fun h ↦ ?_⟩
    · rintro _ ⟨⟩ hsettled
      exact absurd hsettled hnot
    all_goals exact absurd (SettlementView.settled_iff.1 h) hnot
  | revise before after own economics =>
    refine ⟨?_, fun _ ↦ rfl, fun _ ↦ rfl, fun _ ↦ rfl⟩
    rintro _ ⟨⟩ _
    refine ⟨_, rfl, .inr after, economics, fun hsettled ↦ ?_⟩
    rw [hsettled] at after
    rcases after with h | h <;> cases h

theorem Kept.settled (h : Kept v v') (hv : v.Settled) : v'.Settled := by
  obtain ⟨record, hrecord, hsettled⟩ := hv
  obtain ⟨next, hnext, hnextSettled, _⟩ := h.record record hrecord hsettled
  exact ⟨next, hnext, hnextSettled⟩

theorem Kept.trans {v'' : SettlementView H} (h : Kept v v') (h' : Kept v' v'') : Kept v v'' := by
  refine ⟨fun record hrecord hsettled ↦ ?_, fun hv ↦ ?_, fun hv ↦ ?_, fun hv ↦ ?_⟩
  · obtain ⟨middle, hmiddle, hmiddleSettled, hsame, hback⟩ := h.record record hrecord hsettled
    obtain ⟨next, hnext, hnextSettled, hsame', hback'⟩ :=
      h'.record middle hmiddle hmiddleSettled
    exact ⟨next, hnext, hnextSettled, hsame'.trans hsame, fun hstatus ↦ hback (hback' hstatus)⟩
  · exact (h'.ledger (h.settled hv)).trans (h.ledger hv)
  · exact (h'.facility (h.settled hv)).trans (h.facility hv)
  · exact (h'.postings (h.settled hv)).trans (h.postings hv)

/-- The record gets the status `SETTLED` by this move. -/
def Enters (v v' : SettlementView H) : Prop :=
  v.record.map (·.status) ≠ some .settled ∧ v'.record.map (·.status) = some .settled

/-- **The only way to be settled is to be posted.** -/
theorem Transition.enters (h : Transition hashId id v v') (henters : Enters v v') :
    ¬ v.Settled ∧ ∃ record, v.record = some record ∧ record.status = .readyToSettle ∧
      record.finalObservationHash ≠ none := by
  obtain ⟨hold, hnew⟩ := henters
  cases h with
  | stay => exact absurd hnew hold
  | prepare pending named => exact absurd (pending.symm.trans (Option.some.inj hnew)) (by decide)
  | observe before after own identity => exact absurd (.inl (Option.some.inj hnew)) after
  | post ready final settled own identity posting =>
    refine ⟨fun hsettled ↦ ?_, _, rfl, ready, final⟩
    exact not_settled_of_preSettlement (.inr ready) (SettlementView.settled_iff.1 hsettled)
  | @revise record next ledger facility postings before after own economics =>
    have hsettled : next.status = .settled := Option.some.inj hnew
    rw [hsettled] at after
    rcases after with h | h <;> cases h

end Lifecycle

/-! ## What the methods do to a settlement -/

section Methods

variable {H : Type} [DecidableEq H] {hashId : SettlementPreimage H → H}
  {record next : SettlementRecord H} {nowMs : ℕ}

theorem assertRecord_ready (h : assertRecord hashId record = .ok ())
    (hready : record.status = .readyToSettle) : record.finalObservationHash ≠ none := by
  simp only [assertRecord, settlementUnavailable, identifier, boundedInteger, invalid_eq_ok,
    bind_eq_ok, throwIf_eq_ok, exists_and_left, exists_const] at h
  obtain ⟨_, _, _, _, _, _, _, _, _, _, _, _, _, _, _, _, _, _, hfinal, _⟩ := h
  intro hnone
  exact hfinal ⟨hready, .inl hnone⟩

/-- The next state has what the patch has, and passes the check. -/
theorem nextState_ok {patched : SettlementRecord H}
    (h : nextState hashId record patched nowMs = .ok next) :
    assertRecord hashId next = .ok () ∧ next.status = patched.status ∧
      next.settlementId = patched.settlementId ∧ next.economics = patched.economics := by
  simp only [nextState, bind_eq_ok, pure_eq_ok] at h
  obtain ⟨_, hassert, rfl⟩ := h
  exact ⟨hassert, rfl, rfl, rfl⟩

/-- What a record that was not settled is moved to without being settled. -/
structure Unsettled (hashId : SettlementPreimage H → H) (record next : SettlementRecord H) :
    Prop where
  valid : assertRecord hashId next = .ok ()
  status : ¬ next.status.hasSettled
  own : next.settlementId = record.settlementId
  identity : next.identity = record.identity

theorem Unsettled.of_nextState {patched : SettlementRecord H}
    (h : nextState hashId record patched nowMs = .ok next) (hstatus : ¬ patched.status.hasSettled)
    (hown : patched.settlementId = record.settlementId)
    (hidentity : patched.identity = record.identity) : Unsettled hashId record next := by
  obtain ⟨hvalid, hnext, hsame, heconomics⟩ := nextState_ok h
  refine ⟨hvalid, ?_, hsame.trans hown, (congrArg Economics.identity heconomics).trans hidentity⟩
  rw [hnext]
  exact hstatus

theorem Unsettled.of_raiseIncident {reasonCode : String}
    (h : raiseIncident hashId record reasonCode nowMs = .ok next) :
    Unsettled hashId record next ∧ next.status = .incident := by
  simp only [raiseIncident, bind_eq_ok] at h
  obtain ⟨_, _, hnext⟩ := h
  refine ⟨.of_nextState hnext ?_ rfl rfl, (nextState_ok hnext).2.1⟩
  rintro (h | h | h) <;> cases h

/-- An observation moves a record that waits for finality, and no other. -/
theorem transitionObservation_ok {observation : Observation H} {snapshot : KernelSnapshot H}
    (h : transitionObservation hashId record observation snapshot nowMs = .ok next) :
    next = record ∧ assertRecord hashId record = .ok () ∨
      record.status = .awaitingFinality ∧ Unsettled hashId record next := by
  simp only [transitionObservation, bind_eq_ok] at h
  obtain ⟨_, hrecord, _, _, _, _, h⟩ := h
  split at h
  · exact .inl ⟨(pure_eq_ok.1 h).symm, hrecord⟩
  · rename_i hpending
    rw [not_not] at hpending
    have hunsettled : ¬ record.status.hasSettled := not_settled_of_preSettlement (.inl hpending)
    refine .inr ⟨hpending, ?_⟩
    split at h
    · exact (Unsettled.of_raiseIncident h).1
    · split at h
      · exact (Unsettled.of_raiseIncident h).1
      · split at h
        · exact .of_nextState h hunsettled rfl rfl
        · split at h
          · exact .of_nextState h hunsettled rfl rfl
          · split at h
            · exact (Unsettled.of_raiseIncident h).1
            · refine .of_nextState h ?_ rfl rfl
              rintro (h | h | h) <;> cases h

omit [DecidableEq H] in
theorem createSettlementLedger_ok {waterfall : Waterfall} {ledger : SettlementLedger H}
    (h : createSettlementLedger hashId record waterfall nowMs = .ok ledger) :
    ledger.transaction.referenceId = record.settlementId ∧
      ledger.transaction.debitTotalMinor = ledger.transaction.creditTotalMinor := by
  simp only [createSettlementLedger, bind_eq_ok, throwIf_eq_ok, pure_eq_ok, not_or, not_not] at h
  obtain ⟨_, _, _, _, _, _, _, ⟨_, hbalanced, _⟩, rfl⟩ := h
  exact ⟨rfl, hbalanced⟩

/-- A record is settled from `READY_TO_SETTLE`, with a posting, or becomes an incident. -/
theorem settleRecord_ok {snapshot : KernelSnapshot H} {guard : GuardDecision H}
    {feePolicy : FeePolicy H} {outcome : SettleOutcome H}
    (h : settleRecord hashId record snapshot guard feePolicy nowMs = .ok outcome) :
    record.status = .readyToSettle ∧ record.finalObservationHash ≠ none ∧
      (outcome.posted = none ∧ outcome.record.status = .incident ∧
          Unsettled hashId record outcome.record ∨
        ∃ facility ledger, outcome.posted = some (facility, ledger) ∧
          assertRecord hashId outcome.record = .ok () ∧ outcome.record.status = .settled ∧
          outcome.record.settlementId = record.settlementId ∧
          outcome.record.identity = record.identity ∧
          IsPosting record.settlementId outcome.record ledger) := by
  simp only [settleRecord, bind_eq_ok, throwIf_eq_ok, not_not] at h
  obtain ⟨_, hrecord, _, _, _, _, _, hready, h⟩ := h
  refine ⟨hready, assertRecord_ready hrecord hready, ?_⟩
  split at h
  · simp only [bind_eq_ok, pure_eq_ok] at h
    obtain ⟨next, hnext, rfl⟩ := h
    obtain ⟨hunsettled, hincident⟩ := Unsettled.of_raiseIncident hnext
    exact .inl ⟨rfl, hincident, hunsettled⟩
  · simp only [bind_eq_ok, pure_eq_ok] at h
    obtain ⟨waterfall, _, ledger, hledger, facility, _, next, hnext, rfl⟩ := h
    obtain ⟨hreference, hbalanced⟩ := createSettlementLedger_ok hledger
    obtain ⟨hvalid, hstatus, hown, heconomics⟩ := nextState_ok hnext
    refine .inr ⟨facility, ledger, rfl, hvalid, hstatus, hown,
      congrArg Economics.identity heconomics, ?_⟩
    exact ⟨congrArg Economics.ledgerTransactionId heconomics,
      congrArg Economics.ledgerTransactionHash heconomics, hreference, hbalanced⟩

/-- A revision changes the evidence of a settled record and nothing of its economics. -/
theorem revisePerformanceEvidence_ok {actorHash : H} {status : PerformanceEvidenceStatus}
    {reasonCode : String}
    (h : revisePerformanceEvidence hashId record actorHash status reasonCode nowMs = .ok next) :
    assertRecord hashId next = .ok () ∧ record.status.hasSettled ∧
      (next.status = .evidenceActive ∨ next.status = .evidenceRevoked) ∧
      next.settlementId = record.settlementId ∧ next.economics = record.economics := by
  simp only [revisePerformanceEvidence, evidenceUnavailable, bind_eq_ok, throwIf_eq_ok,
    not_not] at h
  obtain ⟨_, _, _, hsettled, _, _, _, _, _, _, _, _, h⟩ := h
  split at h
  · cases h
  · obtain ⟨hvalid, hstatus, hown, heconomics⟩ := nextState_ok h
    refine ⟨hvalid, hsettled, ?_, hown, heconomics⟩
    cases status with
    | active => exact .inl hstatus
    | revoked => exact .inr hstatus

theorem createPendingRecord_ok {snapshot : KernelSnapshot H} {feePolicy : FeePolicy H}
    {guard : GuardDecision H} {idempotencyKeyHash : H}
    (h : createPendingRecord hashId snapshot feePolicy guard idempotencyKeyHash nowMs = .ok next) :
    assertRecord hashId next = .ok () ∧ next.status = .awaitingFinality ∧
      Named hashId next.settlementId next := by
  simp only [createPendingRecord, bind_eq_ok, pure_eq_ok] at h
  obtain ⟨_, hvalid, rfl⟩ := h
  exact ⟨hvalid, rfl, rfl, rfl⟩

end Methods

/-! ## The service follows the lifecycle -/

section Simulation

variable {H : Type} [DecidableEq H] {hashId : SettlementPreimage H → H} {repo : Repository H}

/-- The events that say that `id` was posted. -/
def Repository.postings (repo : Repository H) (id : H) : ℕ :=
  repo.events.countP fun event ↦ event.eventType = .posted ∧ event.settlementId = id

/-- What the repository has about `id`. -/
def Repository.view (repo : Repository H) (id : H) : SettlementView H where
  record := repo.records.get id
  ledger := repo.ledger.get id
  facility := repo.facilities.get id
  postings := repo.postings id

variable (hashId) in
/-- Every record is kept under its own identifier. -/
def RecordsNamed (repo : Repository H) : Prop :=
  ∀ id record, repo.records.get id = some record → Named hashId id record

variable (hashId) in
/-- **Settlements of different facilities have different identifiers.**  The identifier is a digest
of the identity of the settlement, which the facility is part of. -/
def SettlementsApart : Prop :=
  ∀ a b : RecordIdentity H, settlementIdOf hashId a = settlementIdOf hashId b →
    a.facilityId = b.facilityId

theorem eventFor_ok {record : SettlementRecord H} (hvalid : assertRecord hashId record = .ok ())
    (eventType : SettlementEventType) (actorId : String) (reasonCode : Option String) (nowMs : ℕ) :
    ∃ event, eventFor hashId record eventType actorId reasonCode nowMs = .ok event ∧
      event.eventType = eventType ∧ event.settlementId = record.settlementId := by
  rw [eventFor, hvalid]
  exact ⟨_, rfl, rfl, rfl⟩

/-- A record that passes the check has its event appended. -/
theorem pushEvent_view {record : SettlementRecord H} (hvalid : assertRecord hashId record = .ok ())
    (eventType : SettlementEventType) (actorId : String) (reasonCode : Option String) (nowMs : ℕ)
    (result : SettlementResult H) (id : H) :
    (pushEvent repo (eventFor hashId record eventType actorId reasonCode nowMs) result).2.view id
      = { repo.view id with
          postings := repo.postings id +
            if eventType = .posted ∧ record.settlementId = id then 1 else 0 } := by
  obtain ⟨event, hevent, htype, hid⟩ := eventFor_ok hvalid eventType actorId reasonCode nowMs
  have hpostings : Repository.postings { repo with events := repo.events ++ [event] } id
      = repo.postings id + if eventType = .posted ∧ record.settlementId = id then 1 else 0 := by
    rw [Repository.postings, List.countP_append, List.countP_singleton, htype, hid]
    simp only [decide_eq_true_eq]
    rfl
  rw [hevent, pushEvent, ← hpostings]
  rfl

section Written

variable {repo' : Repository H} {settlementId : H} {next : SettlementRecord H}

/-- A record is written, and nothing else that a view shows. -/
structure Writes (repo repo' : Repository H) (settlementId : H) (next : SettlementRecord H) :
    Prop where
  records : repo'.records = repo.records.set settlementId next
  ledger : repo'.ledger = repo.ledger
  facilities : repo'.facilities = repo.facilities
  events : repo'.events = repo.events

theorem Writes.view (h : Writes repo repo' settlementId next) (id : H) :
    repo'.view id
      = if id = settlementId then { repo.view id with record := some next } else repo.view id := by
  rw [Repository.view, Repository.postings, h.records, h.ledger, h.facilities, h.events,
    InsertionMap.get_set]
  split
  · rfl
  · rfl

/-- A method that writes a record without posting moves its settlement, and no other. -/
theorem pushEvent_transition (settlementId : H) (hwrites : Writes repo repo' settlementId next)
    (hvalid : assertRecord hashId next = .ok ())
    (hmove : Transition hashId settlementId (repo.view settlementId)
      { repo.view settlementId with record := some next })
    {eventType : SettlementEventType} (htype : eventType ≠ .posted) (actorId : String)
    (reasonCode : Option String) (nowMs : ℕ) (result : SettlementResult H) (id : H) :
    Transition hashId id (repo.view id)
      ((pushEvent repo' (eventFor hashId next eventType actorId reasonCode nowMs)
        result).2.view id) := by
  rw [pushEvent_view hvalid, if_neg fun h ↦ htype h.1]
  show Transition hashId id _ (repo'.view id)
  rw [hwrites.view]
  split
  · rename_i hid
    rw [hid]
    exact hmove
  · exact .stay _

/-- A method that posts moves its settlement, and no other. -/
theorem pushEvent_posted (facility : Trading.TradingFacility H) (ledger : SettlementLedger H)
    (hrecords : repo'.records = repo.records.set settlementId next)
    (hledger : repo'.ledger = repo.ledger.set settlementId ledger)
    (hfacilities : repo'.facilities = repo.facilities.set settlementId facility)
    (hevents : repo'.events = repo.events) (hvalid : assertRecord hashId next = .ok ())
    (hown : next.settlementId = settlementId)
    (hmove : Transition hashId settlementId (repo.view settlementId)
      ⟨some next, some ledger, some facility, repo.postings settlementId + 1⟩)
    (actorId : String) (reasonCode : Option String) (nowMs : ℕ) (result : SettlementResult H)
    (id : H) :
    Transition hashId id (repo.view id)
      ((pushEvent repo' (eventFor hashId next .posted actorId reasonCode nowMs)
        result).2.view id) := by
  have hpostings : repo'.postings id = repo.postings id := by
    rw [Repository.postings, hevents]
    rfl
  rw [pushEvent_view hvalid, hown, hpostings]
  show Transition hashId id (repo.view id) ⟨repo'.records.get id, repo'.ledger.get id,
    repo'.facilities.get id, _⟩
  rw [hrecords, hledger, hfacilities, InsertionMap.get_set, InsertionMap.get_set,
    InsertionMap.get_set]
  by_cases hid : id = settlementId
  · rw [if_pos hid, if_pos hid, if_pos hid, if_pos ⟨rfl, hid.symm⟩, hid]
    exact hmove
  · rw [if_neg hid, if_neg hid, if_neg hid, if_neg fun h ↦ hid h.2.symm]
    exact .stay _

end Written

variable (repo) in
/-- **Every call on the repository follows the lifecycle.** -/
theorem invoke_transition (hapart : SettlementsApart hashId) (hnamed : RecordsNamed hashId repo)
    (call : Call H) (id : H) :
    Transition hashId id (repo.view id) ((invoke hashId repo call).2.view id) := by
  cases call with
  | create snapshot feePolicy guard idempotencyKeyHash nowMs =>
    rw [invoke, create]
    split
    · exact .stay _
    · rename_i candidate hcandidate
      split
      · split
        · exact .stay _
        · exact .stay _
      · split
        · exact .stay _
        · rename_i hfacility
          obtain ⟨hvalid, hpending, hcandidateNamed⟩ := createPendingRecord_ok hcandidate
          refine pushEvent_transition candidate.settlementId ?_ hvalid ?_ (by decide) _ _ _ _ _
          · exact ⟨rfl, rfl, rfl, rfl⟩
          -- a record under this identifier would be one of the same facility
          have hnew : repo.records.get candidate.settlementId = none := by
            rw [Option.eq_none_iff_forall_ne_some]
            intro record hrecord
            have hsame := hapart record.identity candidate.identity
              ((hnamed _ record hrecord).derived.trans hcandidateNamed.derived.symm)
            exact hfacility ⟨record, (repo.records.mem_values_iff record).2 ⟨_, hrecord⟩, hsame⟩
          rw [Repository.view, hnew]
          exact .prepare hpending hcandidateNamed
  | consumeObservation settlementId observation snapshot actorId nowMs =>
    rw [invoke, consumeObservation]
    split
    · exact .stay _
    · split
      · split
        · exact .stay _
        · exact .stay _
      · split
        · exact .stay _
        · rename_i record hrecord
          split
          · exact .stay _
          · rename_i next hnext
            have htype : observationEventType next ≠ .posted := by
              rw [observationEventType]
              split
              · decide
              · split <;> decide
            rcases transitionObservation_ok hnext with ⟨rfl, hvalid⟩ | ⟨hpending, hunsettled⟩
            · refine pushEvent_transition settlementId ?_ hvalid ?_ htype _ _ _ _ _
              · exact ⟨rfl, rfl, rfl, rfl⟩
              · rw [Repository.view, hrecord]
                exact .stay _
            · refine pushEvent_transition settlementId ?_ hunsettled.valid ?_ htype _ _ _ _ _
              · exact ⟨rfl, rfl, rfl, rfl⟩
              · rw [Repository.view, hrecord]
                exact .observe (.inl hpending) hunsettled.status hunsettled.own hunsettled.identity
  | settle settlementId snapshot guard feePolicy idempotencyKeyHash nowMs =>
    rw [invoke, settle]
    split
    · split
      · exact .stay _
      · exact .stay _
    · split
      · exact .stay _
      · rename_i record hrecord
        split
        · exact .stay _
        · rename_i outcome houtcome
          obtain ⟨hready, hfinal, ⟨hnone, hincident, hunsettled⟩ |
            ⟨facility, ledger, hposted, hvalid, hsettled, hown, hidentity, hposting⟩⟩ :=
            settleRecord_ok houtcome
          · rw [if_pos hincident, if_pos hincident, hnone]
            refine pushEvent_transition settlementId ?_ hunsettled.valid ?_ (by decide) _ _ _ _ _
            · exact ⟨rfl, rfl, rfl, rfl⟩
            · rw [Repository.view, hrecord]
              exact .observe (.inr hready) hunsettled.status hunsettled.own hunsettled.identity
          · have hnot : outcome.record.status ≠ .incident := by
              rw [hsettled]
              decide
            have hrecordOwn := (hnamed settlementId record hrecord).own
            rw [if_neg hnot, if_neg hnot, hposted]
            rw [hrecordOwn] at hposting
            refine pushEvent_posted facility ledger ?_ ?_ ?_ ?_ hvalid (hown.trans hrecordOwn) ?_
              _ _ _ _ _
            · rfl
            · rfl
            · rfl
            · rfl
            · rw [Repository.view, hrecord]
              exact .post hready hfinal hsettled hown hidentity hposting
  | reviseEvidence settlementId actorHash status reasonCode idempotencyKeyHash nowMs =>
    rw [invoke, reviseEvidence.eq_def]
    split
    · split
      · exact .stay _
      · exact .stay _
    · split
      · exact .stay _
      · rename_i record hrecord
        split
        · exact .stay _
        · rename_i next hnext
          obtain ⟨hvalid, hsettled, hrevised, hown, heconomics⟩ :=
            revisePerformanceEvidence_ok hnext
          refine pushEvent_transition settlementId ?_ hvalid ?_ (by cases status <;> decide)
            _ _ _ _ _
          · exact ⟨rfl, rfl, rfl, rfl⟩
          · rw [Repository.view, hrecord]
            exact .revise hsettled hrevised hown heconomics

/-- **Every step of the service follows the lifecycle.** -/
theorem serviceStep_transition (hapart : SettlementsApart hashId) {s : Service H}
    (hnamed : RecordsNamed hashId s.repository) (input : ServiceInput H) (id : H) :
    Transition hashId id (s.repository.view id)
      ((serviceStep hashId s input).repository.view id) := by
  cases input with
  | request request answers =>
    rw [serviceStep]
    split
    · exact .stay _
    · exact .stay _
  | perform call =>
    rw [serviceStep]
    split
    · exact invoke_transition s.repository hapart hnamed _ id
    · exact .stay _

theorem RecordsNamed.step (hapart : SettlementsApart hashId) {s : Service H}
    (hnamed : RecordsNamed hashId s.repository) (input : ServiceInput H) :
    RecordsNamed hashId (serviceStep hashId s input).repository :=
  fun id ↦ (serviceStep_transition hapart hnamed input id).named (hnamed id)

end Simulation

/-! ## Whole runs -/

section Runs

variable {H : Type} [DecidableEq H] (hashId : SettlementPreimage H → H)

/-- What a new service holds about a settlement after some steps. -/
def viewAfter (id : H) (inputs : List (ServiceInput H)) : SettlementView H :=
  (Run.run (serviceStep hashId) .new inputs).repository.view id

variable {hashId}

theorem recordsNamed_after (hapart : SettlementsApart hashId) (inputs : List (ServiceInput H)) :
    RecordsNamed hashId (Run.run (serviceStep hashId) .new inputs).repository := by
  have hnew : RecordsNamed hashId (Service.new : Service H).repository := by
    intro id record hrecord
    cases hrecord
  exact Run.run_induct (P := fun s : Service H ↦ RecordsNamed hashId s.repository)
    (fun _ input hnamed ↦ hnamed.step hapart input) hnew inputs

theorem viewAfter_append_one (hapart : SettlementsApart hashId) (id : H)
    (inputs : List (ServiceInput H)) (input : ServiceInput H) :
    Transition hashId id (viewAfter hashId id inputs)
      (viewAfter hashId id (inputs ++ [input])) := by
  rw [viewAfter, viewAfter, Run.run_append]
  exact serviceStep_transition hapart (recordsNamed_after hapart inputs) input id

theorem accounted_after (hapart : SettlementsApart hashId) (id : H)
    (inputs : List (ServiceInput H)) : Accounted id (viewAfter hashId id inputs) := by
  induction inputs using List.reverseRecOn with
  | nil =>
    refine ⟨fun record hrecord ↦ ?_, fun _ ↦ ⟨rfl, rfl, rfl⟩⟩
    cases hrecord
  | append_singleton inputs input ih =>
    exact (viewAfter_append_one hapart id inputs input).accounted ih

theorem kept_after (hapart : SettlementsApart hashId) (id : H)
    (past future : List (ServiceInput H)) :
    Kept (viewAfter hashId id past) (viewAfter hashId id (past ++ future)) := by
  induction future using List.reverseRecOn with
  | nil =>
    rw [List.append_nil]
    exact .refl _
  | append_singleton future input ih =>
    rw [← List.append_assoc]
    exact ih.trans (viewAfter_append_one hapart id (past ++ future) input).kept

variable (hashId) in
/-- **A settlement is posted at most once, and what was settled never changes.** -/
structure PostsOnce (id : H) (inputs : List (ServiceInput H)) : Prop where
  /-- Exactly one posting once the record is settled, and none before. -/
  postings : ∀ past future, inputs = past ++ future → Accounted id (viewAfter hashId id past)
  /-- The record is settled from `READY_TO_SETTLE`, when nothing is posted yet. -/
  ready : ∀ past input future, inputs = past ++ input :: future →
    Enters (viewAfter hashId id past) (viewAfter hashId id (past ++ [input])) →
    (∃ record, (viewAfter hashId id past).record = some record ∧
        record.status = .readyToSettle ∧ record.finalObservationHash ≠ none) ∧
      (viewAfter hashId id past).postings = 0 ∧
      (viewAfter hashId id (past ++ [input])).postings = 1
  /-- It is settled once. -/
  once : ∀ past input middle again future,
    inputs = past ++ input :: middle ++ again :: future →
    Enters (viewAfter hashId id past) (viewAfter hashId id (past ++ [input])) →
    ¬ Enters (viewAfter hashId id (past ++ input :: middle))
      (viewAfter hashId id (past ++ input :: middle ++ [again]))
  /-- Whatever follows, the economics, the posting and the facility stay what they were. -/
  kept : ∀ past middle future, inputs = past ++ middle ++ future →
    Kept (viewAfter hashId id past) (viewAfter hashId id (past ++ middle))

/-- **In every run of the service, every settlement is posted at most once.** -/
theorem settlement_posts_once (hapart : SettlementsApart hashId) (id : H)
    (inputs : List (ServiceInput H)) : PostsOnce hashId id inputs where
  postings := fun past _ _ ↦ accounted_after hapart id past
  ready := by
    intro past input future _ henters
    obtain ⟨hunsettled, hready⟩ := (viewAfter_append_one hapart id past input).enters henters
    refine ⟨hready, ((accounted_after hapart id past).before hunsettled).1, ?_⟩
    obtain ⟨record, hrecord, hstatus⟩ := Option.map_eq_some_iff.1 henters.2
    exact ((accounted_after hapart id (past ++ [input])).after record hrecord (.inl hstatus)).1
  once := by
    intro past input middle again future _ henters hagain
    have hunsettled := ((viewAfter_append_one hapart id (past ++ input :: middle) again).enters
      hagain).1
    obtain ⟨record, hrecord, hstatus⟩ := Option.map_eq_some_iff.1 henters.2
    have hkept := kept_after hapart id (past ++ [input]) middle
    rw [List.append_assoc, List.singleton_append] at hkept
    exact hunsettled (hkept.settled ⟨record, hrecord, .inl hstatus⟩)
  kept := fun past middle _ _ ↦ kept_after hapart id past middle

end Runs

namespace Sample

open Trading (TradingSample.hashId TradingSample.after TradingSample.start TradingSample.orders
  TradingSample.flattening)

/-- A hash that keeps apart what the samples hash. -/
def hashId : SettlementPreimage (List ℕ) → List ℕ
  | .trading preimage => TradingSample.hashId preimage
  | .idempotencyKey key => 20 :: key.toList.map Char.toNat
  | .feePolicy core => [21, core.validUntil]
  | .finalityObservationId sourceEvidenceHash => 22 :: sourceEvidenceHash
  | .finalityObservation core => 23 :: core.observedAt :: core.sourceEvidenceHash
  | .settlementIdentity identity => 24 :: identity.facilityId.toList.map Char.toNat
  | .settlementId settlementHash => 25 :: settlementHash
  | .settlementPrepareRequest settlementHash key _ _ => 26 :: settlementHash ++ key
  | .settlementState state => 27 :: state.version :: state.settlementHash
  | .performanceEvidence core => 28 :: core.evidenceVersion :: core.settlementHash
  | .performanceEvidenceId hash => 29 :: hash
  | .ledgerAccountId core => [30, core.accountType.ctorIdx]
  | .ledgerAccount core => [31, core.accountType.ctorIdx]
  | .ledgerTransaction core => 32 :: core.referenceId
  | .ledgerEntryId _ sequence _ => [33, sequence]
  | .ledgerMetadata metadata => 34 :: metadata.settlementHash

theorem settlementsApart : SettlementsApart hashId := by
  intro a b h
  have hchars : a.facilityId.toList.map Char.toNat = b.facilityId.toList.map Char.toNat :=
    (List.cons.inj (List.cons.inj h).2).2
  have hinjective : Function.Injective Char.toNat := fun c d hcd ↦ Char.toNat_inj.1 hcd
  exact String.toList_inj.1 (List.map_injective_iff.2 hinjective hchars)

/-- The facility of `TradingSample`, flattened. -/
def facility : Trading.TradingFacility (List ℕ) :=
  (TradingSample.after
    (TradingSample.start ++ TradingSample.orders ++ TradingSample.flattening)).facility

/-- What the kernel knows of it. -/
def snapshot : KernelSnapshot (List ℕ) where
  fundingStatus := .active
  facilityLifecycleStatus := .flattened
  facilityRiskState := .flatten
  openOrderCount := 0
  exposureMinor := 0
  newRiskAdmissionOpen := false
  closeAdmissionFrozen := true
  closeRequested := true
  obligationExecutionStatus := .executed
  obligationWithdrawable := false
  reconciliationStatus := .reconciled
  unknownExecutionCount := 0
  facilityId := "facility"
  fundingId := "funding"
  closeRequestId := "close"
  obligationId := "obligation"
  subjectId := "subject"
  assetId := "usd"
  facilityHash := [1, 2000]
  facilityStateHash := [2, 10]
  fundingHash := [40]
  closeRequestHash := [41]
  obligationHash := [11]
  termsHash := [10]
  finalReconciliationHash := [42]
  canonicalLedgerStateHash := [43]
  facilityVersion := 10
  ledgerTransactionCount := 0
  subjectContributionMinor := 100
  providerContributionMinor := 1000
  templateType := .hybrid
  fixedReturnBps := 250
  performanceParticipationBps := 750
  durationDays := 90
  capturedAt := 200
  facility

/-- A fee of a tenth. -/
def feePolicy : FeePolicy (List ℕ) :=
  let core : FeePolicyCore (List ℕ) :=
    { policyId := "policy"
      approvalEvidenceHash := [44]
      approvedByActorHash := [45]
      ipoOneFeeBps := 1000
      validFrom := 0
      validUntil := 1000 }
  { core with policyHash := hashId (.feePolicy core), capturedAt := 0 }

/-- The settlement of the facility. -/
def settlementId : List ℕ := settlementIdOf hashId (draft snapshot feePolicy 200)

/-- The facility made `110` and paid `10`. -/
def observation : Observation (List ℕ) :=
  let core : ObservationCore (List ℕ) :=
    { settlementHash := hashId (.settlementIdentity (draft snapshot feePolicy 200))
      facilityHash := [1, 2000]
      fundingHash := [40]
      assetId := "usd"
      sourceEvidenceHash := [46]
      finalityStatus := .final
      reconciliationStatus := .reconciled
      openOrderCount := 0
      exposureMinor := 0
      unknownExecutionCount := 0
      positionsFinal := true
      unrealizedPnlMinor := 0
      realizedPnlMinor := 110
      venueCostMinor := 5
      closingCostMinor := 5
      finalEquityMinor := 1200
      complete := true
      economicValuesAuthoritative := true
      reasonCode := "final"
      observedAt := 210 }
  { core with
    observationId := hashId (.finalityObservationId core.sourceEvidenceHash)
    observationHash := hashId (.finalityObservation core) }

/-- What the collaborators answer to a request of `operation`. -/
def answers (operation : String) (nowMs : ℕ) : Answers (List ℕ) where
  nowMs
  snapshot := .ok snapshot
  observation := .ok observation
  feePolicy := .ok feePolicy
  guard := .ok
    { approved := true
      operation
      actorId := "actor_worker"
      actorHash := hashId (.trading (.actor "actor_worker"))
      authorizationDecisionHash := [47]
      admissionDecisionHash := [48]
      privilegedSettlement := operation = "settle"
      tenantContextResolved := true
      clientIdentityAccepted := false }

/-- A settlement is prepared, becomes final, and is settled by two competing requests; its evidence
is issued and revoked. -/
def inputs : List (ServiceInput (List ℕ)) :=
  [.request (.prepare "facility" [1, 2000] "prepare") (answers "prepare" 200), .perform 0,
    .request (.reconcileFinality settlementId) (answers "observe_finality" 220), .perform 0,
    .request (.settle settlementId "one") (answers "settle" 230),
    .request (.settle settlementId "two") (answers "settle" 230),
    .perform 1, .perform 0,
    .request (.issuePerformanceEvidence settlementId "issue") (answers "issue_evidence" 240),
    .perform 0,
    .request (.revokePerformanceEvidence settlementId "revoke" "privacy_revocation")
      (answers "revoke_evidence" 250),
    .perform 0]

end Sample

/-- Two requests compete to settle, and one of them posts. -/
theorem settlement_posts_once_competing :
    PostsOnce Sample.hashId Sample.settlementId Sample.inputs ∧
      (viewAfter Sample.hashId Sample.settlementId (Sample.inputs.take 6)).record.map (·.status)
        = some .readyToSettle ∧
      (viewAfter Sample.hashId Sample.settlementId (Sample.inputs.take 7)).record.map (·.status)
        = some .settled ∧
      (viewAfter Sample.hashId Sample.settlementId Sample.inputs).record.map (·.status)
        = some .evidenceRevoked ∧
      (viewAfter Sample.hashId Sample.settlementId Sample.inputs).postings = 1 := by
  refine ⟨settlement_posts_once Sample.settlementsApart _ _, ?_⟩
  decide +kernel

end Settlement
end Hyperliquid
end IpoOne
