import IpoOne.Lib.InsertionMap
import IpoOne.Lib.Run
import IpoOne.Reconciliation.Transition

/-!
# The repository of reconciliation records

`InMemoryHyperliquidReconciliationRepository`.  Its methods wait for each other, so each of them is
one step; a method that throws has written nothing.  An observation is taken in once: the inbox
remembers its identifier, whatever the record made of it.

* `RecordMove` is what one call does to one record and its history, and `step_move` says that there
  is nothing else.
* `Kept` is what the repository keeps of where its records come from; with hashes that do not
  collide, no record is started twice (`step_new`).
-/

set_option autoImplicit false

namespace IpoOne
namespace Reconciliation

open Fallible

/-! ## The repository -/

/-- The types of the events. -/
inductive EventType where
  | started
  | observed
  | resolved
  | safeStopped
  deriving DecidableEq, Repr

/-- An event, with its payload. -/
structure ReconciliationEvent (H : Type) where
  eventType : EventType
  subjectId : String
  obligationId : String
  reconciliationId : H
  reconciliationHash : H
  executionHash : H
  facilityHash : H
  orderIntentHash : H
  status : HyperliquidReconciliationStatus
  outcome : Option Outcome
  reconciledOrderState : HyperliquidReconciledOrderState
  recordVersion : ℕ
  cumulativeFilledSize : Decimal
  cumulativeFillNotionalMinor : Minor
  economicDeltaNotionalMinor : ℤ
  latestSourceEvidenceHash : Option H
  canonicalLedgerStateHash : H
  facilityStateHash : H
  riskSnapshotHash : H
  nonce : ℕ
  executionNonceState : ExecutionNonceState
  circuitBreakerOpen : Bool
  manualSafeStop : Bool
  newRiskBlocked : Bool
  reconciled : Bool
  reasonCode : String
  actorId : Identifier
  occurredAt : ℕ

/-- The event of a record. -/
def eventFor {H : Type} (record : Record H) (eventType : EventType) (actorId : Identifier)
    (reasonCode : String) (nowMs : ℕ) : ReconciliationEvent H where
  eventType
  subjectId := record.subjectId
  obligationId := record.obligationId
  reconciliationId := record.reconciliationId
  reconciliationHash := record.reconciliationHash
  executionHash := record.executionHash
  facilityHash := record.facilityHash
  orderIntentHash := record.orderIntentHash
  status := record.status
  outcome := record.outcome
  reconciledOrderState := record.reconciledOrderState
  recordVersion := record.version
  cumulativeFilledSize := record.cumulativeFilledSize
  cumulativeFillNotionalMinor := record.cumulativeFillNotionalMinor
  economicDeltaNotionalMinor := record.latestEconomicDeltaNotionalMinor
  latestSourceEvidenceHash := record.latestSourceEvidenceHash
  canonicalLedgerStateHash := record.canonicalLedgerStateHash
  facilityStateHash := record.facilityStateHash
  riskSnapshotHash := record.riskSnapshotHash
  nonce := record.nonce
  executionNonceState := record.executionNonceState
  circuitBreakerOpen := record.circuitBreakerOpen
  manualSafeStop := record.manualSafeStop
  newRiskBlocked := record.newRiskBlocked
  reconciled := record.reconciled
  reasonCode
  actorId
  occurredAt := nowMs

/-- An entry of `#safeStops`. -/
structure SafeStopEntry (H : Type) where
  reconciliationId : H
  commandHash : H
  deriving DecidableEq

/-- The inbox has the hash of the payload for each identifier of an observation.  Evidence and
outbox get an entry with every event, and are left out. -/
structure ReconciliationRepository (H : Type) where
  records : InsertionMap H (Record H)
  idempotency : InsertionMap H H
  safeStops : InsertionMap H (SafeStopEntry H)
  events : InsertionMap H (List (ReconciliationEvent H))
  inbox : InsertionMap H H

/-- A new repository. -/
def ReconciliationRepository.new {H : Type} : ReconciliationRepository H where
  records := .empty
  idempotency := .empty
  safeStops := .empty
  events := .empty
  inbox := .empty

/-- `{ record, replayed }` -/
structure ReconciliationResult (H : Type) where
  record : Option (Record H)
  replayed : Bool
  deriving DecidableEq

/-- The argument of `consumeObservation`. -/
structure ConsumeInput (H : Type) extends TransitionInput H where
  reconciliationId : H
  actorId : Identifier

/-- The argument of `safeStop`. -/
structure SafeStopInput (H : Type) where
  reconciliationId : H
  idempotencyKeyHash : H
  commandHash : H
  reasonCode : String
  actorId : Identifier
  nowMs : ℕ

/-- A call on the repository; a draft is made by `createDraft`. -/
inductive ReconciliationInput (H : Type) where
  | start (request : Request H) (snapshot : KernelSnapshot H) (guard : GuardDecision H)
      (nowMs : ℕ)
  | consumeObservation (input : ConsumeInput H)
  | safeStop (input : SafeStopInput H)

/-- A key was used for something else. -/
def idempotencyConflict (message : String) : DomainError where
  code := "hyperliquid_reconciliation_idempotency_conflict"
  message

/-- There is no record of this name. -/
def reconciliationUnavailable : DomainError where
  code := "hyperliquid_reconciliation_unavailable"
  message := "reconciliation record is unavailable"

section Repository

variable {H : Type} [DecidableEq H] (prims : Primitives H)

/-- `history` -/
def ReconciliationRepository.history (repo : ReconciliationRepository H) (reconciliationId : H) :
    List (ReconciliationEvent H) :=
  (repo.events.get reconciliationId).getD []

/-- `this.#records.set(id, record)` and `this.#append(record, event)` -/
def ReconciliationRepository.write (repo : ReconciliationRepository H) (reconciliationId : H)
    (record : Record H) (event : ReconciliationEvent H) : ReconciliationRepository H :=
  { repo with
    records := repo.records.set reconciliationId record
    events := repo.events.set reconciliationId (repo.history reconciliationId ++ [event]) }

/-- Stores a new record; the same request again gives the stored one. -/
def start (repo : ReconciliationRepository H) (draft : Draft H) (nowMs : ℕ) :
    Domain (ReconciliationResult H) × ReconciliationRepository H :=
  match repo.idempotency.get draft.idempotencyKeyHash with
  | some existingId =>
    match repo.records.get existingId with
    | none =>
      (.error { code := "TypeError", message := "Cannot read properties of undefined" }, repo)
    | some existing =>
      if existing.requestHash ≠ draft.requestHash then
        (.error (idempotencyConflict "idempotency key is bound to another reconciliation"), repo)
      else (.ok { record := some existing, replayed := true }, repo)
  | none =>
    match createPendingHyperliquidReconciliationRecord prims draft nowMs with
    | .error e => (.error e, repo)
    | .ok record =>
      let event := eventFor record .started draft.guard.actorId "reconciliation_started" nowMs
      (.ok { record := some record, replayed := false },
        { repo.write record.reconciliationId record event with
          idempotency := repo.idempotency.set record.idempotencyKeyHash record.reconciliationId })

/-- The event of a transition. -/
def observedEvent (input : ConsumeInput H) (next : Record H) : ReconciliationEvent H :=
  eventFor next (if next.status ∈ terminalStatuses then .resolved else .observed) input.actorId
    input.observation.reasonCode input.nowMs

/-- Takes an observation; one in the inbox is a replay, and a record that is over stays as it is. -/
def consumeObservation (repo : ReconciliationRepository H) (input : ConsumeInput H) :
    Domain (ReconciliationResult H) × ReconciliationRepository H :=
  match assertObservation prims input.observation with
  | .error e => (.error e, repo)
  | .ok () =>
    let payloadHash := prims.hashId (.inboxPayload input.observation)
    match repo.inbox.get input.observation.observationId with
    | some existing =>
      if existing ≠ payloadHash then
        (.error
          { code := "hyperliquid_reconciliation_inbox_conflict"
            message := "observation identity was reused with another payload" }, repo)
      else (.ok { record := repo.records.get input.reconciliationId, replayed := true }, repo)
    | none =>
      match repo.records.get input.reconciliationId with
      | none => (.error reconciliationUnavailable, repo)
      | some current =>
        let inbox := repo.inbox.set input.observation.observationId payloadHash
        if current.status ∈ terminalStatuses then
          (.ok { record := some current, replayed := true }, { repo with inbox })
        else
          match transitionHyperliquidReconciliationRecord prims current input.toTransitionInput with
          | .error e => (.error e, repo)
          | .ok next =>
            (.ok { record := some next, replayed := false },
              { repo.write input.reconciliationId next (observedEvent input next) with inbox })

/-- Stops a record; the same command again is a replay. -/
def safeStop (repo : ReconciliationRepository H) (input : SafeStopInput H) :
    Domain (ReconciliationResult H) × ReconciliationRepository H :=
  match repo.safeStops.get input.idempotencyKeyHash with
  | some existing =>
    if existing.commandHash ≠ input.commandHash then
      (.error (idempotencyConflict "safe-stop idempotency key is bound to another command"), repo)
    else (.ok { record := repo.records.get existing.reconciliationId, replayed := true }, repo)
  | none =>
    match repo.records.get input.reconciliationId with
    | none => (.error reconciliationUnavailable, repo)
    | some current =>
      let safeStops := repo.safeStops.set input.idempotencyKeyHash
        { reconciliationId := input.reconciliationId, commandHash := input.commandHash }
      match safeStopHyperliquidReconciliationRecord prims current input.reasonCode input.nowMs with
      | .error e => (.error e, repo)
      | .ok none => (.ok { record := some current, replayed := false }, { repo with safeStops })
      | .ok (some next) =>
        let event := eventFor next .safeStopped input.actorId input.reasonCode input.nowMs
        (.ok { record := some next, replayed := false },
          { repo.write input.reconciliationId next event with safeStops })

/-- One call on the repository. -/
def reconciliationStep (repo : ReconciliationRepository H) :
    ReconciliationInput H → ReconciliationRepository H
  | .start request snapshot guard nowMs =>
    (start prims repo (createDraft prims request snapshot guard) nowMs).2
  | .consumeObservation input => (consumeObservation prims repo input).2
  | .safeStop input => (safeStop prims repo input).2

/-! ## What a call does to a record -/

/-- The hashes that identify requests and snapshots do not collide. -/
structure CollisionFree (prims : Primitives H) : Prop where
  request_eq : ∀ core core', prims.slice (prims.hashId (.request core)) =
    prims.slice (prims.hashId (.request core')) → core = core'
  snapshot_eq : ∀ snapshot snapshot', prims.hashId (.kernelSnapshot snapshot) =
    prims.hashId (.kernelSnapshot snapshot') → snapshot = snapshot'

/-- What one call does to one record and its history. -/
inductive RecordMove (id : H) (record : Record H) (history : List (ReconciliationEvent H)) :
    ReconciliationInput H → Record H → List (ReconciliationEvent H) → Prop
  | kept (input : ReconciliationInput H) : RecordMove id record history input record history
  | observed (input : ConsumeInput H) (hid : input.reconciliationId = id)
      (hstatus : record.status ∉ terminalStatuses)
      (hthreshold : 1 ≤ input.circuitBreakerFailureThreshold)
      (hassert : assertRecord (observedRecord prims record input.toTransitionInput input.nowMs) =
        .ok ()) :
      RecordMove id record history (.consumeObservation input)
        (observedRecord prims record input.toTransitionInput input.nowMs)
        (history ++ [observedEvent input
          (observedRecord prims record input.toTransitionInput input.nowMs)])
  | stopped (input : SafeStopInput H) (hid : input.reconciliationId = id)
      (hstatus : record.status ∉ terminalStatuses)
      (hassert : assertRecord (stoppedRecord prims record input.reasonCode input.nowMs) = .ok ()) :
      RecordMove id record history (.safeStop input)
        (stoppedRecord prims record input.reasonCode input.nowMs)
        (history ++ [eventFor (stoppedRecord prims record input.reasonCode input.nowMs)
          .safeStopped input.actorId input.reasonCode input.nowMs])

/-- The draft that a record was started from. -/
structure FromDraft (draft : Draft H) (record : Record H) : Prop where
  reconciliationId : record.reconciliationId = draft.reconciliationId
  requestHash : record.requestHash = draft.requestHash
  idempotencyKeyHash : record.idempotencyKeyHash = draft.idempotencyKeyHash
  binding : record.toKernelBinding = draft.snapshot.toKernelBinding
  ledger : record.canonicalLedgerStateHash = draft.snapshot.canonicalLedgerStateHash ∧
    record.ledgerTransactionCount = draft.snapshot.ledgerTransactionCount

/-- What the repository keeps of where its records come from. -/
structure Kept (repo : ReconciliationRepository H) : Prop where
  asserted : ∀ id record, repo.records.get id = some record → assertRecord record = .ok ()
  started : ∀ id record, repo.records.get id = some record → ∃ request snapshot guard,
    FromDraft (createDraft prims request snapshot guard) record
  filed : ∀ id record, repo.records.get id = some record →
    record.reconciliationId = id ∧ repo.idempotency.get record.idempotencyKeyHash = some id
  pointed : ∀ key id, repo.idempotency.get key = some id → ∃ record,
    repo.records.get id = some record ∧ record.idempotencyKeyHash = key
  unwritten : ∀ id, repo.records.get id = none → repo.history id = []

/-- The repository after a start that is new. -/
def startedRepository (repo : ReconciliationRepository H) (request : Request H)
    (snapshot : KernelSnapshot H) (guard : GuardDecision H) (nowMs : ℕ) :
    ReconciliationRepository H :=
  let draft := createDraft prims request snapshot guard
  let record := pendingRecord prims draft nowMs
  { repo.write draft.reconciliationId record
      (eventFor record .started guard.actorId "reconciliation_started" nowMs) with
    idempotency := repo.idempotency.set draft.idempotencyKeyHash draft.reconciliationId }

/-- What one call does to the repository, the inbox and the stops aside. -/
inductive StepEffect (repo next : ReconciliationRepository H) : ReconciliationInput H → Prop
  | kept (input : ReconciliationInput H) (hrecords : next.records = repo.records)
      (hevents : next.events = repo.events) (hidempotency : next.idempotency = repo.idempotency) :
      StepEffect repo next input
  | started (request : Request H) (snapshot : KernelSnapshot H) (guard : GuardDecision H)
      (nowMs : ℕ)
      (hnew : repo.idempotency.get (createDraft prims request snapshot guard).idempotencyKeyHash =
        none)
      (hassert : assertRecord
        (pendingRecord prims (createDraft prims request snapshot guard) nowMs) = .ok ())
      (hrecords : next.records = (startedRepository prims repo request snapshot guard
        nowMs).records)
      (hevents : next.events = (startedRepository prims repo request snapshot guard nowMs).events)
      (hidempotency : next.idempotency =
        (startedRepository prims repo request snapshot guard nowMs).idempotency) :
      StepEffect repo next (.start request snapshot guard nowMs)
  | moved (input : ReconciliationInput H) (id : H) (record moved : Record H)
      (event : ReconciliationEvent H) (hget : repo.records.get id = some record)
      (hmove : RecordMove prims id record (repo.history id) input moved
        (repo.history id ++ [event]))
      (hrecords : next.records = (repo.write id moved event).records)
      (hevents : next.events = (repo.write id moved event).events)
      (hidempotency : next.idempotency = repo.idempotency) :
      StepEffect repo next input

section Effects

variable {prims : Primitives H} {repo next : ReconciliationRepository H}

theorem history_write (id id' : H) (record : Record H) (event : ReconciliationEvent H) :
    (repo.write id record event).history id' =
      if id' = id then repo.history id ++ [event] else repo.history id' := by
  show ((repo.events.set id (repo.history id ++ [event])).get id').getD [] = _
  rw [InsertionMap.get_set]
  split_ifs <;> rfl

theorem history_congr (h : next.events = repo.events) (id : H) :
    next.history id = repo.history id := by
  rw [ReconciliationRepository.history, h, ReconciliationRepository.history]

theorem createPending_ok {draft : Draft H} {nowMs : ℕ} {record : Record H}
    (h : createPendingHyperliquidReconciliationRecord prims draft nowMs = .ok record) :
    assertRecord record = .ok () ∧ record = pendingRecord prims draft nowMs := by
  simp only [createPendingHyperliquidReconciliationRecord, bind_eq_ok, pure_eq_ok, iso] at h
  obtain ⟨_, -, _, ⟨_, -, rfl⟩, _, -, _, hassert, rfl⟩ := h
  exact ⟨hassert, rfl⟩

theorem start_effect (request : Request H) (snapshot : KernelSnapshot H) (guard : GuardDecision H)
    (nowMs : ℕ) :
    StepEffect prims repo (reconciliationStep prims repo (.start request snapshot guard nowMs))
      (.start request snapshot guard nowMs) := by
  unfold reconciliationStep
  dsimp only
  unfold start
  split
  · split
    · exact .kept _ rfl rfl rfl
    · split_ifs <;> exact .kept _ rfl rfl rfl
  · rename_i hnew
    split
    · exact .kept _ rfl rfl rfl
    · rename_i record hrecord
      obtain ⟨hassert, rfl⟩ := createPending_ok hrecord
      exact .started request snapshot guard nowMs hnew hassert rfl rfl rfl

theorem consumeObservation_effect (input : ConsumeInput H) :
    StepEffect prims repo (reconciliationStep prims repo (.consumeObservation input))
      (.consumeObservation input) := by
  unfold reconciliationStep
  dsimp only
  unfold consumeObservation
  split
  · exact .kept _ rfl rfl rfl
  · dsimp only
    split
    · split_ifs <;> exact .kept _ rfl rfl rfl
    · split
      · exact .kept _ rfl rfl rfl
      · rename_i current hget
        split_ifs with hterminal
        · exact .kept _ rfl rfl rfl
        · split
          · exact .kept _ rfl rfl rfl
          · rename_i next hnext
            obtain ⟨hstatus, hthreshold, hassert, rfl⟩ := transition_ok hnext
            exact .moved _ input.reconciliationId current _ _ hget
              (.observed input rfl hstatus hthreshold hassert) rfl rfl rfl

theorem safeStop_effect (input : SafeStopInput H) :
    StepEffect prims repo (reconciliationStep prims repo (.safeStop input)) (.safeStop input) := by
  unfold reconciliationStep
  dsimp only
  unfold safeStop
  split
  · split_ifs <;> exact .kept _ rfl rfl rfl
  · split
    · exact .kept _ rfl rfl rfl
    · rename_i current hget
      dsimp only
      split
      · exact .kept _ rfl rfl rfl
      · exact .kept _ rfl rfl rfl
      · rename_i next hnext
        obtain ⟨hstatus, hassert, rfl⟩ := safeStop_ok hnext
        exact .moved _ input.reconciliationId current _ _ hget
          (.stopped input rfl hstatus hassert) rfl rfl rfl

/-- **What one call does to the repository.** -/
theorem step_effect (prims : Primitives H) (repo : ReconciliationRepository H)
    (input : ReconciliationInput H) :
    StepEffect prims repo (reconciliationStep prims repo input) input := by
  cases input with
  | start request snapshot guard nowMs => exact start_effect request snapshot guard nowMs
  | consumeObservation input => exact consumeObservation_effect input
  | safeStop input => exact safeStop_effect input

/-! ## Where records come from -/

theorem FromDraft.move {draft : Draft H} {id : H} {record moved : Record H}
    {history history' : List (ReconciliationEvent H)} {input : ReconciliationInput H}
    (h : FromDraft draft record) (hmove : RecordMove prims id record history input moved history') :
    FromDraft draft moved := by
  cases hmove with
  | kept => exact h
  | observed => exact ⟨h.1, h.2, h.3, h.4, h.5⟩
  | stopped => exact ⟨h.1, h.2, h.3, h.4, h.5⟩

theorem Kept.new : Kept prims (ReconciliationRepository.new : ReconciliationRepository H) where
  asserted _ _ h := nomatch h
  started _ _ h := nomatch h
  filed _ _ h := nomatch h
  pointed _ _ h := nomatch h
  unwritten _ _ := rfl

/-- A record is never started over one that exists. -/
theorem Kept.get_eq_none (hfree : CollisionFree prims) (h : Kept prims repo) {request : Request H}
    {snapshot : KernelSnapshot H} {guard : GuardDecision H}
    (hnew : repo.idempotency.get (createDraft prims request snapshot guard).idempotencyKeyHash =
      none) :
    repo.records.get (createDraft prims request snapshot guard).reconciliationId = none := by
  by_contra hsome
  obtain ⟨record, hrecord⟩ := Option.ne_none_iff_exists'.1 hsome
  obtain ⟨request', snapshot', guard', hfrom⟩ := h.started _ _ hrecord
  obtain ⟨hid, hidempotency⟩ := h.filed _ _ hrecord
  have hcore := hfree.request_eq _ _ (hid.symm.trans hfrom.reconciliationId)
  have hkey : record.idempotencyKeyHash =
      (createDraft prims request snapshot guard).idempotencyKeyHash :=
    hfrom.idempotencyKeyHash.trans (congrArg RequestCore.idempotencyKeyHash hcore).symm
  rw [hkey, hnew] at hidempotency
  cases hidempotency

theorem Kept.congr (h : Kept prims repo) (hrecords : next.records = repo.records)
    (hevents : next.events = repo.events) (hidempotency : next.idempotency = repo.idempotency) :
    Kept prims next where
  asserted := by rw [hrecords]; exact h.asserted
  started := by rw [hrecords]; exact h.started
  filed := by rw [hrecords, hidempotency]; exact h.filed
  pointed := by rw [hrecords, hidempotency]; exact h.pointed
  unwritten id hget := by
    rw [hrecords] at hget
    rw [history_congr hevents]
    exact h.unwritten id hget

theorem RecordMove.asserted {id : H} {record moved : Record H}
    {history history' : List (ReconciliationEvent H)} {input : ReconciliationInput H}
    (hmove : RecordMove prims id record history input moved history')
    (h : assertRecord record = .ok ()) : assertRecord moved = .ok () := by
  cases hmove with
  | kept => exact h
  | observed _ _ _ _ hassert => exact hassert
  | stopped _ _ _ hassert => exact hassert

theorem Kept.write (h : Kept prims repo) {id : H} {record moved : Record H}
    (hget : repo.records.get id = some record) {input : ReconciliationInput H}
    {history history' : List (ReconciliationEvent H)}
    (hmove : RecordMove prims id record history input moved history')
    (event : ReconciliationEvent H) : Kept prims (repo.write id moved event) := by
  have hsame : moved.reconciliationId = record.reconciliationId ∧
      moved.idempotencyKeyHash = record.idempotencyKeyHash := by
    cases hmove <;> exact ⟨rfl, rfl⟩
  refine ⟨fun id' record' hget' ↦ ?_, fun id' record' hget' ↦ ?_, fun id' record' hget' ↦ ?_,
    fun key id' hkey ↦ ?_, fun id' hget' ↦ ?_⟩
  · rw [show (repo.write id moved event).records.get id' = _ from InsertionMap.get_set ..] at hget'
    split_ifs at hget' with hid
    · obtain rfl := Option.some.inj hget'
      exact hmove.asserted (h.asserted _ _ hget)
    · exact h.asserted _ _ hget'
  · rw [show (repo.write id moved event).records.get id' = _ from InsertionMap.get_set ..] at hget'
    split_ifs at hget' with hid
    · obtain rfl := Option.some.inj hget'
      obtain ⟨request, snapshot, guard, hfrom⟩ := h.started _ _ hget
      exact ⟨request, snapshot, guard, hfrom.move hmove⟩
    · exact h.started _ _ hget'
  · rw [show (repo.write id moved event).records.get id' = _ from InsertionMap.get_set ..] at hget'
    split_ifs at hget' with hid
    · obtain rfl := Option.some.inj hget'
      rw [hid, hsame.1, hsame.2]
      exact h.filed _ _ hget
    · exact h.filed _ _ hget'
  · obtain ⟨record', hget', hkey'⟩ := h.pointed key id' hkey
    rw [show (repo.write id moved event).records.get id' = _ from InsertionMap.get_set ..]
    split_ifs with hid
    · rw [hid, hget] at hget'
      obtain rfl := Option.some.inj hget'
      exact ⟨moved, rfl, hsame.2.trans hkey'⟩
    · exact ⟨record', hget', hkey'⟩
  · rw [show (repo.write id moved event).records.get id' = _ from InsertionMap.get_set ..] at hget'
    split_ifs at hget' with hid
    rw [history_write, if_neg hid]
    exact h.unwritten id' hget'

theorem get_startedRepository (request : Request H) (snapshot : KernelSnapshot H)
    (guard : GuardDecision H) (nowMs : ℕ) (id : H) :
    (startedRepository prims repo request snapshot guard nowMs).records.get id =
      if id = (createDraft prims request snapshot guard).reconciliationId then
        some (pendingRecord prims (createDraft prims request snapshot guard) nowMs)
      else repo.records.get id :=
  InsertionMap.get_set ..

theorem history_startedRepository (request : Request H) (snapshot : KernelSnapshot H)
    (guard : GuardDecision H) (nowMs : ℕ) (id : H) :
    (startedRepository prims repo request snapshot guard nowMs).history id =
      if id = (createDraft prims request snapshot guard).reconciliationId then
        repo.history (createDraft prims request snapshot guard).reconciliationId ++
          [eventFor (pendingRecord prims (createDraft prims request snapshot guard) nowMs) .started
            guard.actorId "reconciliation_started" nowMs]
      else repo.history id :=
  history_write _ id (pendingRecord prims (createDraft prims request snapshot guard) nowMs) _

theorem Kept.start (hfree : CollisionFree prims) (h : Kept prims repo) {request : Request H}
    {snapshot : KernelSnapshot H} {guard : GuardDecision H}
    (hnew : repo.idempotency.get (createDraft prims request snapshot guard).idempotencyKeyHash =
      none) {nowMs : ℕ}
    (hassert : assertRecord
      (pendingRecord prims (createDraft prims request snapshot guard) nowMs) = .ok ()) :
    Kept prims (startedRepository prims repo request snapshot guard nowMs) := by
  have hnone := h.get_eq_none hfree hnew
  refine ⟨fun id record hget ↦ ?_, fun id record hget ↦ ?_, fun id record hget ↦ ?_,
    fun key id hkey ↦ ?_, fun id hget ↦ ?_⟩
  · rw [get_startedRepository] at hget
    split_ifs at hget with hid
    · obtain rfl := Option.some.inj hget
      exact hassert
    · exact h.asserted _ _ hget
  · rw [get_startedRepository] at hget
    split_ifs at hget with hid
    · obtain rfl := Option.some.inj hget
      exact ⟨request, snapshot, guard, rfl, rfl, rfl, rfl, rfl, rfl⟩
    · exact h.started _ _ hget
  · rw [get_startedRepository] at hget
    split_ifs at hget with hid
    · obtain rfl := Option.some.inj hget
      exact ⟨hid.symm, hid ▸ InsertionMap.get_set_self ..⟩
    · obtain ⟨hself, hfiled⟩ := h.filed _ _ hget
      refine ⟨hself, (InsertionMap.get_set_of_ne _ _ fun hkey ↦ ?_).trans hfiled⟩
      rw [hkey, hnew] at hfiled
      cases hfiled
  · rw [get_startedRepository]
    rw [show (startedRepository prims repo request snapshot guard nowMs).idempotency.get key = _
      from InsertionMap.get_set ..] at hkey
    split_ifs at hkey with hdraft
    · obtain rfl := Option.some.inj hkey
      exact ⟨_, if_pos rfl, hdraft.symm⟩
    · obtain ⟨record, hget, hrecord⟩ := h.pointed key id hkey
      have hne : id ≠ (createDraft prims request snapshot guard).reconciliationId := by
        rintro rfl
        rw [hnone] at hget
        cases hget
      exact ⟨record, (if_neg hne).trans hget, hrecord⟩
  · rw [get_startedRepository] at hget
    split_ifs at hget with hid
    rw [history_startedRepository, if_neg hid]
    exact h.unwritten id hget

theorem Kept.step (hfree : CollisionFree prims) (h : Kept prims repo)
    (input : ReconciliationInput H) : Kept prims (reconciliationStep prims repo input) := by
  cases step_effect prims repo input with
  | kept _ hrecords hevents hidempotency => exact h.congr hrecords hevents hidempotency
  | started request snapshot guard nowMs hnew hassert hrecords hevents hidempotency =>
    exact (h.start hfree hnew hassert).congr hrecords hevents hidempotency
  | moved _ id record moved event hget hmove hrecords hevents hidempotency =>
    exact (h.write hget hmove event).congr hrecords hevents hidempotency

/-- **What one call does to a record.** -/
theorem step_move (hfree : CollisionFree prims) (h : Kept prims repo) {id : H} {record : Record H}
    (hget : repo.records.get id = some record) (input : ReconciliationInput H) :
    ∃ moved, (reconciliationStep prims repo input).records.get id = some moved ∧
      RecordMove prims id record (repo.history id) input moved
        ((reconciliationStep prims repo input).history id) := by
  cases step_effect prims repo input with
  | kept _ hrecords hevents _ =>
    rw [hrecords, history_congr hevents]
    exact ⟨record, hget, .kept _⟩
  | started request snapshot guard nowMs hnew hassert hrecords hevents _ =>
    have hne : id ≠ (createDraft prims request snapshot guard).reconciliationId := by
      rintro rfl
      rw [h.get_eq_none hfree hnew] at hget
      cases hget
    rw [hrecords, history_congr hevents, get_startedRepository, history_startedRepository,
      if_neg hne, if_neg hne]
    exact ⟨record, hget, .kept _⟩
  | moved _ id' record' moved event hget' hmove hrecords hevents _ =>
    rw [hrecords, history_congr hevents, history_write,
      show (repo.write id' moved event).records.get id = _ from InsertionMap.get_set ..]
    split_ifs with hid
    · subst hid
      rw [hget] at hget'
      obtain rfl := Option.some.inj hget'
      exact ⟨moved, rfl, hmove⟩
    · exact ⟨record, hget, .kept _⟩

/-- A record that one call brings into being. -/
theorem step_new (h : Kept prims repo) {id : H} {record : Record H}
    (hnone : repo.records.get id = none) {input : ReconciliationInput H}
    (hget : (reconciliationStep prims repo input).records.get id = some record) :
    ∃ request snapshot guard nowMs,
      input = .start request snapshot guard nowMs ∧
      record = pendingRecord prims (createDraft prims request snapshot guard) nowMs ∧
      assertRecord record = .ok () ∧
      (reconciliationStep prims repo input).history id =
        [eventFor record .started guard.actorId "reconciliation_started" nowMs] := by
  cases step_effect prims repo input with
  | kept _ hrecords _ _ =>
    rw [hrecords, hnone] at hget
    cases hget
  | started request snapshot guard nowMs hnew hassert hrecords hevents _ =>
    rw [hrecords, get_startedRepository] at hget
    rw [history_congr hevents, history_startedRepository]
    split_ifs at hget with hid
    · obtain rfl := Option.some.inj hget
      refine ⟨request, snapshot, guard, nowMs, rfl, rfl, hassert, ?_⟩
      rw [if_pos hid, ← hid, h.unwritten id hnone, List.nil_append]
    · rw [hnone] at hget
      cases hget
  | moved _ id' record' moved event hget' _ hrecords _ _ =>
    rw [hrecords, show (repo.write id' moved event).records.get id = _ from
      InsertionMap.get_set ..] at hget
    split_ifs at hget with hid
    · rw [hid, hget'] at hnone
      cases hnone
    · rw [hnone] at hget
      cases hget

end Effects

end Repository

end Reconciliation
end IpoOne
