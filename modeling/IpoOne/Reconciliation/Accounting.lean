import IpoOne.Lib.PrefixCode
import IpoOne.Reconciliation.Repository

/-!
# The accounting of reconciliation records

What holds of every record over every sequence of calls on the repository.

* `Accounted` is the invariant of one record: its cursors stay within the request, the deltas of its
  events add up to its notional cursor, and its version counts its events.
* `reconciliation_accounting` puts it together with what a record keeps from one state to every
  later one (`Advances`), with how a record is resolved (`ResolvedBy`) and with the inbox, which
  lets an observation change a record once.
-/

set_option autoImplicit false

namespace IpoOne
namespace Reconciliation

open Fallible Run

section Accounting

variable {H : Type} [DecidableEq H] {prims : Primitives H} {repo : ReconciliationRepository H}

/-! ## The invariant of a record -/

/-- What a record and the events of its history agree on. -/
structure Accounted (record : Record H) (history : List (ReconciliationEvent H)) : Prop where
  within : WithinRequest record
  deltas : (history.map (·.economicDeltaNotionalMinor)).sum =
    record.cumulativeFillNotionalMinor.val
  version : record.version = history.length

omit [DecidableEq H] in
/-- An event that carries the delta of the new record keeps the account. -/
theorem Accounted.append {record next : Record H} {history : List (ReconciliationEvent H)}
    (h : Accounted record history) (hwithin : WithinRequest next)
    (hversion : next.version = record.version + 1)
    (hdelta : (next.cumulativeFillNotionalMinor.val : ℤ) =
      record.cumulativeFillNotionalMinor.val + next.latestEconomicDeltaNotionalMinor)
    {event : ReconciliationEvent H}
    (hevent : event.economicDeltaNotionalMinor = next.latestEconomicDeltaNotionalMinor) :
    Accounted next (history ++ [event]) where
  within := hwithin
  deltas := by
    rw [List.map_append, List.sum_append, h.deltas, hdelta, List.map_singleton,
      List.sum_singleton, hevent]
  version := by rw [hversion, h.version, List.length_append, List.length_singleton]

theorem Accounted.move {id : H} {record moved : Record H}
    {history history' : List (ReconciliationEvent H)} {input : ReconciliationInput H}
    (h : Accounted record history)
    (hmove : RecordMove prims id record history input moved history') :
    Accounted moved history' := by
  cases hmove with
  | kept => exact h
  | observed => exact h.append h.within.observedRecord rfl observedRecord_delta rfl
  | stopped input =>
    have hwithin : WithinRequest (stoppedRecord prims record input.reasonCode input.nowMs) :=
      ⟨h.within.size, h.within.notional⟩
    exact h.append hwithin rfl (Int.add_zero _).symm rfl

omit [DecidableEq H] in
theorem Accounted.started (draft : Draft H) (nowMs : ℕ) (actorId : Identifier)
    (reasonCode : String) :
    Accounted (pendingRecord prims draft nowMs)
      [eventFor (pendingRecord prims draft nowMs) .started actorId reasonCode nowMs] where
  within := by
    refine ⟨?_, Nat.zero_le _⟩
    show Decimal.zero.atoms ≤ _
    rw [Decimal.atoms_zero]
    exact Nat.zero_le _
  deltas := by
    rw [List.map_singleton, List.sum_singleton]
    rfl
  version := by rw [List.length_singleton]; rfl

/-- Every record is accounted for. -/
structure Sound (prims : Primitives H) (repo : ReconciliationRepository H) : Prop where
  kept : Kept prims repo
  accounted : ∀ id record, repo.records.get id = some record →
    Accounted record (repo.history id)

theorem Sound.new : Sound prims .new := ⟨Kept.new, fun _ _ h ↦ nomatch h⟩

theorem Sound.step (hfree : CollisionFree prims) (h : Sound prims repo)
    (input : ReconciliationInput H) : Sound prims (reconciliationStep prims repo input) := by
  refine ⟨h.kept.step hfree input, fun id record hget ↦ ?_⟩
  rcases hbefore : repo.records.get id with _ | before
  · obtain ⟨request, snapshot, guard, nowMs, -, rfl, -, hhistory⟩ := step_new h.kept hbefore hget
    rw [hhistory]
    exact .started ..
  · obtain ⟨moved, hmoved, hmove⟩ := step_move hfree h.kept hbefore input
    rw [hget] at hmoved
    obtain rfl := Option.some.inj hmoved
    exact (h.accounted id before hbefore).move hmove

theorem sound_run (hfree : CollisionFree prims) (inputs : List (ReconciliationInput H)) :
    Sound prims (run (reconciliationStep prims) .new inputs) :=
  run_induct (fun _ input h ↦ h.step hfree input) Sound.new inputs

/-! ## What a record keeps -/

theorem RecordMove.advances {id : H} {record moved : Record H}
    {history history' : List (ReconciliationEvent H)} {input : ReconciliationInput H}
    (hmove : RecordMove prims id record history input moved history') : Advances record moved := by
  cases hmove with
  | kept => exact .refl record
  | observed _ _ hstatus _ _ => exact observedRecord_advances hstatus
  | stopped _ _ hstatus _ => exact stoppedRecord_advances hstatus _

theorem run_advances (hfree : CollisionFree prims) (h : Sound prims repo)
    (future : List (ReconciliationInput H)) {id : H} {record : Record H}
    (hget : repo.records.get id = some record) :
    ∃ later, (run (reconciliationStep prims) repo future).records.get id = some later ∧
      Advances record later := by
  induction future generalizing repo record with
  | nil => exact ⟨record, hget, .refl record⟩
  | cons input future ih =>
    obtain ⟨moved, hmoved, hmove⟩ := step_move hfree h.kept hget input
    obtain ⟨later, hlater, hadvances⟩ := ih (h.step hfree input) hmoved
    exact ⟨later, hlater, hmove.advances.trans hadvances⟩

/-! ## Resolution -/

/-- The call resolves the record: its observation is trusted, and nothing contradicts it. -/
def ResolvedBy (repo : ReconciliationRepository H) (id : H)
    (input : ReconciliationInput H) : Prop :=
  ∃ consumed before, input = .consumeObservation consumed ∧ consumed.reconciliationId = id ∧
    repo.records.get id = some before ∧ consumed.observation.Trusted ∧
    incidentReason before consumed.toTransitionInput = none

theorem RecordMove.resolves {id : H} {record moved : Record H}
    {history history' : List (ReconciliationEvent H)} {input : ReconciliationInput H}
    (hmove : RecordMove prims id record history input moved history')
    (hget : repo.records.get id = some record)
    (hstatus : moved.status = .reconciled ∨ moved.status = .rejected) :
    moved = record ∨ ResolvedBy repo id input := by
  cases hmove with
  | kept => exact .inl rfl
  | observed consumed hid _ _ _ =>
    obtain ⟨htrusted, hreason⟩ := observedRecord_resolves hstatus
    exact .inr ⟨consumed, record, rfl, hid, hget, htrusted, hreason⟩
  | stopped => rcases hstatus with hstatus | hstatus <;> cases hstatus

theorem step_resolves (hfree : CollisionFree prims) (h : Kept prims repo)
    {input : ReconciliationInput H} {id : H} {record : Record H}
    (hget : (reconciliationStep prims repo input).records.get id = some record)
    (hstatus : record.status = .reconciled ∨ record.status = .rejected) :
    repo.records.get id = some record ∨ ResolvedBy repo id input := by
  rcases hbefore : repo.records.get id with _ | before
  · obtain ⟨request, snapshot, guard, nowMs, -, rfl, -⟩ := step_new h hbefore hget
    rcases hstatus with hstatus | hstatus <;> cases hstatus
  · obtain ⟨moved, hmoved, hmove⟩ := step_move hfree h hbefore input
    rw [hget] at hmoved
    obtain rfl := Option.some.inj hmoved
    exact (hmove.resolves hbefore hstatus).imp_left fun h ↦ congrArg some h.symm

/-! ## The inbox -/

theorem consume_of_inbox {input : ConsumeInput H} {payloadHash : H}
    (h : repo.inbox.get input.observation.observationId = some payloadHash) :
    (consumeObservation prims repo input).2 = repo := by
  unfold consumeObservation
  split
  · rfl
  · dsimp only
    rw [h]
    dsimp only
    split_ifs <;> rfl

/-- An observation that changes the repository is in the inbox afterwards. -/
theorem inbox_of_consume (prims : Primitives H) (repo : ReconciliationRepository H)
    (input : ConsumeInput H) :
    (consumeObservation prims repo input).2 = repo ∨
      (repo.inbox.get input.observation.observationId = none ∧
        (consumeObservation prims repo input).2.inbox =
          repo.inbox.set input.observation.observationId
            (prims.hashId (.inboxPayload input.observation))) := by
  unfold consumeObservation
  split
  · exact .inl rfl
  · dsimp only
    split
    · split_ifs <;> exact .inl rfl
    · rename_i hnone
      split
      · exact .inl rfl
      · split_ifs
        · exact .inr ⟨hnone, rfl⟩
        · split
          · exact .inl rfl
          · exact .inr ⟨hnone, rfl⟩

theorem start_inbox (draft : Draft H) (nowMs : ℕ) :
    (start prims repo draft nowMs).2.inbox = repo.inbox := by
  unfold start
  split
  · split
    · rfl
    · split_ifs <;> rfl
  · split <;> rfl

theorem safeStop_inbox (input : SafeStopInput H) :
    (safeStop prims repo input).2.inbox = repo.inbox := by
  unfold safeStop
  split
  · split_ifs <;> rfl
  · split
    · rfl
    · dsimp only
      split <;> rfl

/-- What is in the inbox stays there. -/
theorem step_inbox {observationId payloadHash : H}
    (h : repo.inbox.get observationId = some payloadHash) (input : ReconciliationInput H) :
    (reconciliationStep prims repo input).inbox.get observationId = some payloadHash := by
  cases input with
  | start request snapshot guard nowMs =>
    show (start prims repo _ _).2.inbox.get observationId = some payloadHash
    rw [start_inbox]
    exact h
  | safeStop input =>
    show (safeStop prims repo input).2.inbox.get observationId = some payloadHash
    rw [safeStop_inbox]
    exact h
  | consumeObservation input =>
    show (consumeObservation prims repo input).2.inbox.get observationId = some payloadHash
    rcases inbox_of_consume prims repo input with hsame | ⟨hnone, hset⟩
    · rw [hsame]
      exact h
    · have hne : observationId ≠ input.observation.observationId := by
        rintro rfl
        rw [hnone] at h
        cases h
      rw [hset, InsertionMap.get_set_of_ne _ _ hne]
      exact h

theorem run_inbox {observationId payloadHash : H}
    (h : repo.inbox.get observationId = some payloadHash)
    (inputs : List (ReconciliationInput H)) :
    (run (reconciliationStep prims) repo inputs).inbox.get observationId = some payloadHash :=
  run_induct
    (P := fun later : ReconciliationRepository H ↦ later.inbox.get observationId = some payloadHash)
    (fun _ input h ↦ step_inbox h input) h inputs

/-- An observation changes the records once. -/
theorem consumed_once {input again : ConsumeInput H}
    (hchanged : (consumeObservation prims repo input).2.records ≠ repo.records)
    (hsame : again.observation.observationId = input.observation.observationId)
    (future : List (ReconciliationInput H)) :
    reconciliationStep prims
        (run (reconciliationStep prims) repo (.consumeObservation input :: future))
        (.consumeObservation again) =
      run (reconciliationStep prims) repo (.consumeObservation input :: future) := by
  have hinbox : (consumeObservation prims repo input).2.inbox.get
      again.observation.observationId = some (prims.hashId (.inboxPayload input.observation)) := by
    rcases inbox_of_consume prims repo input with hkept | ⟨-, hset⟩
    · rw [hkept] at hchanged
      exact absurd rfl hchanged
    · rw [hset, hsame, InsertionMap.get_set_self]
  exact consume_of_inbox (run_inbox hinbox future)

/-! ## Every run -/

/-- **The accounting of reconciliation records.**  After any calls, every record is accounted for;
whatever calls follow, it advances; it is resolved only by an observation that is trusted and not
contradicted; and an observation that changed the records changes nothing again. -/
theorem reconciliation_accounting (hfree : CollisionFree prims)
    (past : List (ReconciliationInput H)) :
    let repo := run (reconciliationStep prims) .new past
    (∀ id record, repo.records.get id = some record → Accounted record (repo.history id)) ∧
    (∀ future id record, repo.records.get id = some record → ∃ later,
      (run (reconciliationStep prims) repo future).records.get id = some later ∧
        Advances record later) ∧
    (∀ input id record, (reconciliationStep prims repo input).records.get id = some record →
      record.status = .reconciled ∨ record.status = .rejected →
      repo.records.get id = some record ∨ ResolvedBy repo id input) ∧
    ∀ input again future,
      (reconciliationStep prims repo (.consumeObservation input)).records ≠ repo.records →
      again.observation.observationId = input.observation.observationId →
      let later := run (reconciliationStep prims) repo (.consumeObservation input :: future)
      reconciliationStep prims later (.consumeObservation again) = later := by
  have hsound := sound_run hfree past
  exact ⟨hsound.accounted,
    fun future id record hget ↦ run_advances hfree hsound future hget,
    fun input id record hget hstatus ↦ step_resolves hfree hsound.kept hget hstatus,
    fun input again future hchanged hsame ↦ consumed_once hchanged hsame future⟩

end Accounting

namespace Sample

theorem actionKind_ctorIdx : Function.Injective ActionKind.ctorIdx := fun a b h ↦ by
  cases a <;> cases b <;> first | rfl | cases h

instance : Coded ActionKind := .of ActionKind.ctorIdx actionKind_ctorIdx

theorem executionNonceState_ctorIdx : Function.Injective ExecutionNonceState.ctorIdx :=
  fun a b h ↦ by
  cases a <;> cases b <;> first | rfl | cases h

instance : Coded ExecutionNonceState := .of ExecutionNonceState.ctorIdx executionNonceState_ctorIdx

instance : Coded RiskState := .of riskRank fun a b h ↦ by
  cases a <;> cases b <;> first | rfl | cases h

instance : Coded Decimal := .of (fun d ↦ (d.whole, d.fraction)) fun a b h ↦ by
  obtain ⟨⟩ := a
  obtain ⟨⟩ := b
  cases h
  rfl

instance : Coded Minor := .of Subtype.val Subtype.val_injective

instance : Coded (KernelBinding (List ℕ)) :=
  .of (fun b ↦ (b.executionId, b.executionHash, b.nonce, b.actionKind, b.actionHash, b.cloid,
    b.facilityId, b.facilityHash, b.facilityStateHash, b.facilityVersion, b.orderIntentId,
    b.orderIntentHash, b.orderIntentStateHash, b.orderIntentVersion, b.subjectId, b.obligationId,
    b.accountBindingHash, b.signerReferenceHash, b.requestedSize, b.requestedNotionalMinor))
    fun a b h ↦ by
    obtain ⟨⟩ := a
    obtain ⟨⟩ := b
    cases h
    rfl

instance : Coded (KernelSnapshot (List ℕ)) :=
  .of (fun s ↦ (s.toKernelBinding, s.executionNonceState, s.canonicalLedgerStateHash,
    s.ledgerTransactionCount, s.riskSnapshotHash, s.riskState, s.capturedAt)) fun a b h ↦ by
    obtain ⟨⟩ := a
    obtain ⟨⟩ := b
    cases h
    rfl

instance : Coded (RequestCore (List ℕ)) :=
  .of (fun c ↦ (c.executionId, c.executionHash, c.facilityId, c.facilityHash, c.orderIntentId,
    c.orderIntentHash, c.actionHash, c.nonce, c.kernelSnapshotHash, c.authorizationDecisionHash,
    c.admissionDecisionHash, c.idempotencyKeyHash)) fun a b h ↦ by
    obtain ⟨⟩ := a
    obtain ⟨⟩ := b
    cases h
    rfl

/-- Hashes that keep apart what the samples hash. -/
def prims : Primitives (List ℕ) where
  hashId
    | .idempotency key => 1 :: Coded.encode key
    | .kernelSnapshot snapshot => 2 :: Coded.encode snapshot
    | .request core => 3 :: Coded.encode core
    | .reconciliation id _ _ _ _ _ _ => 4 :: id
    | .sourceEvidence core => [5, core.observedAt]
    | .inboxPayload observation => 6 :: observation.observationId
    | .result core => 7 :: core.sourceEvidenceHash
    | .safeStop hash _ version _ _ => 8 :: version :: hash
    | .unknownOrderState core => 9 :: core.recordVersion :: core.reconciliationHash
    | .unknownPositionState core => 10 :: core.recordVersion :: core.reconciliationHash
    | .unknownAccountState core => 11 :: core.recordVersion :: core.reconciliationHash
    | .preGuardRequest _ executionHash _ _ _ _ => 12 :: executionHash
    | .safeStopRequest hash _ => 13 :: hash
    | .safeStopIdempotency key => 14 :: Coded.encode key
    | .safeStopCommand hash _ _ _ _ => 15 :: hash
  slice hash := hash

theorem collisionFree : CollisionFree prims where
  request_eq _ _ h := Coded.encode_injective (List.cons.inj h).2
  snapshot_eq _ _ h := Coded.encode_injective (List.cons.inj h).2

instance neZeroSize : NeZero 100 := inferInstance

instance neZeroMinorUnits : NeZero 10000 := inferInstance

/-- A decimal without a fraction. -/
def size (n : Fin 100) : Decimal where
  whole := n
  fraction := []
  whole_lt := Nat.lt_trans n.isLt (by decide)
  fraction_length_le := Decimal.zero.fraction_length_le

/-- An amount below 10000. -/
def minorUnits (n : Fin 10000) : Minor := ⟨n, Nat.lt_trans n.isLt (by decide)⟩

/-- A snapshot for an order of size 10 and of a notional of 1000. -/
def snapshot : KernelSnapshot (List ℕ) where
  executionId := "execution"
  executionHash := [20]
  nonce := 1
  actionKind := .order
  actionHash := [21]
  cloid := none
  facilityId := "facility"
  facilityHash := [22]
  facilityStateHash := [23]
  facilityVersion := 1
  orderIntentId := "order"
  orderIntentHash := [24]
  orderIntentStateHash := [25]
  orderIntentVersion := 1
  subjectId := "subject"
  obligationId := "obligation"
  accountBindingHash := [26]
  signerReferenceHash := [27]
  requestedSize := size 10
  requestedNotionalMinor := minorUnits 1000
  executionNonceState := .confirmed
  canonicalLedgerStateHash := [28]
  ledgerTransactionCount := 0
  riskSnapshotHash := [29]
  riskState := .normal
  capturedAt := 100

/-- The actor of the samples. -/
def actor : Identifier := ⟨"actor_worker", by decide +kernel⟩

/-- The guard's decision. -/
def guard : GuardDecision (List ℕ) where
  approved := true
  authorizationDecisionHash := [30]
  admissionDecisionHash := [31]
  authorizedActorHash := [32]
  actorId := actor

/-- The request of the samples. -/
def request : Request (List ℕ) where
  executionId := "execution"
  executionHash := [20]
  idempotencyKey := "reconciliation-1"

/-- The reconciliation is started. -/
def started : ReconciliationInput (List ℕ) := .start request snapshot guard 100

/-- Its name. -/
def reconciliationId : List ℕ := (createDraft prims request snapshot guard).reconciliationId

/-- An observation of the venue; its time tells it from the others. -/
def observation (venueStatus : HyperliquidVenueOrderStatus) (filled : Fin 100)
    (notional : Fin 10000) (freshness : Freshness) (observedAt : ℕ) : Observation (List ℕ) where
  executionHash := [20]
  facilityHash := [22]
  actionHash := [21]
  cloid := none
  kind := .normalizedState
  venueStatus
  cumulativeFilledSize := size filled
  cumulativeFillNotionalMinor := minorUnits notional
  venueOrderReferenceHash := none
  orderStateHash := [33]
  positionStateHash := [34]
  accountStateHash := [35]
  freshness
  complete := true
  reasonCode := "venue_observation"
  observedAt
  observationId := [5, observedAt]
  sourceEvidenceHash := [5, observedAt]

/-- Take the observation in, with the kernel as it was at the start. -/
def consumed (observation : Observation (List ℕ)) : ConsumeInput (List ℕ) where
  reconciliationId
  observation
  kernelSnapshot := snapshot
  circuitBreakerFailureThreshold := 2
  actorId := actor
  nowMs := 200

/-- Four of ten lots are filled. -/
def partFilled : ConsumeInput (List ℕ) :=
  consumed (observation .partiallyFilled 4 400 .fresh 110)

/-- All lots are filled. -/
def filled : ConsumeInput (List ℕ) := consumed (observation .filled 10 990 .fresh 120)

/-- The reconciliation is stopped by hand. -/
def stopped : ReconciliationInput (List ℕ) :=
  .safeStop
    { reconciliationId
      idempotencyKeyHash := [70]
      commandHash := [71]
      reasonCode := "operator_stop"
      actorId := actor
      nowMs := 300 }

/-- The record that a run leaves. -/
def recordAfter (inputs : List (ReconciliationInput (List ℕ))) : Option (Record (List ℕ)) :=
  (run (reconciliationStep prims) .new inputs).records.get reconciliationId

end Sample

/-- An order that is filled in two parts, the first of them seen twice. -/
theorem reconciliation_accounting_filled :
    let inputs := [Sample.started, .consumeObservation Sample.partFilled,
      .consumeObservation Sample.partFilled, .consumeObservation Sample.filled]
    ∃ record, Sample.recordAfter inputs = some record ∧ record.status = .reconciled ∧
      record.version = 3 ∧ record.cumulativeFillNotionalMinor.val = 990 ∧
      Accounted record ((run (reconciliationStep Sample.prims) .new inputs).history
        Sample.reconciliationId) := by
  intro inputs
  obtain ⟨record, hrecord⟩ : ∃ record, Sample.recordAfter inputs = some record :=
    Option.isSome_iff_exists.1 (by decide +kernel)
  have hvalues : (Sample.recordAfter inputs).map (fun record ↦
      (record.status, record.version, record.cumulativeFillNotionalMinor.val)) =
        some (.reconciled, 3, 990) := by decide +kernel
  rw [hrecord, Option.map_some, Option.some.injEq, Prod.mk.injEq, Prod.mk.injEq] at hvalues
  exact ⟨record, hrecord, hvalues.1, hvalues.2.1, hvalues.2.2,
    (reconciliation_accounting Sample.collisionFree inputs).1 _ _ hrecord⟩

end Reconciliation
end IpoOne
