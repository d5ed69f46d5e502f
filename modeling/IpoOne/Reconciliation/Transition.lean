import IpoOne.Reconciliation.Record

/-!
# What an observation makes of a record

`kernelContradiction`, `derivedState`, `transitionHyperliquidReconciliationRecord` and
`safeStopHyperliquidReconciliationRecord`.

* `transition_ok` and `safeStop_ok` say what a successful transition returns.
* `Observation.Trusted` is an observation that may resolve a record, and `observedRecord_resolves`
  that no other does.
* `Advances` collects what a transition keeps of the cursors.
-/

set_option autoImplicit false

namespace IpoOne
namespace Reconciliation

open Fallible

section Functions

variable {H : Type} [DecidableEq H] (prims : Primitives H)

/-- The reason code where the snapshot contradicts the record. -/
def kernelContradiction (record : Record H) (snapshot : KernelSnapshot H) : Option String :=
  if snapshot.toKernelBinding ≠ record.toKernelBinding then some "kernel_binding_changed"
  else if snapshot.canonicalLedgerStateHash ≠ record.canonicalLedgerStateHash ∨
      snapshot.ledgerTransactionCount ≠ record.ledgerTransactionCount then
    some "canonical_ledger_changed"
  else if riskRank snapshot.riskState < riskRank record.effectiveRiskState then
    some "risk_state_became_less_restrictive"
  else none

/-- The first `incidentReason` of `derivedState`: what is wrong with the cursors of the
observation. -/
def cursorIncident (record : Record H) (observation : Observation H) : Option String :=
  let currentSize := record.cumulativeFilledSize.atoms
  let observedSize := observation.cumulativeFilledSize.atoms
  let currentNotional := record.cumulativeFillNotionalMinor.val
  let observedNotional := observation.cumulativeFillNotionalMinor.val
  if observation.toCommandBinding ≠ record.command then some "venue_observation_binding_changed"
  else if observedSize < currentSize ∨ observedNotional < currentNotional then
    some "cumulative_fill_regressed"
  else if record.requestedSize.atoms < observedSize ∨
      record.requestedNotionalMinor.val < observedNotional then
    some "cumulative_fill_exceeded_request"
  else if record.actionKind.isCancel ∧ (observedSize ≠ 0 ∨ observedNotional ≠ 0) then
    some "cancel_observation_invented_fill"
  else if decide (observedSize = currentSize) ≠ decide (observedNotional = currentNotional) then
    some "fill_cursor_dimensions_diverged"
  else none

/-- An observation that is taken for the state of the venue. -/
def Observation.Trusted (observation : Observation H) : Prop :=
  observation.kind = .normalizedState ∧ observation.freshness = .fresh ∧
    observation.complete = true

instance (observation : Observation H) : Decidable observation.Trusted :=
  inferInstanceAs (Decidable (_ ∧ _))

/-- The part of `derivedState` that the branches set. -/
structure Classification where
  status : HyperliquidReconciliationStatus
  outcome : Outcome
  orderState : HyperliquidReconciledOrderState
  reconciled : Bool := false
  newRiskBlocked : Bool := true
  incidentReason : Option String := none

/-- The classification of an incident. -/
def Classification.incident (reason : String) : Classification where
  status := .incident
  outcome := .incident
  orderState := .incident
  incidentReason := some reason

/-- The state of an order that is over. -/
def Classification.resolved (record : Record H) (status : HyperliquidReconciliationStatus)
    (outcome : Outcome) (orderState : HyperliquidReconciledOrderState) : Classification where
  status
  outcome
  orderState
  reconciled := true
  newRiskBlocked := riskRank .reduceOnly ≤ riskRank record.effectiveRiskState

/-- The `switch` of `derivedState`, with the statuses that do not reach it. -/
def classifyVenueStatus (record : Record H) (observation : Observation H) : Classification :=
  let observedSize := observation.cumulativeFilledSize.atoms
  let observedNotional := observation.cumulativeFillNotionalMinor.val
  let requestedSize := record.requestedSize.atoms
  match observation.venueStatus with
  | .notFound | .unknown => { status := .unknown, outcome := .unknown, orderState := .unknown }
  | .opened =>
    { status := .partially
      outcome := .partially
      orderState := if observedSize = 0 then .opened else .partiallyFilled }
  | .partiallyFilled =>
    if observedSize = 0 ∨ requestedSize ≤ observedSize ∨ observedNotional = 0 then
      .incident "invalid_partial_fill"
    else { status := .partially, outcome := .partially, orderState := .partiallyFilled }
  | .filled =>
    if record.actionKind.isCancel ∨ observedSize ≠ requestedSize ∨ observedNotional = 0 then
      .incident "invalid_terminal_fill"
    else .resolved record .reconciled .confirmed .filled
  | .canceled => .resolved record .reconciled .canceled .canceled
  | .rejected =>
    if observedSize ≠ 0 ∨ observedNotional ≠ 0 then .incident "rejected_order_has_fill"
    else .resolved record .rejected .rejected .rejected

/-- What an observation comes to: the cursors are compared first, then how current it is. -/
def classify (record : Record H) (observation : Observation H) : Classification :=
  match cursorIncident record observation with
  | some reason => .incident reason
  | none =>
    if ¬ observation.Trusted then
      { status := .unknown, outcome := .unknown, orderState := .unknown }
    else classifyVenueStatus record observation

/-- What `derivedState` returns. -/
structure Derived extends Classification where
  circuitBreakerOpen : Bool
  nextFailureCount : ℕ
  economicDeltaNotionalMinor : ℤ

/-- `nextFailureCount` -/
def nextFailureCount (record : Record H) (observation : Observation H) : ℕ :=
  if observation.kind = .adapterOutage then record.adapterFailureCount + 1
  else if observation.Trusted then 0
  else record.adapterFailureCount

/-- What an observation makes of a record's state, its failures and its breaker. -/
def derivedState (record : Record H) (observation : Observation H)
    (circuitBreakerFailureThreshold : ℕ) : Derived :=
  let classification := classify record observation
  { classification with
    circuitBreakerOpen := record.circuitBreakerOpen ||
      decide (circuitBreakerFailureThreshold ≤ nextFailureCount record observation) ||
      classification.incidentReason.isSome
    nextFailureCount := nextFailureCount record observation
    economicDeltaNotionalMinor :=
      (observation.cumulativeFillNotionalMinor.val : ℤ) - record.cumulativeFillNotionalMinor.val }

/-- What `transitionHyperliquidReconciliationRecord` is given with the record. -/
structure TransitionInput (H : Type) where
  observation : Observation H
  kernelSnapshot : KernelSnapshot H
  circuitBreakerFailureThreshold : ℕ
  nowMs : ℕ

/-- `contradiction ?? derived.incidentReason` -/
def incidentReason (record : Record H) (input : TransitionInput H) : Option String :=
  (kernelContradiction record input.kernelSnapshot).or
    (classify record input.observation).incidentReason

/-- `[...new Set([...codes, code])]` of codes that differ. -/
def addReasonCode (codes : List String) (code : String) : List String :=
  if code ∈ codes then codes else codes ++ [code]

/-- The record that a transition builds; `reason` is its `incidentReason`. -/
def observedRecord (record : Record H) (input : TransitionInput H) (updatedAt : ℕ) : Record H :=
  let observation := input.observation
  let snapshot := input.kernelSnapshot
  let contradiction := kernelContradiction record snapshot
  let derived := derivedState record observation input.circuitBreakerFailureThreshold
  let reason := incidentReason record input
  let status := if reason = none then derived.status else .incident
  let outcome := if reason = none then derived.outcome else .incident
  let isResolved := decide (status ∈ terminalStatuses)
  { record with
    riskSnapshotHash :=
      if contradiction = none then snapshot.riskSnapshotHash else record.riskSnapshotHash
    effectiveRiskState :=
      if contradiction = none then snapshot.riskState else record.effectiveRiskState
    latestKernelSnapshotHash :=
      if contradiction = none then kernelSnapshotHash prims snapshot
      else record.latestKernelSnapshotHash
    status
    outcome := some outcome
    reconciledOrderState := if reason = none then derived.orderState else .incident
    cumulativeFilledSize :=
      if reason = none then observation.cumulativeFilledSize else record.cumulativeFilledSize
    cumulativeFillNotionalMinor :=
      if reason = none then observation.cumulativeFillNotionalMinor
      else record.cumulativeFillNotionalMinor
    latestEconomicDeltaNotionalMinor :=
      if reason = none then derived.economicDeltaNotionalMinor else 0
    processedObservationCount := record.processedObservationCount + 1
    latestSourceEvidenceHash := some observation.sourceEvidenceHash
    adapterFailureCount := derived.nextFailureCount
    pollAttemptCount := record.pollAttemptCount + 1
    circuitBreakerOpen := if reason = none then derived.circuitBreakerOpen else true
    newRiskBlocked :=
      if reason = none then
        derived.newRiskBlocked || decide (riskRank .reduceOnly ≤ riskRank snapshot.riskState)
      else true
    reconciled := if reason = none then derived.reconciled else false
    incidentReasonCodes :=
      match reason with
      | none => record.incidentReasonCodes
      | some code => addReasonCode record.incidentReasonCodes code
    resultHash :=
      if isResolved then
        some (prims.hashId (.result
          { reconciliationHash := record.reconciliationHash
            status
            outcome
            sourceEvidenceHash := observation.sourceEvidenceHash
            cumulativeFilledSize := observation.cumulativeFilledSize
            cumulativeFillNotionalMinor := observation.cumulativeFillNotionalMinor
            ledgerStateHash := record.canonicalLedgerStateHash
            facilityStateHash := record.facilityStateHash
            riskSnapshotHash := snapshot.riskSnapshotHash
            nonce := record.nonce
            incidentReason := reason }))
      else none
    version := record.version + 1
    updatedAt
    resolvedAt := if isResolved then some updatedAt else none }

/-- Takes an observation: a contradiction makes the record an incident. -/
def transitionHyperliquidReconciliationRecord (record : Record H) (input : TransitionInput H) :
    Domain (Record H) := do
  assertRecord record
  throwIf (record.status ∈ terminalStatuses) "hyperliquid_reconciliation_terminal"
    "terminal reconciliation cannot be mutated"
  positiveInteger "circuitBreakerFailureThreshold" input.circuitBreakerFailureThreshold
  positiveInteger "nowMs" input.nowMs
  assertObservation prims input.observation
  assertKernelSnapshot input.kernelSnapshot (some (record.executionId, record.executionHash))
  let updatedAt ← iso input.nowMs
  let next := observedRecord prims record input updatedAt
  assertRecord next
  pure next

/-- The record that a stop builds. -/
def stoppedRecord (record : Record H) (reasonCode : String) (updatedAt : ℕ) : Record H :=
  { record with
    status := .safeStopped
    outcome := some .safeStopped
    reconciledOrderState := .safeStopped
    latestEconomicDeltaNotionalMinor := 0
    circuitBreakerOpen := true
    manualSafeStop := true
    newRiskBlocked := true
    reconciled := false
    incidentReasonCodes := addReasonCode record.incidentReasonCodes reasonCode
    resultHash := some (prims.hashId (.safeStop record.reconciliationHash reasonCode
      (record.version + 1) record.canonicalLedgerStateHash record.facilityStateHash))
    version := record.version + 1
    updatedAt
    resolvedAt := some updatedAt }

/-- The outcome is `none` if the record is over already, and is returned as it is. -/
def safeStopHyperliquidReconciliationRecord (record : Record H) (reasonCode : String)
    (nowMs : ℕ) : Domain (Option (Record H)) := do
  assertRecord record
  if record.status ∈ terminalStatuses then pure none
  else do
    safeCode "reasonCode" reasonCode
    positiveInteger "nowMs" nowMs
    let updatedAt ← iso nowMs
    let next := stoppedRecord prims record reasonCode updatedAt
    assertRecord next
    pure (some next)

end Functions

/-! ## What is kept of a record -/

section Kept

variable {H : Type} {prims : Primitives H} {record next : Record H} {updatedAt : ℕ}

/-- The cursors of a record stay within what was requested. -/
structure WithinRequest (record : Record H) : Prop where
  size : record.cumulativeFilledSize.atoms ≤ record.requestedSize.atoms
  notional : record.cumulativeFillNotionalMinor.val ≤ record.requestedNotionalMinor.val

/-- What is kept from one state of a record to a later one. -/
structure Advances (record next : Record H) : Prop where
  request : next.toKernelBinding = record.toKernelBinding
  size : record.cumulativeFilledSize.atoms ≤ next.cumulativeFilledSize.atoms
  notional : record.cumulativeFillNotionalMinor.val ≤ next.cumulativeFillNotionalMinor.val
  risk : riskRank record.effectiveRiskState ≤ riskRank next.effectiveRiskState
  final : record.status ∈ terminalStatuses → next = record

theorem Advances.refl (record : Record H) : Advances record record :=
  ⟨rfl, le_rfl, le_rfl, le_rfl, fun _ ↦ rfl⟩

theorem Advances.trans {a b c : Record H} (hab : Advances a b) (hbc : Advances b c) :
    Advances a c where
  request := hbc.request.trans hab.request
  size := Nat.le_trans hab.size hbc.size
  notional := Nat.le_trans hab.notional hbc.notional
  risk := Nat.le_trans hab.risk hbc.risk
  final h := by
    have hb := hab.final h
    rw [hb] at hbc
    exact hbc.final h

theorem stoppedRecord_advances (hstatus : record.status ∉ terminalStatuses) (reasonCode : String) :
    Advances record (stoppedRecord prims record reasonCode updatedAt) :=
  ⟨rfl, le_rfl, le_rfl, le_rfl, fun hmem ↦ absurd hmem hstatus⟩

/-- **What a stop returns.** -/
theorem safeStop_ok {reasonCode : String} {nowMs : ℕ}
    (h : safeStopHyperliquidReconciliationRecord prims record reasonCode nowMs = .ok (some next)) :
    record.status ∉ terminalStatuses ∧ assertRecord next = .ok () ∧
      next = stoppedRecord prims record reasonCode nowMs := by
  unfold safeStopHyperliquidReconciliationRecord at h
  rw [bind_eq_ok] at h
  obtain ⟨_, -, h⟩ := h
  split_ifs at h with hstatus
  · cases h
  · simp only [bind_eq_ok, pure_eq_ok, iso] at h
    obtain ⟨_, _, _, _, _, ⟨_, _, rfl⟩, _, hassert, hnext⟩ := h
    obtain rfl := Option.some.inj hnext
    exact ⟨hstatus, hassert, rfl⟩

end Kept

/-! ## What the branches say -/

section Lemmas

variable {H : Type} [DecidableEq H] {prims : Primitives H} {record next : Record H}

theorem kernelContradiction_eq_none {snapshot : KernelSnapshot H} :
    kernelContradiction record snapshot = none ↔
      snapshot.toKernelBinding = record.toKernelBinding ∧
      (snapshot.canonicalLedgerStateHash = record.canonicalLedgerStateHash ∧
        snapshot.ledgerTransactionCount = record.ledgerTransactionCount) ∧
      riskRank record.effectiveRiskState ≤ riskRank snapshot.riskState := by
  unfold kernelContradiction
  split_ifs with hbinding hledger hrisk
  · exact iff_of_false (by simp) fun h ↦ hbinding h.1
  · rw [← not_and_or, not_and_or] at hledger
    refine iff_of_false (by simp) fun h ↦ ?_
    rcases hledger with hledger | hledger
    · exact hledger h.2.1.1
    · exact hledger h.2.1.2
  · exact iff_of_false (by simp) fun h ↦ absurd hrisk (Nat.not_lt.2 h.2.2)
  · rw [not_not] at hbinding
    rw [not_or, not_not, not_not] at hledger
    exact iff_of_true rfl ⟨hbinding, hledger, Nat.not_lt.1 hrisk⟩

/-- An observation whose cursors `derivedState` takes as they are. -/
structure CursorsFit (record : Record H) (observation : Observation H) : Prop where
  bound : observation.toCommandBinding = record.command
  size_le : record.cumulativeFilledSize.atoms ≤ observation.cumulativeFilledSize.atoms
  notional_le :
    record.cumulativeFillNotionalMinor.val ≤ observation.cumulativeFillNotionalMinor.val
  size_requested : observation.cumulativeFilledSize.atoms ≤ record.requestedSize.atoms
  notional_requested :
    observation.cumulativeFillNotionalMinor.val ≤ record.requestedNotionalMinor.val
  cancel : record.actionKind.isCancel = true → observation.cumulativeFilledSize.atoms = 0 ∧
    observation.cumulativeFillNotionalMinor.val = 0
  together : observation.cumulativeFilledSize.atoms = record.cumulativeFilledSize.atoms ↔
    observation.cumulativeFillNotionalMinor.val = record.cumulativeFillNotionalMinor.val

theorem cursorIncident_eq_none {observation : Observation H} :
    cursorIncident record observation = none ↔ CursorsFit record observation := by
  unfold cursorIncident
  dsimp only
  split_ifs with hbound hregressed hexceeded hcancel htogether
  · exact iff_of_false (by simp) fun h ↦ hbound h.bound
  · refine iff_of_false (by simp) fun h ↦ ?_
    rcases hregressed with hlt | hlt
    · exact absurd hlt (Nat.not_lt.2 h.size_le)
    · exact absurd hlt (Nat.not_lt.2 h.notional_le)
  · refine iff_of_false (by simp) fun h ↦ ?_
    rcases hexceeded with hlt | hlt
    · exact absurd hlt (Nat.not_lt.2 h.size_requested)
    · exact absurd hlt (Nat.not_lt.2 h.notional_requested)
  · refine iff_of_false (by simp) fun h ↦ ?_
    obtain ⟨hsize, hnotional⟩ := h.cancel hcancel.1
    rcases hcancel.2 with hne | hne
    · exact hne hsize
    · exact hne hnotional
  · exact iff_of_false (by simp) fun h ↦ htogether (decide_eq_decide.2 h.together)
  · rw [not_not] at hbound
    rw [not_or, Nat.not_lt, Nat.not_lt] at hregressed hexceeded
    rw [not_not, decide_eq_decide] at htogether
    refine iff_of_true rfl ⟨hbound, hregressed.1, hregressed.2, hexceeded.1, hexceeded.2, ?_,
      htogether⟩
    intro hkind
    rw [not_and_or, not_or, not_not, not_not] at hcancel
    exact hcancel.resolve_left fun h ↦ h hkind

/-- Without an incident the cursors fit. -/
theorem cursorsFit_of_classify {observation : Observation H}
    (h : (classify record observation).incidentReason = none) : CursorsFit record observation := by
  rw [← cursorIncident_eq_none]
  unfold classify at h
  split at h
  · cases h
  · assumption

/-- Only an observation that is trusted resolves a record. -/
theorem classify_trusted {observation : Observation H}
    (h : (classify record observation).status = .reconciled ∨
      (classify record observation).status = .rejected) : observation.Trusted := by
  unfold classify at h
  split at h
  · rcases h with h | h <;> cases h
  · by_contra htrusted
    rw [if_pos htrusted] at h
    rcases h with h | h <;> cases h

theorem incidentReason_eq_none {input : TransitionInput H} :
    incidentReason record input = none ↔ kernelContradiction record input.kernelSnapshot = none ∧
      (classify record input.observation).incidentReason = none :=
  Option.or_eq_none_iff

/-- **What a transition returns.** -/
theorem transition_ok {input : TransitionInput H}
    (h : transitionHyperliquidReconciliationRecord prims record input = .ok next) :
    record.status ∉ terminalStatuses ∧ 1 ≤ input.circuitBreakerFailureThreshold ∧
      assertRecord next = .ok () ∧ next = observedRecord prims record input input.nowMs := by
  simp only [transitionHyperliquidReconciliationRecord, bind_eq_ok, pure_eq_ok, throwIf_eq_ok, iso,
    positiveInteger, invalidInput] at h
  obtain ⟨_, _, _, hstatus, _, hthreshold, _, _, _, _, _, _, _, ⟨_, _, rfl⟩, _, hnext, rfl⟩ := h
  rw [not_or, Nat.not_lt] at hthreshold
  exact ⟨hstatus, hthreshold.2, hnext, rfl⟩

/-! ## What an observation does -/

variable (prims) {input : TransitionInput H} (updatedAt : ℕ)

theorem observedRecord_of_incident (h : incidentReason record input ≠ none) :
    (observedRecord prims record input updatedAt).status = .incident ∧
    (observedRecord prims record input updatedAt).cumulativeFilledSize =
      record.cumulativeFilledSize ∧
    (observedRecord prims record input updatedAt).cumulativeFillNotionalMinor =
      record.cumulativeFillNotionalMinor ∧
    (observedRecord prims record input updatedAt).latestEconomicDeltaNotionalMinor = 0 ∧
    (observedRecord prims record input updatedAt).circuitBreakerOpen = true ∧
    (observedRecord prims record input updatedAt).newRiskBlocked = true := by
  simp only [observedRecord, if_neg h, and_self]

theorem observedRecord_of_none (h : incidentReason record input = none) :
    (observedRecord prims record input updatedAt).status =
      (classify record input.observation).status ∧
    (observedRecord prims record input updatedAt).cumulativeFilledSize =
      input.observation.cumulativeFilledSize ∧
    (observedRecord prims record input updatedAt).cumulativeFillNotionalMinor =
      input.observation.cumulativeFillNotionalMinor ∧
    (observedRecord prims record input updatedAt).latestEconomicDeltaNotionalMinor =
      (input.observation.cumulativeFillNotionalMinor.val : ℤ) -
        record.cumulativeFillNotionalMinor.val := by
  simp only [observedRecord, if_pos h, derivedState, and_self]

variable {prims updatedAt}

theorem observedRecord_advances (hstatus : record.status ∉ terminalStatuses) :
    Advances record (observedRecord prims record input updatedAt) := by
  have hrisk : riskRank record.effectiveRiskState ≤
      riskRank (observedRecord prims record input updatedAt).effectiveRiskState := by
    show riskRank _ ≤ riskRank (if _ then _ else _)
    split_ifs with hcontradiction
    · exact (kernelContradiction_eq_none.1 hcontradiction).2.2
    · exact le_rfl
  by_cases h : incidentReason record input = none
  · obtain ⟨-, hsize, hnotional, -⟩ := observedRecord_of_none prims updatedAt h
    have hfit := cursorsFit_of_classify (incidentReason_eq_none.1 h).2
    exact ⟨rfl, hsize ▸ hfit.size_le, hnotional ▸ hfit.notional_le, hrisk,
      fun hmem ↦ absurd hmem hstatus⟩
  · obtain ⟨-, hsize, hnotional, -⟩ := observedRecord_of_incident prims updatedAt h
    exact ⟨rfl, hsize ▸ le_rfl, hnotional ▸ le_rfl, hrisk, fun hmem ↦ absurd hmem hstatus⟩

theorem WithinRequest.observedRecord (hwithin : WithinRequest record) :
    WithinRequest (observedRecord prims record input updatedAt) := by
  by_cases h : incidentReason record input = none
  · obtain ⟨-, hsize, hnotional, -⟩ := observedRecord_of_none prims updatedAt h
    have hfit := cursorsFit_of_classify (incidentReason_eq_none.1 h).2
    exact ⟨hsize ▸ hfit.size_requested, hnotional ▸ hfit.notional_requested⟩
  · obtain ⟨-, hsize, hnotional, -⟩ := observedRecord_of_incident prims updatedAt h
    exact ⟨hsize ▸ hwithin.size, hnotional ▸ hwithin.notional⟩

/-- What a transition adds to the notional cursor is its economic delta. -/
theorem observedRecord_delta :
    ((observedRecord prims record input updatedAt).cumulativeFillNotionalMinor.val : ℤ) =
      record.cumulativeFillNotionalMinor.val +
        (observedRecord prims record input updatedAt).latestEconomicDeltaNotionalMinor := by
  by_cases h : incidentReason record input = none
  · obtain ⟨-, -, hnotional, hdelta⟩ := observedRecord_of_none prims updatedAt h
    rw [hnotional, hdelta]
    omega
  · obtain ⟨-, -, hnotional, hdelta, -⟩ := observedRecord_of_incident prims updatedAt h
    rw [hnotional, hdelta, Int.add_zero]

/-- A transition that resolves a record was given a trusted observation and no contradiction. -/
theorem observedRecord_resolves
    (h : (observedRecord prims record input updatedAt).status = .reconciled ∨
      (observedRecord prims record input updatedAt).status = .rejected) :
    input.observation.Trusted ∧ incidentReason record input = none := by
  by_cases hreason : incidentReason record input = none
  · rw [(observedRecord_of_none prims updatedAt hreason).1] at h
    exact ⟨classify_trusted h, hreason⟩
  · rw [(observedRecord_of_incident prims updatedAt hreason).1] at h
    rcases h with h | h <;> cases h

end Lemmas

end Reconciliation
end IpoOne
