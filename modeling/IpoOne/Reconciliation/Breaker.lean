import IpoOne.Reconciliation.Accounting

/-!
# The circuit breaker of a reconciliation record

An open breaker should block new risk.  The breaker stays open, but `newRiskBlocked` is computed
anew from every observation, and an observation that finishes the order lifts it
(`observedRecord_blocks_iff`).

* `breaker_blocks_along_iff`: along a run every open breaker blocks exactly if no observation that
  is taken in finishes an order whose breaker is open, below the risk states that block.
* `breaker_lifted` is a run in which one does.
-/

set_option autoImplicit false

namespace IpoOne
namespace Reconciliation

open Fallible Run

section Breaker

variable {H : Type} [DecidableEq H] {prims : Primitives H} {repo : ReconciliationRepository H}
  {record : Record H}

/-- An open circuit breaker blocks new risk. -/
def BreakerBlocks (record : Record H) : Prop :=
  record.circuitBreakerOpen = true → record.newRiskBlocked = true

/-- The observation says that the order is over, in a way that fits the record. -/
def OrderOver (record : Record H) (observation : Observation H) : Prop :=
  match observation.venueStatus with
  | .filled => record.actionKind.isCancel = false ∧
      observation.cumulativeFilledSize.atoms = record.requestedSize.atoms ∧
      observation.cumulativeFillNotionalMinor.val ≠ 0
  | .canceled => True
  | .rejected => observation.cumulativeFilledSize.atoms = 0 ∧
      observation.cumulativeFillNotionalMinor.val = 0
  | _ => False

/-- The observation finishes the order. -/
structure Finishes (record : Record H) (observation : Observation H) : Prop where
  trusted : observation.Trusted
  cursors : CursorsFit record observation
  ended : OrderOver record observation

omit [DecidableEq H] in
theorem resolved_lifts_iff (status : HyperliquidReconciliationStatus) (outcome : Outcome)
    (orderState : HyperliquidReconciledOrderState) :
    (Classification.resolved record status outcome orderState).newRiskBlocked = false ↔
      riskRank record.effectiveRiskState < riskRank .reduceOnly := by
  rw [Classification.resolved, decide_eq_false_iff_not, Nat.not_le]

omit [DecidableEq H] in
theorem classifyVenueStatus_lifts_iff {observation : Observation H} :
    (classifyVenueStatus record observation).newRiskBlocked = false ↔
      OrderOver record observation ∧
        riskRank record.effectiveRiskState < riskRank .reduceOnly := by
  unfold classifyVenueStatus OrderOver
  cases observation.venueStatus with
  | opened => exact iff_of_false nofun fun h ↦ h.1
  | notFound => exact iff_of_false nofun fun h ↦ h.1
  | unknown => exact iff_of_false nofun fun h ↦ h.1
  | partiallyFilled =>
    dsimp only
    split_ifs <;> exact iff_of_false nofun fun h ↦ h.1
  | canceled =>
    dsimp only
    rw [resolved_lifts_iff, true_and]
  | filled =>
    dsimp only
    split_ifs with hfill
    · refine iff_of_false nofun fun h ↦ ?_
      obtain ⟨⟨hkind, hsize, hnotional⟩, -⟩ := h
      rcases hfill with hfill | hfill | hfill
      · rw [hkind] at hfill
        cases hfill
      · exact hfill hsize
      · exact hnotional hfill
    · rw [not_or, not_or, not_not, Bool.not_eq_true] at hfill
      rw [resolved_lifts_iff]
      exact (and_iff_right hfill).symm
  | rejected =>
    dsimp only
    split_ifs with hfill
    · refine iff_of_false nofun fun h ↦ ?_
      obtain ⟨⟨hsize, hnotional⟩, -⟩ := h
      rcases hfill with hfill | hfill
      · exact hfill hsize
      · exact hfill hnotional
    · rw [not_or, not_not, not_not] at hfill
      rw [resolved_lifts_iff]
      exact (and_iff_right hfill).symm

/-- Only the end of an order lets new risk in again. -/
theorem classify_lifts_iff {observation : Observation H} :
    (classify record observation).newRiskBlocked = false ↔
      Finishes record observation ∧ riskRank record.effectiveRiskState < riskRank .reduceOnly := by
  unfold classify
  split
  · rename_i reason hreason
    refine iff_of_false nofun fun h ↦ ?_
    rw [cursorIncident_eq_none.2 h.1.cursors] at hreason
    cases hreason
  · rename_i hcursors
    by_cases htrusted : observation.Trusted
    · rw [if_neg (not_not.2 htrusted), classifyVenueStatus_lifts_iff]
      have hfit := cursorIncident_eq_none.1 hcursors
      exact ⟨fun h ↦ ⟨⟨htrusted, hfit, h.1⟩, h.2⟩, fun h ↦ ⟨h.1.ended, h.2⟩⟩
    · rw [if_pos htrusted]
      exact iff_of_false nofun fun h ↦ htrusted h.1.trusted

/-- What lifts the block is never an incident. -/
theorem incidentReason_of_lifts {observation : Observation H}
    (h : (classify record observation).newRiskBlocked = false) :
    (classify record observation).incidentReason = none := by
  unfold classify at h ⊢
  split
  · rename_i reason hreason
    rw [hreason] at h
    cases h
  · rename_i hcursors
    rw [hcursors] at h
    dsimp only at h
    by_cases htrusted : observation.Trusted
    · rw [if_neg (not_not.2 htrusted)] at h ⊢
      unfold classifyVenueStatus at h ⊢
      cases hstatus : observation.venueStatus <;> rw [hstatus] at h <;> dsimp only at h ⊢ <;>
        first
        | rfl
        | (split_ifs at h ⊢ <;> first | rfl | cases h)
    · rw [if_pos htrusted]

omit [DecidableEq H] in
theorem Finishes.nextFailureCount_eq {observation : Observation H}
    (h : Finishes record observation) : nextFailureCount record observation = 0 := by
  rw [nextFailureCount, if_neg, if_pos h.trusted]
  rw [h.trusted.1]
  rintro ⟨⟩

/-! ## One observation -/

/-- **When an open breaker still blocks** after an observation that was taken in. -/
theorem observedRecord_blocks_iff {input : TransitionInput H}
    (hthreshold : 1 ≤ input.circuitBreakerFailureThreshold) (updatedAt : ℕ) :
    BreakerBlocks (observedRecord prims record input updatedAt) ↔
      ¬ (record.circuitBreakerOpen = true ∧ Finishes record input.observation ∧
        kernelContradiction record input.kernelSnapshot = none ∧
        riskRank input.kernelSnapshot.riskState < riskRank .reduceOnly) := by
  by_cases hreason : incidentReason record input = none
  · obtain ⟨hcontradiction, hincident⟩ := incidentReason_eq_none.1 hreason
    have hbreaker : (observedRecord prims record input updatedAt).circuitBreakerOpen =
        (record.circuitBreakerOpen || decide (input.circuitBreakerFailureThreshold ≤
          nextFailureCount record input.observation)) := by
      simp only [observedRecord, if_pos hreason, derivedState, hincident, Option.isSome_none,
        Bool.or_false]
    have hblocked : (observedRecord prims record input updatedAt).newRiskBlocked =
        ((classify record input.observation).newRiskBlocked ||
          decide (riskRank .reduceOnly ≤ riskRank input.kernelSnapshot.riskState)) := by
      simp only [observedRecord, if_pos hreason, derivedState]
    have hrisk := (kernelContradiction_eq_none.1 hcontradiction).2.2
    rw [BreakerBlocks, hbreaker, hblocked]
    constructor
    · rintro hblocks ⟨hopen, hfinishes, -, hbelow⟩
      have hclassify := classify_lifts_iff.2 ⟨hfinishes, hrisk.trans_lt hbelow⟩
      have := hblocks (by rw [hopen, Bool.true_or])
      rw [hclassify, Bool.false_or, decide_eq_true_iff] at this
      exact Nat.not_lt.2 this hbelow
    · intro hlifts hopen
      by_contra hblocked
      rw [Bool.not_eq_true, Bool.or_eq_false_iff, decide_eq_false_iff_not, Nat.not_le] at hblocked
      obtain ⟨hfinishes, -⟩ := classify_lifts_iff.1 hblocked.1
      rw [hfinishes.nextFailureCount_eq, Bool.or_eq_true, decide_eq_true_iff] at hopen
      rcases hopen with hopen | hopen
      · exact hlifts ⟨hopen, hfinishes, hcontradiction, hblocked.2⟩
      · exact absurd hthreshold (by omega)
  · obtain ⟨-, -, -, -, -, hblocked⟩ := observedRecord_of_incident prims updatedAt hreason
    refine iff_of_true (fun _ ↦ hblocked) ?_
    rintro ⟨-, hfinishes, hconsistent, hbelow⟩
    refine hreason (incidentReason_eq_none.2 ⟨hconsistent, ?_⟩)
    have hrisk := (kernelContradiction_eq_none.1 hconsistent).2.2
    exact incidentReason_of_lifts (classify_lifts_iff.2 ⟨hfinishes, hrisk.trans_lt hbelow⟩)

/-! ## What is taken in -/

/-- What a transition checks of what it is given. -/
structure InputChecked (prims : Primitives H) (record : Record H) (input : TransitionInput H) :
    Prop where
  threshold : isSafeInteger input.circuitBreakerFailureThreshold ∧
    1 ≤ input.circuitBreakerFailureThreshold
  time : isSafeInteger input.nowMs ∧ 1 ≤ input.nowMs ∧ input.nowMs ≤ 8640000000000000
  observation : assertObservation prims input.observation = .ok ()
  snapshot : assertKernelSnapshot input.kernelSnapshot
    (some (record.executionId, record.executionHash)) = .ok ()

/-- The counters of a record are below their bounds. -/
structure RoomLeft (record : Record H) : Prop where
  observations : record.processedObservationCount < maximumObservations
  polls : record.pollAttemptCount < maximumObservations
  version : isSafeInteger (record.version + 1)

theorem transition_eq_ok_iff {input : TransitionInput H} {next : Record H} :
    transitionHyperliquidReconciliationRecord prims record input = .ok next ↔
      assertRecord record = .ok () ∧ record.status ∉ terminalStatuses ∧
        InputChecked prims record input ∧
          assertRecord (observedRecord prims record input input.nowMs) = .ok () ∧
            next = observedRecord prims record input input.nowMs := by
  simp only [transitionHyperliquidReconciliationRecord, bind_eq_ok, pure_eq_ok, throwIf_eq_ok, iso,
    positiveInteger, invalidInput, exists_const, not_or, not_not, Nat.not_lt]
  constructor
  · rintro ⟨_, hrecord, hstatus, hthreshold, ⟨hsafe, hpos⟩, _, hobservation, _, hsnapshot, _,
      ⟨hdate, rfl⟩, _, hnext, rfl⟩
    exact ⟨hrecord, hstatus, ⟨hthreshold, ⟨hsafe, hpos, hdate⟩, hobservation, hsnapshot⟩, hnext,
      rfl⟩
  · rintro ⟨hrecord, hstatus, ⟨hthreshold, ⟨hsafe, hpos, hdate⟩, hobservation, hsnapshot⟩, hnext,
      rfl⟩
    exact ⟨_, hrecord, hstatus, hthreshold, ⟨hsafe, hpos⟩, _, hobservation, _, hsnapshot, _,
      ⟨hdate, rfl⟩, _, hnext, rfl⟩

/-- An observation that finishes an order resolves its record. -/
theorem classify_of_finishes {observation : Observation H} (h : Finishes record observation) :
    (classify record observation).status = .reconciled ∨
      (classify record observation).status = .rejected := by
  have hended := h.ended
  unfold classify
  rw [cursorIncident_eq_none.2 h.cursors]
  dsimp only
  rw [if_neg (not_not.2 h.trusted)]
  unfold classifyVenueStatus
  unfold OrderOver at hended
  cases hstatus : observation.venueStatus <;> rw [hstatus] at hended <;> dsimp only at hended ⊢
  case filled =>
    rw [if_neg]
    · exact .inl rfl
    · rintro (hkind | hsize | hnotional)
      · rw [hended.1] at hkind
        cases hkind
      · exact hsize hended.2.1
      · exact hended.2.2 hnotional
  case canceled => exact .inl rfl
  case rejected =>
    rw [if_neg]
    · exact .inr rfl
    · rintro (hsize | hnotional)
      · exact hsize hended.1
      · exact hnotional hended.2

/-- A record that an observation resolved has its result. -/
theorem not_inconsistent_of_resolved {input : TransitionInput H} {updatedAt : ℕ}
    (h : (observedRecord prims record input updatedAt).status = .reconciled ∨
      (observedRecord prims record input updatedAt).status = .rejected) :
    ¬ inconsistent (observedRecord prims record input updatedAt) := by
  have hterminal : (observedRecord prims record input updatedAt).status ∈ terminalStatuses := by
    rcases h with h | h <;> rw [h] <;> decide
  have hresult : (observedRecord prims record input updatedAt).resultHash.isSome = true := by
    unfold observedRecord at hterminal ⊢
    dsimp only at hterminal ⊢
    rw [if_pos (decide_eq_true hterminal), Option.isSome_some]
  have hresolved : (observedRecord prims record input updatedAt).resolvedAt.isSome = true := by
    unfold observedRecord at hterminal ⊢
    dsimp only at hterminal ⊢
    rw [if_pos (decide_eq_true hterminal), Option.isSome_some]
  rintro (hbroken | ⟨hother, -⟩ | ⟨hother, -⟩ | ⟨hother, -⟩)
  · rw [hresult, hresolved, decide_eq_true hterminal] at hbroken
    exact hbroken rfl
  all_goals
    rw [hother] at h
    rcases h with h | h <;> cases h

/-- The record that an observation makes of one whose order it finishes passes its checks as long as
the counters are below their bounds. -/
theorem assertRecord_finished_iff {input : TransitionInput H}
    (hrecord : assertRecord record = .ok ())
    (hfinishes : Finishes record input.observation)
    (hconsistent : kernelContradiction record input.kernelSnapshot = none)
    (hbelow : riskRank input.kernelSnapshot.riskState < riskRank .reduceOnly) (updatedAt : ℕ) :
    assertRecord (observedRecord prims record input updatedAt) = .ok () ↔ RoomLeft record := by
  have hrisk := (kernelContradiction_eq_none.1 hconsistent).2.2
  have hincident := incidentReason_of_lifts
    (classify_lifts_iff.2 ⟨hfinishes, hrisk.trans_lt hbelow⟩)
  have hreason := incidentReason_eq_none.2 ⟨hconsistent, hincident⟩
  obtain ⟨hstatus, -, -, hdelta⟩ := observedRecord_of_none prims updatedAt hreason
  have hcodes : (observedRecord prims record input updatedAt).incidentReasonCodes
      = record.incidentReasonCodes := by
    simp only [observedRecord, hreason]
  have hfailures : (observedRecord prims record input updatedAt).adapterFailureCount = 0 :=
    hfinishes.nextFailureCount_eq
  have hconsistentState : ¬ inconsistent (observedRecord prims record input updatedAt) := by
    have hended := classify_of_finishes hfinishes
    rw [← hstatus] at hended
    exact not_inconsistent_of_resolved hended
  simp only [assertRecord, boundedCount, identifier, positiveInteger, nonNegativeInteger, minor,
    invalidInput, bind_eq_ok, throwIf_eq_ok, exists_const, not_or, not_not, hcodes, hfailures,
    hdelta] at hrecord ⊢
  obtain ⟨h1, h2, h3, h4, h5, h6, h7, h8, h9, -, -, -, -, -, h15, _, h16, -⟩ := hrecord
  constructor
  · rintro ⟨-, -, -, -, -, -, -, -, -, -, ⟨-, hobservations⟩, -, ⟨-, hpolls⟩, ⟨hversion, -⟩, -⟩
    exact ⟨Nat.not_lt.1 hobservations, Nat.not_lt.1 hpolls, hversion⟩
  · rintro ⟨hobservations, hpolls, hversion⟩
    refine ⟨h1, h2, h3, h4, h5, h6, h7, h8, h9, ⟨?_, ?_⟩, ⟨?_, Nat.not_lt.2 hobservations⟩, ?_,
      ⟨?_, Nat.not_lt.2 hpolls⟩, ⟨hversion, ?_⟩, h15, _, h16, hconsistentState⟩
    · have hle := hfinishes.cursors.notional_le
      omega
    · have hlt := input.observation.cumulativeFillNotionalMinor.property
      omega
    · show record.processedObservationCount + 1 ≤ 2 ^ 53 - 1
      rw [maximumObservations] at hobservations
      omega
    · exact ⟨Nat.zero_le _, Nat.not_lt_zero _⟩
    · show record.pollAttemptCount + 1 ≤ 2 ^ 53 - 1
      rw [maximumObservations] at hpolls
      omega
    · exact Nat.not_lt.2 (Nat.le_add_left 1 _)

/-- The observation is taken in for `record`, an open breaker and all, and lets new risk in
again. -/
structure LiftsOpenBreaker (prims : Primitives H) (repo : ReconciliationRepository H)
    (record : Record H) (input : ConsumeInput H) : Prop where
  stored : repo.records.get input.reconciliationId = some record
  live : record.status ∉ terminalStatuses
  fresh : repo.inbox.get input.observation.observationId = none
  checked : InputChecked prims record input.toTransitionInput
  room : RoomLeft record
  breaker : record.circuitBreakerOpen = true
  finishes : Finishes record input.observation
  consistent : kernelContradiction record input.kernelSnapshot = none
  risk : riskRank input.kernelSnapshot.riskState < riskRank .reduceOnly

/-- **What a consumption does to the records.** -/
theorem consumeObservation_records (prims : Primitives H) (repo : ReconciliationRepository H)
    (input : ConsumeInput H) :
    (consumeObservation prims repo input).2.records = repo.records ∨
      ∃ record next, repo.records.get input.reconciliationId = some record ∧
        repo.inbox.get input.observation.observationId = none ∧
        transitionHyperliquidReconciliationRecord prims record input.toTransitionInput = .ok next ∧
        (consumeObservation prims repo input).2.records =
          repo.records.set input.reconciliationId next := by
  unfold consumeObservation
  split
  · exact .inl rfl
  · dsimp only
    split
    · split_ifs <;> exact .inl rfl
    · rename_i hfresh
      split
      · exact .inl rfl
      · rename_i record hget
        split_ifs with hterminal
        · exact .inl rfl
        · split
          · exact .inl rfl
          · rename_i next hnext
            exact .inr ⟨record, next, hget, hfresh, hnext, rfl⟩

/-- An observation that is new and passes the transition is written. -/
theorem consumeObservation_records_of_ok {input : ConsumeInput H} {next : Record H}
    (hget : repo.records.get input.reconciliationId = some record)
    (hfresh : repo.inbox.get input.observation.observationId = none)
    (hnext : transitionHyperliquidReconciliationRecord prims record input.toTransitionInput
      = .ok next) :
    (consumeObservation prims repo input).2.records =
      repo.records.set input.reconciliationId next := by
  obtain ⟨-, hlive, hchecked, -, -⟩ := transition_eq_ok_iff.1 hnext
  unfold consumeObservation
  rw [hchecked.observation]
  dsimp only
  rw [hfresh]
  dsimp only
  rw [hget]
  dsimp only
  rw [if_neg hlive, hnext]
  rfl

/-! ## Every run -/

/-- The call does not let new risk in for a record whose breaker is open. -/
def KeepsBlocked (prims : Primitives H) (repo : ReconciliationRepository H) :
    ReconciliationInput H → Prop
  | .consumeObservation input => ∀ record, ¬ LiftsOpenBreaker prims repo record input
  | _ => True

/-- Every open breaker blocks. -/
def BreakersBlock (repo : ReconciliationRepository H) : Prop :=
  ∀ id record, repo.records.get id = some record → BreakerBlocks record

/-- **One observation**: exactly those that let new risk in for an open breaker break the rule. -/
theorem consume_blocks_iff (hkept : Kept prims repo) (h : BreakersBlock repo)
    (input : ConsumeInput H) :
    BreakersBlock (consumeObservation prims repo input).2 ↔
      ∀ record, ¬ LiftsOpenBreaker prims repo record input := by
  constructor
  · intro hblocks record hlifts
    have hnext : assertRecord (observedRecord prims record input.toTransitionInput input.nowMs)
        = .ok () :=
      (assertRecord_finished_iff (hkept.asserted _ _ hlifts.stored) hlifts.finishes
        hlifts.consistent hlifts.risk input.nowMs).2 hlifts.room
    have hrecords := consumeObservation_records_of_ok hlifts.stored hlifts.fresh
      (transition_eq_ok_iff.2
        ⟨hkept.asserted _ _ hlifts.stored, hlifts.live, hlifts.checked, hnext, rfl⟩)
    have hget := InsertionMap.get_set_self repo.records input.reconciliationId
      (observedRecord prims record input.toTransitionInput input.nowMs)
    rw [← hrecords] at hget
    exact (observedRecord_blocks_iff hlifts.checked.threshold.2 _).1 (hblocks _ _ hget)
      ⟨hlifts.breaker, hlifts.finishes, hlifts.consistent, hlifts.risk⟩
  · intro hkeeps id after hafter
    rcases consumeObservation_records prims repo input with
      hsame | ⟨record, next, hget, hfresh, hnext, hset⟩
    · rw [hsame] at hafter
      exact h id after hafter
    · rw [hset, InsertionMap.get_set] at hafter
      split_ifs at hafter with hid
      · obtain rfl := Option.some.inj hafter
        obtain ⟨hrecord, hlive, hchecked, hassert, rfl⟩ := transition_eq_ok_iff.1 hnext
        refine (observedRecord_blocks_iff hchecked.threshold.2 _).2 ?_
        rintro ⟨hopen, hfinishes, hconsistent, hbelow⟩
        have hroom := (assertRecord_finished_iff hrecord hfinishes hconsistent hbelow _).1 hassert
        exact hkeeps record
          ⟨hget, hlive, hfresh, hchecked, hroom, hopen, hfinishes, hconsistent, hbelow⟩
      · exact h id after hafter

theorem RecordMove.blocks {id : H} {moved : Record H}
    {history history' : List (ReconciliationEvent H)}
    {input : ReconciliationInput H}
    (hmove : RecordMove prims id record history input moved history')
    (hinput : ∀ consume, input ≠ .consumeObservation consume) (h : BreakerBlocks record) :
    BreakerBlocks moved := by
  cases hmove with
  | kept => exact h
  | observed input => exact absurd rfl (hinput input)
  | stopped => exact fun _ ↦ rfl

/-- No other call lets new risk in for an open breaker. -/
theorem step_blocks (hfree : CollisionFree prims) (hkept : Kept prims repo)
    (h : BreakersBlock repo) {input : ReconciliationInput H}
    (hinput : ∀ consume, input ≠ .consumeObservation consume) :
    BreakersBlock (reconciliationStep prims repo input) := by
  intro id record hget
  rcases hbefore : repo.records.get id with _ | before
  · obtain ⟨request, snapshot, guard, nowMs, -, rfl, -⟩ := step_new hkept hbefore hget
    exact fun _ ↦ rfl
  · obtain ⟨moved, hmoved, hmove⟩ := step_move hfree hkept hbefore input
    rw [hget] at hmoved
    obtain rfl := Option.some.inj hmoved
    exact hmove.blocks hinput (h id before hbefore)

theorem step_blocks_iff (hfree : CollisionFree prims) (hkept : Kept prims repo)
    (h : BreakersBlock repo) (input : ReconciliationInput H) :
    BreakersBlock (reconciliationStep prims repo input) ↔ KeepsBlocked prims repo input := by
  cases input with
  | consumeObservation input => exact consume_blocks_iff hkept h input
  | start request snapshot guard nowMs =>
    exact iff_of_true (step_blocks hfree hkept h fun _ heq ↦ by cases heq) trivial
  | safeStop input =>
    exact iff_of_true (step_blocks hfree hkept h fun _ heq ↦ by cases heq) trivial

/-- **An open breaker blocks new risk** in every state of a run exactly if no observation that is
taken in finishes an order whose breaker is open, below the risk states that block anyway. -/
theorem breaker_blocks_along_iff (hfree : CollisionFree prims)
    (inputs : List (ReconciliationInput H)) :
    Along (reconciliationStep prims) BreakersBlock .new inputs ↔
      Steps (reconciliationStep prims) (KeepsBlocked prims) .new inputs :=
  along_iff_steps (fun _ input hkept ↦ hkept.step hfree input)
    (fun _ input hkept h ↦ step_blocks_iff hfree hkept h input) inputs Kept.new
    fun _ _ h ↦ nomatch h

end Breaker

namespace Sample

/-- The adapter did not answer. -/
def outage (observedAt : ℕ) : ReconciliationInput (List ℕ) :=
  .consumeObservation (consumed
    { observation .unknown 0 0 .unknown observedAt with
      kind := .adapterOutage
      complete := false
      reasonCode := "adapter_outage" })

/-- The order is still open. -/
def stillOpen : ReconciliationInput (List ℕ) :=
  .consumeObservation (consumed (observation .opened 0 0 .fresh 115))

/-- A record that is over is not looked at. -/
theorem not_lifts_of_over {repo : ReconciliationRepository (List ℕ)} {o : Observation (List ℕ)}
    (h : (repo.records.get reconciliationId).all (fun record ↦ record.status ∈ terminalStatuses)
      = true) (record : Record (List ℕ)) : ¬ LiftsOpenBreaker prims repo record (consumed o) := by
  intro hlifts
  have hget : repo.records.get reconciliationId = some record := hlifts.stored
  rw [hget, Option.all_some] at h
  exact hlifts.live (of_decide_eq_true h)

/-- Two outages open the breaker; then another run that is still polling sees the order filled. -/
def outages : List (ReconciliationInput (List ℕ)) :=
  [started, outage 110, outage 111, .consumeObservation filled]

end Sample

/-- An open breaker that lets new risk in. -/
theorem breaker_lifted : ¬ ∀ (inputs : List (ReconciliationInput (List ℕ))) (id : List ℕ)
    (record : Record (List ℕ)),
    (run (reconciliationStep Sample.prims) .new inputs).records.get id = some record →
      BreakerBlocks record := by
  intro h
  obtain ⟨record, hrecord⟩ : ∃ record, Sample.recordAfter Sample.outages = some record :=
    Option.isSome_iff_exists.1 (by decide +kernel)
  have hvalues : (Sample.recordAfter Sample.outages).map (fun record ↦
      (record.circuitBreakerOpen, record.newRiskBlocked)) = some (true, false) := by
    decide +kernel
  rw [hrecord, Option.map_some, Option.some.injEq, Prod.mk.injEq] at hvalues
  have hblocked := h Sample.outages Sample.reconciliationId record hrecord hvalues.1
  rw [hvalues.2] at hblocked
  cases hblocked

/-- Two outages open the breaker.  An observation that still sees the order open keeps it blocked,
and one that comes after a stop and finishes the order is not looked at. -/
theorem breaker_blocks_along_outages :
    let inputs := [Sample.started, Sample.outage 110, Sample.outage 111, Sample.stillOpen,
      Sample.stopped, .consumeObservation Sample.filled]
    Along (reconciliationStep Sample.prims) BreakersBlock .new inputs ∧
      (Sample.recordAfter inputs).map (fun record ↦
        (record.circuitBreakerOpen, record.newRiskBlocked, record.status)) =
          some (true, true, .safeStopped) := by
  intro inputs
  refine ⟨(breaker_blocks_along_iff Sample.collisionFree inputs).2
    ⟨trivial, ?_, ?_, ?_, trivial, ?_, trivial⟩, by decide +kernel⟩
  · exact fun record hlifts ↦ by cases hlifts.finishes.trusted.1
  · exact fun record hlifts ↦ by cases hlifts.finishes.trusted.1
  · exact fun record hlifts ↦ hlifts.finishes.ended
  · exact Sample.not_lifts_of_over (by decide +kernel)

end Reconciliation
end IpoOne
