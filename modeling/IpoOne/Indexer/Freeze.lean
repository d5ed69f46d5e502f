import IpoOne.Indexer.Atomicity

/-!
# How a freeze of new risk is lifted

A reconciliation that finds a discrepancy freezes new risk, and only `approveRecovery` is meant to
lift the freeze, by naming the latest reconciliation.  `RiskStep` says what each method does to the
risk control and to the reconciliations, in memory and in the store.

Two things can go wrong.  `reconcile` sets the risk control before it stores it, so that a freeze
the database did not take is gone after the next `restore`; and `approveRecovery` does not compare
the projection it finds with the one that was reconciled.  `freeze_lifted_rightly_iff` says that
nothing else can.
-/

set_option autoImplicit false

namespace IpoOne
namespace Indexer

open Fallible

section Steps

variable {H : Type} [LinearOrder H] (prims : Primitives H) (descriptor : Descriptor)

/-- New risk is frozen. -/
def System.frozen (s : System H) : Bool := s.indexer.riskControl.newRiskFrozen

/-- The reconciliation a call returns, if it is one. -/
def completed (s : System H) : SystemInput H → Option (Reconciliation H)
  | .reconcile directReads now failure =>
    (reconcile prims descriptor s directReads now failure).1.toOption
  | _ => none

/-- **What a call does to the risk control.** -/
inductive RiskStep (s : System H) : SystemInput H → System H → Prop
  | kept {i : SystemInput H} {s' : System H}
      (control : s'.indexer.riskControl = s.indexer.riskControl)
      (stored : s'.store.riskControl = s.store.riskControl)
      (runs : s'.store.reconciliations = s.store.reconciliations)
      (none : completed prims descriptor s i = none) : RiskStep s i s'
  | restored {now : ℕ} {s' : System H} {control : RiskControl H}
      (unfrozen : control.newRiskFrozen = false)
      (restored : s'.indexer.riskControl = s.store.riskControl.getD control)
      (store : s'.store = s.store) : RiskStep s (.restore now) s'
  /-- a reconciliation that changes nothing -/
  | checked {reads : List DirectRead} {now : ℕ} {s' : System H} {run : Reconciliation H}
      (control : s'.indexer.riskControl = s.indexer.riskControl)
      (stored : s'.store.riskControl = s.store.riskControl)
      (runs : s'.store.reconciliations = s.store.reconciliations ++ [run])
      (returned : completed prims descriptor s (.reconcile reads now .none) = some run) :
      RiskStep s (.reconcile reads now .none) s'
  /-- a reconciliation that freezes new risk, and is stored if the database takes it -/
  | froze {reads : List DirectRead} {now : ℕ} {failure : Option DomainError} {s' : System H}
      {run : Reconciliation H} {control : RiskControl H} (unfrozen : s.frozen = false)
      (run_eq : reconciliationRun prims descriptor s.indexer reads now = .ok run)
      (inconsistent : run.consistent = false) (frozen : control.newRiskFrozen = true)
      (set : s'.indexer.riskControl = control)
      (stored : failure = .none → s'.store.riskControl = some control ∧
        s'.store.reconciliations = s.store.reconciliations ++ [run]) :
      RiskStep s (.reconcile reads now failure) s'
  | approved {reconciliationId : H} {approvalHash approvedByHash : Option Bytes32} {now : ℕ}
      {failure : Option DomainError} {s' : System H} {latest : Reconciliation H}
      {control : RiskControl H}
      (accepted : ∃ transition, recoveryFor prims descriptor s reconciliationId approvalHash
        approvedByHash now = .ok (latest, control, transition))
      (frozen : s.frozen = true)
      (latest_eq : s.store.reconciliations.getLast? = some latest)
      (id_eq : latest.reconciliationId = reconciliationId) (consistent : latest.consistent = true)
      (unfrozen : control.newRiskFrozen = false) (set : s'.indexer.riskControl = control)
      (stored : s'.store = s.store ∨ s'.store.riskControl = some control) :
      RiskStep s (.approveRecovery reconciliationId approvalHash approvedByHash now failure) s'

variable {prims descriptor} {s : System H}

theorem finalize_riskControl {ix ix' : PoolEventIndexer H} {o : Observation H}
    {effect : Option (FinalizedEffect H × OutboxMessage H)}
    (h : finalize prims descriptor ix o = .ok (ix', effect)) :
    ix'.riskControl = ix.riskControl := by
  obtain ⟨rfl, _⟩ | ⟨_, _, _, _, _, _, rfl⟩ := finalize_ok h
  · rfl
  · rfl

theorem applyObservation_riskControl (ix : PoolEventIndexer H) (o : Observation H) :
    (applyObservation prims descriptor ix o).2.riskControl = ix.riskControl := by
  have houtcome := applyObservation_outcome prims descriptor ix o
  generalize applyObservation prims descriptor ix o = r at houtcome ⊢
  cases houtcome with
  | duplicate | refused | unprojected => rfl
  | outOfWindow e invalidations projected effect fresh admitted finalized window =>
    have hsame := finalize_riskControl finalized
    exact hsame
  | applied invalidations projected effect head cursor fresh admitted finalized window =>
    have hsame := finalize_riskControl finalized
    exact hsame

theorem commitIngestion_risk {store store' : Store H} {bundle : Bundle H}
    {failure : Option DomainError} {persisted : Persisted}
    (h : commitIngestion store bundle failure = .ok (store', persisted)) :
    store'.riskControl = store.riskControl ∧ store'.reconciliations = store.reconciliations := by
  cases failure with
  | some e => cases h
  | none =>
    rw [commitIngestion] at h
    dsimp only at h
    split at h
    · cases pure_eq_ok.1 h
      exact ⟨rfl, rfl⟩
    · cases pure_eq_ok.1 h
      exact ⟨rfl, rfl⟩

theorem ingest_risk (s : System H) (log : RawLog) (failure : Option DomainError) :
    RiskStep prims descriptor s (.ingest log failure)
      (ingest prims descriptor s log failure).2 := by
  have hcontrol : (ingest prims descriptor s log failure).2.indexer.riskControl
      = s.indexer.riskControl := by
    rcases ingest_indexer prims descriptor s log failure with hsame | ⟨o, _, happly⟩
    · rw [hsame]
    · rw [happly, applyObservation_riskControl]
  have hstore : (ingest prims descriptor s log failure).2.store.riskControl = s.store.riskControl ∧
      (ingest prims descriptor s log failure).2.store.reconciliations
        = s.store.reconciliations := by
    rw [ingest]
    split
    · exact ⟨rfl, rfl⟩
    · split
      · exact ⟨rfl, rfl⟩
      · exact ⟨rfl, rfl⟩
      · split
        · exact ⟨rfl, rfl⟩
        · rename_i hcommit
          have hsame := commitIngestion_risk hcommit
          exact hsame
  exact .kept hcontrol hstore.1 hstore.2 rfl

theorem observeCanonicalBlock_risk (s : System H) (blockNumber : Option ℕ)
    (blockHash : Option Bytes32) (observedAt : Option ℕ) (failure : Option DomainError) :
    RiskStep prims descriptor s (.observeCanonicalBlock blockNumber blockHash observedAt failure)
      (observeCanonicalBlock prims descriptor s blockNumber blockHash observedAt failure).2 := by
  rw [observeCanonicalBlock]
  split
  · exact .kept rfl rfl rfl rfl
  · split
    · exact .kept rfl rfl rfl rfl
    · dsimp only
      split
      · exact .kept rfl rfl rfl rfl
      · rename_i hcommit
        have hsame := commitIngestion_risk hcommit
        exact .kept rfl hsame.1 hsame.2 rfl

theorem replay_riskControl (ix : PoolEventIndexer H) (history : List (Observation H)) :
    (replay prims descriptor ix history).2.riskControl = ix.riskControl := by
  induction history generalizing ix with
  | nil => rfl
  | cons o rest ih =>
    rw [replay]
    split
    · exact ih _
    · split
      · rfl
      · exact ih _

theorem restore_risk (s : System H) (now : ℕ) :
    RiskStep prims descriptor s (.restore now) (restore prims descriptor s now).2 := by
  have hreplay : (replay prims descriptor (clear descriptor s.indexer)
      s.store.observations).2.riskControl = s.indexer.riskControl := replay_riskControl _ _
  rw [restore]
  split
  · rename_i e ix hrun
    rw [hrun] at hreplay
    exact .kept hreplay rfl rfl rfl
  · rename_i ix hrun
    rw [hrun] at hreplay
    split
    · exact .kept hreplay rfl rfl rfl
    · exact .restored rfl rfl rfl

theorem reconcile_risk (s : System H) (reads : List DirectRead) (now : ℕ)
    (failure : Option DomainError) :
    RiskStep prims descriptor s (.reconcile reads now failure)
      (reconcile prims descriptor s reads now failure).2 := by
  cases hrun : reconciliationRun prims descriptor s.indexer reads now with
  | error e =>
    have hcall : reconcile prims descriptor s reads now failure = (.error e, s) := by
      rw [reconcile, hrun]
    rw [hcall]
    exact .kept rfl rfl rfl (by rw [completed, hcall]; rfl)
  | ok run =>
    by_cases hfreeze : run.consistent = false ∧ s.indexer.riskControl.newRiskFrozen = false
    · rw [reconcile, hrun]
      dsimp only
      rw [freezeFor, if_pos hfreeze]
      cases failure with
      | some e => exact .froze hfreeze.2 hrun hfreeze.1 rfl rfl (fun h ↦ by cases h)
      | none => exact .froze hfreeze.2 hrun hfreeze.1 rfl rfl fun _ ↦ ⟨rfl, rfl⟩
    · have hnone : freezeFor prims descriptor s.indexer run now = none := if_neg hfreeze
      cases failure with
      | some e =>
        have hcall : reconcile prims descriptor s reads now (some e) = (.error e, s) := by
          rw [reconcile, hrun]
          dsimp only
          rw [hnone]
          rfl
        rw [hcall]
        exact .kept rfl rfl rfl (by rw [completed, hcall]; rfl)
      | none =>
        have hcall : reconcile prims descriptor s reads now none = (.ok run, { s with
            store := { s.store with
              reconciliations := s.store.reconciliations ++ [run]
              riskTransitions := s.store.riskTransitions ++ [] } }) := by
          rw [reconcile, hrun]
          dsimp only
          rw [hnone]
          rfl
        rw [hcall]
        exact .checked rfl rfl rfl (by rw [completed, hcall]; rfl)

theorem recoveryFor_ok {reconciliationId : H} {approvalHash approvedByHash : Option Bytes32}
    {now : ℕ} {latest : Reconciliation H} {control : RiskControl H} {transition : RiskTransition H}
    (h : recoveryFor prims descriptor s reconciliationId approvalHash approvedByHash now
      = .ok (latest, control, transition)) :
    s.frozen = true ∧ s.store.reconciliations.getLast? = some latest ∧
      latest.reconciliationId = reconciliationId ∧ latest.consistent = true ∧
        control.newRiskFrozen = false := by
  simp only [recoveryFor, bind_eq_ok, throwIf_eq_ok, readField_eq_ok, pure_eq_ok, Prod.mk.injEq,
    Option.filter_eq_some_iff, decide_eq_true_eq, Bool.not_eq_false] at h
  obtain ⟨_, hfrozen, _, _, _, _, _, ⟨hlatest, hid, hconsistent⟩, rfl, rfl, _⟩ := h
  exact ⟨hfrozen, hlatest, hid, hconsistent, rfl⟩

/-- What `approveRecovery` does when it does not refuse. -/
theorem approveRecovery_of_ok {reconciliationId : H} {approvalHash approvedByHash : Option Bytes32}
    {now : ℕ} {latest : Reconciliation H} {control : RiskControl H} {transition : RiskTransition H}
    (h : recoveryFor prims descriptor s reconciliationId approvalHash approvedByHash now
      = .ok (latest, control, transition)) (failure : Option DomainError) :
    let s' := (approveRecovery prims descriptor s reconciliationId approvalHash approvedByHash now
      failure).2
    s'.indexer.riskControl = control ∧
      (s'.store = s.store ∨ s'.store.riskControl = some control) := by
  rw [approveRecovery, h]
  cases failure with
  | some e => exact ⟨rfl, .inl rfl⟩
  | none => exact ⟨rfl, .inr rfl⟩

theorem approveRecovery_risk (s : System H) (reconciliationId : H)
    (approvalHash approvedByHash : Option Bytes32) (now : ℕ) (failure : Option DomainError) :
    RiskStep prims descriptor s
      (.approveRecovery reconciliationId approvalHash approvedByHash now failure)
      (approveRecovery prims descriptor s reconciliationId approvalHash approvedByHash now
        failure).2 := by
  cases haccepted : recoveryFor prims descriptor s reconciliationId approvalHash approvedByHash
      now with
  | error e =>
    rw [approveRecovery, haccepted]
    exact .kept rfl rfl rfl rfl
  | ok recovery =>
    obtain ⟨latest, control, transition⟩ := recovery
    obtain ⟨hfrozen, hlatest, hid, hconsistent, hunfrozen⟩ := recoveryFor_ok haccepted
    obtain ⟨hset, hstored⟩ := approveRecovery_of_ok haccepted failure
    exact .approved ⟨transition, haccepted⟩ hfrozen hlatest hid hconsistent hunfrozen hset hstored

variable (prims descriptor) in
theorem systemStep_risk (s : System H) (i : SystemInput H) :
    RiskStep prims descriptor s i (systemStep prims descriptor s i) := by
  cases i with
  | ingest log failure => exact ingest_risk s log failure
  | observeCanonicalBlock blockNumber blockHash observedAt failure =>
    exact observeCanonicalBlock_risk s blockNumber blockHash observedAt failure
  | restore now => exact restore_risk s now
  | reconcile reads now failure => exact reconcile_risk s reads now failure
  | approveRecovery reconciliationId approvalHash approvedByHash now failure =>
    exact approveRecovery_risk s reconciliationId approvalHash approvedByHash now failure

end Steps

/-! ## The history of a freeze -/

section History

variable {H : Type} [LinearOrder H] (prims : Primitives H) (descriptor : Descriptor)
  (s₀ : System H)

/-- The state after the calls of `past`. -/
def after (past : List (SystemInput H)) : System H :=
  Run.run (systemStep prims descriptor) s₀ past

/-- The control was set by a call that froze new risk. -/
def FrozenBy (past : List (SystemInput H)) (control : RiskControl H) : Prop :=
  ∃ before freeze between, past = before ++ freeze :: between ∧
    (after prims descriptor s₀ before).frozen = false ∧ control.newRiskFrozen = true ∧
      (after prims descriptor s₀ (before ++ [freeze])).indexer.riskControl = control

/-- The reconciliation was made after the call that set the control, and no other was made since. -/
def CheckedSince (past : List (SystemInput H)) (control : RiskControl H)
    (latest : Reconciliation H) : Prop :=
  ∃ earlier check later, past = earlier ++ check :: later ∧
    FrozenBy prims descriptor s₀ earlier control ∧
      completed prims descriptor (after prims descriptor s₀ earlier) check = some latest ∧
        Run.Steps (systemStep prims descriptor) (fun s i ↦ completed prims descriptor s i = none)
          (after prims descriptor s₀ (earlier ++ [check])) later

variable {prims descriptor s₀} {past : List (SystemInput H)} {i : SystemInput H}
  {control : RiskControl H} {latest : Reconciliation H}

theorem after_append (past future : List (SystemInput H)) :
    after prims descriptor s₀ (past ++ future)
      = Run.run (systemStep prims descriptor) (after prims descriptor s₀ past) future :=
  Run.run_append s₀ past future

theorem FrozenBy.append (h : FrozenBy prims descriptor s₀ past control)
    (future : List (SystemInput H)) : FrozenBy prims descriptor s₀ (past ++ future) control := by
  obtain ⟨before, freeze, between, rfl, hrest⟩ := h
  exact ⟨before, freeze, between ++ future, by rw [List.append_assoc, List.cons_append], hrest⟩

theorem CheckedSince.append (h : CheckedSince prims descriptor s₀ past control latest)
    (hnone : completed prims descriptor (after prims descriptor s₀ past) i = none) :
    CheckedSince prims descriptor s₀ (past ++ [i]) control latest := by
  obtain ⟨earlier, check, later, rfl, hfrozen, hcheck, hlater⟩ := h
  refine ⟨earlier, check, later ++ [i],
    by rw [List.append_assoc, List.cons_append], hfrozen, hcheck, ?_⟩
  rw [Run.steps_append, ← after_append, List.append_assoc, List.singleton_append]
  exact ⟨hlater, hnone, trivial⟩

theorem FrozenBy.checkedSince (h : FrozenBy prims descriptor s₀ past control)
    (hcheck : completed prims descriptor (after prims descriptor s₀ past) i = some latest) :
    CheckedSince prims descriptor s₀ (past ++ [i]) control latest :=
  ⟨past, i, [], rfl, h, hcheck, trivial⟩

variable (prims descriptor s₀)

/-- What memory and the store know about a freeze. -/
structure FreezeTracked (past : List (SystemInput H)) : Prop where
  stored : (after prims descriptor s₀ past).frozen = true →
    (after prims descriptor s₀ past).store.riskControl
      = some (after prims descriptor s₀ past).indexer.riskControl
  frozenBy : ∀ control, (after prims descriptor s₀ past).store.riskControl = some control →
    control.newRiskFrozen = true → FrozenBy prims descriptor s₀ past control
  checked : ∀ control latest, (after prims descriptor s₀ past).store.riskControl = some control →
    control.newRiskFrozen = true →
    (after prims descriptor s₀ past).store.reconciliations.getLast? = some latest →
    latest.consistent = true → CheckedSince prims descriptor s₀ past control latest

/-- **A freeze is stored**: the database takes a reconciliation that freezes new risk. -/
def StoresFreeze (s : System H) (i : SystemInput H) : Prop :=
  ∀ reads now failure run, i = .reconcile reads now failure → s.frozen = false →
    reconciliationRun prims descriptor s.indexer reads now = .ok run → run.consistent = false →
      failure = none

variable {prims descriptor s₀}

theorem FreezeTracked.step (h : FreezeTracked prims descriptor s₀ past)
    (hstores : StoresFreeze prims descriptor (after prims descriptor s₀ past) i) :
    FreezeTracked prims descriptor s₀ (past ++ [i]) := by
  have hstep := systemStep_risk prims descriptor (after prims descriptor s₀ past) i
  have hafter : after prims descriptor s₀ (past ++ [i])
      = systemStep prims descriptor (after prims descriptor s₀ past) i := after_append past [i]
  rw [← hafter] at hstep
  generalize hs' : after prims descriptor s₀ (past ++ [i]) = s' at hstep
  cases hstep with
  | kept hcontrol hstored hruns hnone =>
    constructor
    · rw [hs', System.frozen, hcontrol, hstored]
      exact h.stored
    · rw [hs', hstored]
      exact fun control hc hfrozen ↦ (h.frozenBy control hc hfrozen).append [i]
    · rw [hs', hstored, hruns]
      exact fun control latest hc hfrozen hlast hconsistent ↦
        (h.checked control latest hc hfrozen hlast hconsistent).append hnone
  | restored unfrozen restored store =>
    constructor
    · rw [hs', System.frozen, restored, store]
      cases hstore : (after prims descriptor s₀ past).store.riskControl with
      | none =>
        rw [Option.getD_none, unfrozen]
        exact nofun
      | some control => exact fun _ ↦ rfl
    · rw [hs', store]
      exact fun control hc hfrozen ↦ (h.frozenBy control hc hfrozen).append _
    · rw [hs', store]
      exact fun control latest hc hfrozen hlast hconsistent ↦
        (h.checked control latest hc hfrozen hlast hconsistent).append rfl
  | checked hcontrol hstored hruns returned =>
    constructor
    · rw [hs', System.frozen, hcontrol, hstored]
      exact h.stored
    · rw [hs', hstored]
      exact fun control hc hfrozen ↦ (h.frozenBy control hc hfrozen).append _
    · rw [hs', hstored, hruns]
      intro control latest hc hfrozen hlast _
      rw [List.getLast?_concat, Option.some.injEq] at hlast
      exact (h.frozenBy control hc hfrozen).checkedSince (hlast ▸ returned)
  | froze unfrozen run_eq inconsistent frozen set stored =>
    obtain ⟨hstored, hruns⟩ := stored (hstores _ _ _ _ rfl unfrozen run_eq inconsistent)
    constructor
    · rw [hs', set, hstored]
      exact fun _ ↦ rfl
    · rw [hs', hstored]
      intro control hc hfrozen
      rw [← Option.some.inj hc] at hfrozen ⊢
      exact ⟨past, _, [], rfl, unfrozen, frozen, by rw [hs', set]⟩
    · rw [hs', hruns]
      intro control latest _ _ hlast hconsistent
      rw [List.getLast?_concat, Option.some.injEq] at hlast
      rw [← hlast, inconsistent] at hconsistent
      cases hconsistent
  | approved accepted frozen latest_eq id_eq consistent unfrozen set stored =>
    constructor
    · rw [hs', System.frozen, set, unfrozen]
      exact nofun
    · rw [hs']
      intro control hc hfrozen
      rcases stored with hsame | hstored
      · rw [hsame] at hc
        exact (h.frozenBy control hc hfrozen).append _
      · rw [hstored, Option.some.injEq] at hc
        rw [← hc, unfrozen] at hfrozen
        cases hfrozen
    · rw [hs']
      intro control latest hc hfrozen hlast hconsistent
      rcases stored with hsame | hstored
      · rw [hsame] at hc hlast
        exact (h.checked control latest hc hfrozen hlast hconsistent).append rfl
      · rw [hstored, Option.some.injEq] at hc
        rw [← hc, unfrozen] at hfrozen
        cases hfrozen

theorem FreezeTracked.nil (now : ℕ) :
    FreezeTracked prims descriptor (System.new prims descriptor now) [] where
  stored := nofun
  frozenBy := nofun
  checked := nofun

theorem freezeTracked (now : ℕ) (inputs : List (SystemInput H))
    (hstores : Run.Steps (systemStep prims descriptor) (StoresFreeze prims descriptor)
      (System.new prims descriptor now) inputs) :
    FreezeTracked prims descriptor (System.new prims descriptor now) inputs :=
  Run.history_induct (FreezeTracked.nil now) (fun _ _ hpast hstore ↦ hpast.step hstore)
    inputs hstores

/-! ## Lifting a freeze -/

variable (prims descriptor s₀)

/-- **A freeze is lifted rightly.**  If the call lifts a freeze, it is `approveRecovery` and names
the latest reconciliation, which found no discrepancy, was made after the freeze and compared the
projection as it is now. -/
def LiftedRightly (past : List (SystemInput H)) (i : SystemInput H) : Prop :=
  (after prims descriptor s₀ past).frozen = true →
    (after prims descriptor s₀ (past ++ [i])).frozen = false →
    ∃ reconciliationId approvalHash approvedByHash now failure latest,
      i = .approveRecovery reconciliationId approvalHash approvedByHash now failure ∧
      (after prims descriptor s₀ past).store.reconciliations.getLast? = some latest ∧
      latest.reconciliationId = reconciliationId ∧ latest.consistent = true ∧
      CheckedSince prims descriptor s₀ past (after prims descriptor s₀ past).indexer.riskControl
        latest ∧
      latest.projectionHash
        = ((after prims descriptor s₀ past).indexer.snapshot prims).snapshotHash

/-- **A recovery is approved in time**: the projection has not moved since the reconciliation that
it names. -/
def ApprovedInTime (s : System H) (i : SystemInput H) : Prop :=
  ∀ reconciliationId approvalHash approvedByHash now failure latest control transition,
    i = .approveRecovery reconciliationId approvalHash approvedByHash now failure →
    recoveryFor prims descriptor s reconciliationId approvalHash approvedByHash now
      = .ok (latest, control, transition) →
    latest.projectionHash = (s.indexer.snapshot prims).snapshotHash

variable {prims descriptor s₀}

/-- Only an approved recovery lifts a freeze that is stored. -/
theorem FreezeTracked.lifted (h : FreezeTracked prims descriptor s₀ past)
    (hintime : ApprovedInTime prims descriptor (after prims descriptor s₀ past) i) :
    LiftedRightly prims descriptor s₀ past i := by
  intro hfrozen hlifted
  have hstep := systemStep_risk prims descriptor (after prims descriptor s₀ past) i
  have hafter : after prims descriptor s₀ (past ++ [i])
      = systemStep prims descriptor (after prims descriptor s₀ past) i := after_append past [i]
  rw [← hafter] at hstep
  generalize after prims descriptor s₀ (past ++ [i]) = s' at hstep hlifted
  cases hstep with
  | kept hcontrol | checked hcontrol =>
    rw [System.frozen, hcontrol] at hlifted
    exact absurd (hfrozen.symm.trans hlifted) (by decide)
  | restored unfrozen restored store =>
    rw [System.frozen, restored, h.stored hfrozen, Option.getD_some] at hlifted
    exact absurd (hfrozen.symm.trans hlifted) (by decide)
  | froze unfrozen => exact absurd (hfrozen.symm.trans unfrozen) (by decide)
  | approved accepted frozen latest_eq id_eq consistent unfrozen set stored =>
    obtain ⟨transition, haccepted⟩ := accepted
    exact ⟨_, _, _, _, _, _, rfl, latest_eq, id_eq, consistent,
      h.checked _ _ (h.stored hfrozen) hfrozen latest_eq consistent,
      hintime _ _ _ _ _ _ _ _ rfl haccepted⟩

/-- **Whole runs of the indexer.**  Where the database takes every reconciliation that freezes new
risk, every freeze is lifted rightly exactly if every recovery is approved in time; and the
protective operations are allowed in every state. -/
theorem freeze_lifted_rightly_iff (now : ℕ) (inputs : List (SystemInput H))
    (hstores : Run.Steps (systemStep prims descriptor) (StoresFreeze prims descriptor)
      (System.new prims descriptor now) inputs) :
    ((∀ past i future, inputs = past ++ i :: future →
        LiftedRightly prims descriptor (System.new prims descriptor now) past i) ↔
      Run.Steps (systemStep prims descriptor) (ApprovedInTime prims descriptor)
        (System.new prims descriptor now) inputs) ∧
    Run.Along (systemStep prims descriptor)
      (fun s ↦ ∀ operation ∈ protectiveOperations, s.indexer.operationAllowed operation = true)
      (System.new prims descriptor now) inputs := by
  refine ⟨⟨fun hlifted ↦ ?_, fun hintime ↦ ?_⟩, ?_⟩
  · rw [Run.steps_iff_forall]
    intro past i future hinputs reconciliationId approvalHash approvedByHash t failure
      latest control
      transition hi haccepted
    subst hi
    obtain ⟨hfrozen, hlatest, _, _, hunfrozen⟩ := recoveryFor_ok haccepted
    have hset := (approveRecovery_of_ok haccepted failure).1
    have hafter : (after prims descriptor (System.new prims descriptor now) (past ++
        [.approveRecovery reconciliationId approvalHash approvedByHash t failure])).frozen
        = false := by
      rw [after_append, System.frozen]
      exact (congrArg (·.newRiskFrozen) hset).trans hunfrozen
    obtain ⟨_, _, _, _, _, latest', _, hlatest', _, _, _, hcurrent⟩ :=
      hlifted past _ future hinputs hfrozen hafter
    have hsame : latest' = latest := Option.some.inj (hlatest'.symm.trans hlatest)
    rw [← hsame]
    exact hcurrent
  · rintro past i future rfl
    have htracked := freezeTracked now past ((Run.steps_append _ past _).1 hstores).1
    exact htracked.lifted ((Run.steps_append _ past _).1 hintime).2.1
  · refine Run.along_of_invariant (fun _ _ _ ↦ ?_) inputs ?_ <;>
      exact fun operation hoperation ↦ decide_eq_true (.inr hoperation)

end History

namespace Sample

/-- The primitives of the other samples, with an identifier of a reconciliation that can be computed
without sorting its hashes. -/
def timedPrims : Primitives (List ℕ) :=
  { prims with
    hashId := fun
      | .reconciliationId core => [99, core.checkedAt]
      | preimage => prims.hashId preimage }

/-- A read of the market before anything has happened on it. -/
def directRead (slot : ProviderSlot) (complete : Bool) : DirectRead where
  providerSlot := some slot
  chainId := 84532
  contractAddress := 99
  marketId := 5
  blockNumber := some 9
  blockHash := some (Abi.bytes32 2009)
  state := canonicalState (initialState descriptor)
  complete
  observedAt := some 0
  readOnly := true
  rawProviderPayloadPersisted := false
  schemaVersion := "pool_direct_state_snapshot.v1"

/-- The system before anything happens. -/
def fresh : System (List ℕ) := .new timedPrims descriptor 0

/-- One of the reads is incomplete, and new risk is frozen. -/
def freeze (failure : Option DomainError) : SystemInput (List ℕ) :=
  .reconcile [directRead .primary true, directRead .secondary false] 1 failure

/-- The reads agree with the projection. -/
def check : SystemInput (List ℕ) :=
  .reconcile [directRead .primary true, directRead .secondary true] 2 none

/-- The approval of that reconciliation. -/
def approve : SystemInput (List ℕ) :=
  .approveRecovery [99, 2] (some (Abi.bytes32 1)) (some (Abi.bytes32 2)) 4 none

end Sample

/-- A freeze, a reconciliation and its approval. -/
theorem freeze_lifted_rightly_approved :
    LiftedRightly Sample.timedPrims Sample.descriptor Sample.fresh
        [Sample.freeze none, Sample.check] Sample.approve ∧
      (after Sample.timedPrims Sample.descriptor Sample.fresh
        [Sample.freeze none, Sample.check]).frozen = true ∧
      (after Sample.timedPrims Sample.descriptor Sample.fresh
        [Sample.freeze none, Sample.check, Sample.approve]).frozen = false := by
  refine ⟨?_, by decide +kernel, by decide +kernel⟩
  have hstores : Run.Steps (systemStep Sample.timedPrims Sample.descriptor)
      (StoresFreeze Sample.timedPrims Sample.descriptor) Sample.fresh
      [Sample.freeze none, Sample.check, Sample.approve] := by
    refine ⟨?_, ?_, ?_, trivial⟩
    · intro reads now failure run hi _ _ _
      exact (SystemInput.reconcile.inj hi).2.2.symm
    · intro reads now failure run hi _ _ _
      exact (SystemInput.reconcile.inj hi).2.2.symm
    · intro reads now failure run hi
      cases hi
  have hintime : Run.Steps (systemStep Sample.timedPrims Sample.descriptor)
      (ApprovedInTime Sample.timedPrims Sample.descriptor) Sample.fresh
      [Sample.freeze none, Sample.check, Sample.approve] := by
    refine ⟨?_, ?_, ?_, trivial⟩
    · intro _ _ _ _ _ _ _ _ hi
      cases hi
    · intro _ _ _ _ _ _ _ _ hi
      cases hi
    · intro _ _ _ _ _ latest _ _ _ haccepted
      have hlatest := (recoveryFor_ok haccepted).2.1
      have hcurrent : (after Sample.timedPrims Sample.descriptor Sample.fresh
          [Sample.freeze none, Sample.check]).store.reconciliations.getLast?.map
            (·.projectionHash) =
          some ((after Sample.timedPrims Sample.descriptor Sample.fresh
            [Sample.freeze none, Sample.check]).indexer.snapshot
              Sample.timedPrims).snapshotHash := by decide +kernel
      have hmap := congrArg (Option.map (·.projectionHash)) hlatest
      exact Option.some.inj (hmap.symm.trans hcurrent)
  exact (freeze_lifted_rightly_iff 0 _ hstores).1.2 hintime [Sample.freeze none, Sample.check]
    Sample.approve [] rfl

/-- The projection moves between the reconciliation and its approval; and the database does not take
a freeze, which the next `restore` lifts. -/
theorem freeze_lifted_wrongly :
    let moved := [Sample.freeze none, Sample.check, .ingest Sample.pauseLog none]
    let unstored := [Sample.freeze (some Sample.connectionFailure)]
    ¬ LiftedRightly Sample.timedPrims Sample.descriptor Sample.fresh moved Sample.approve ∧
      ¬ LiftedRightly Sample.timedPrims Sample.descriptor Sample.fresh unstored (.restore 2) := by
  intro moved unstored
  constructor
  · intro hlifted
    obtain ⟨_, _, _, _, _, latest, _, hlatest, _, _, _, hcurrent⟩ :=
      hlifted (by decide +kernel) (by decide +kernel)
    have hmoved : (after Sample.timedPrims Sample.descriptor Sample.fresh
        moved).store.reconciliations.getLast?.map (·.projectionHash) ≠
        some ((after Sample.timedPrims Sample.descriptor Sample.fresh moved).indexer.snapshot
          Sample.timedPrims).snapshotHash := by decide +kernel
    rw [hlatest] at hmoved
    exact hmoved (congrArg some hcurrent)
  · intro hlifted
    obtain ⟨_, _, _, _, _, _, hinput, _⟩ := hlifted (by decide +kernel) (by decide +kernel)
    cases hinput

end Indexer
end IpoOne
