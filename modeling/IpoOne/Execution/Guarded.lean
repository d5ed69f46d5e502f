import IpoOne.Execution.Interleaving
import IpoOne.Lib.PrefixCode
import IpoOne.Reconciliation.Accounting

/-!
# The gateway with the Risk Guardian as its policy

`createHyperliquidRiskGuardianPolicyEvaluator` answers for the policy: it asks for a risk snapshot,
reads a clock of its own, and decides by the admission.  The hash of its decision goes into the
request that the gateway reserves a nonce for, and it covers the snapshot and the time.

A call of `execute` is told three things before it reserves: the binding, the snapshot with the time
of the guardian, and the time of the gateway (`Asked`).  Until then it leaves the repository alone,
so that it is where `Asked.state` says, whatever other calls do in between (`calls_told`).

* `state_eq_reserving` — what a call has passed when it reserves, and what it reserves for.
* `evaluate_inj` — the hash of a decision tells the snapshot and the time of the guardian.
* `guarded_retry_iff` — a retry is answered with the record of the first call exactly if it is told
  what the first call was told.
-/

set_option autoImplicit false

namespace IpoOne
namespace Execution

open Fallible
open Reconciliation (RiskState)
open RiskGuardian (RiskSnapshot RiskCore AdmissionCore Primitives assertRiskSnapshot)

/-! ## The evaluator -/

/-- The action as the guardian reads it: only a modification has a `replacement`. -/
def NormalizedAction.forGuardian {H : Type} (action : NormalizedAction H) :
    RiskGuardian.Action (NormalizedAction H) where
  body := action
  replacementReduceOnly :=
    match action with
    | .modify _ _ reduceOnly _ => some reduceOnly
    | _ => none

/-- What a call of `execute` is told before it reserves: its argument, what the binding resolver and
the snapshot provider answer, and what the clocks of the guardian and of the gateway then show. -/
structure Asked (H : Type) where
  input : GatewayInput H
  binding : Domain (Binding H)
  snapshot : Domain (RiskSnapshot H)
  guardianClock : ℕ
  clock : ℕ

section Guarded

variable {H : Type} [DecidableEq H] (hashId : ExecutionPreimage H → H)
  (prims : Primitives H (NormalizedAction H))

/-- `evaluate` of the guardian's policy evaluator, with what the snapshot provider answers and what
the guardian's clock then shows. -/
def evaluate (input : GatewayInput H) (normalized : Normalized H)
    (answer : Domain (RiskSnapshot H)) (clock : ℕ) : Domain (PolicyDecision H) := do
  let snapshot ← answer
  assertRiskSnapshot prims snapshot
  throwIf (snapshot.facilityId ≠ input.facilityId ∨ snapshot.facilityHash ≠ input.facilityHash ∨
      snapshot.facilityVersion ≠ input.facilityVersion)
    "hyperliquid_risk_snapshot_binding_mismatch"
    "risk snapshot changed or is bound to another Facility version"
  let serverNowMs ← RiskGuardian.timestamp clock
  let admission ← RiskGuardian.evaluateHyperliquidExecutionRiskAdmission prims snapshot
    normalized.actionKind normalized.action.forGuardian (some serverNowMs)
  pure
    { approved := admission.approved
      policyDecisionHash := admission.policyDecisionHash
      actionKind := admission.actionKind
      serverReduceOnlyProven := admission.serverReduceOnlyProven
      killSwitchOpen := admission.approved
      simulationOnly := true }

/-- The action that `execute` normalizes. -/
def GatewayInput.normalized (input : GatewayInput H) : Domain (Normalized H) :=
  normalizeAction hashId input.action input.facilityHash input.orderIntentHash
    (idempotencyKeyHash hashId input)

/-- What the guardian answers the call. -/
def Asked.policy (asked : Asked H) : Domain (PolicyDecision H) := do
  let normalized ← asked.input.normalized hashId
  evaluate prims asked.input normalized asked.snapshot asked.guardianClock

/-- What takes the call on to the repository. -/
def Asked.answers (asked : Asked H) : List (Answer H) :=
  [.resolved asked.binding, .evaluated (asked.policy hashId prims) asked.clock]

/-- Take a call on with an answer that needs no repository. -/
def tell (call : CallState H) (answer : Answer H) : CallState H :=
  (resume hashId .new call answer).1

/-- Where the call is once it has been told. -/
def Asked.state (asked : Asked H) : CallState H :=
  (asked.answers hashId prims).foldl (tell hashId) (startCall hashId asked.input)

/-- What a step answers the call at `index`. -/
def GatewayStep.answerTo (index : ℕ) : GatewayStep H → Option (Answer H)
  | .execute _ => none
  | .resume call answer => if call = index then some answer else none

/-- Of the steps, those that take the call at `index` on tell it what `asked` says. -/
def Asked.ToldIn (asked : Asked H) (index : ℕ) (steps : List (GatewayStep H)) : Prop :=
  steps.filterMap (GatewayStep.answerTo index) = asked.answers hashId prims

/-- What is hashed of requests, admissions and risk snapshots does not collide. -/
structure RequestsApart : Prop where
  request : ∀ {a b : RequestCore H}, hashId (.request a) = hashId (.request b) → a = b
  admission : ∀ {a b : AdmissionCore H},
    prims.hashId (.riskAdmission a) = prims.hashId (.riskAdmission b) → a = b
  snapshot : ∀ {a b : RiskCore H},
    prims.hashId (.riskSnapshot a) = prims.hashId (.riskSnapshot b) → a = b

/-- The call at `index`, which is about to reserve, has gone on with what `reserve` returns. -/
def World.answered (w : World H) (index : ℕ) : World H :=
  Run.run (gatewayStep hashId) w [.resume index .performed, .resume index .continued]

/-- The call at `index` returns the record as it is stored, and has left the repository and the
transport alone. -/
def Replays (w : World H) (index : ℕ) (record : ExecutionRecord H) : Prop :=
  ∃ stored, w.repository.records.get record.executionId = some stored ∧
    SameExecution record stored ∧
    (w.answered hashId index).calls[index]? = some (.done (.ok stored)) ∧
    (w.answered hashId index).repository = w.repository ∧
    (w.answered hashId index).submissions = w.submissions

/-- The second call is told what the first one was told, at any valid time of the gateway. -/
structure Alike (first later : Asked H) : Prop where
  binding : later.binding = first.binding
  snapshot : later.snapshot = first.snapshot
  guardianClock : later.guardianClock = first.guardianClock
  clock : isSafeInteger later.clock ∧ 1 ≤ later.clock

/-! ## What a call reserves for -/

/-- The checks of a call up to the repository, and the draft and the time it gets there with. -/
def Asked.reservation (asked : Asked H) : Domain (ExecutionDraft H × ℕ) := do
  assertGatewayInput asked.input
  let normalized ← asked.input.normalized hashId
  let binding ← asked.binding
  assertBinding binding asked.input
  let policy ← asked.policy hashId prims
  assertPolicyDecision policy normalized.actionKind
  let nowMs ← timestamp asked.clock
  pure (createDraft hashId asked.input binding policy normalized, nowMs)

/-- What a call has passed that reserves. -/
structure Asked.Passes (asked : Asked H) (normalized : Normalized H) (resolved : Binding H)
    (decision : PolicyDecision H) : Prop where
  input_ok : assertGatewayInput asked.input = .ok ()
  normalized_eq : asked.input.normalized hashId = .ok normalized
  binding_eq : asked.binding = .ok resolved
  binding_ok : assertBinding resolved asked.input = .ok ()
  policy_eq : evaluate prims asked.input normalized asked.snapshot asked.guardianClock
    = .ok decision
  policy_ok : assertPolicyDecision decision normalized.actionKind = .ok ()

variable {hashId prims} {asked first later : Asked H} {draft : ExecutionDraft H}
  {w : World H} {call : CallState H} {answer : Answer H} {index nowMs : ℕ}

/-- A step that stops the call stops it for good. -/
theorem tell_orStop {α : Type} (x : Domain α) (k : α → CallState H) :
    tell hashId (orStop x k) answer = orStop x fun a ↦ tell hashId (k a) answer := by
  cases x with
  | error e => cases answer <;> rfl
  | ok a => rfl

omit [DecidableEq H] in
theorem orStop_bind {α β : Type} (x : Domain α) (f : α → Domain β) (k : β → CallState H) :
    orStop (x >>= f) k = orStop x fun a ↦ orStop (f a) k := by
  cases x <;> rfl

/-- A call stops or reserves. -/
theorem state_eq : asked.state hashId prims
    = orStop (asked.reservation hashId prims) fun (draft, nowMs) ↦ .reserving draft nowMs := by
  have hstart : startCall hashId asked.input = orStop (do
      assertGatewayInput asked.input
      asked.input.normalized hashId) fun normalized ↦ .resolving asked.input normalized := rfl
  have hresolve : ∀ normalized : Normalized H,
      tell hashId (.resolving asked.input normalized) (.resolved asked.binding)
        = afterResolve asked.input normalized asked.binding := fun _ ↦ rfl
  have hevaluate : ∀ (normalized : Normalized H) (binding : Binding H),
      tell hashId (.evaluating asked.input normalized binding)
          (.evaluated (asked.policy hashId prims) asked.clock)
        = afterEvaluate hashId asked.input normalized binding (asked.policy hashId prims)
            asked.clock := fun _ _ ↦ rfl
  have hpure : ∀ {α : Type} (a : α) (k : α → CallState H), orStop (pure a) k = k a :=
    fun _ _ ↦ rfl
  simp only [Asked.state, Asked.answers, List.foldl_cons, List.foldl_nil, hstart, tell_orStop,
    hresolve, afterResolve, hevaluate, afterEvaluate, Asked.reservation, orStop_bind, hpure]

theorem reservation_eq_ok : asked.reservation hashId prims = .ok (draft, nowMs) ↔
    ∃ normalized resolved decision, asked.Passes hashId prims normalized resolved decision ∧
      timestamp asked.clock = .ok nowMs ∧
      draft = createDraft hashId asked.input resolved decision normalized := by
  simp only [Asked.reservation, Asked.policy, bind_eq_ok, pure_eq_ok]
  constructor
  · rintro ⟨_, hinput, normalized, hnormalized, resolved, hresolved, _, hbinding, decision,
      ⟨again, hagain, hdecision⟩, _, hpolicy, nowMs, hclock, heq⟩
    obtain rfl := Except.ok.inj (hnormalized.symm.trans hagain)
    obtain ⟨rfl, rfl⟩ := Prod.mk.inj heq
    exact ⟨normalized, resolved, decision,
      ⟨hinput, hnormalized, hresolved, hbinding, hdecision, hpolicy⟩, hclock, rfl⟩
  · rintro ⟨normalized, resolved, decision, h, hclock, rfl⟩
    exact ⟨(), h.input_ok, normalized, h.normalized_eq, resolved, h.binding_eq, (), h.binding_ok,
      decision, ⟨normalized, h.normalized_eq, h.policy_eq⟩, (), h.policy_ok, nowMs, hclock, rfl⟩

/-! ## What the hashes tell -/

/-- What a decision is hashed from. -/
theorem evaluate_ok {input : GatewayInput H} {normalized : Normalized H}
    {answered : Domain (RiskSnapshot H)} {clock : ℕ} {decision : PolicyDecision H}
    (h : evaluate prims input normalized answered clock = .ok decision) :
    ∃ (snapshot : RiskSnapshot H) (core : AdmissionCore H), answered = .ok snapshot ∧
      snapshot.riskSnapshotHash = prims.hashId (.riskSnapshot snapshot.toRiskCore) ∧
      core.riskSnapshotHash = snapshot.riskSnapshotHash ∧ core.serverEvaluatedAt = clock ∧
      decision.policyDecisionHash = prims.hashId (.riskAdmission core) := by
  simp only [evaluate, bind_eq_ok, pure_eq_ok] at h
  obtain ⟨snapshot, rfl, _, hsnapshot, _, -, serverNowMs, hclock, admission, hadmission, rfl⟩ := h
  obtain ⟨rfl, -⟩ := RiskGuardian.timestamp_ok hclock
  simp only [RiskGuardian.evaluateHyperliquidExecutionRiskAdmission, bind_eq_ok, pure_eq_ok]
    at hadmission
  obtain ⟨_, -, _, -, serverEvaluatedAt, hiso, rfl⟩ := hadmission
  obtain ⟨rfl, -⟩ := RiskGuardian.iso_ok hiso
  simp only [assertRiskSnapshot, bind_eq_ok, throwIf_eq_ok, not_or, not_not] at hsnapshot
  obtain ⟨_, -, _, -, _, -, _, -, _, -, -, -, hhash⟩ := hsnapshot
  exact ⟨snapshot, _, rfl, hhash, rfl, rfl, rfl⟩

/-- The hash of a decision tells the snapshot and the time that it was made with. -/
theorem evaluate_inj (hapart : RequestsApart hashId prims) {input input' : GatewayInput H}
    {normalized normalized' : Normalized H} {answered answered' : Domain (RiskSnapshot H)}
    {clock clock' : ℕ} {decision decision' : PolicyDecision H}
    (h : evaluate prims input normalized answered clock = .ok decision)
    (h' : evaluate prims input' normalized' answered' clock' = .ok decision')
    (hhash : decision'.policyDecisionHash = decision.policyDecisionHash) :
    answered' = answered ∧ clock' = clock := by
  obtain ⟨snapshot, core, rfl, hsnapshot, hcore, rfl, hdecision⟩ := evaluate_ok h
  obtain ⟨snapshot', core', rfl, hsnapshot', hcore', rfl, hdecision'⟩ := evaluate_ok h'
  rw [hdecision, hdecision'] at hhash
  obtain rfl := hapart.admission hhash
  have hsame : snapshot'.riskSnapshotHash = snapshot.riskSnapshotHash := hcore'.symm.trans hcore
  have hrisk : snapshot'.toRiskCore = snapshot.toRiskCore := by
    rw [hsnapshot', hsnapshot] at hsame
    exact hapart.snapshot hsame
  obtain ⟨risk, hash⟩ := snapshot
  obtain ⟨risk', hash'⟩ := snapshot'
  obtain rfl : risk' = risk := hrisk
  obtain rfl : hash' = hash := hsame
  exact ⟨rfl, rfl⟩

/-- A binding is told by its hashes. -/
theorem binding_eq_of_assert {binding binding' : Binding H} {input : GatewayInput H}
    (h : assertBinding binding input = .ok ()) (h' : assertBinding binding' input = .ok ())
    (haccount : binding'.accountBindingHash = binding.accountBindingHash)
    (hsigner : binding'.signerReferenceHash = binding.signerReferenceHash) :
    binding' = binding := by
  simp only [assertBinding, throwIf_eq_ok, not_or, not_not] at h h'
  cases binding
  cases binding'
  simp_all

/-- Two calls with the same argument that reserve for the same request are told the same. -/
theorem told_eq (hapart : RequestsApart hashId prims) {draft' : ExecutionDraft H} {nowMs' : ℕ}
    (hinput : later.input = first.input)
    (hfirst : first.reservation hashId prims = .ok (draft, nowMs))
    (hlater : later.reservation hashId prims = .ok (draft', nowMs'))
    (hrequest : draft.requestHash = draft'.requestHash) : Alike first later := by
  obtain ⟨normalized, resolved, decision, h, -, rfl⟩ := reservation_eq_ok.1 hfirst
  obtain ⟨normalized', resolved', decision', h', hclock, rfl⟩ := reservation_eq_ok.1 hlater
  have hcore := hapart.request hrequest
  simp only [RequestCore.mk.injEq] at hcore
  obtain ⟨-, -, -, -, -, -, haccount, hsigner, -, hpolicy, -⟩ := hcore
  have hbinding := binding_eq_of_assert h.binding_ok (hinput ▸ h'.binding_ok) haccount.symm
    hsigner.symm
  obtain ⟨hsnapshot, hguardian⟩ := evaluate_inj hapart h.policy_eq h'.policy_eq hpolicy.symm
  exact ⟨h'.binding_eq.trans (hbinding ▸ h.binding_eq.symm), hsnapshot, hguardian,
    (timestamp_eq_ok.1 hclock).2⟩

/-- A call that is told what another one was told reserves for the same. -/
theorem Alike.reservation (h : Alike first later) (hinput : later.input = first.input)
    (hfirst : first.reservation hashId prims = .ok (draft, nowMs)) :
    later.reservation hashId prims = .ok (draft, later.clock) := by
  obtain ⟨normalized, resolved, decision, hpasses, -, rfl⟩ := reservation_eq_ok.1 hfirst
  refine reservation_eq_ok.2 ⟨normalized, resolved, decision, ⟨?_, ?_, ?_, ?_, ?_, ?_⟩,
    timestamp_eq_ok.2 ⟨rfl, h.clock⟩, by rw [hinput]⟩
  · exact hinput ▸ hpasses.input_ok
  · exact hinput ▸ hpasses.normalized_eq
  · exact h.binding.trans hpasses.binding_eq
  · exact hinput ▸ hpasses.binding_ok
  · rw [hinput, h.snapshot, h.guardianClock]
    exact hpasses.policy_eq
  · exact hpasses.policy_ok

/-! ## A call among others -/

/-- A call that is told things which need no repository goes its own way. -/
theorem calls_run {steps : List (GatewayStep H)}
    (htells : ∀ answer ∈ steps.filterMap (GatewayStep.answerTo index), ∀ repo call,
      (resume hashId repo call answer).1 = tell hashId call answer)
    (hcall : w.calls[index]? = some call) :
    (Run.run (gatewayStep hashId) w steps).calls[index]?
      = some ((steps.filterMap (GatewayStep.answerTo index)).foldl (tell hashId) call) := by
  induction steps generalizing w call with
  | nil => exact hcall
  | cons step steps ih =>
    cases step with
    | execute input =>
      refine ih htells ?_
      have hlt : index < w.calls.length := (List.getElem?_eq_some_iff.1 hcall).1
      exact (List.getElem?_append_left hlt).trans hcall
    | resume other answer =>
      rcases eq_or_ne other index with rfl | hother
      · have hanswer : GatewayStep.answerTo other (.resume other answer) = some answer :=
          if_pos rfl
        rw [List.filterMap_cons_some hanswer] at htells ⊢
        rw [List.forall_mem_cons] at htells
        refine ih htells.2 ?_
        rw [calls_step answer hcall]
        exact (calls_resumed hcall).2 (.inl ⟨rfl, (htells.1 w.repository call).symm⟩)
      · have hanswer : GatewayStep.answerTo index (.resume other answer) = none := if_neg hother
        rw [List.filterMap_cons_none hanswer] at htells ⊢
        refine ih htells ?_
        rw [gatewayStep]
        cases hcalls : w.calls[other]? with
        | none => exact hcall
        | some waiting => exact (calls_resumed hcalls).2 (.inr ⟨hother.symm, hcall⟩)

/-- **A call that has been told is where `Asked.state` says**, whatever else has happened. -/
theorem calls_told {steps : List (GatewayStep H)}
    (htold : asked.ToldIn hashId prims w.calls.length steps) :
    (Run.run (gatewayStep hashId) w (.execute asked.input :: steps)).calls[w.calls.length]?
      = some (asked.state hashId prims) := by
  have hcall : (gatewayStep hashId w (.execute asked.input)).calls[w.calls.length]?
      = some (startCall hashId asked.input) := List.getElem?_concat_length
  rw [Run.run, Asked.state, ← htold]
  refine calls_run ?_ hcall
  rw [htold, Asked.answers]
  simp only [List.forall_mem_cons, List.not_mem_nil, IsEmpty.forall_iff, implies_true, and_true]
  constructor
  · intro repo call
    cases call <;> rfl
  · intro repo call
    cases call <;> rfl

/-! ## The retry -/

/-- What is known of a call that has reserved a record. -/
theorem World.Sound.reserved {record : ExecutionRecord H} (h : w.Sound)
    (hcall : w.calls[index]? = some (first.state hashId prims))
    (hreserved : (gatewayStep hashId w (.resume index .performed)).calls[index]?
      = some (.reserved { record, replayed := false })) :
    (∃ nowMs, first.reservation hashId prims = .ok (record.toExecutionDraft, nowMs)) ∧
      (gatewayStep hashId w (.resume index .performed)).repository.records.get record.executionId
        = some record := by
  rw [calls_step _ hcall] at hreserved ⊢
  have hstate := ((calls_resumed hcall).1 hreserved).resolve_right fun hne ↦ hne.1 rfl
  have hresumed := hstate.2
  rw [state_eq] at hresumed ⊢
  cases hreservation : first.reservation hashId prims with
  | error e =>
    rw [hreservation] at hresumed
    cases hresumed
  | ok reservation =>
    obtain ⟨draft, nowMs⟩ := reservation
    rw [hreservation] at hresumed
    simp only [orStop, resume] at hresumed ⊢
    rcases ExecutionRepository.reserve_cases h.valid draft nowMs (nowMs + expiresAfterMs) with
      ⟨e, heq⟩ | ⟨_, existing, -, -, -, heq⟩ | ⟨created, hfresh, hcreated, heq⟩
    · rw [heq] at hresumed
      cases hresumed
    · rw [heq] at hresumed
      cases hresumed
    · rw [heq] at hresumed ⊢
      obtain rfl : record = created := by
        cases hresumed
        rfl
      refine ⟨⟨nowMs, ?_⟩, InsertionMap.get_set_self ..⟩
      rw [(ExecutionRepository.reserves_of_create hfresh hcreated).draft_eq]

/-- A call that has left the repository alone twice. -/
theorem answered_eq {next last : CallState H} (hcall : w.calls[index]? = some call)
    (hstep : gatewayStep hashId w (.resume index .performed)
      = w.resumed index (next, w.repository, none))
    (hnext : resume hashId w.repository next .continued = (last, w.repository, none)) :
    (w.answered hashId index).calls[index]? = some last ∧
      (w.answered hashId index).repository = w.repository ∧
      (w.answered hashId index).submissions = w.submissions := by
  have hcall' : (w.resumed index (next, w.repository, none)).calls[index]? = some next :=
    (calls_resumed hcall).2 (.inl ⟨rfl, rfl⟩)
  have hanswered : w.answered hashId index
      = (w.resumed index (next, w.repository, none)).resumed index (last, w.repository, none) := by
    rw [World.answered, Run.run, Run.run, Run.run, hstep, calls_step _ hcall']
    exact congrArg _ hnext
  rw [hanswered]
  exact ⟨(calls_resumed hcall').2 (.inl ⟨rfl, rfl⟩), rfl, by simp [World.resumed]⟩

/-- A call that has failed returns nothing. -/
theorem not_replays {record : ExecutionRecord H} {e : DomainError}
    (hcall : w.calls[index]? = some call)
    (hstep : gatewayStep hashId w (.resume index .performed)
      = w.resumed index (.done (.error e), w.repository, none)) :
    ¬ Replays hashId w index record := by
  rintro ⟨stored, -, -, hdone, -⟩
  rw [(answered_eq hcall hstep rfl).1] at hdone
  cases hdone

/-- **The retry**, in the state in which it comes to the repository. -/
theorem World.Sound.replays_iff (h : w.Sound) (hapart : RequestsApart hashId prims)
    {record stored : ExecutionRecord H} {nowMs : ℕ} (hinput : later.input = first.input)
    (hfirst : first.reservation hashId prims = .ok (record.toExecutionDraft, nowMs))
    (hstored : w.repository.records.get record.executionId = some stored)
    (hsame : SameExecution record stored)
    (hcall : w.calls[index]? = some (later.state hashId prims)) :
    Replays hashId w index record ↔ Alike first later := by
  rw [state_eq] at hcall
  cases hlater : later.reservation hashId prims with
  | error e =>
    rw [hlater] at hcall
    refine iff_of_false (not_replays hcall (calls_step _ hcall)) fun halike ↦ ?_
    rw [halike.reservation hinput hfirst] at hlater
    cases hlater
  | ok reservation =>
    obtain ⟨draft, laterMs⟩ := reservation
    rw [hlater] at hcall
    have hkey : draft.idempotencyKeyHash = stored.idempotencyKeyHash := by
      obtain ⟨_, _, _, -, -, hdraft⟩ := reservation_eq_ok.1 hfirst
      obtain ⟨_, _, _, -, -, rfl⟩ := reservation_eq_ok.1 hlater
      rw [hsame.draft, hdraft, ← hinput]
      rfl
    have hstep : gatewayStep hashId w (.resume index .performed) = _ :=
      h.replays hstored hcall hkey
    by_cases hrequest : record.requestHash = draft.requestHash
    · rw [if_pos (by rw [hsame.draft, hrequest])] at hstep
      obtain ⟨hdone, hrepository, hsubmissions⟩ := answered_eq hcall hstep rfl
      exact iff_of_true ⟨stored, hstored, hsame, hdone, hrepository, hsubmissions⟩
        (told_eq hapart hinput hfirst hlater hrequest)
    · rw [if_neg (by rw [hsame.draft]; exact hrequest)] at hstep
      refine iff_of_false (not_replays hcall hstep) fun halike ↦ hrequest ?_
      rw [halike.reservation hinput hfirst] at hlater
      obtain ⟨rfl, -⟩ := Prod.mk.inj (Except.ok.inj hlater)
      rfl

/-- **A retry with the Risk Guardian as policy** is answered with the record of the first call, and
reserves and sends nothing, exactly if it is told what the first call was told.  In particular the
clock of the guardian must show the time that it showed then. -/
theorem guarded_retry_iff (hapart : RequestsApart hashId prims)
    {past early between late : List (GatewayStep H)} {v : World H} {record : ExecutionRecord H}
    (hw : w = Run.run (gatewayStep hashId) World.new past)
    (hfirst : first.ToldIn hashId prims w.calls.length early)
    (hreserved : (Run.run (gatewayStep hashId) w (.execute first.input :: early
        ++ [.resume w.calls.length .performed])).calls[w.calls.length]?
      = some (.reserved { record, replayed := false }))
    (hv : v = Run.run (gatewayStep hashId) w (.execute first.input :: early
      ++ .resume w.calls.length .performed :: between))
    (hinput : later.input = first.input)
    (hlater : later.ToldIn hashId prims v.calls.length late) :
    Replays hashId (Run.run (gatewayStep hashId) v (.execute later.input :: late)) v.calls.length
      record ↔ Alike first later := by
  have hsound : (Run.run (gatewayStep hashId) w (.execute first.input :: early)).Sound := by
    rw [hw, ← Run.run_append]
    exact Run.run_induct (fun _ input h ↦ h.step input) sound_new _
  rw [Run.run_append] at hreserved
  obtain ⟨⟨nowMs, hreservation⟩, hrecord⟩ := hsound.reserved (calls_told hfirst) hreserved
  rw [Run.run_append, Run.run] at hv
  obtain ⟨hbetween, stored, hstored, hsame⟩ := (hsound.step _).kept hashId hrecord between
  rw [← hv] at hbetween hstored
  obtain ⟨hend, last, hlast, hsame'⟩ :=
    hbetween.kept hashId hstored (.execute later.input :: late)
  exact hend.replays_iff hapart hinput hreservation hlast (hsame.trans hsame') (calls_told hlater)

end Guarded

/-! ## A retry a millisecond later -/

namespace GuardedSample

open RiskGuardian (OrderSide HyperliquidRiskFreshness HyperliquidExternalWriteState)

theorem orderSide_ctorIdx : Function.Injective OrderSide.ctorIdx := fun a b h ↦ by
  cases a <;> cases b <;> first | rfl | cases h

instance : Coded OrderSide := .of OrderSide.ctorIdx orderSide_ctorIdx

theorem timeInForce_ctorIdx : Function.Injective TimeInForce.ctorIdx := fun a b h ↦ by
  cases a <;> cases b <;> first | rfl | cases h

instance : Coded TimeInForce := .of TimeInForce.ctorIdx timeInForce_ctorIdx

theorem riskFreshness_ctorIdx : Function.Injective HyperliquidRiskFreshness.ctorIdx :=
  fun a b h ↦ by
  cases a <;> cases b <;> first | rfl | cases h

instance : Coded HyperliquidRiskFreshness :=
  .of HyperliquidRiskFreshness.ctorIdx riskFreshness_ctorIdx

theorem externalWriteState_ctorIdx : Function.Injective HyperliquidExternalWriteState.ctorIdx :=
  fun a b h ↦ by
  cases a <;> cases b <;> first | rfl | cases h

instance : Coded HyperliquidExternalWriteState :=
  .of HyperliquidExternalWriteState.ctorIdx externalWriteState_ctorIdx

instance : Coded (Cloid (List ℕ)) :=
  .of (fun
    | .generated digest => (digest, (none : Option String))
    | .given text => ([], some text)) fun a b h ↦ by
    cases a <;> cases b <;> cases h <;> rfl

instance : Coded OrderFields :=
  .of (fun o ↦ (o.assetIndex, o.side, o.limitPx, o.size, o.timeInForce)) fun a b h ↦ by
    obtain ⟨⟩ := a
    obtain ⟨⟩ := b
    cases h
    rfl

instance : Coded (NormalizedAction (List ℕ)) :=
  .of (fun
    | .order fields reduceOnly cloid => (0, 0, 0, some fields, reduceOnly, some cloid)
    | .cancel asset orderId => (1, asset, orderId, none, false, none)
    | .cancelByCloid asset cloid => (2, asset, 0, none, false, some cloid)
    | .modify orderId replacement reduceOnly cloid =>
      (3, 0, orderId, some replacement, reduceOnly, some cloid)) fun a b h ↦ by
    cases a <;> cases b <;> cases h <;> rfl

instance : Coded (RequestCore (List ℕ)) :=
  .of (fun c ↦ (c.facilityId, c.facilityHash, c.facilityVersion, c.orderIntentId, c.orderIntentHash,
    c.orderIntentVersion, c.accountBindingHash, c.signerReferenceHash, c.idempotencyKeyHash,
    c.policyDecisionHash, c.actionKind, c.actionHash, c.action, c.cloid)) fun a b h ↦ by
    obtain ⟨⟩ := a
    obtain ⟨⟩ := b
    cases h
    rfl

instance : Coded (AdmissionCore (List ℕ)) :=
  .of (fun c ↦ (c.riskSnapshotHash, c.actionKind, c.actionHash, c.serverEvaluatedAt,
    c.currentFreshness, c.approved, c.reasonCode)) fun a b h ↦ by
    obtain ⟨⟩ := a
    obtain ⟨⟩ := b
    cases h
    rfl

instance : Coded (RiskCore (List ℕ)) :=
  .of (fun c ↦ (c.facilityId, c.facilityHash, c.facilityVersion, c.venueStateHash,
    c.sourceInfoSnapshotHash, c.venueObservedAt, c.venueMaximumAgeMs, c.freshness,
    c.evaluatedRiskState, c.effectiveRiskState, c.reasonCodes, c.riskIncreasingKillSwitchOpen,
    c.externalWriteState, c.riskPolicyVersion, c.riskPolicyHash, c.serverEvaluatedAt))
    fun a b h ↦ by
    obtain ⟨⟩ := a
    obtain ⟨⟩ := b
    cases h
    rfl

/-- The hashes of the gateway; requests are kept apart. -/
def hashId : ExecutionPreimage (List ℕ) → List ℕ
  | .cloid _ _ idempotencyKeyHash _ => 1 :: idempotencyKeyHash
  | .idempotency key => 2 :: Coded.encode key
  | .action action => 3 :: Coded.encode action
  | .request core => 4 :: Coded.encode core
  | .execution core => [5, core.executionId]
  | .transition core => 6 :: core.executionHash
  | .signingDigest _ nonce _ _ => [7, nonce]
  | .simulatedSignature digestHash _ => 8 :: digestHash
  | .localRejection executionHash _ => 9 :: executionHash
  | .unknownResponse executionHash => 10 :: executionHash
  | .executionResult executionHash _ _ _ => 11 :: executionHash

/-- The hashes of the guardian; admissions and risk snapshots are kept apart. -/
def prims : Primitives (List ℕ) (NormalizedAction (List ℕ)) where
  hashId
    | .venueState core => [12, core.observedAt]
    | .riskSnapshot core => 13 :: Coded.encode core
    | .executionAction action => 3 :: Coded.encode action.body
    | .riskAdmission core => 14 :: Coded.encode core
    | .protectiveActionId requestHash ordinal => 15 :: ordinal :: requestHash
    | .protectiveAction actionId _ _ => 16 :: actionId
    | .idempotency key => 17 :: Coded.encode key
    | .request core => 18 :: core.riskSnapshotHash
  slice hash := hash

theorem requestsApart : RequestsApart hashId prims where
  request h := Coded.encode_injective (List.cons.inj h).2
  admission h := Coded.encode_injective (List.cons.inj h).2
  snapshot h := Coded.encode_injective (List.cons.inj h).2

/-- The request, to buy. -/
def input : GatewayInput (List ℕ) where
  facilityId := "facility_1"
  facilityHash := [20]
  facilityVersion := 1
  orderIntentId := "order_intent_1"
  orderIntentHash := [21]
  orderIntentVersion := 1
  idempotencyKey := "buy-order-1"
  action := .order
    { assetIndex := 3, side := .buy, limitPx := "1000", size := "1", timeInForce := .gtc }

/-- The answer of the binding resolver. -/
def binding : Binding (List ℕ) where
  facilityId := "facility_1"
  facilityHash := [20]
  accountBindingHash := [22]
  signerReferenceHash := [23]
  simulationOnly := true
  liveSignerAvailable := false
  apiWalletApproved := false
  keyExportable := false

/-- What a snapshot in the state says. -/
def riskCore (state : RiskState) : RiskCore (List ℕ) where
  facilityId := "facility_1"
  facilityHash := [20]
  facilityVersion := 1
  venueStateHash := [24]
  sourceInfoSnapshotHash := [25]
  venueObservedAt := 900
  venueMaximumAgeMs := 60000
  freshness := .fresh
  evaluatedRiskState := state
  effectiveRiskState := state
  reasonCodes := ["risk_evaluated"]
  riskIncreasingKillSwitchOpen := true
  externalWriteState := .reconciled
  riskPolicyVersion := RiskGuardian.riskPolicyVersionFixture
  riskPolicyHash := [26]
  serverEvaluatedAt := 950

/-- A snapshot in the state. -/
def snapshot (state : RiskState) : RiskSnapshot (List ℕ) :=
  { riskCore state with riskSnapshotHash := prims.hashId (.riskSnapshot (riskCore state)) }

/-- What a call is told at a time, when the guardian's clock shows `guardianClock`. -/
def asked (state : RiskState) (guardianClock clock : ℕ) : Asked (List ℕ) where
  input := input
  binding := .ok binding
  snapshot := .ok (snapshot state)
  guardianClock := guardianClock
  clock := clock

/-- The steps that tell the call at `index`. -/
def told (index : ℕ) (asked : Asked (List ℕ)) : List (GatewayStep (List ℕ)) :=
  (asked.answers hashId prims).map (.resume index)

/-- The first call. -/
def first : Asked (List ℕ) := asked .normal 1000 1001

/-- The gateway when the first call has reserved. -/
def reserved : World (List ℕ) :=
  Run.run (gatewayStep hashId) World.new
    (.execute first.input :: told 0 first ++ [.resume 0 .performed])

/-- The signer fails, and the record of the first call ends as `REJECTED`. -/
def signerFails : List (GatewayStep (List ℕ)) :=
  [.resume 0 .continued,
    .resume 0 (.signed (.error { code := "signer_failed", message := "no signature" }) 1002),
    .resume 0 .performed]

/-- The gateway when the first call has ended. -/
def ended : World (List ℕ) := Run.run (gatewayStep hashId) reserved signerFails

/-- The gateway when a second call is about to reserve. -/
def retried (later : Asked (List ℕ)) : World (List ℕ) :=
  Run.run (gatewayStep hashId) ended (.execute later.input :: told 1 later)

theorem reserved_first : ∃ record : ExecutionRecord (List ℕ),
    reserved.calls[0]? = some (.reserved { record, replayed := false }) :=
  ⟨_, rfl⟩

theorem toldIn_told (asked : Asked (List ℕ)) (index : ℕ) :
    asked.ToldIn hashId prims index (told index asked) := by
  simp [Asked.ToldIn, told, Asked.answers, GatewayStep.answerTo]

theorem ended_eq : ended = Run.run (gatewayStep hashId) World.new
    (.execute first.input :: told 0 first ++ .resume 0 .performed :: signerFails) := by
  rw [ended, reserved, ← Run.run_append]
  rfl

theorem length_ended : ended.calls.length = 1 := rfl

end GuardedSample

open GuardedSample in
/-- The retry is told the same, and returns the record, which has been rejected since. -/
theorem guarded_retry_iff_alike : ∃ record : ExecutionRecord (List ℕ),
    reserved.calls[0]? = some (.reserved { record, replayed := false }) ∧
      Replays hashId (retried (asked .normal 1000 2000)) 1 record := by
  obtain ⟨record, hrecord⟩ := reserved_first
  have hlater : (asked .normal 1000 2000).ToldIn hashId prims ended.calls.length
      (told 1 (asked .normal 1000 2000)) := by
    rw [length_ended]
    exact toldIn_told _ 1
  have hnew : World.new = Run.run (gatewayStep hashId) World.new [] := rfl
  have hinput : (asked .normal 1000 2000).input = first.input := rfl
  have hretry := (guarded_retry_iff requestsApart hnew (toldIn_told first 0) hrecord ended_eq hinput
    hlater).2 ⟨rfl, rfl, rfl, by decide⟩
  rw [length_ended] at hretry
  exact ⟨record, hrecord, hretry⟩

open GuardedSample in
/-- A millisecond later the retry is refused as another request, and once the snapshot has become
`REDUCE_ONLY` it is denied. -/
theorem guarded_retry_refused : ∃ record : ExecutionRecord (List ℕ),
    reserved.calls[0]? = some (.reserved { record, replayed := false }) ∧
      ((retried (asked .normal 1001 2000)).answered hashId 1).calls[1]?
        = some (.done (.error ExecutionRepository.idempotencyConflict)) ∧
      ¬ Replays hashId (retried (asked .normal 1001 2000)) 1 record ∧
      ((retried (asked .reduceOnly 1000 2000)).answered hashId 1).calls[1]?
        = some (.done (.error
          { code := "hyperliquid_execution_policy_denied"
            message := "server policy or kill switch denied execution" })) ∧
      ¬ Replays hashId (retried (asked .reduceOnly 1000 2000)) 1 record := by
  obtain ⟨record, hrecord⟩ := reserved_first
  have hconflict : ((retried (asked .normal 1001 2000)).answered hashId 1).calls[1]?
      = some (.done (.error ExecutionRepository.idempotencyConflict)) := by decide +kernel
  have hdenied : ((retried (asked .reduceOnly 1000 2000)).answered hashId 1).calls[1]?
      = some (.done (.error
        { code := "hyperliquid_execution_policy_denied"
          message := "server policy or kill switch denied execution" })) := by decide +kernel
  refine ⟨record, hrecord, hconflict, ?_, hdenied, ?_⟩
  · rintro ⟨stored, -, -, hdone, -⟩
    rw [hconflict] at hdone
    cases hdone
  · rintro ⟨stored, -, -, hdone, -⟩
    rw [hdenied] at hdone
    cases hdone

end Execution
end IpoOne
