import IpoOne.Authorization.Utilization
import IpoOne.Rail.Streams

/-!
# Calls in flight

What a call of the rail service can do in one segment.  Only the append of a queued event writes to
the store, and no segment touches anything else that the calls share (`keeps_resume`).  `Begins` and
`Advances` say where a segment leaves its call: `begin_begins` and `resume_advances` derive that
from the code once, and the invariants of the runs are read off from it.
-/

set_option autoImplicit false

namespace IpoOne
namespace Rail

open Fallible
open Throwing (get modify lift zoom Keeps)

variable {H : Type}

/-! ## What a segment leaves alone -/

/-- What a segment does not write, the append of a queued event apart. -/
structure Shared (H : Type) where
  store : EventStore H
  calls : List (Call H)
  replayProofs : List (ReplayProofCall H)
  policies : InsertionMap String SpendPolicy.Policy
  spendRequests : InsertionMap String SpendPolicy.SpendRequest
  reservations : InsertionMap String (Authorization.Reservation H)

/-- That part of a state. -/
def RailState.shared (state : RailState H) : Shared H where
  store := state.store
  calls := state.calls
  replayProofs := state.replayProofs
  policies := state.spend.policies
  spendRequests := state.spend.spendRequests
  reservations := state.spend.authorization.reservations

theorem keeps_draw : Keeps RailState.shared (draw : Segment H ℕ) :=
  Throwing.keeps_bind Throwing.keeps_get fun _ ↦
    Throwing.keeps_bind (Throwing.keeps_modify fun _ ↦ rfl) fun _ ↦ Throwing.keeps_pure _

/-- A check, and then the rest. -/
theorem keeps_lift_bind {α β : Type} {x : Domain α} {f : α → Segment H β}
    (hf : ∀ a, Keeps RailState.shared (f a)) : Keeps RailState.shared (lift x >>= f) :=
  Throwing.keeps_bind (Throwing.keeps_lift x) hf

theorem keeps_get_bind {β : Type} {f : RailState H → Segment H β}
    (hf : ∀ state, Keeps RailState.shared (f state)) : Keeps RailState.shared (get >>= f) :=
  Throwing.keeps_bind Throwing.keeps_get hf

variable {adapters : InsertionMap String (RailAdapter H)} {hashId : RailPreimage H → H}

theorem keeps_append {intent : TransferIntent H} {key : String} {commandHash : H}
    {actorRef : Option String} {body : EventBody H} {status : Option TransferIntentStatus}
    {finality : Option FinalityStatus} {now : ℕ} :
    Keeps RailState.shared
      (append hashId intent key commandHash actorRef body status finality now) :=
  keeps_lift_bind fun _ ↦ Throwing.keeps_bind keeps_draw fun _ ↦ Throwing.keeps_pure _

theorem keeps_prepareIntent {input : CreateIntentInput H} :
    Keeps RailState.shared (prepareIntent adapters hashId input) := by
  refine keeps_lift_bind fun _ ↦ keeps_lift_bind fun _ ↦ keeps_lift_bind fun _ ↦
    keeps_get_bind fun _ ↦ keeps_lift_bind fun _ ↦ keeps_lift_bind fun _ ↦
    keeps_lift_bind fun _ ↦ ?_
  exact Throwing.keeps_bind keeps_draw fun _ ↦ keeps_lift_bind fun _ ↦ Throwing.keeps_pure _

variable [DecidableEq H]

theorem keeps_assertLivePolicyAndMandate {intent : TransferIntent H} {now : ℕ} :
    Keeps RailState.shared (assertLivePolicyAndMandate hashId intent now) := by
  refine keeps_get_bind fun _ ↦ keeps_lift_bind fun _ ↦ keeps_lift_bind fun _ ↦
    keeps_lift_bind fun _ ↦ ?_
  refine Throwing.keeps_bind (fun state ↦ ?_) fun _ ↦ Throwing.keeps_pure _
  simp only [RailState.shared, SpendPolicy.withAuthorization, Throwing.zoom_apply]
  rw [Authorization.keeps_assertAuthorized _ state.spend.authorization]

theorem keeps_perform {command : TransferCommand} {intent : TransferIntent H} :
    Keeps RailState.shared (perform adapters hashId command intent) := by
  rw [perform]
  split
  · refine keeps_lift_bind fun _ ↦ keeps_lift_bind fun _ ↦ Throwing.keeps_bind keeps_draw fun _ ↦ ?_
    exact keeps_lift_bind fun _ ↦ keeps_append
  · refine keeps_lift_bind fun _ ↦ keeps_lift_bind fun _ ↦ ?_
    exact Throwing.keeps_bind keeps_assertLivePolicyAndMandate fun _ ↦ keeps_append
  · refine keeps_lift_bind fun _ ↦ keeps_lift_bind fun _ ↦ ?_
    refine Throwing.keeps_bind keeps_assertLivePolicyAndMandate fun _ ↦ ?_
    exact keeps_lift_bind fun _ ↦ keeps_lift_bind fun _ ↦ keeps_lift_bind fun _ ↦ keeps_append
  · refine keeps_lift_bind fun _ ↦ Throwing.keeps_bind keeps_draw fun _ ↦ keeps_lift_bind fun _ ↦ ?_
    exact keeps_get_bind fun _ ↦ Throwing.keeps_pure _
  · exact keeps_lift_bind fun _ ↦ keeps_lift_bind fun _ ↦ keeps_append

/-- The start of a call touches neither the store nor the other calls. -/
theorem keeps_begin {command : RailCommand H} :
    Keeps RailState.shared (begin adapters hashId command) := by
  rcases command with input | command
  · refine Throwing.keeps_bind (Throwing.keeps_attempt keeps_prepareIntent) fun result ↦ ?_
    rcases result with error | prepared
    · exact Throwing.keeps_pure _
    · exact keeps_get_bind fun _ ↦ Throwing.keeps_pure _
  · exact keeps_get_bind fun _ ↦ Throwing.keeps_pure _

/-- Nor does a segment, unless it is the append of a queued event. -/
theorem keeps_resume (adapters : InsertionMap String (RailAdapter H)) (hashId : RailPreimage H → H)
    (recordedAt : ℕ) {call : CallState H}
    (hcall : ∀ request, call ≠ .appending request) :
    Keeps RailState.shared (resume adapters hashId recordedAt call) := by
  rw [resume.eq_def]
  split
  · exact keeps_lift_bind fun _ ↦ keeps_lift_bind fun _ ↦ keeps_append
  · exact keeps_get_bind fun _ ↦ keeps_lift_bind fun _ ↦ Throwing.keeps_pure _
  · exact keeps_lift_bind fun _ ↦ keeps_perform
  · exact keeps_lift_bind fun _ ↦ keeps_lift_bind fun _ ↦ keeps_append
  · exact absurd rfl (hcall _)
  · exact keeps_get_bind fun _ ↦ Throwing.keeps_pure _
  · exact Throwing.keeps_pure _

/-! ## What a segment comes to -/

/-- The event that each of the commands on an intent records, and the status it leads to. -/
inductive Records : TransferAction → EventBody H → TransferIntentStatus → Prop where
  | quoted (quote : TransferQuote H) : Records .quoteTransfer (.quote quote) .quoted
  | authorized (actorRef : String) (authorization : TransferAuthorization) :
      Records (.authorizeTransfer actorRef) (.authorization authorization) .authorized
  | submitted (submission : TransferSubmission H) :
      Records .submitTransfer (.submission submission) .submitted
  | settled (providerEventId : String) (outcome : SettlementOutcome) (finality : SettlementFinality)
      (receipt : SettlementReceipt H) :
      Records (.simulateSettlement providerEventId outcome finality) (.receipt receipt)
        (statusForReceipt receipt)
  | expired (actorRef reason : String) :
      Records (.expireTransfer actorRef reason) (.reason reason) .expired

/-- The request by which a command on an intent is recorded. -/
inductive RequestFor (hashId : RailPreimage H → H) (command : TransferCommand)
    (intent : TransferIntent H) : EventStore.AppendRequest H → Prop where
  | mk (actorRef : Option String) {body : EventBody H} {status : TransferIntentStatus}
      (finality : Option FinalityStatus) (eventId : ℕ)
      (records : Records command.action body status)
      (allowed : status ∈ transferIntentTransitions intent.status) :
      RequestFor hashId command intent
        (appendRequest hashId intent command.idempotencyKey (hashId (.railCommand command.text))
          actorRef body (some status) finality command.now eventId)

omit [DecidableEq H] in
theorem append_eq_ok {intent : TransferIntent H} {key : String} {commandHash : H}
    {actorRef : Option String} {body : EventBody H} {status : Option TransferIntentStatus}
    {finality : Option FinalityStatus} {now : ℕ} {state : RailState H} {next : CallState H}
    (h : (append hashId intent key commandHash actorRef body status finality now state).1 =
      .ok next) :
    next = .appending (appendRequest hashId intent key commandHash actorRef body status finality now
      state.drawn) := by
  rw [append, Throwing.fst_lift_bind_eq_ok] at h
  obtain ⟨_, _, h⟩ := h
  exact (Except.ok.inj h).symm

omit [DecidableEq H] in
theorem assertTransferTransition_ok {intent : TransferIntent H} {status : TransferIntentStatus}
    {u : Unit} (h : assertTransferTransition intent status = .ok u) :
    status ∈ transferIntentTransitions intent.status := by
  rw [assertTransferTransition, assertTransition, throwIf_eq_ok] at h
  exact not_not.1 h

/-- A decision that is still live is approved, for the amount of the intent. -/
theorem assertLivePolicyAndMandate_ok {intent : TransferIntent H} {now : ℕ} {state : RailState H}
    {u : Unit} (h : (assertLivePolicyAndMandate hashId intent now state).1 = .ok u) :
    ∃ decision, state.spend.spendRequests.get intent.policyDecisionRef = some decision ∧
      decision.status = .approved ∧ decision.amountMinor = intent.sourceMoney.amountMinor := by
  rw [assertLivePolicyAndMandate, Throwing.fst_get_bind] at h
  simp only [Throwing.fst_lift_bind_eq_ok] at h
  obtain ⟨decision, hdecision, provider, _, _, hthrow, _⟩ := h
  have hmatch := throwIf_eq_ok.1 hthrow
  simp only [decisionMismatch, not_or, not_not] at hmatch
  exact ⟨decision, SpendPolicy.requireSpendRequest_eq_ok.1 hdecision, hmatch.1,
    hmatch.2.2.2.2.2.2.1⟩

/-- The receipt is the answer of the adapter of the intent's rail. -/
def CreatesReceipt (adapters : InsertionMap String (RailAdapter H)) (command : TransferCommand)
    (intent : TransferIntent H) (providerEventId : String) (outcome : SettlementOutcome)
    (finality : SettlementFinality) (receipt : SettlementReceipt H) : Prop :=
  ∃ adapter id, adapters.get intent.railId = some adapter ∧
    adapter.createReceipt intent (intent.submission.map TransferSubmission.railReferenceHash)
      providerEventId outcome finality command.idempotencyKey command.now id = .ok receipt

omit [DecidableEq H] in
theorem requireAdapter_eq_ok {railId : String} {adapter : RailAdapter H} :
    requireAdapter adapters railId = .ok adapter ↔ adapters.get railId = some adapter := by
  rw [requireAdapter]
  rcases adapters.get railId with _ | found <;> simp

/-- What a command does with the intent it has read. -/
theorem perform_eq_ok {command : TransferCommand} {intent : TransferIntent H} {state : RailState H}
    {next : CallState H} (h : (perform adapters hashId command intent state).1 = .ok next) :
    (∃ request, next = .appending request ∧ RequestFor hashId command intent request ∧
      (command.action = .submitTransfer → ∃ decision,
        state.spend.spendRequests.get intent.policyDecisionRef = some decision ∧
          decision.status = .approved ∧
          decision.amountMinor = intent.sourceMoney.amountMinor) ∧
      ∀ providerEventId outcome finality,
        command.action ≠ .simulateSettlement providerEventId outcome finality) ∨
    ∃ providerEventId outcome finality receipt,
      command.action = .simulateSettlement providerEventId outcome finality ∧
        CreatesReceipt adapters command intent providerEventId outcome finality receipt ∧
        next = .listed command intent receipt (listSettlementReceipts state.store) := by
  rcases haction : command.action with _ | actorRef | _ | ⟨providerEventId, outcome, finality⟩ |
    ⟨actorRef, reason⟩
  case quoteTransfer =>
    simp only [perform, haction, Throwing.fst_lift_bind_eq_ok] at h
    obtain ⟨_, hallowed, _, _, h⟩ := h
    rw [Throwing.fst_bind_eq_ok] at h
    obtain ⟨_, _, _, h⟩ := h
    rw [Throwing.fst_lift_bind_eq_ok] at h
    obtain ⟨_, _, h⟩ := h
    refine .inl ⟨_, append_eq_ok h, ⟨none, none, _, ?_, assertTransferTransition_ok hallowed⟩,
      nofun, nofun⟩
    rw [haction]
    exact .quoted _
  case authorizeTransfer =>
    simp only [perform, haction, Throwing.fst_lift_bind_eq_ok] at h
    obtain ⟨_, hallowed, _, _, h⟩ := h
    rw [Throwing.fst_bind_eq_ok] at h
    obtain ⟨_, _, _, h⟩ := h
    refine .inl ⟨_, append_eq_ok h,
      ⟨some actorRef, none, _, ?_, assertTransferTransition_ok hallowed⟩, nofun, nofun⟩
    rw [haction]
    exact .authorized _ _
  case submitTransfer =>
    simp only [perform, haction, Throwing.fst_lift_bind_eq_ok] at h
    obtain ⟨_, hallowed, _, _, h⟩ := h
    rw [Throwing.fst_bind_eq_ok] at h
    obtain ⟨_, _, hlive, h⟩ := h
    simp only [Throwing.fst_lift_bind_eq_ok] at h
    obtain ⟨_, _, _, _, _, _, h⟩ := h
    refine .inl ⟨_, append_eq_ok h, ⟨none, none, _, ?_, assertTransferTransition_ok hallowed⟩,
      fun _ ↦ ?_, nofun⟩
    · rw [haction]
      exact .submitted _
    · exact assertLivePolicyAndMandate_ok (congrArg Prod.fst hlive)
  case simulateSettlement =>
    simp only [perform, haction, Throwing.fst_lift_bind_eq_ok] at h
    obtain ⟨adapter, hadapter, h⟩ := h
    rw [Throwing.fst_bind_eq_ok] at h
    obtain ⟨id, left, hdraw, h⟩ := h
    rw [Throwing.fst_lift_bind_eq_ok] at h
    obtain ⟨receipt, hreceipt, h⟩ := h
    have hstore : left.store = state.store := by
      have hkeeps := keeps_draw state
      rw [hdraw] at hkeeps
      exact congrArg Shared.store hkeeps
    refine .inr ⟨providerEventId, outcome, finality, receipt, rfl,
      ⟨adapter, id, requireAdapter_eq_ok.1 hadapter, hreceipt⟩, ?_⟩
    rw [← hstore]
    exact (Except.ok.inj h).symm
  case expireTransfer =>
    simp only [perform, haction, Throwing.fst_lift_bind_eq_ok] at h
    obtain ⟨_, _, _, hallowed, h⟩ := h
    refine .inl ⟨_, append_eq_ok h,
      ⟨some actorRef, none, _, ?_, assertTransferTransition_ok hallowed⟩, nofun, nofun⟩
    rw [haction]
    exact .expired _ _

/-- **What one segment can do** to a call, and to the store. -/
inductive Advances (adapters : InsertionMap String (RailAdapter H)) (hashId : RailPreimage H → H)
    (state : RailState H) :
    CallState H → CallState H → EventStore H → Prop where
  | failed (call : CallState H) (error : DomainError) :
      Advances adapters hashId state call (.done (.error error)) state.store
  | prepared (prepared : Prepared H) (eventId : ℕ)
      (approved : prepared.spendRequest.status = .approved) :
      Advances adapters hashId state (.prepared prepared)
        (.appending (appendRequest hashId prepared.intent prepared.intent.idempotencyKey
          prepared.commandHash none (.intent prepared.intent) none none prepared.now eventId))
        state.store
  | loaded (command : TransferCommand) {intent : TransferIntent H}
      (read : getTransferIntent state.store command.transferIntentId = .ok intent) :
      Advances adapters hashId state (.searched command) (.loaded command intent) state.store
  | performed {command : TransferCommand} {intent : TransferIntent H}
      {request : EventStore.AppendRequest H} (requestFor : RequestFor hashId command intent request)
      (decided : command.action = .submitTransfer → ∃ decision,
        state.spend.spendRequests.get intent.policyDecisionRef = some decision ∧
          decision.status = .approved ∧ decision.amountMinor = intent.sourceMoney.amountMinor)
      (not_settlement : ∀ providerEventId outcome finality,
        command.action ≠ .simulateSettlement providerEventId outcome finality) :
      Advances adapters hashId state (.loaded command intent) (.appending request) state.store
  | listed {command : TransferCommand} {intent : TransferIntent H} (providerEventId : String)
      (outcome : SettlementOutcome) (finality : SettlementFinality) (receipt : SettlementReceipt H)
      (settlement : command.action = .simulateSettlement providerEventId outcome finality)
      (creates : CreatesReceipt adapters command intent providerEventId outcome finality receipt) :
      Advances adapters hashId state (.loaded command intent)
        (.listed command intent receipt (listSettlementReceipts state.store)) state.store
  | settled {command : TransferCommand} {intent : TransferIntent H} {receipt : SettlementReceipt H}
      {recorded : List (SettlementReceipt H)} (eventId : ℕ)
      (unrecorded : ∀ candidate ∈ recorded,
        candidate.providerEventIdHash ≠ receipt.providerEventIdHash)
      (allowed : statusForReceipt receipt ∈ transferIntentTransitions intent.status) :
      Advances adapters hashId state (.listed command intent receipt recorded)
        (.appending (appendRequest hashId intent command.idempotencyKey
          (hashId (.railCommand command.text)) none (.receipt receipt)
          (some (statusForReceipt receipt)) (some (sourceFinalityForReceipt receipt)) command.now
          eventId))
        state.store
  | replayed {request : EventStore.AppendRequest H} {event : CreditEvent H}
      (recorded : event ∈ state.store.creditEvents)
      (key : event.payload.idempotencyKey = request.idempotencyKey)
      (commandHash : event.payload.commandHash = request.commandHash) :
      Advances adapters hashId state (.appending request) (.recorded event.payload.transferIntentId)
        state.store
  | appended {request : EventStore.AppendRequest H} {store : EventStore H} (recordedAt : ℕ)
      (unused : ∀ recorded ∈ state.store.creditEvents,
        recorded.payload.idempotencyKey ≠ request.idempotencyKey)
      (version : state.store.getStreamVersion request.aggregateId = request.expectedVersion)
      (payloadHash : request.event.payloadHash = hashId (.eventPayload request.event.payload))
      (append : state.store.appendCreditEvent hashId request.event recordedAt = .ok store) :
      Advances adapters hashId state (.appending request)
        (.recorded request.event.payload.transferIntentId)
        store
  | answered (transferIntentId : ℕ) :
      Advances adapters hashId state (.recorded transferIntentId)
        (.done (getTransferIntent state.store transferIntentId)) state.store
  | done (result : Domain (TransferIntent H)) :
      Advances adapters hashId state (.done result) (.done result) state.store

/-- A segment that is no append goes one of the ways of `Advances`. -/
theorem resume_eq_ok {recordedAt : ℕ} {call next : CallState H} {state : RailState H}
    (hcall : ∀ request, call ≠ .appending request)
    (h : (resume adapters hashId recordedAt call state).1 = .ok next) :
    Advances adapters hashId state call next state.store := by
  rcases call with prepared | command | ⟨command, intent⟩ | ⟨command, intent, receipt, recorded⟩ |
    request | transferIntentId | result
  case prepared =>
    simp only [resume, Throwing.fst_lift_bind_eq_ok, throwIf_eq_ok, not_not] at h
    obtain ⟨_, happroved, _, _, h⟩ := h
    rw [append_eq_ok h]
    exact .prepared prepared _ happroved
  case searched =>
    rw [resume, Throwing.fst_get_bind, Throwing.fst_lift_bind_eq_ok] at h
    obtain ⟨intent, hread, h⟩ := h
    rw [← Except.ok.inj h]
    exact .loaded command hread
  case loaded =>
    rw [resume, Throwing.fst_lift_bind_eq_ok] at h
    obtain ⟨_, _, h⟩ := h
    obtain ⟨request, rfl, hrequest, hdecided, hnot⟩ |
      ⟨id, outcome, finality, receipt, haction, hcreates, rfl⟩ := perform_eq_ok h
    · exact .performed hrequest hdecided hnot
    · exact .listed id outcome finality receipt haction hcreates
  case listed =>
    simp only [resume, settle, Throwing.fst_lift_bind_eq_ok, throwIf_eq_ok, not_exists,
      not_and] at h
    obtain ⟨_, hunrecorded, _, hallowed, h⟩ := h
    rw [append_eq_ok h]
    exact .settled _ hunrecorded (assertTransferTransition_ok hallowed)
  case appending => exact absurd rfl (hcall request)
  case recorded =>
    rw [resume, Throwing.fst_get_bind] at h
    rw [← Except.ok.inj h]
    exact .answered transferIntentId
  case done =>
    rw [← Except.ok.inj h]
    exact .done result

/-- The append of a queued event. -/
theorem appendQueued_advances (adapters : InsertionMap String (RailAdapter H))
    (hashId : RailPreimage H → H) (recordedAt : ℕ)
    (request : EventStore.AppendRequest H) (state : RailState H) :
    Advances adapters hashId state (.appending request)
        (ended (appendQueued hashId request recordedAt state).1)
        (appendQueued hashId request recordedAt state).2.store ∧
      (appendQueued hashId request recordedAt state).2 =
        { state with store := (appendQueued hashId request recordedAt state).2.store } := by
  simp only [appendQueued, Throwing.bind_apply, Throwing.get_apply]
  rcases happend : state.store.appendCommand hashId request recordedAt with error | ⟨event, store⟩
  · exact ⟨.failed _ _, rfl⟩
  · refine ⟨?_, rfl⟩
    obtain ⟨rfl, hmem, hkey, hhash⟩ | ⟨rfl, hunused, hversion, hpayload, happended⟩ :=
      appendCommand_cases happend
    · exact .replayed hmem hkey hhash
    · exact .appended recordedAt hunused hversion hpayload happended

theorem resume_advances (adapters : InsertionMap String (RailAdapter H))
    (hashId : RailPreimage H → H) (recordedAt : ℕ) (call : CallState H) (state : RailState H) :
    Advances adapters hashId state call (ended (resume adapters hashId recordedAt call state).1)
        (resume adapters hashId recordedAt call state).2.store ∧
      (resume adapters hashId recordedAt call state).2.shared =
        { state.shared with store := (resume adapters hashId recordedAt call state).2.store } := by
  by_cases hcall : ∃ request, call = .appending request
  · obtain ⟨request, rfl⟩ := hcall
    have happend := appendQueued_advances adapters hashId recordedAt request state
    refine ⟨happend.1, ?_⟩
    show (appendQueued hashId request recordedAt state).2.shared = _
    rw [happend.2]
    rfl
  · have hne : ∀ request, call ≠ .appending request := fun request heq ↦ hcall ⟨request, heq⟩
    have hkeeps := keeps_resume adapters hashId recordedAt hne state
    have hstore : (resume adapters hashId recordedAt call state).2.store = state.store :=
      congrArg Shared.store hkeeps
    refine ⟨?_, hkeeps.trans ?_⟩
    · rw [hstore]
      rcases hnext : (resume adapters hashId recordedAt call state).1 with error | next
      · exact .failed _ _
      · exact resume_eq_ok hne hnext
    · rw [hstore]
      rfl

/-! ## How a call begins -/

/-- **What the first segment of a call can come to.** -/
inductive Begins (hashId : RailPreimage H → H) (state : RailState H) :
    RailCommand H → Option H → CallState H → Prop where
  | failed (command : RailCommand H) (commandHash : Option H) (error : DomainError) :
      Begins hashId state command commandHash (.done (.error error))
  | replayed (command : RailCommand H) {event : CreditEvent H}
      (recorded : event ∈ state.store.creditEvents)
      (key : event.payload.idempotencyKey = command.idempotencyKey) :
      Begins hashId state command (some event.payload.commandHash)
        (.recorded event.payload.transferIntentId)
  | searched (command : TransferCommand) :
      Begins hashId state (.transfer command) (some (hashId (.railCommand command.text)))
        (.searched command)
  | prepared (input : CreateIntentInput H) {prepared : Prepared H}
      (spendRequest : state.spend.spendRequests.get input.spendRequestId =
        some prepared.spendRequest)
      (policyDecisionRef :
        prepared.intent.policyDecisionRef = prepared.spendRequest.spendRequestId)
      (amountMinor :
        prepared.intent.sourceMoney.amountMinor = prepared.spendRequest.amountMinor)
      (idempotencyKey : prepared.intent.idempotencyKey = input.idempotencyKey)
      (version : prepared.intent.version = 1) (status : prepared.intent.status = .created)
      (submission : prepared.intent.submission = none)
      (transferIntentId : state.drawn = prepared.intent.transferIntentId) :
      Begins hashId state (.createProviderSpendIntent input) (some prepared.commandHash)
        (.prepared prepared)

theorem normalizeMoney_positive_ok {name : String} {value money : Money}
    (h : normalizeMoney name value false = .ok money) :
    money.amountMinor = value.amountMinor := by
  rw [normalizeMoney, bind_eq_ok] at h
  obtain ⟨asset, -, h⟩ := h
  rw [if_neg Bool.false_ne_true, bind_eq_ok] at h
  obtain ⟨amount, hamount, h⟩ := h
  rw [← pure_eq_ok.1 h]
  exact (assertPositiveMinorUnits_ok hamount).1

omit [DecidableEq H] in
theorem createTransferIntent_eq_ok {request : TransferRequest H} {key : String} {now id : ℕ}
    {intent : TransferIntent H} (h : createTransferIntent hashId request key now id = .ok intent) :
    intent.policyDecisionRef = request.policyDecisionRef ∧
      intent.sourceMoney.amountMinor = request.sourceMoney.amountMinor ∧
      intent.idempotencyKey = key ∧ intent.version = 1 ∧ intent.status = .created ∧
      intent.submission = none ∧ intent.transferIntentId = id := by
  simp only [createTransferIntent, bind_eq_ok, pure_eq_ok] at h
  obtain ⟨_, -, _, -, _, -, _, -, _, -, _, -, money, hmoney, _, -, rfl⟩ := h
  exact ⟨rfl, normalizeMoney_positive_ok hmoney, rfl, rfl, rfl, rfl, rfl⟩

theorem findCommandReplay_eq_ok {store : EventStore H} {key : String} {commandHash : H}
    {found : Option (CreditEvent H)}
    (h : findCommandReplay store key commandHash = .ok found) :
    store.findCommand key commandHash = .ok found := by
  simp only [findCommandReplay, bind_eq_ok] at h
  obtain ⟨_, _, h⟩ := h
  rcases hfind : store.findCommand key commandHash with error | found'
  · rw [hfind] at h
    dsimp only at h
    split at h <;> cases h
  · rw [hfind] at h
    exact congrArg Except.ok (pure_eq_ok.1 h)

/-- A call after its search. -/
theorem begins_afterSearch {state : RailState H} {command : RailCommand H} {commandHash : H}
    {search : Domain (Option (CreditEvent H))} {next : CallState H}
    (hsearch : ∀ found, search = .ok found →
      state.store.findCommand command.idempotencyKey commandHash = .ok found)
    (hnext : Begins hashId state command (some commandHash) next) :
    Begins hashId state command (some commandHash)
      (ended ((fun found ↦ afterSearch found next) <$> search)) := by
  rcases search with error | _ | event
  · exact .failed _ _ error
  · exact hnext
  · obtain ⟨hmem, hkey, hhash⟩ := findCommand_ok (hsearch _ rfl)
    rw [← hhash]
    exact .replayed command hmem hkey

omit [DecidableEq H] in
theorem prepareIntent_eq_ok {input : CreateIntentInput H} {prepared : Prepared H}
    {state left : RailState H}
    (h : prepareIntent adapters hashId input state = (.ok prepared, left)) :
    Begins hashId state (.createProviderSpendIntent input) (some prepared.commandHash)
      (.prepared prepared) := by
  simp only [prepareIntent, Throwing.lift_bind_eq_return, Throwing.get_bind_eq_return,
    SpendPolicy.requireSpendRequest_eq_ok] at h
  obtain ⟨_, -, _, -, _, -, spendRequest, hrequest, provider, -, _, -, h⟩ := h
  rw [Throwing.bind_eq_return] at h
  obtain ⟨id, drawn, hdraw, h⟩ := h
  rw [Throwing.lift_bind_eq_return] at h
  obtain ⟨intent, hintent, h⟩ := h
  simp only [Throwing.pure_apply, Prod.mk.injEq, Except.ok.injEq] at h
  obtain ⟨rfl, rfl⟩ := h
  obtain ⟨href, hamount, hkey, hversion, hstatus, hsubmission, hid⟩ :=
    createTransferIntent_eq_ok hintent
  refine .prepared input hrequest href hamount hkey hversion hstatus hsubmission ?_
  rw [hid]
  exact (Except.ok.inj (congrArg Prod.fst hdraw))

theorem begin_begins (adapters : InsertionMap String (RailAdapter H)) (hashId : RailPreimage H → H)
    (command : RailCommand H) (state : RailState H) :
    ∃ commandHash next left, begin adapters hashId command state = (.ok (commandHash, next), left) ∧
      left.shared = state.shared ∧ Begins hashId state command commandHash (ended next) ∧
      ∀ transfer, command = .transfer transfer →
        commandHash = some (hashId (.railCommand transfer.text)) := by
  have hkeeps := @keeps_begin _ adapters hashId _ command state
  rcases command with input | command
  · simp only [begin, Throwing.bind_apply, Throwing.attempt_apply] at hkeeps ⊢
    rcases hprepare : prepareIntent adapters hashId input state with ⟨error | prepared, left⟩
    · rw [hprepare] at hkeeps
      exact ⟨_, _, _, rfl, hkeeps, .failed _ _ error, nofun⟩
    · rw [hprepare] at hkeeps
      have hprepared := prepareIntent_eq_ok hprepare
      have hstore : left.store = state.store := congrArg Shared.store hkeeps
      refine ⟨_, _, _, rfl, hkeeps, begins_afterSearch (fun found hfound ↦ ?_) hprepared, nofun⟩
      rw [← hstore]
      exact findCommandReplay_eq_ok hfound
  · refine ⟨_, _, _, rfl, hkeeps, begins_afterSearch (fun found hfound ↦ ?_) (.searched command),
      ?_⟩
    · simp only [bind_eq_ok] at hfound
      obtain ⟨_, _, hfound⟩ := hfound
      exact findCommandReplay_eq_ok hfound
    · rintro _ ⟨⟩
      rfl

end Rail
end IpoOne
