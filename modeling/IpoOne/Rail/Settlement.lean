import IpoOne.Rail.Interleaving

/-!
# Settlement by provider events

`simulateSettlement` reads the receipts that are recorded, refuses a provider event that is among
them, and appends.  The append is checked against the version of its own intent only.  So two calls
on two intents that have both read before either appends record one provider event twice.

`provider_event_settles_once` is about the runs in which this does not happen: whenever a call reads
the receipts and does not find its provider event, no call on another intent that has not found it
either is on the way to record it (`NoRival`).  A provider event is known by its hash, which is
taken of the rail and of the provider's identifier.
-/

set_option autoImplicit false

namespace IpoOne
namespace Rail

open Fallible
open Authorization (MandatePreimage)

variable {H : Type}

/-! ## Sandbox adapters -/

/-- The adapters of a service that is given sandbox rails. -/
def sandboxAdapters (hashId : RailPreimage H → H) (configs : List SandboxRailConfig) :
    InsertionMap String (RailAdapter H) :=
  configs.foldl (fun adapters config ↦
    adapters.set config.railId (sandboxRailAdapter hashId config))
    .empty

theorem get_sandboxAdapters {hashId : RailPreimage H → H} {configs : List SandboxRailConfig}
    {railId : String} {adapter : RailAdapter H}
    (h : (sandboxAdapters hashId configs).get railId = some adapter) :
    ∃ config, adapter = sandboxRailAdapter hashId config := by
  have hfold : ∀ (configs : List SandboxRailConfig)
      (adapters : InsertionMap String (RailAdapter H)),
        (∀ adapter, adapters.get railId = some adapter →
        ∃ config, adapter = sandboxRailAdapter hashId config) →
      ∀ adapter, (configs.foldl (fun adapters config ↦
          adapters.set config.railId (sandboxRailAdapter hashId config)) adapters).get railId =
        some adapter → ∃ config, adapter = sandboxRailAdapter hashId config := by
    intro configs
    induction configs with
    | nil => exact fun _ h ↦ h
    | cons config configs ih =>
      refine fun adapters hadapters ↦ ih _ fun adapter hget ↦ ?_
      rw [InsertionMap.get_set] at hget
      split at hget
      · exact ⟨config, (Option.some.inj hget).symm⟩
      · exact hadapters adapter hget
  exact hfold configs .empty (fun _ hget ↦ by cases hget) adapter h

/-- The provider event of a settlement, as it is recorded. -/
def providerEventIdHash (hashId : RailPreimage H → H) (intent : TransferIntent H) :
    TransferAction → Option H
  | .simulateSettlement providerEventId _ _ =>
    some (hashId (.sandboxProviderEvent intent.railId providerEventId))
  | _ => none

theorem createSettlementReceipt_eq_ok {hashId : RailPreimage H → H} {intent : TransferIntent H}
    {quote : TransferQuote H} {railReferenceHash : Option H} {eventHash : H}
    {outcome : SettlementOutcome} {finality : SettlementFinality}
    {sourceMoney feeMoney destinationMoney : Money} {key : String} {now id : ℕ}
    {receipt : SettlementReceipt H}
    (h : createSettlementReceipt hashId intent quote railReferenceHash eventHash outcome finality
      sourceMoney feeMoney destinationMoney key now id = .ok receipt) :
    receipt.providerEventIdHash = eventHash := by
  rcases railReferenceHash with _ | railReferenceHash
  · cases h
  · simp only [createSettlementReceipt, bind_eq_ok] at h
    obtain ⟨_, -, _, -, _, -, _, -, h⟩ := h
    split at h
    all_goals
      simp only [bind_eq_ok, pure_eq_ok] at h
      obtain ⟨_, -, h⟩ := h
    · rw [← h]
    · obtain ⟨_, -, h⟩ := h
      rw [← h]

/-- A sandbox receipt has the hash of its provider event. -/
theorem CreatesReceipt.providerEventIdHash_eq {hashId : RailPreimage H → H}
    {configs : List SandboxRailConfig} {command : TransferCommand} {intent : TransferIntent H}
    {providerEventId : String} {outcome : SettlementOutcome} {finality : SettlementFinality}
    {receipt : SettlementReceipt H}
    (h : CreatesReceipt (sandboxAdapters hashId configs) command intent providerEventId outcome
      finality receipt) :
    receipt.providerEventIdHash = hashId (.sandboxProviderEvent intent.railId providerEventId) := by
  obtain ⟨adapter, id, hadapter, hreceipt⟩ := h
  obtain ⟨config, rfl⟩ := get_sandboxAdapters hadapter
  simp only [sandboxRailAdapter, assertIntentSupported, bind_eq_ok, throwIf_eq_ok,
    not_not] at hreceipt
  obtain ⟨_, ⟨_, hrail, _⟩, hreceipt⟩ := hreceipt
  rcases hquote : intent.quote with _ | quote
  · rw [hquote] at hreceipt
    cases hreceipt
  · rw [hquote] at hreceipt
    rw [hrail]
    exact createSettlementReceipt_eq_ok hreceipt

/-! ## What a call is about to record -/

/-- The intent and the provider event that an event records. -/
def CreditEvent.settles (event : CreditEvent H) : Option (ℕ × H) :=
  match event.payload.body with
  | .receipt receipt => some (event.payload.transferIntentId, receipt.providerEventIdHash)
  | _ => none

/-- The intent and the provider event of a call that has read the receipts. -/
def CallState.settles : CallState H → Option (ℕ × H)
  | .listed _ intent receipt _ => some (intent.transferIntentId, receipt.providerEventIdHash)
  | .appending request => request.event.settles
  | _ => none

/-- An event records the provider event for the intent. -/
def RecordsProviderEvent (store : EventStore H) (id : ℕ) (eventHash : H) : Prop :=
  ∃ event ∈ store.creditEvents, event.settles = some (id, eventHash)

instance [DecidableEq H] (store : EventStore H) (id : ℕ) (eventHash : H) :
    Decidable (RecordsProviderEvent store id eventHash) :=
  inferInstanceAs (Decidable (∃ _ ∈ _, _))

/-- The intent and the provider event for which the call with this index reads the receipts when it
goes on. -/
def readsFor (hashId : RailPreimage H → H) (state : RailState H) (index : ℕ) : Option (ℕ × H) :=
  match state.calls[index]?.map Call.state with
  | some (.loaded command intent) =>
    (providerEventIdHash hashId intent command.action).map fun eventHash ↦
      (intent.transferIntentId, eventHash)
  | _ => none

/-- The call has seen that the provider event is recorded. -/
def CallState.Refused : CallState H → Prop
  | .listed _ _ receipt seen =>
    ∃ candidate ∈ seen, candidate.providerEventIdHash = receipt.providerEventIdHash
  | _ => False

instance [DecidableEq H] : (state : CallState H) → Decidable state.Refused
  | .listed _ _ _ seen => inferInstanceAs (Decidable (∃ _ ∈ seen, _))
  | .prepared _ => inferInstanceAs (Decidable False)
  | .searched _ => inferInstanceAs (Decidable False)
  | .loaded _ _ => inferInstanceAs (Decidable False)
  | .appending _ => inferInstanceAs (Decidable False)
  | .recorded _ => inferInstanceAs (Decidable False)
  | .done _ => inferInstanceAs (Decidable False)

/-- The condition on a step: a call that reads the receipts finds its provider event there, or has
no rival, that is no call on another intent that has read them, has not found the event, and is
about to record it. -/
def NoRival (hashId : RailPreimage H → H) (state : RailState H) : RailInput H → Prop
  | .resume index _ => ∀ reads ∈ readsFor hashId state index,
    (∃ candidate ∈ listSettlementReceipts state.store, candidate.providerEventIdHash = reads.2) ∨
      ∀ other ∈ state.calls, ¬ other.state.Refused →
        ∀ held ∈ other.state.settles, held.2 = reads.2 → held.1 = reads.1
  | _ => True

instance [DecidableEq H] (hashId : RailPreimage H → H) (state : RailState H) :
    (input : RailInput H) → Decidable (NoRival hashId state input)
  | .resume _ _ => inferInstanceAs (Decidable (∀ _ ∈ _, _))
  | .call _ => isTrue trivial
  | .getReplayProof _ => isTrue trivial
  | .resumeReplayProof _ => isTrue trivial
  | .allowProvider _ _ => isTrue trivial
  | .createSpendPolicy _ => isTrue trivial
  | .requestSpend _ => isTrue trivial
  | .settleSpend _ _ => isTrue trivial
  | .mandate _ => isTrue trivial

/-- Provider events settle one intent each, and so do those that calls are about to record. -/
structure SettlesOnce (state : RailState H) : Prop where
  recorded : ∀ id id' eventHash, RecordsProviderEvent state.store id eventHash →
    RecordsProviderEvent state.store id' eventHash → id = id'
  pending : ∀ call ∈ state.calls, ∀ id eventHash, call.state.settles = some (id, eventHash) →
    (∀ id', RecordsProviderEvent state.store id' eventHash → id' = id) ∨ call.state.Refused
  rivals : ∀ call ∈ state.calls, ∀ other ∈ state.calls, ¬ call.state.Refused →
    ¬ other.state.Refused → ∀ id id' eventHash, call.state.settles = some (id, eventHash) →
      other.state.settles = some (id', eventHash) → id = id'

theorem settlesOnce_new : SettlesOnce (RailState.new : RailState H) where
  recorded _ _ _ := by
    rintro ⟨event, hmem, -⟩
    exact absurd hmem List.not_mem_nil
  pending _ hmem := absurd hmem List.not_mem_nil
  rivals _ hmem := absurd hmem List.not_mem_nil

/-- What is read has every recorded receipt in it. -/
theorem mem_listSettlementReceipts {hashId : RailPreimage H → H} {store : EventStore H}
    (hsound : store.Sound hashId) {id : ℕ} {eventHash : H}
    (h : RecordsProviderEvent store id eventHash) :
    ∃ candidate ∈ listSettlementReceipts store, candidate.providerEventIdHash = eventHash := by
  obtain ⟨event, hmem, hsettles⟩ := h
  rw [CreditEvent.settles] at hsettles
  split at hsettles
  case h_2 => cases hsettles
  case h_1 receipt hbody =>
  obtain ⟨-, hhash⟩ := Prod.mk.inj (Option.some.inj hsettles)
  refine ⟨receipt, List.mem_filterMap.2 ⟨event, List.mem_filter.2 ⟨hmem, ?_⟩, ?_⟩, hhash⟩
  · obtain ⟨index, hlt, rfl⟩ := List.getElem_of_mem hmem
    have hlt' := hsound.evidence.length_eq ▸ hlt
    have hof := List.Forall₂.get hsound.evidence hlt hlt'
    rw [List.any_eq_true]
    exact ⟨_, List.getElem_mem hlt', decide_eq_true hof.eventId⟩
  · rw [hbody]

/-! ## Steps -/

section Steps

variable {hashId : RailPreimage H → H} {configs : List SandboxRailConfig}
  {state : RailState H} {store' : EventStore H}

/-- What is recorded after an append was recorded before, or was on its way. -/
theorem recordsProviderEvent_append {store : EventStore H} {request : EventStore.AppendRequest H}
    (hevents : store'.creditEvents = store.creditEvents ++ [request.event]) {id : ℕ}
    {eventHash : H} :
    RecordsProviderEvent store' id eventHash ↔ RecordsProviderEvent store id eventHash ∨
      (CallState.appending request).settles = some (id, eventHash) := by
  simp only [RecordsProviderEvent, hevents, List.mem_append, List.mem_singleton, or_and_right,
    exists_or, exists_eq_left]
  exact Iff.rfl

/-- What a segment does to what its call is about to record. -/
theorem Advances.settles_cases {call next : CallState H}
    (h : Advances (sandboxAdapters hashId configs) hashId state call next store') :
    next.settles = none ∨
    (next.settles = call.settles ∧ store' = state.store ∧ ¬ call.Refused) ∨
    ∃ command intent eventHash, call = .loaded command intent ∧ store' = state.store ∧
      providerEventIdHash hashId intent command.action = some eventHash ∧
      next.settles = some (intent.transferIntentId, eventHash) ∧
      ((∃ candidate ∈ listSettlementReceipts state.store,
        candidate.providerEventIdHash = eventHash) → next.Refused) := by
  cases h with
  | failed => exact .inl rfl
  | prepared => exact .inl rfl
  | loaded => exact .inl rfl
  | @performed command intent request hrequest _ hnot =>
    obtain ⟨actorRef, finality, eventId, hrecords, hallowed⟩ := hrequest
    refine .inl ?_
    generalize command.action = action at hrecords hnot
    cases hrecords with
    | settled providerEventId outcome finality receipt => exact absurd rfl (hnot _ _ _)
    | _ => rfl
  | @listed command intent providerEventId outcome finality receipt haction hcreates =>
    refine .inr (.inr ⟨command, intent, receipt.providerEventIdHash, rfl, rfl, ?_, rfl, fun h ↦ h⟩)
    rw [haction, hcreates.providerEventIdHash_eq]
    rfl
  | settled eventId hunrecorded =>
    refine .inr (.inl ⟨rfl, rfl, ?_⟩)
    rintro ⟨candidate, hmem, heq⟩
    exact hunrecorded candidate hmem heq
  | replayed => exact .inl rfl
  | appended => exact .inl rfl
  | answered => exact .inl rfl
  | done => exact .inl rfl

/-- Recording what a call was about to record keeps provider events apart. -/
theorem SettlesOnce.append (h : SettlesOnce state) {call : Call H} (hmem : call ∈ state.calls)
    {request : EventStore.AppendRequest H} (hcall : call.state = .appending request)
    (hevents : store'.creditEvents = state.store.creditEvents ++ [request.event]) :
    (∀ id id' eventHash, RecordsProviderEvent store' id eventHash →
      RecordsProviderEvent store' id' eventHash → id = id') ∧
    ∀ other ∈ state.calls, ∀ id eventHash, other.state.settles = some (id, eventHash) →
      (∀ id', RecordsProviderEvent store' id' eventHash → id' = id) ∨ other.state.Refused := by
  have hnew : ∀ {id eventHash}, RecordsProviderEvent store' id eventHash →
      RecordsProviderEvent state.store id eventHash ∨
        call.state.settles = some (id, eventHash) := by
    intro id eventHash hrecords
    rw [hcall]
    exact (recordsProviderEvent_append hevents).1 hrecords
  have hnot : ¬ call.state.Refused := by
    rw [hcall]
    exact not_false
  have hpending : ∀ id eventHash, call.state.settles = some (id, eventHash) →
      ∀ id', RecordsProviderEvent state.store id' eventHash → id' = id :=
        fun id eventHash hsettles ↦
    (h.pending call hmem id eventHash hsettles).resolve_right hnot
  constructor
  · intro id id' eventHash hid hid'
    rcases hnew hid with hold | hsettles <;> rcases hnew hid' with hold' | hsettles'
    · exact h.recorded id id' eventHash hold hold'
    · exact hpending id' eventHash hsettles' id hold
    · exact (hpending id eventHash hsettles id' hold').symm
    · exact h.rivals call hmem call hmem hnot hnot id id' eventHash hsettles hsettles'
  · intro other hother id eventHash hsettles
    rw [or_iff_not_imp_right]
    intro hother' id' hid'
    rcases hnew hid' with hold | hsettles'
    · exact (h.pending other hother id eventHash hsettles).resolve_right hother' id' hold
    · exact h.rivals call hmem other hother hnot hother' id' id eventHash hsettles' hsettles

/-- **A segment keeps provider events apart**, if the call has no rival when it reads. -/
theorem SettlesOnce.advance (hsound : state.Sound hashId) (h : SettlesOnce state) {index : ℕ}
    {call : Call H} {next : CallState H} (hget : state.calls[index]? = some call)
    (hadvance : Advances (sandboxAdapters hashId configs) hashId state call.state next store')
    (hrival : ∀ command intent, call.state = .loaded command intent →
      ∀ eventHash, providerEventIdHash hashId intent command.action = some eventHash →
      (∃ candidate ∈ listSettlementReceipts state.store, candidate.providerEventIdHash
        = eventHash) ∨
        ∀ other ∈ state.calls, ¬ other.state.Refused → ∀ id,
          other.state.settles = some (id, eventHash) → id = intent.transferIntentId)
    {state' : RailState H} (hstore : state'.store = store')
    (hcalls : state'.calls = state.calls.set index { call with state := next }) :
    SettlesOnce state' := by
  have hmem := List.mem_of_getElem? hget
  -- what the others hold, and what is recorded, after the segment
  have hothers : (∀ id id' eventHash, RecordsProviderEvent store' id eventHash →
      RecordsProviderEvent store' id' eventHash → id = id') ∧
      ∀ other ∈ state.calls, ∀ id eventHash, other.state.settles = some (id, eventHash) →
        (∀ id', RecordsProviderEvent store' id' eventHash → id' = id) ∨ other.state.Refused := by
    obtain rfl | ⟨request, recordedAt, hcall, -, -, happend⟩ := hadvance.store_cases
    · exact ⟨h.recorded, h.pending⟩
    · exact h.append hmem hcall (appendCreditEvent_ok happend).2.1
  -- what the call itself holds
  have hnext : ∀ id eventHash, next.settles = some (id, eventHash) →
      ((∀ id', RecordsProviderEvent store' id' eventHash → id' = id) ∨ next.Refused) ∧
      (¬ next.Refused → ∀ other ∈ state.calls, ¬ other.state.Refused → ∀ id',
        other.state.settles = some (id', eventHash) → id' = id) := by
    intro id eventHash hsettles
    obtain hnone | ⟨hsame, rfl, hnot⟩ | ⟨command, intent, hash, hcall, rfl, hhash, hnew, hseen⟩ :=
      hadvance.settles_cases
    · rw [hnone] at hsettles
      cases hsettles
    · rw [hsame] at hsettles
      refine ⟨(h.pending call hmem id eventHash hsettles).imp_right fun hrefused ↦
        absurd hrefused hnot, fun _ other hother hnot' id' hsettles' ↦ ?_⟩
      exact h.rivals other hother call hmem hnot' hnot id' id eventHash hsettles' hsettles
    · obtain ⟨rfl, rfl⟩ := Prod.mk.inj (Option.some.inj (hnew.symm.trans hsettles))
      refine ⟨?_, fun hnot ↦ (hrival command intent hcall hash hhash).resolve_left fun hfound ↦
        hnot (hseen hfound)⟩
      by_cases hrecorded : ∃ id', RecordsProviderEvent state.store id' hash
      · obtain ⟨id', hrecorded⟩ := hrecorded
        exact .inr (hseen (mem_listSettlementReceipts hsound.store hrecorded))
      · exact .inl fun id' hid' ↦ absurd ⟨id', hid'⟩ hrecorded
  rw [← hstore] at hothers hnext
  refine ⟨hothers.1, ?_, ?_⟩
  · intro other hother id eventHash hsettles
    rw [hcalls] at hother
    rcases List.mem_or_eq_of_mem_set hother with hother | rfl
    · exact hothers.2 other hother id eventHash hsettles
    · exact (hnext id eventHash hsettles).1
  · intro first hfirst second hsecond hnot hnot' id id' eventHash hid hid'
    rw [hcalls] at hfirst hsecond
    rcases List.mem_or_eq_of_mem_set hfirst with hfirst | rfl <;>
      rcases List.mem_or_eq_of_mem_set hsecond with hsecond | rfl
    · exact h.rivals first hfirst second hsecond hnot hnot' id id' eventHash hid hid'
    · exact (hnext id' eventHash hid').2 hnot' first hfirst hnot id hid
    · exact ((hnext id eventHash hid).2 hnot second hsecond hnot' id' hid').symm
    · exact (Prod.mk.inj (Option.some.inj (hid.symm.trans hid'))).1

/-- A step that touches neither the store nor the calls. -/
theorem SettlesOnce.congr (h : SettlesOnce state) {state' : RailState H}
    (hstore : state'.store = state.store) (hcalls : state'.calls = state.calls) :
    SettlesOnce state' := by
  constructor
  · rw [hstore]
    exact h.recorded
  · rw [hstore, hcalls]
    exact h.pending
  · rw [hcalls]
    exact h.rivals

variable [DecidableEq H] {mandateHashId : MandatePreimage → H}

omit [DecidableEq H] in
/-- A call that begins holds nothing yet. -/
theorem Begins.settles_eq {command : RailCommand H} {commandHash : Option H} {call : CallState H}
    (h : Begins hashId state command commandHash call) : call.settles = none := by
  cases h <;> rfl

omit [DecidableEq H] in
theorem SettlesOnce.call (h : SettlesOnce state) {state' : RailState H} {call : Call H}
    (hnone : call.state.settles = none) (hstore : state'.store = state.store)
    (hcalls : state'.calls = state.calls ++ [call]) : SettlesOnce state' := by
  have hold : ∀ other ∈ state'.calls, ∀ held, other.state.settles = some held →
      other ∈ state.calls := by
    intro other hother held hsettles
    rw [hcalls] at hother
    rcases List.mem_append.1 hother with hother | hother
    · exact hother
    · rw [List.mem_singleton.1 hother, hnone] at hsettles
      cases hsettles
  constructor
  · rw [hstore]
    exact h.recorded
  · intro other hother id eventHash hsettles
    rw [hstore]
    exact h.pending other (hold other hother _ hsettles) id eventHash hsettles
  · intro first hfirst second hsecond hnot hnot' id id' eventHash hid hid'
    exact h.rivals first (hold first hfirst _ hid) second (hold second hsecond _ hid') hnot hnot' id
      id' eventHash hid hid'

/-- **A step without a rival keeps provider events apart.** -/
theorem SettlesOnce.step (hsound : state.Sound hashId) (h : SettlesOnce state)
    {input : RailInput H} (hrival : NoRival hashId state input) :
    SettlesOnce (Rail.step (sandboxAdapters hashId configs) hashId mandateHashId state input) := by
  cases input with
  | call command =>
    obtain ⟨commandHash, next, left, hbegins, hshared, -, hcall⟩ :=
      callCommand_cases (sandboxAdapters hashId configs) hashId state command
    rw [Rail.step, hcall]
    exact h.call hbegins.settles_eq (congrArg Shared.store hshared) rfl
  | resume index recordedAt =>
    obtain hsame | ⟨call, next, left, hget, hadvance, -, hresume⟩ :=
      resumeCall_cases (sandboxAdapters hashId configs) hashId state index recordedAt
    · rw [Rail.step, hsame]
      exact h
    · rw [Rail.step, hresume]
      refine h.advance hsound hget hadvance (fun command intent hcall eventHash hhash ↦ ?_) rfl rfl
      have hreads : readsFor hashId state index = some (intent.transferIntentId, eventHash) := by
        simp only [readsFor, hget, Option.map_some, hcall, hhash]
      exact (hrival _ hreads).imp_right fun hnone other hother hnot id hsettles ↦
        hnone other hother hnot _ hsettles rfl
  | _ =>
    refine h.congr (step_frame _ hashId mandateHashId state ?_ ?_).1
      (step_frame _ hashId mandateHashId state ?_ ?_).2
    all_goals
      intros
      simp

/-! ## What holds of every run -/

/-- The provider's event was recorded for another command. -/
def providerEventConflict : DomainError where
  code := "provider_event_conflict"
  message := "provider event id was already recorded under another command"

/-- A call that has seen its provider event recorded is refused. -/
theorem resume_refused (adapters : InsertionMap String (RailAdapter H)) {index recordedAt : ℕ}
    {call : Call H} (hget : state.calls[index]? = some call) (hrefused : call.state.Refused) :
    (resumeCall adapters hashId state index recordedAt).calls[index]?.map Call.state =
      some (.done (.error providerEventConflict)) := by
  obtain ⟨hlt, -⟩ := List.getElem?_eq_some_iff.1 hget
  rcases hcall : call.state with _ | _ | _ | ⟨command, intent, receipt, seen⟩ | _ | _ | _
  case listed =>
    rw [hcall] at hrefused
    change ∃ candidate ∈ seen, candidate.providerEventIdHash
      = receipt.providerEventIdHash at hrefused
    have hthrow : (resume adapters hashId recordedAt call.state state) =
        (.error providerEventConflict, state) := by
      rw [hcall, resume, settle]
      refine Throwing.bind_apply_error ?_
      rw [Throwing.lift_apply, throwIf, failIf, if_pos hrefused]
      rfl
    simp only [resumeCall, hget, hthrow, List.getElem?_set_self hlt]
    rfl
  all_goals
    rw [hcall] at hrefused
    exact absurd hrefused not_false

/-- What holds of the settlements in a state. -/
structure ProviderEventsSettleOnce (hashId : RailPreimage H → H) (configs : List SandboxRailConfig)
    (mandateHashId : MandatePreimage → H) (state : RailState H) : Prop where
  /-- No provider event is recorded for two intents. -/
  once : ∀ id id' eventHash, RecordsProviderEvent state.store id eventHash →
    RecordsProviderEvent state.store id' eventHash → id = id'
  /-- A call that has lost against another intent is refused when it goes on. -/
  losers : ∀ index call id eventHash, state.calls[index]? = some call →
    call.state.settles = some (id, eventHash) →
    ∀ id', id' ≠ id → RecordsProviderEvent state.store id' eventHash → ∀ recordedAt,
      (step (sandboxAdapters hashId configs) hashId mandateHashId state
        (.resume index recordedAt)).calls[index]?.map Call.state =
          some (.done (.error providerEventConflict))

theorem SettlesOnce.losers (h : SettlesOnce state) :
    ProviderEventsSettleOnce hashId configs mandateHashId state where
  once := h.recorded
  losers index call id eventHash hget hsettles id' hne hrecorded recordedAt := by
    rcases h.pending call (List.mem_of_getElem? hget) id eventHash hsettles with hsame | hrefused
    · exact absurd (hsame id' hrecorded) hne
    · exact resume_refused _ hget hrefused

/-- **A provider event settles one transfer**, in every state of a run in which no call has a rival
when it reads the recorded receipts. -/
theorem provider_event_settles_once (hashId : RailPreimage H → H) (configs : List SandboxRailConfig)
    (mandateHashId : MandatePreimage → H) (inputs : List (RailInput H))
    (hrivals : Run.Steps (step (sandboxAdapters hashId configs) hashId mandateHashId)
      (NoRival hashId) .new inputs) :
    Run.Along (step (sandboxAdapters hashId configs) hashId mandateHashId)
      (ProviderEventsSettleOnce hashId configs mandateHashId) .new inputs := by
  have hstep : ∀ state input, (state.Sound hashId ∧ SettlesOnce state) →
      NoRival hashId state input →
      (step (sandboxAdapters hashId configs) hashId mandateHashId state input).Sound hashId ∧
        SettlesOnce (step (sandboxAdapters hashId configs) hashId mandateHashId state input) :=
    fun state input h hrival ↦ ⟨(step_sound _ mandateHashId h.1 input).1, h.2.step h.1 hrival⟩
  have halong := Run.along_of_steps hstep inputs ⟨sound_new, settlesOnce_new⟩ hrivals
  exact halong.mono fun state h ↦ h.2.losers

end Steps

/-! ## Two runs -/

/-- Two spends, each with an intent that is submitted. -/
def twoSubmitted : List (RailInput ℕ) :=
  demoPolicy ++ [demoSpend "spend" 50, demoSpend "other" 50] ++
    demoCall 0 (demoCreate "spend" "create") ++
    demoCall 1 (.transfer ⟨0, "quote", 1, 0, .quoteTransfer⟩) ++
    demoCall 2 (.transfer ⟨0, "authorize", 2, 0, .authorizeTransfer "principal"⟩) ++
    demoCall 3 (.transfer ⟨0, "submit", 3, 0, .submitTransfer⟩) ++
    demoCall 4 (demoCreate "other" "create other") ++
    demoCall 5 (.transfer ⟨6, "quote other", 1, 0, .quoteTransfer⟩) ++
    demoCall 6 (.transfer ⟨6, "authorize other", 2, 0, .authorizeTransfer "principal"⟩) ++
    demoCall 7 (.transfer ⟨6, "submit other", 3, 0, .submitTransfer⟩)

/-- The command that settles an intent by the one provider event. -/
def demoSettle (transferIntentId : ℕ) (idempotencyKey : String) : RailCommand ℕ :=
  .transfer
    { transferIntentId, idempotencyKey, expectedVersion := 4, now := 0
      action := .simulateSettlement "provider event" .succeeded .finalized }

/-- The second settlement reads the receipts when the first is recorded. -/
def settlementsInTurn : List (RailInput ℕ) :=
  twoSubmitted ++ demoCall 8 (demoSettle 0 "settle") ++ demoCall 9 (demoSettle 6 "settle other")

theorem provider_event_settles_once_inTurn :
    Run.Steps (step (sandboxAdapters demoHashId [demoRail]) demoHashId fun _ ↦ 0)
        (NoRival demoHashId) .new settlementsInTurn ∧
      Run.Along (step (sandboxAdapters demoHashId [demoRail]) demoHashId fun _ ↦ 0)
        (ProviderEventsSettleOnce demoHashId [demoRail] fun _ ↦ 0) .new settlementsInTurn := by
  have hrivals : Run.Steps (step (sandboxAdapters demoHashId [demoRail]) demoHashId fun _ ↦ 0)
      (NoRival demoHashId) .new settlementsInTurn := by
    decide +kernel
  exact ⟨hrivals, provider_event_settles_once _ _ _ _ hrivals⟩

/-- Both settlements read the receipts before either appends. -/
def racingSettlements : List (RailInput ℕ) :=
  twoSubmitted ++
    [.call (demoSettle 0 "settle"), .resume 8 0, .resume 8 0,
      .call (demoSettle 6 "settle other"), .resume 9 0, .resume 9 0,
      .resume 8 0, .resume 8 0, .resume 9 0, .resume 9 0]

/-- One provider event settles two intents. -/
theorem racing_settlements_share_event :
    RecordsProviderEvent (Run.run (step (sandboxAdapters demoHashId [demoRail]) demoHashId
      fun _ ↦ 0)
        .new racingSettlements).store 0 7 ∧
      RecordsProviderEvent (Run.run
        (step (sandboxAdapters demoHashId [demoRail]) demoHashId fun _ ↦ 0)
        .new racingSettlements).store 6 7 := by
  decide +kernel

end Rail
end IpoOne
