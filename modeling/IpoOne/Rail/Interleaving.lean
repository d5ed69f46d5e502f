import IpoOne.Lib.Run
import IpoOne.Rail.Calls

/-!
# Interleaved commands

Any number of calls of the rail service run at once, each resumed any number of times, between
calls of the services it asks.  In every state that is reached the streams replay, and what a call
that waits has read is still a beginning of its stream: this is the invariant `RailState.Sound`.
The repository appends only at the version that the call has read, so that the event continues the
stream.
-/

set_option autoImplicit false

namespace IpoOne
namespace Rail

open Fallible
open Authorization (MandatePreimage)

variable {H : Type}

/-! ## The invariant -/

/-- A store that has grown. -/
def EventStore.Extends (store store' : EventStore H) : Prop :=
  store.creditEvents <+: store'.creditEvents

theorem EventStore.Extends.listEventsOf {store store' : EventStore H} (h : store.Extends store')
    (id : ℕ) : store.listEventsOf id <+: store'.listEventsOf id :=
  List.IsPrefix.filter _ h

/-- The intent is what a beginning of the stream replays to. -/
def HasRead (store : EventStore H) (id : ℕ) (intent : TransferIntent H) : Prop :=
  ∃ past, past <+: store.listEventsOf id ∧ Replays past intent

/-- The event continues a beginning of the stream that is as long as the version it expects. -/
structure Ready (store : EventStore H) (request : EventStore.AppendRequest H) : Prop where
  aggregateId : request.aggregateId = request.event.payload.transferIntentId
  idempotencyKey : request.event.payload.idempotencyKey = request.idempotencyKey
  commandHash : request.event.payload.commandHash = request.commandHash
  continues : ∃ past next, past <+: store.listEventsOf request.aggregateId ∧
    past.length = request.expectedVersion ∧ Replays (past ++ [request.event]) next

/-- An event with this key and this command is recorded. -/
def Recorded (store : EventStore H) (key : String) (commandHash : Option H) : Prop :=
  ∃ event ∈ store.creditEvents,
    event.payload.idempotencyKey = key ∧ commandHash = some event.payload.commandHash

/-- What a call that waits knows, for a command with this key and this hash. -/
def CallState.Sound (hashId : RailPreimage H → H) (store : EventStore H) (key : String)
    (commandHash : Option H) : CallState H → Prop
  | .prepared draft =>
    draft.intent.idempotencyKey = key ∧ commandHash = some draft.commandHash ∧
      draft.intent.version = 1 ∧ draft.intent.status = .created ∧ draft.intent.submission = none
  | .searched command =>
    command.idempotencyKey = key ∧ commandHash = some (hashId (.railCommand command.text))
  | .loaded command intent =>
    command.idempotencyKey = key ∧ commandHash = some (hashId (.railCommand command.text)) ∧
      HasRead store command.transferIntentId intent
  | .listed command intent _ _ =>
    command.idempotencyKey = key ∧ commandHash = some (hashId (.railCommand command.text)) ∧
      HasRead store command.transferIntentId intent
  | .appending request =>
    request.idempotencyKey = key ∧ commandHash = some request.commandHash ∧ Ready store request
  | .recorded _ => Recorded store key commandHash
  | .done (.ok _) => Recorded store key commandHash
  | .done (.error _) => True

/-- **The invariant of the service.** -/
structure RailState.Sound (hashId : RailPreimage H → H) (state : RailState H) : Prop where
  store : state.store.Sound hashId
  calls : ∀ call ∈ state.calls,
    call.state.Sound hashId state.store call.command.idempotencyKey call.commandHash
  /-- A command on an intent is recorded under the hash of its text. -/
  commandHashes : ∀ call ∈ state.calls, ∀ command, call.command = .transfer command →
    call.commandHash = some (hashId (.railCommand command.text))
  replayProofs : ∀ id events, .reading id events ∈ state.replayProofs →
    events <+: state.store.listEventsOf id ∧ (events ≠ [] → ∃ intent, Replays events intent)

variable {hashId : RailPreimage H → H} {store store' : EventStore H}

theorem HasRead.mono {id : ℕ} {intent : TransferIntent H} (hgrow : store.Extends store')
    (h : HasRead store id intent) : HasRead store' id intent := by
  obtain ⟨past, hpast, hreplays⟩ := h
  exact ⟨past, hpast.trans (hgrow.listEventsOf id), hreplays⟩

theorem Ready.mono {request : EventStore.AppendRequest H} (hgrow : store.Extends store')
    (h : Ready store request) : Ready store' request := by
  obtain ⟨past, next, hpast, hlength, hreplays⟩ := h.continues
  exact { h with continues := ⟨past, next, hpast.trans (hgrow.listEventsOf _), hlength, hreplays⟩ }

theorem Recorded.mono {key : String} {commandHash : Option H} (hgrow : store.Extends store')
    (h : Recorded store key commandHash) : Recorded store' key commandHash := by
  obtain ⟨event, hmem, hkey, hhash⟩ := h
  exact ⟨event, hgrow.subset hmem, hkey, hhash⟩

/-- What a call knows stays true while others append. -/
theorem CallState.Sound.mono {key : String} {commandHash : Option H} {call : CallState H}
    (hgrow : store.Extends store') (h : call.Sound hashId store key commandHash) :
    call.Sound hashId store' key commandHash := by
  rcases call with prepared | command | ⟨command, intent⟩ | ⟨command, intent, receipt, recorded⟩ |
    request | transferIntentId | _ | result
  case prepared => exact h
  case searched => exact h
  case loaded => exact ⟨h.1, h.2.1, h.2.2.mono hgrow⟩
  case listed => exact ⟨h.1, h.2.1, h.2.2.mono hgrow⟩
  case appending => exact ⟨h.1, h.2.1, h.2.2.mono hgrow⟩
  case recorded => exact Recorded.mono hgrow h
  case done.error => trivial
  case done.ok => exact Recorded.mono hgrow h

/-! ## Steps of a call -/

/-- A command on an intent does not record that it was created. -/
theorem Records.eventType_ne {action : TransferAction} {body : EventBody H}
    {status : TransferIntentStatus} (h : Records action body status) :
    body.eventType ≠ .transferIntentCreated := by
  cases h <;> exact nofun

/-- The event of a command continues what the command has read. -/
theorem ready_transfer {command : TransferCommand} {intent : TransferIntent H}
    {body : EventBody H} {status : TransferIntentStatus} (actorRef : Option String)
    (finality : Option FinalityStatus) (eventId : ℕ)
    (hread : HasRead store command.transferIntentId intent)
    (htype : body.eventType ≠ .transferIntentCreated)
    (hallowed : status ∈ transferIntentTransitions intent.status) :
    Ready store (appendRequest hashId intent command.idempotencyKey
      (hashId (.railCommand command.text)) actorRef body (some status) finality command.now
      eventId) := by
  obtain ⟨past, hpast, hreplays⟩ := hread
  have hid : intent.transferIntentId = command.transferIntentId :=
    hreplays.transferIntentId_eq fun event hevent ↦ (mem_listEventsOf.1 (hpast.subset hevent)).2
  refine ⟨rfl, rfl, rfl, past, _, ?_, ?_,
    hreplays.appended (applyEvent_eq_ok.2 ⟨?_, status, rfl, hallowed, rfl⟩)⟩
  · rw [← hid] at hpast
    exact hpast
  · simp only [appendRequest, if_neg htype]
    exact hreplays.version_eq.symm
  · simp only [appendRequest, createCreditEvent, if_neg htype]

/-- The first event of an intent is a stream. -/
theorem ready_created {prepared : Prepared H} (hversion : prepared.intent.version = 1)
    (hstatus : prepared.intent.status = .created) (hsubmission : prepared.intent.submission = none)
    (eventId : ℕ) :
    Ready store (appendRequest hashId prepared.intent prepared.intent.idempotencyKey
      prepared.commandHash none (.intent prepared.intent) none none prepared.now eventId) :=
  { aggregateId := rfl
    idempotencyKey := rfl
    commandHash := rfl
    continues := ⟨[], prepared.intent, List.nil_prefix, rfl,
      .created rfl rfl hversion hstatus hsubmission rfl⟩ }

/-- At the version it expects, a request that is ready continues the whole stream. -/
theorem Ready.replays {request : EventStore.AppendRequest H} (hsound : store.Sound hashId)
    (h : Ready store request)
    (hversion : store.getStreamVersion request.aggregateId = request.expectedVersion) :
    ∃ next, Replays
      (store.listEventsOf request.event.payload.transferIntentId ++ [request.event]) next := by
  obtain ⟨past, next, hpast, hlength, hreplays⟩ := h.continues
  rw [getStreamVersion_eq hsound, ← hlength] at hversion
  rw [hpast.eq_of_length hversion.symm, h.aggregateId] at hreplays
  exact ⟨next, hreplays⟩

/-- **One segment of a call** keeps the store sound and lets it grow, and the call goes on to
something it knows. -/
theorem Advances.sound [DecidableEq H] {adapters : InsertionMap String (RailAdapter H)}
    {state : RailState H} {key : String}
    {commandHash : Option H} {call next : CallState H}
    (hadvance : Advances adapters hashId state call next store')
    (hsound : state.store.Sound hashId) (hcall : call.Sound hashId state.store key commandHash) :
    store'.Sound hashId ∧ state.store.Extends store' ∧
      next.Sound hashId store' key commandHash := by
  have hsame : state.store.Extends state.store := List.prefix_refl _
  cases hadvance with
  | failed => exact ⟨hsound, hsame, trivial⟩
  | prepared prepared eventId =>
    obtain ⟨hkey, hhash, hversion, hstatus, hsubmission⟩ := hcall
    exact ⟨hsound, hsame, hkey, hhash, ready_created hversion hstatus hsubmission eventId⟩
  | loaded command hread =>
    have hreplays := (getTransferIntent_eq_ok hsound).1 hread
    exact ⟨hsound, hsame, hcall.1, hcall.2, _, List.prefix_refl _, hreplays⟩
  | performed hrequest =>
    obtain ⟨actorRef, finality, eventId, hrecords, hallowed⟩ := hrequest
    obtain ⟨hkey, hhash, hread⟩ := hcall
    exact ⟨hsound, hsame, hkey, hhash,
      ready_transfer actorRef finality eventId hread hrecords.eventType_ne hallowed⟩
  | listed => exact ⟨hsound, hsame, hcall⟩
  | settled eventId _ hallowed =>
    obtain ⟨hkey, hhash, hread⟩ := hcall
    exact ⟨hsound, hsame, hkey, hhash, ready_transfer none _ eventId hread nofun hallowed⟩
  | replayed hmem hkey hhash =>
    refine ⟨hsound, hsame, _, hmem, hkey.trans hcall.1, ?_⟩
    rw [hcall.2.1, hhash]
  | @appended request _ recordedAt hunused hversion hpayload happend =>
    obtain ⟨hkey, hhash, hready⟩ := hcall
    obtain ⟨next, hreplays⟩ := hready.replays hsound hversion
    obtain ⟨-, hevents, -⟩ := appendCreditEvent_ok happend
    refine ⟨hsound.append happend hreplays hpayload fun recorded hmem heq ↦ ?_, ?_,
      request.event, ?_⟩
    · exact hunused recorded hmem (heq.trans hready.idempotencyKey)
    · rw [EventStore.Extends, hevents]
      exact List.prefix_append _ _
    · rw [hevents]
      refine ⟨List.mem_append_right _ (List.mem_singleton_self _),
        hready.idempotencyKey.trans hkey, ?_⟩
      rw [hhash, hready.commandHash]
  | answered id =>
    refine ⟨hsound, hsame, ?_⟩
    rcases getTransferIntent state.store id with error | intent
    · trivial
    · exact hcall
  | done => exact ⟨hsound, hsame, hcall⟩

theorem Begins.sound {state : RailState H} {command : RailCommand H} {commandHash : Option H}
    {call : CallState H} (h : Begins hashId state command commandHash call) :
    call.Sound hashId state.store command.idempotencyKey commandHash := by
  cases h with
  | failed => trivial
  | replayed _ hmem hkey => exact ⟨_, hmem, hkey, rfl⟩
  | searched command => exact ⟨rfl, rfl⟩
  | prepared input _ _ _ hkey hversion hstatus hsubmission =>
    exact ⟨hkey, rfl, hversion, hstatus, hsubmission⟩

/-! ## Steps of the system -/

section Steps

variable [DecidableEq H] {adapters : InsertionMap String (RailAdapter H)}
  {mandateHashId : MandatePreimage → H}

omit [DecidableEq H] in
/-- What waits stays sound while the store grows. -/
theorem RailState.Sound.grow {state : RailState H} (h : state.Sound hashId)
    (hgrow : state.store.Extends store') :
    (∀ call ∈ state.calls,
      call.state.Sound hashId store' call.command.idempotencyKey call.commandHash) ∧
    ∀ id events, .reading id events ∈ state.replayProofs →
      events <+: store'.listEventsOf id ∧ (events ≠ [] → ∃ intent, Replays events intent) := by
  refine ⟨fun call hcall ↦ (h.calls call hcall).mono hgrow, fun id events hmem ↦ ?_⟩
  obtain ⟨hpre, hreplays⟩ := h.replayProofs id events hmem
  exact ⟨hpre.trans (hgrow.listEventsOf id), hreplays⟩

/-- What a resumed call leaves. -/
theorem resumeCall_cases (adapters : InsertionMap String (RailAdapter H))
    (hashId : RailPreimage H → H) (state : RailState H) (index recordedAt : ℕ) :
    resumeCall adapters hashId state index recordedAt = state ∨
    ∃ (call : Call H) (next : CallState H) (left : RailState H), state.calls[index]? = some call ∧
      Advances adapters hashId state call.state next left.store ∧
      left.shared = { state.shared with store := left.store } ∧
      resumeCall adapters hashId state index recordedAt =
        { left with calls := state.calls.set index { call with state := next } } := by
  rw [resumeCall]
  rcases hcall : state.calls[index]? with _ | call
  · exact .inl rfl
  · obtain ⟨hadvance, hshared⟩ := 
      resume_advances adapters hashId recordedAt call.state state
    refine .inr ⟨call, _, _, rfl, hadvance, hshared, ?_⟩
    have hcalls : (resume adapters hashId recordedAt call.state state).2.calls = state.calls :=
      congrArg Shared.calls hshared
    rw [← hcalls]

theorem callCommand_cases (adapters : InsertionMap String (RailAdapter H))
    (hashId : RailPreimage H → H) (state : RailState H) (command : RailCommand H) :
    ∃ (commandHash : Option H) (next : CallState H) (left : RailState H),
      Begins hashId state command commandHash next ∧
      left.shared = state.shared ∧
      (∀ transfer, command = .transfer transfer →
        commandHash = some (hashId (.railCommand transfer.text))) ∧
      callCommand adapters hashId state command =
        { left with calls := state.calls ++ [{ command, commandHash, state := next }] } := by
  obtain ⟨commandHash, next, left, hbegin, hshared, hbegins, hhash⟩ :=
    begin_begins adapters hashId command state
  refine ⟨commandHash, _, left, hbegins, hshared, hhash, ?_⟩
  have hcalls : left.calls = state.calls := congrArg Shared.calls hshared
  rw [callCommand, hbegin, ← hcalls]

theorem callCommand_sound {state : RailState H} (h : state.Sound hashId) (command : RailCommand H) :
    (callCommand adapters hashId state command).Sound hashId ∧
      state.store.Extends (callCommand adapters hashId state command).store := by
  obtain ⟨commandHash, next, left, hbegins, hshared, hhash, hcall⟩ :=
    callCommand_cases adapters hashId state command
  have hstore : left.store = state.store := congrArg Shared.store hshared
  have hproofs : left.replayProofs = state.replayProofs := congrArg Shared.replayProofs hshared
  rw [hcall]
  refine ⟨⟨?_, ?_, ?_, ?_⟩, ?_⟩
  · show left.store.Sound hashId
    rw [hstore]
    exact h.store
  · intro call hmem
    show call.state.Sound hashId left.store _ _
    rw [hstore]
    rcases List.mem_append.1 hmem with hmem | hmem
    · exact h.calls call hmem
    · rw [List.mem_singleton.1 hmem]
      exact hbegins.sound
  · intro call hmem
    rcases List.mem_append.1 hmem with hmem | hmem
    · exact h.commandHashes call hmem
    · rw [List.mem_singleton.1 hmem]
      exact hhash
  · intro id events hmem
    show events <+: left.store.listEventsOf id ∧ _
    rw [hstore]
    exact h.replayProofs id events (hproofs ▸ hmem)
  · show state.store.Extends left.store
    rw [hstore]
    exact List.prefix_refl _

theorem resumeCall_sound {state : RailState H} (h : state.Sound hashId) (index recordedAt : ℕ) :
    (resumeCall adapters hashId state index recordedAt).Sound hashId ∧
      state.store.Extends (resumeCall adapters hashId state index recordedAt).store := by
  obtain hsame | ⟨call, next, left, hget, hadvance, hshared, hresume⟩ :=
    resumeCall_cases adapters hashId state index recordedAt
  · rw [hsame]
    exact ⟨h, List.prefix_refl _⟩
  · have hmem := List.mem_of_getElem? hget
    obtain ⟨hstore, hgrow, hnext⟩ := hadvance.sound h.store (h.calls call hmem)
    obtain ⟨hcalls, hproofs⟩ := h.grow hgrow
    have hsame : left.replayProofs = state.replayProofs := congrArg Shared.replayProofs hshared
    rw [hresume]
    refine ⟨⟨hstore, ?_, ?_, ?_⟩, hgrow⟩
    · intro other hother
      rcases List.mem_or_eq_of_mem_set hother with hother | rfl
      · exact hcalls other hother
      · exact hnext
    · intro other hother
      rcases List.mem_or_eq_of_mem_set hother with hother | rfl
      · exact h.commandHashes other hother
      · exact h.commandHashes call hmem
    · exact fun id events hmem' ↦ hproofs id events (hsame ▸ hmem')

omit [DecidableEq H] in
theorem callReplayProof_sound {state : RailState H} (h : state.Sound hashId) (id : ℕ) :
    (callReplayProof state id).Sound hashId := by
  refine ⟨h.store, h.calls, h.commandHashes, fun id' events hmem ↦ ?_⟩
  rcases List.mem_append.1 hmem with hmem | hmem
  · exact h.replayProofs id' events hmem
  · obtain ⟨rfl, rfl⟩ := ReplayProofCall.reading.inj (List.mem_singleton.1 hmem)
    rw [eventsForIntent_eq h.store]
    exact ⟨List.prefix_refl _, h.store.replays _⟩

theorem resumeReplayProof_sound {state : RailState H} (h : state.Sound hashId) (index : ℕ) :
    (resumeReplayProof hashId state index).Sound hashId ∧
      (resumeReplayProof hashId state index).store = state.store := by
  rw [resumeReplayProof]
  split
  · refine ⟨⟨h.store, h.calls, h.commandHashes, fun id events hmem ↦ ?_⟩, rfl⟩
    rcases List.mem_or_eq_of_mem_set hmem with hmem | heq
    · exact h.replayProofs id events hmem
    · cases heq
  · exact ⟨h, rfl⟩

omit [DecidableEq H] in
/-- The services that are asked do not touch the rail. -/
theorem runSpend_sound {α : Type} {state : RailState H} (h : state.Sound hashId)
    (x : Throwing DomainError (SpendPolicy.SpendState H) α) : (runSpend state x).Sound hashId :=
  ⟨h.store, h.calls, h.commandHashes, h.replayProofs⟩

/-- **A step keeps the invariant, and lets the store grow.** -/
theorem step_sound (adapters : InsertionMap String (RailAdapter H))
    (mandateHashId : MandatePreimage → H) {state : RailState H} (h : state.Sound hashId)
    (input : RailInput H) :
    (step adapters hashId mandateHashId state input).Sound hashId ∧
      state.store.Extends (step adapters hashId mandateHashId state input).store := by
  have hsame : state.store.Extends state.store := List.prefix_refl _
  cases input with
  | call command => exact callCommand_sound h command
  | resume index recordedAt => exact resumeCall_sound h index recordedAt
  | getReplayProof id => exact ⟨callReplayProof_sound h id, hsame⟩
  | resumeReplayProof index =>
    obtain ⟨hsound, hstore⟩ := resumeReplayProof_sound h index
    refine ⟨hsound, ?_⟩
    show state.store.Extends (resumeReplayProof hashId state index).store
    rw [hstore]
    exact hsame
  | allowProvider =>
    rw [step]
    split
    · exact ⟨runSpend_sound h _, hsame⟩
    · exact ⟨h, hsame⟩
  | createSpendPolicy =>
    rw [step]
    split
    · exact ⟨runSpend_sound h _, hsame⟩
    · exact ⟨h, hsame⟩
  | requestSpend =>
    rw [step]
    split
    · exact ⟨runSpend_sound h _, hsame⟩
    · exact ⟨h, hsame⟩
  | settleSpend => exact ⟨runSpend_sound h _, hsame⟩
  | mandate => exact ⟨⟨h.store, h.calls, h.commandHashes, h.replayProofs⟩, hsame⟩

omit [DecidableEq H] in
theorem sound_new : (RailState.new : RailState H).Sound hashId where
  store := EventStore.sound_new hashId
  calls _ hmem := absurd hmem List.not_mem_nil
  commandHashes _ hmem := absurd hmem List.not_mem_nil
  replayProofs _ _ hmem := absurd hmem List.not_mem_nil

theorem run_sound (inputs : List (RailInput H)) :
    (Run.run (step adapters hashId mandateHashId) .new inputs).Sound hashId := by
  refine Run.run_induct (P := RailState.Sound hashId) (fun state input h ↦ ?_) sound_new inputs
  exact (step_sound adapters mandateHashId h input).1

/-! ## What holds of every run -/

omit [DecidableEq H] in
/-- A segment adds one event to the store, or none. -/
theorem Advances.store_cases {state : RailState H} {call next : CallState H}
    (h : Advances adapters hashId state call next store') :
    store' = state.store ∨ ∃ request recordedAt, call = .appending request ∧
      (∀ recorded ∈ state.store.creditEvents,
        recorded.payload.idempotencyKey ≠ request.idempotencyKey) ∧
      state.store.getStreamVersion request.aggregateId = request.expectedVersion ∧
      state.store.appendCreditEvent hashId request.event recordedAt = .ok store' := by
  cases h with
  | appended recordedAt unused version _ append =>
    exact .inr ⟨_, recordedAt, rfl, unused, version, append⟩
  | _ => exact .inl rfl

/-- Only commands touch the store and the calls. -/
theorem step_frame (adapters : InsertionMap String (RailAdapter H)) (hashId : RailPreimage H → H)
    (mandateHashId : MandatePreimage → H) (state : RailState H) {input : RailInput H}
    (hcall : ∀ command, input ≠ .call command)
    (hresume : ∀ index recordedAt, input ≠ .resume index recordedAt) :
    (step adapters hashId mandateHashId state input).store = state.store ∧
      (step adapters hashId mandateHashId state input).calls = state.calls := by
  cases input with
  | call command => exact absurd rfl (hcall command)
  | resume index recordedAt => exact absurd rfl (hresume index recordedAt)
  | getReplayProof id => exact ⟨rfl, rfl⟩
  | resumeReplayProof index =>
    rw [step, resumeReplayProof]
    split <;> exact ⟨rfl, rfl⟩
  | allowProvider => rw [step]; split <;> exact ⟨rfl, rfl⟩
  | createSpendPolicy => rw [step]; split <;> exact ⟨rfl, rfl⟩
  | requestSpend => rw [step]; split <;> exact ⟨rfl, rfl⟩
  | settleSpend => exact ⟨rfl, rfl⟩
  | mandate => exact ⟨rfl, rfl⟩

theorem step_store (adapters : InsertionMap String (RailAdapter H)) (hashId : RailPreimage H → H)
    (mandateHashId : MandatePreimage → H) (state : RailState H) (input : RailInput H) :
    (step adapters hashId mandateHashId state input).store = state.store ∨
    ∃ event, (step adapters hashId mandateHashId state input).store.creditEvents =
      state.store.creditEvents ++ [event] := by
  cases input with
  | call command =>
    obtain ⟨_, _, left, -, hshared, -, hcall⟩ := callCommand_cases adapters hashId state command
    refine .inl ?_
    rw [step, hcall]
    exact congrArg Shared.store hshared
  | resume index recordedAt =>
    obtain hsame | ⟨_, _, left, -, hadvance, -, hresume⟩ :=
      resumeCall_cases adapters hashId state index recordedAt
    · exact .inl (by rw [step, hsame])
    · rw [step, hresume]
      obtain hsame | ⟨request, _, -, -, -, happend⟩ := hadvance.store_cases
      · exact .inl hsame
      · exact .inr ⟨request.event, (appendCreditEvent_ok happend).2.1⟩
  | _ =>
    exact .inl (step_frame adapters hashId mandateHashId state (fun _ h ↦ by cases h)
      (fun _ _ h ↦ by cases h)).1

omit [DecidableEq H] in
/-- One more event leaves an intent as it is, or moves its status along the transitions; a new
intent is created. -/
theorem status_of_append (hsound : store.Sound hashId) (hsound' : store'.Sound hashId)
    {event : CreditEvent H} (hevents : store'.creditEvents = store.creditEvents ++ [event])
    (id : ℕ) :
    (∀ intent, getTransferIntent store id = .ok intent →
      ∃ next, getTransferIntent store' id = .ok next ∧
        (next = intent ∨ next.status ∈ transferIntentTransitions intent.status)) ∧
    (store.listEventsOf id = [] → ∀ next, getTransferIntent store' id = .ok next →
      next.status = .created) := by
  simp only [getTransferIntent_eq_ok hsound, getTransferIntent_eq_ok hsound']
  have hstream := listEventsOf_append hevents id
  by_cases hid : event.payload.transferIntentId = id
  · rw [if_pos hid] at hstream
    constructor
    · intro intent hreplays
      obtain ⟨next, hnext⟩ := hsound'.replays id (by simp [hstream])
      refine ⟨next, hnext, .inr ?_⟩
      rw [hstream] at hnext
      obtain ⟨hempty, -⟩ | ⟨intent', hreplays', happlied⟩ := hnext.append_cases
      · exact absurd hempty hreplays.ne_nil
      · obtain ⟨-, status, -, hallowed, rfl⟩ := applyEvent_eq_ok.1 happlied
        rw [hreplays.unique hreplays']
        exact hallowed
    · intro hempty next hnext
      rw [hstream] at hnext
      obtain ⟨-, -, hstatus, -⟩ | ⟨intent', hreplays', -⟩ := hnext.append_cases
      · exact hstatus
      · exact absurd hempty hreplays'.ne_nil
  · rw [if_neg hid] at hstream
    rw [hstream]
    exact ⟨fun intent h ↦ ⟨intent, h, .inl rfl⟩, fun hempty next hnext ↦ absurd hempty hnext.ne_nil⟩

theorem step_status {state : RailState H} (h : state.Sound hashId) (input : RailInput H) (id : ℕ) :
    (∀ intent, getTransferIntent state.store id = .ok intent →
      ∃ next, getTransferIntent (step adapters hashId mandateHashId state input).store id
        = .ok next ∧
        (next = intent ∨ next.status ∈ transferIntentTransitions intent.status)) ∧
    (state.store.listEventsOf id = [] → ∀ next,
      getTransferIntent (step adapters hashId mandateHashId state input).store id = .ok next →
        next.status = .created) := by
  have hnext := (step_sound adapters mandateHashId h input).1.store
  obtain hsame | ⟨event, hevents⟩ := step_store adapters hashId mandateHashId state input
  · rw [hsame]
    refine ⟨fun intent hread ↦ ⟨intent, hread, .inl rfl⟩, fun hempty next hread ↦ ?_⟩
    exact absurd hempty ((getTransferIntent_eq_ok h.store).1 hread).ne_nil
  · exact status_of_append h.store hnext hevents id

omit [DecidableEq H] in
/-- A call that has its answer is recorded: reuse of its key with another command is refused. -/
theorem RailState.Sound.conflict_refused {state : RailState H} (h : state.Sound hashId)
    {call : Call H} (hcall : call ∈ state.calls) {event : CreditEvent H}
    (hevent : event ∈ state.store.creditEvents)
    (hkey : event.payload.idempotencyKey = call.command.idempotencyKey)
    (hhash : call.commandHash ≠ some event.payload.commandHash)
    {result : Domain (TransferIntent H)} (hdone : call.state = .done result) :
    ∃ error, result = .error error := by
  rcases result with error | intent
  · exact ⟨error, rfl⟩
  · have hsound := h.calls call hcall
    rw [hdone] at hsound
    obtain ⟨recorded, hrecorded, hkey', hhash'⟩ := hsound
    have hsame := List.inj_on_of_nodup_map h.store.keys hrecorded hevent (hkey'.trans hkey.symm)
    rw [hsame] at hhash'
    exact absurd hhash' hhash

/-- A replay proof that reads the evidence is replayable if the stream is what it was when the
events were read. -/
theorem RailState.Sound.replayProof_step {state : RailState H} (h : state.Sound hashId)
    {index id : ℕ}
    {events : List (CreditEvent H)}
    (hreading : state.replayProofs[index]? = some (.reading id events))
    (hevents : events ≠ []) :
    ∃ proof,
      (step adapters hashId mandateHashId state (.resumeReplayProof index)).replayProofs[index]? =
        some (.done (.ok proof)) ∧
      (proof.replayable = true ↔ eventsForIntent state.store id = events) := by
  obtain ⟨hpre, hreplays⟩ := h.replayProofs id events (List.mem_of_getElem? hreading)
  obtain ⟨intent, hreplays⟩ := hreplays hevents
  obtain ⟨hlt, -⟩ := List.getElem?_eq_some_iff.1 hreading
  have hok : ∃ proof, replayProof hashId id events (state.store.listEvidence id) = .ok proof := by
    simp only [replayProof, hreplays.reduce_eq, bind_eq_ok, pure_eq_ok]
    exact ⟨_, _, rfl, rfl⟩
  obtain ⟨proof, hproof⟩ := hok
  refine ⟨proof, ?_, ?_, ?_⟩
  · simp only [step, resumeReplayProof, hreading, List.getElem?_set_self hlt, hproof]
  · intro hreplayable
    have hlength := length_eq_of_replayable hproof hreplayable
    rw [← (forall₂_listEvidence h.store id).length_eq] at hlength
    rw [eventsForIntent_eq h.store]
    exact (hpre.eq_of_length hlength).symm
  · intro hsame
    rw [eventsForIntent_eq h.store] at hsame
    subst hsame
    rw [replayProof_eq h.store hreplays] at hproof
    rw [← Except.ok.inj hproof]

/-- What the service guarantees of its streams, in a state and for the step after it. -/
structure StreamsWellFormed (adapters : InsertionMap String (RailAdapter H))
    (hashId : RailPreimage H → H) (mandateHashId : MandatePreimage → H) (state : RailState H) :
    Prop where
  /-- The versions of a stream are `1, 2, …`. -/
  contiguous : ∀ id, (eventsForIntent state.store id).map
    (fun event ↦ event.payload.intentVersion) =
    List.range' 1 (eventsForIntent state.store id).length
  /-- Replaying a stream does not throw. -/
  replays : ∀ id, eventsForIntent state.store id ≠ [] →
    ∃ intent, reduce (eventsForIntent state.store id) = .ok intent
  /-- The status of an intent moves along the transitions only. -/
  moves : ∀ input id intent, getTransferIntent state.store id = .ok intent →
    ∃ next, getTransferIntent (step adapters hashId mandateHashId state input).store id = .ok next ∧
      (next = intent ∨ next.status ∈ transferIntentTransitions intent.status)
  starts : ∀ input id, eventsForIntent state.store id = [] → ∀ next,
    getTransferIntent (step adapters hashId mandateHashId state input).store id = .ok next →
      next.status = .created
  /-- Each key is recorded by one event at most. -/
  keys : (state.store.creditEvents.map fun event ↦ event.payload.idempotencyKey).Nodup
  commandHashes : ∀ call ∈ state.calls, ∀ command, call.command = .transfer command →
    call.commandHash = some (hashId (.railCommand command.text))
  /-- No call that uses the key of an event for another command is answered. -/
  conflicts : ∀ call ∈ state.calls, ∀ event ∈ state.store.creditEvents,
    event.payload.idempotencyKey = call.command.idempotencyKey →
    call.commandHash ≠ some event.payload.commandHash →
    ∀ result, call.state = .done result → ∃ error, result = .error error
  /-- `getReplayProof` reports a stream as replayable unless it has changed between its reads. -/
  replayProofs : ∀ index id events, state.replayProofs[index]? = some (.reading id events) →
    events ≠ [] → ∃ proof,
      (step adapters hashId mandateHashId state (.resumeReplayProof index)).replayProofs[index]? =
        some (.done (.ok proof)) ∧
      (proof.replayable = true ↔ eventsForIntent state.store id = events)

/-- **Streams are well formed** in every state that any interleaving of calls leads to. -/
theorem streams_well_formed (adapters : InsertionMap String (RailAdapter H))
    (hashId : RailPreimage H → H) (mandateHashId : MandatePreimage → H)
    (inputs : List (RailInput H)) :
    StreamsWellFormed adapters hashId mandateHashId
      (Run.run (step adapters hashId mandateHashId) .new inputs) := by
  have hsound : (Run.run (step adapters hashId mandateHashId) .new inputs).Sound hashId :=
    run_sound inputs
  generalize Run.run (step adapters hashId mandateHashId) .new inputs = state at hsound ⊢
  constructor
  case contiguous =>
    intro id
    rw [eventsForIntent_eq hsound.store]
    by_cases hempty : state.store.listEventsOf id = []
    · rw [hempty]
      rfl
    · obtain ⟨intent, hreplays⟩ := hsound.store.replays id hempty
      exact hreplays.versions_eq
  case replays =>
    intro id hne
    rw [eventsForIntent_eq hsound.store] at hne ⊢
    obtain ⟨intent, hreplays⟩ := hsound.store.replays id hne
    exact ⟨intent, hreplays.reduce_eq⟩
  case moves => exact fun input id ↦ (step_status hsound input id).1
  case starts =>
    intro input id hempty
    rw [eventsForIntent_eq hsound.store] at hempty
    exact (step_status hsound input id).2 hempty
  case keys => exact hsound.store.keys
  case commandHashes => exact hsound.commandHashes
  case conflicts =>
    exact fun call hcall event hevent hkey hhash result hdone ↦
      hsound.conflict_refused hcall hevent hkey hhash hdone
  case replayProofs => exact fun index id events hreading hne ↦ hsound.replayProof_step hreading hne

end Steps

/-! ## A run -/

/-- A hash that tells the commands apart. -/
def demoHashId : RailPreimage ℕ → ℕ
  | .account _ => 1
  | .railCommand (.create _) => 2
  | .railCommand (.quote _) => 3
  | .railCommand (.authorize _ _) => 4
  | .railCommand (.submit _) => 5
  | .railCommand (.settlementReceipt _ _ _ _) => 6
  | .sandboxProviderEvent _ _ => 7
  | _ => 0

/-- The one rail of the demo, without a fee. -/
def demoRail : SandboxRailConfig where
  railId := "rail_ipo_one_sandbox"
  directions := [.native]
  sourceAssets := [⟨"usd", 2⟩]
  destinationAssets := [⟨"usd", 2⟩]
  rates := []
  feeBps := 0
  quoteTtlMs := 300000

/-- Its adapter. -/
def demoAdapters : InsertionMap String (RailAdapter ℕ) :=
  .set .empty demoRail.railId (sandboxRailAdapter demoHashId demoRail)

/-- A step of the demo's service. -/
def demoStep : RailState ℕ → RailInput ℕ → RailState ℕ :=
  step demoAdapters demoHashId fun _ ↦ 0

/-- A provider, a policy and a mandate. -/
def demoPolicy : List (RailInput ℕ) :=
  [.allowProvider "provider" "eip155:8453:0x3333333333333333333333333333333333333333",
    .createSpendPolicy
      { spendPolicyId := "policy", subjectId := "subject", providerId := "provider"
        assetId := "usd", perTxLimitMinor := 100, dailyLimitMinor := 100
        obligationCapMinor := 100, category := none, now := 0 },
    .mandate (.createMandate
      { principalId := "principal", subjectId := "subject", capabilities := [.providerSpend]
        allowedProviderIds := some ["provider"], allowedCategories := some ["model_api"]
        assetIds := ["usd"], perActionLimitMinor := 100, aggregateLimitMinor := 100
        validFrom := none, expiresAt := none, nonce := "nonce", termsRef := "terms", now := 0 }),
    .mandate (.activateMandate 0 none 0)]

/-- A request to spend under that policy. -/
def demoSpend (spendRequestId : String) (amountMinor : ℤ) : RailInput ℕ :=
  .requestSpend
    { spendRequestId, mandateId := 0, subjectId := "subject", providerId := "provider"
      spendPolicyId := "policy", assetId := "usd", amountMinor, purposeCode := "model_api"
      creditAvailableMinor := 100, now := 0, authorizedAt := 0, reservedAt := 0 }

/-- An intent for the spend. -/
def demoCreate (spendRequestId idempotencyKey : String) : RailCommand ℕ :=
  .createProviderSpendIntent
    { spendRequestId, railId := none, direction := none, sourceAccountRefHash := 0
      destinationAsset := none, scale := none, idempotencyKey, now := 0 }

/-- A command that is called and runs to its end, as the call with this index. -/
def demoCall (index : ℕ) (command : RailCommand ℕ) : List (RailInput ℕ) :=
  .call command :: List.replicate 4 (.resume index 0)

/-- An intent is quoted between the two reads of a replay proof. -/
def tornReplayProof : List (RailInput ℕ) :=
  demoPolicy ++ [demoSpend "spend" 100] ++ demoCall 0 (demoCreate "spend" "create") ++
    [.getReplayProof 0] ++ demoCall 1 (.transfer ⟨0, "quote", 1, 0, .quoteTransfer⟩) ++
    [.resumeReplayProof 0]

/-- The proof counts one event and two envelopes, and says that the stream is not replayable. -/
theorem torn_replay_proof_not_replayable :
    ∃ proof, (Run.run demoStep .new tornReplayProof).replayProofs[0]? = some (.done (.ok proof)) ∧
      proof.eventCount = 1 ∧ proof.evidenceEnvelopeCount = 2 ∧ proof.replayable = false :=
  ⟨_, rfl, rfl, rfl, rfl⟩

end Rail
end IpoOne
