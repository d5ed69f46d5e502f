import IpoOne.Rail.Interleaving
import IpoOne.SpendPolicy.Reserved

/-!
# One transfer for one spend

A spend is charged once, when it is approved.  The transfer is made later, by an intent that refers
to the spend request: `createProviderSpendIntent` makes an intent for any approved request, whether
it has one already or not, and `submitTransfer` asks only whether the request is still approved.  So
two intents for one request can both be submitted.

`spend_transferred_once` is about the runs in which a new intent is recorded only when the intents
that its request already has are retired, that is ended without a submission.
-/

set_option autoImplicit false

namespace IpoOne
namespace Rail

open Fallible
open Authorization (MandatePreimage)
open SpendPolicy (SpendBook SpendState)

variable {H : Type}

/-! ## Submissions of a stream -/

/-- The event is a submission. -/
def CreditEvent.isSubmission (event : CreditEvent H) : Bool :=
  event.eventType = .transferSubmitted

/-- An event is a submission if and only if it leads to the status of one. -/
def Typed (event : CreditEvent H) : Prop :=
  event.isSubmission = true ↔ event.payload.resultingStatus = some .submitted

/-- A status from which an intent can still be submitted. -/
def TransferIntentStatus.beforeSubmission : TransferIntentStatus → Bool
  | .created => true
  | .quoted => true
  | .authorized => true
  | _ => false

theorem beforeSubmission_of_transition {status next : TransferIntentStatus}
    (h : next ∈ transferIntentTransitions status) (hnext : next.beforeSubmission = true) :
    status.beforeSubmission = true := by
  revert h hnext
  cases status <;> cases next <;> decide

theorem beforeSubmission_of_submitted {status : TransferIntentStatus}
    (h : .submitted ∈ transferIntentTransitions status) : status.beforeSubmission = true := by
  revert h
  cases status <;> decide

theorem applyBody_submission {intent : TransferIntent H} {event : CreditEvent H}
    (h : event.isSubmission = false) :
    (applyBody intent event.payload.body).submission = intent.submission := by
  rw [CreditEvent.isSubmission, CreditEvent.eventType] at h
  rcases hbody : event.payload.body with _ | _ | _ | submission | _ | _
  case submission => simp [hbody, EventBody.eventType] at h
  all_goals rfl

theorem applyBody_isSubmission {intent : TransferIntent H} {event : CreditEvent H}
    (h : event.isSubmission = true) :
    (applyBody intent event.payload.body).submission ≠ none := by
  rw [CreditEvent.isSubmission, CreditEvent.eventType] at h
  rcases hbody : event.payload.body with _ | _ | _ | submission | _ | _
  case submission => exact Option.some_ne_none submission
  all_goals simp [hbody, EventBody.eventType] at h

/-- **An intent is submitted once at most**, and its submission says whether it was. -/
theorem Replays.submissions {events : List (CreditEvent H)} {intent : TransferIntent H}
    (h : Replays events intent) (htyped : ∀ event ∈ events, Typed event) :
    (events.countP CreditEvent.isSubmission = 0 ∧ intent.submission = none) ∨
    (events.countP CreditEvent.isSubmission = 1 ∧ intent.submission ≠ none ∧
      intent.status.beforeSubmission = false) := by
  induction h with
  | @created first intent body version _ status submission =>
    refine .inl ⟨?_, submission⟩
    have hnot : first.isSubmission = false := by
      simp [CreditEvent.isSubmission, CreditEvent.eventType, body, EventBody.eventType]
    simp [hnot]
  | @appended events event intent next replays applied ih =>
    obtain ⟨-, status, hstatus, hallowed, rfl⟩ := applyEvent_eq_ok.1 applied
    have hevent := htyped event (List.mem_append_right _ (List.mem_singleton_self _))
    rw [List.countP_append, List.countP_singleton]
    rcases ih fun event' hmem ↦ htyped event' (List.mem_append_left _ hmem) with
      ⟨hcount, hnone⟩ | ⟨hcount, hsome, hafter⟩
    · by_cases hsubmission : event.isSubmission = true
      · refine .inr ⟨by rw [hcount, if_pos hsubmission], applyBody_isSubmission hsubmission, ?_⟩
        rw [hevent.1 hsubmission] at hstatus
        obtain rfl := Option.some.inj hstatus
        rfl
      · rw [Bool.not_eq_true] at hsubmission
        refine .inl ⟨by rw [hcount, hsubmission]; rfl, ?_⟩
        exact (applyBody_submission hsubmission).trans hnone
    · by_cases hsubmission : event.isSubmission = true
      · rw [hevent.1 hsubmission] at hstatus
        obtain rfl := Option.some.inj hstatus
        rw [beforeSubmission_of_submitted hallowed] at hafter
        cases hafter
      · rw [Bool.not_eq_true] at hsubmission
        refine .inr ⟨by rw [hcount, hsubmission]; rfl, ?_, ?_⟩
        · show (applyBody intent event.payload.body).submission ≠ none
          rw [applyBody_submission hsubmission]
          exact hsome
        · by_contra hbefore
          rw [Bool.not_eq_false] at hbefore
          rw [beforeSubmission_of_transition hallowed hbefore] at hafter
          cases hafter

/-! ## The invariant -/

/-- An intent that has ended without a submission. -/
def Retired (intent : TransferIntent H) : Prop :=
  transferIntentTransitions intent.status = [] ∧ intent.submission = none

instance (intent : TransferIntent H) : Decidable (Retired intent) :=
  inferInstanceAs (Decidable (_ ∧ _))

/-- The spend request of the intent was approved, for the amount of the intent. -/
def Approved (book : SpendBook H) (intent : TransferIntent H) : Prop :=
  ∃ request, book.spendRequests.get intent.policyDecisionRef = some request ∧
    request.amountMinor = intent.sourceMoney.amountMinor ∧
    (request.status = .approved ∨ request.status = .settled)

/-- An event that creates an intent is about an approved spend. -/
def Charged (book : SpendBook H) (event : CreditEvent H) : Prop :=
  ∀ intent, event.payload.body = .intent intent → Approved book intent

/-- What a call that waits knows of its spend request. -/
def CallState.Charged (book : SpendBook H) : CallState H → Prop
  | .prepared draft => draft.spendRequest.status = .approved → Approved book draft.intent
  | .appending request => Typed request.event ∧ Rail.Charged book request.event
  | _ => True

/-- **The invariant of spends.** -/
structure Spent (state : RailState H) : Prop where
  book : state.spend.book.Reserved
  events : ∀ event ∈ state.store.creditEvents, Typed event ∧ Charged state.spend.book event
  calls : ∀ call ∈ state.calls, call.state.Charged state.spend.book
  /-- Of two intents for one request at least one is retired. -/
  single : ∀ id id' intent intent', id ≠ id' → Replays (state.store.listEventsOf id) intent →
    Replays (state.store.listEventsOf id') intent' →
    intent.policyDecisionRef = intent'.policyDecisionRef → Retired intent ∨ Retired intent'

theorem spent_new : Spent (RailState.new : RailState H) where
  book := SpendBook.reserved_new
  events _ hmem := absurd hmem List.not_mem_nil
  calls _ hmem := absurd hmem List.not_mem_nil
  single _ _ _ _ _ hreplays := absurd rfl hreplays.ne_nil

/-- The key and the spend request of an intent that a call is about to record as created. -/
def CallState.creates : CallState H → Option (String × String)
  | .appending request =>
    match request.event.payload.body with
    | .intent created => some (request.idempotencyKey, created.policyDecisionRef)
    | _ => none
  | _ => none

/-- The condition on a step: an intent is recorded as created, under a new key, only when the
intents that its spend request has are retired. -/
def ReplacesRetired (state : RailState H) : RailInput H → Prop
  | .resume index _ => ∀ call ∈ state.calls[index]?, ∀ created ∈ call.state.creates,
    (∀ event ∈ state.store.creditEvents, event.payload.idempotencyKey ≠ created.1) →
    ∀ event ∈ state.store.creditEvents,
    ∀ intent ∈ (getTransferIntent state.store event.payload.transferIntentId).toOption,
      intent.policyDecisionRef = created.2 → Retired intent
  | _ => True

instance (state : RailState H) : (input : RailInput H) → Decidable (ReplacesRetired state input)
  | .resume _ _ => inferInstanceAs (Decidable (∀ _ ∈ _, _))
  | .call _ => isTrue trivial
  | .getReplayProof _ => isTrue trivial
  | .resumeReplayProof _ => isTrue trivial
  | .allowProvider _ _ => isTrue trivial
  | .createSpendPolicy _ => isTrue trivial
  | .requestSpend _ => isTrue trivial
  | .settleSpend _ _ => isTrue trivial
  | .mandate _ => isTrue trivial

theorem Approved.follows {book next : SpendBook H} {intent : TransferIntent H}
    (hfollows : book.Follows next) (h : Approved book intent) : Approved next intent := by
  obtain ⟨request, hget, hamount, hstatus⟩ := h
  obtain ⟨request', hget', hamount', happroved, hsettled⟩ :=
    hfollows intent.policyDecisionRef request hget
  exact ⟨request', hget', hamount'.trans hamount,
    hstatus.elim happroved fun hstatus ↦ .inr (hsettled hstatus)⟩

theorem CallState.Charged.follows {book next : SpendBook H} {call : CallState H}
    (hfollows : book.Follows next) (h : call.Charged book) : call.Charged next := by
  rcases call with draft | _ | _ | _ | request | _ | _
  case prepared => exact fun hstatus ↦ Approved.follows hfollows (h hstatus)
  case appending => exact ⟨h.1, fun intent hbody ↦ Approved.follows hfollows (h.2 intent hbody)⟩
  all_goals trivial

/-- What the services that are asked do keeps the invariant. -/
theorem Spent.follow {state state' : RailState H} (h : Spent state)
    (hstore : state'.store = state.store) (hcalls : state'.calls = state.calls)
    (hbook : state'.spend.book.Reserved) (hfollows : state.spend.book.Follows state'.spend.book) :
    Spent state' := by
  refine ⟨hbook, ?_, ?_, ?_⟩
  · rw [hstore]
    intro event hmem
    obtain ⟨htyped, hcharged⟩ := h.events event hmem
    exact ⟨htyped, fun intent hbody ↦ Approved.follows hfollows (hcharged intent hbody)⟩
  · rw [hcalls]
    exact fun call hmem ↦ CallState.Charged.follows hfollows (h.calls call hmem)
  · rw [hstore]
    exact h.single

/-! ## Steps -/

section Steps

variable {adapters : InsertionMap String (RailAdapter H)} {hashId : RailPreimage H → H}
  {state : RailState H} {store' : EventStore H}

theorem statusForReceipt_ne_submitted (receipt : SettlementReceipt H) :
    statusForReceipt receipt ≠ .submitted := by
  rw [statusForReceipt]
  split
  · decide
  · decide
  · split <;> decide

/-- A command on an intent records a submission if and only if it leads to the status of one. -/
theorem Records.typed {action : TransferAction} {body : EventBody H} {status : TransferIntentStatus}
    (h : Records action body status) :
    (body.eventType = .transferSubmitted ↔ status = .submitted) ∧
      ∀ intent, body ≠ .intent intent := by
  cases h with
  | settled _ _ _ receipt =>
    simp [EventBody.eventType, statusForReceipt_ne_submitted receipt]
  | _ => simp [EventBody.eventType]

/-- The request of a command on an intent is no charge. -/
theorem charged_transfer {book : SpendBook H} {intent : TransferIntent H} {key : String}
    {commandHash : H} {actorRef : Option String} {body : EventBody H}
    {status : TransferIntentStatus} {finality : Option FinalityStatus} {now eventId : ℕ}
    (htyped : body.eventType = .transferSubmitted ↔ status = .submitted)
    (hbody : ∀ created, body ≠ .intent created) :
    (CallState.appending (appendRequest hashId intent key commandHash actorRef body (some status)
      finality now eventId)).Charged book := by
  refine ⟨?_, fun created hcreated ↦ absurd hcreated (hbody created)⟩
  rw [Typed, CreditEvent.isSubmission, decide_eq_true_eq]
  exact htyped.trans Option.some_inj.symm

/-- A segment goes on with what it knows of its spend request. -/
theorem Advances.charged {call next : CallState H} {book : SpendBook H}
    (h : Advances adapters hashId state call next store') (hcall : call.Charged book) :
    next.Charged book := by
  cases h with
  | prepared prepared eventId approved =>
    refine ⟨?_, ?_⟩
    · simp [Typed, CreditEvent.isSubmission, CreditEvent.eventType, appendRequest,
        createCreditEvent, EventBody.eventType]
    · rintro intent hbody
      obtain rfl := EventBody.intent.inj hbody
      exact hcall approved
  | performed hrequest =>
    obtain ⟨actorRef, finality, eventId, hrecords, hallowed⟩ := hrequest
    exact charged_transfer hrecords.typed.1 hrecords.typed.2
  | @settled command intent receipt recorded eventId =>
    refine charged_transfer ?_ (by simp)
    simp [EventBody.eventType, statusForReceipt_ne_submitted receipt]
  | _ => trivial

/-- **Recording an event keeps one live intent for each request.** -/
theorem Spent.append (hsound : state.Sound hashId) (h : Spent state)
    {request : EventStore.AppendRequest H} {next : TransferIntent H}
    (hevents : store'.creditEvents = state.store.creditEvents ++ [request.event])
    (hreplays : Replays (state.store.listEventsOf request.event.payload.transferIntentId ++
      [request.event]) next)
    (hretired : ∀ created, request.event.payload.body = .intent created →
      ∀ event ∈ state.store.creditEvents, ∀ intent,
        getTransferIntent state.store event.payload.transferIntentId = .ok intent →
        intent.policyDecisionRef = created.policyDecisionRef → Retired intent) :
    ∀ id id' intent intent', id ≠ id' → Replays (store'.listEventsOf id) intent →
      Replays (store'.listEventsOf id') intent' →
      intent.policyDecisionRef = intent'.policyDecisionRef → Retired intent ∨ Retired intent' := by
  -- the other intent is an old one
  have hother : ∀ id intent, request.event.payload.transferIntentId ≠ id →
      Replays (state.store.listEventsOf id) intent →
      next.policyDecisionRef = intent.policyDecisionRef → Retired intent := by
    intro id intent hne hintent href
    obtain ⟨-, hbody, -, -⟩ | ⟨old, hold, happlied⟩ := hreplays.append_cases
    · obtain ⟨event, hevent⟩ := List.exists_mem_of_ne_nil _ hintent.ne_nil
      obtain ⟨hmem, hid⟩ := mem_listEventsOf.1 hevent
      refine hretired next hbody event hmem intent ?_ href.symm
      rw [hid]
      exact (getTransferIntent_eq_ok hsound.store).2 hintent
    · obtain ⟨-, status, -, hallowed, rfl⟩ := applyEvent_eq_ok.1 happlied
      have href' : old.policyDecisionRef = intent.policyDecisionRef :=
        (congrArg TransferRequest.policyDecisionRef
          (applyBody_toTransferRequest old request.event.payload.body)).symm.trans href
      refine (h.single _ id old intent hne hold hintent href').resolve_left fun hdead ↦ ?_
      rw [hdead.1] at hallowed
      exact absurd hallowed List.not_mem_nil
  intro id id' intent intent' hne hintent hintent' href
  rw [listEventsOf_append hevents] at hintent hintent'
  by_cases hid : request.event.payload.transferIntentId = id
  · subst hid
    rw [if_pos rfl] at hintent
    rw [if_neg hne] at hintent'
    rw [hintent.unique hreplays] at href ⊢
    exact .inr (hother id' intent' hne hintent' href)
  · rw [if_neg hid] at hintent
    by_cases hid' : request.event.payload.transferIntentId = id'
    · subst hid'
      rw [if_pos rfl] at hintent'
      rw [hintent'.unique hreplays] at href ⊢
      exact .inl (hother id intent hid hintent href.symm)
    · rw [if_neg hid'] at hintent'
      exact h.single id id' intent intent' hne hintent hintent' href

/-- A call that begins has read its spend request. -/
theorem Begins.charged (hbook : state.spend.book.Reserved) {command : RailCommand H}
    {commandHash : Option H} {call : CallState H}
    (h : Begins hashId state command commandHash call) : call.Charged state.spend.book := by
  cases h with
  | prepared input spendRequest policyDecisionRef amountMinor =>
    intro hstatus
    have hid := hbook.id_eq _ _ spendRequest
    refine ⟨_, ?_, amountMinor.symm, .inl hstatus⟩
    rw [policyDecisionRef, hid]
    exact spendRequest
  | _ => trivial

variable [DecidableEq H] {mandateHashId : MandatePreimage → H}

omit [DecidableEq H] in
/-- The book of spends is shared. -/
theorem book_eq_of_shared {left : RailState H} (hrequests : left.shared.spendRequests =
    state.shared.spendRequests) (hreservations : left.shared.reservations =
    state.shared.reservations) : left.spend.book = state.spend.book := by
  rw [SpendState.book, SpendState.book]
  exact congrArg₂ SpendBook.mk hrequests hreservations

theorem Spent.resume (hsound : state.Sound hashId) (h : Spent state) (index recordedAt : ℕ)
    (hretired : ReplacesRetired state (.resume index recordedAt)) :
    Spent (resumeCall adapters hashId state index recordedAt) := by
  obtain hsame | ⟨call, next, left, hget, hadvance, hshared, hresume⟩ :=
    resumeCall_cases adapters hashId state index recordedAt
  · rw [hsame]
    exact h
  have hmem := List.mem_of_getElem? hget
  have hbook : left.spend.book = state.spend.book := by
    refine book_eq_of_shared ?_ ?_
    · rw [hshared]
    · rw [hshared]
  have hcharged := hadvance.charged (h.calls call hmem)
  rw [hresume]
  refine ⟨?_, ?_, ?_, ?_⟩
  · show left.spend.book.Reserved
    rw [hbook]
    exact h.book
  · show ∀ event ∈ left.store.creditEvents, Typed event ∧ Charged left.spend.book event
    rw [hbook]
    obtain hstore | ⟨request, _, hcall, -, -, happend⟩ := hadvance.store_cases
    · rw [hstore]
      exact h.events
    · rw [(appendCreditEvent_ok happend).2.1]
      intro event hevent
      rcases List.mem_append.1 hevent with hevent | hevent
      · exact h.events event hevent
      · rw [List.mem_singleton.1 hevent]
        have hrequest := h.calls call hmem
        rw [hcall] at hrequest
        exact hrequest
  · intro other hother
    show other.state.Charged left.spend.book
    rw [hbook]
    rcases List.mem_or_eq_of_mem_set hother with hother | rfl
    · exact h.calls other hother
    · exact hcharged
  · show ∀ id id' intent intent', id ≠ id' → Replays (left.store.listEventsOf id) intent → _
    obtain hstore | ⟨request, _, hcall, hunused, hversion, happend⟩ := hadvance.store_cases
    · rw [hstore]
      exact h.single
    · have hready := hsound.calls call hmem
      rw [hcall] at hready
      obtain ⟨next, hreplays⟩ := hready.2.2.replays hsound.store hversion
      refine h.append hsound (appendCreditEvent_ok happend).2.1 hreplays ?_
      intro created hbody event hevent intent hintent href
      have hcreates : call.state.creates =
          some (request.idempotencyKey, created.policyDecisionRef) := by
        rw [hcall, CallState.creates, hbody]
      exact hretired call hget _ hcreates hunused event hevent intent
        (toOption_eq_some.2 hintent) href

theorem Spent.call (h : Spent state) (command : RailCommand H) :
    Spent (callCommand adapters hashId state command) := by
  obtain ⟨commandHash, next, left, hbegins, hshared, -, hcall⟩ :=
    callCommand_cases adapters hashId state command
  have hbook : left.spend.book = state.spend.book := by
    refine book_eq_of_shared ?_ ?_
    · rw [hshared]
    · rw [hshared]
  have hstore : left.store = state.store := congrArg Shared.store hshared
  rw [hcall]
  refine ⟨?_, ?_, ?_, ?_⟩
  · show left.spend.book.Reserved
    rw [hbook]
    exact h.book
  · show ∀ event ∈ left.store.creditEvents, Typed event ∧ Charged left.spend.book event
    rw [hbook, hstore]
    exact h.events
  · intro other hother
    show other.state.Charged left.spend.book
    rw [hbook]
    rcases List.mem_append.1 hother with hother | hother
    · exact h.calls other hother
    · rw [List.mem_singleton.1 hother]
      exact hbegins.charged h.book
  · show ∀ id id' intent intent', id ≠ id' → Replays (left.store.listEventsOf id) intent → _
    rw [hstore]
    exact h.single

/-- **A step that replaces only retired intents keeps the invariant.** -/
theorem Spent.step (hsound : state.Sound hashId) (h : Spent state) {input : RailInput H}
    (hretired : ReplacesRetired state input) :
    Spent (Rail.step adapters hashId mandateHashId state input) := by
  have hrefl := SpendBook.Follows.refl state.spend.book
  cases input with
  | call command => exact h.call command
  | resume index recordedAt => exact h.resume hsound index recordedAt hretired
  | getReplayProof id => exact h.follow rfl rfl h.book hrefl
  | resumeReplayProof index =>
    rw [Rail.step, resumeReplayProof]
    split
    · exact h.follow rfl rfl h.book hrefl
    · exact h
  | allowProvider providerId settlementAccountId =>
    rw [Rail.step]
    split
    · exact h.follow rfl rfl h.book hrefl
    · exact h
  | createSpendPolicy input =>
    rw [Rail.step]
    split
    · have hkeeps : (SpendPolicy.createSpendPolicy input state.spend).2.book = state.spend.book :=
        SpendPolicy.keeps_createSpendPolicy input state.spend
      refine h.follow rfl rfl ?_ ?_
      · rw [runSpend, hkeeps]
        exact h.book
      · rw [runSpend, hkeeps]
        exact hrefl
    · exact h
  | requestSpend input =>
    rw [Rail.step]
    split
    case isTrue hfresh =>
      obtain ⟨hbook, hfollows⟩ := (SpendPolicy.requestSpend_requested mandateHashId input
        state.spend hfresh.2).reserved h.book hfresh.1 hfresh.2
      exact h.follow rfl rfl hbook hfollows
    case isFalse => exact h
  | settleSpend spendRequestId now =>
    obtain ⟨hbook, hfollows⟩ := SpendPolicy.settleSpend_reserved h.book spendRequestId now
    exact h.follow rfl rfl hbook hfollows
  | mandate input =>
    have hwrite := @Authorization.mandateStep_write _ _ mandateHashId input
      state.spend.authorization
    have hkeeps := SpendPolicy.keepsAmounts_write hwrite
    have hbook := @SpendBook.Reserved.keep _ state.spend.book
      (SpendState.book { state.spend with
        authorization := Authorization.mandateStep mandateHashId state.spend.authorization input })
      h.book rfl hkeeps
    exact h.follow rfl rfl hbook.1 hbook.2

/-! ## What holds of every run -/

/-- The source amount that an event submits for a spend request. -/
def submittedAmount (store : EventStore H) (spendRequestId : String) (event : CreditEvent H) :
    Option ℤ :=
  if event.isSubmission then
    match getTransferIntent store event.payload.transferIntentId with
    | .ok intent =>
      if intent.policyDecisionRef = spendRequestId then some intent.sourceMoney.amountMinor
      else none
    | .error _ => none
  else none

/-- The source amounts of the submissions that are recorded for a spend request. -/
def submittedMinor (store : EventStore H) (spendRequestId : String) : List ℤ :=
  store.creditEvents.filterMap (submittedAmount store spendRequestId)

/-- What holds of the transfers for a spend. -/
structure SpendTransferredOnce (state : RailState H) : Prop where
  /-- At most one intent for a spend request records a submission. -/
  once : ∀ id id' intent intent', getTransferIntent state.store id = .ok intent →
    getTransferIntent state.store id' = .ok intent' →
    intent.policyDecisionRef = intent'.policyDecisionRef →
    (∃ event ∈ eventsForIntent state.store id, event.isSubmission = true) →
    (∃ event ∈ eventsForIntent state.store id', event.isSubmission = true) → id = id'
  /-- What is submitted for a spend request is no more than its amount. -/
  bounded : ∀ spendRequestId request,
    state.spend.spendRequests.get spendRequestId = some request →
    (submittedMinor state.store spendRequestId).sum ≤ request.amountMinor
  /-- What is submitted for was approved, and its amount is reserved. -/
  reserved : ∀ spendRequestId, submittedMinor state.store spendRequestId ≠ [] →
    ∃ request reservation, state.spend.spendRequests.get spendRequestId = some request ∧
      (request.status = .approved ∨ request.status = .settled) ∧
      state.spend.authorization.reservations.get spendRequestId = some reservation ∧
      reservation.amountMinor = request.amountMinor

omit [DecidableEq H] in
/-- The intent of a stream is about an approved spend. -/
theorem Spent.approved (h : Spent state) {id : ℕ} {events : List (CreditEvent H)}
    {intent : TransferIntent H} (hreplays : Replays events intent)
    (hevents : events <+: state.store.listEventsOf id) : Approved state.spend.book intent := by
  induction hreplays with
  | @created first intent body =>
    have hmem := hevents.subset (List.mem_singleton_self first)
    exact (h.events first (mem_listEventsOf.1 hmem).1).2 intent body
  | @appended events event intent next replays applied ih =>
    obtain ⟨-, status, -, -, rfl⟩ := applyEvent_eq_ok.1 applied
    obtain ⟨request, hget, hamount, hstatus⟩ := ih ((List.prefix_append _ _).trans hevents)
    have hsame := applyBody_toTransferRequest intent event.payload.body
    refine ⟨request, ?_, ?_, hstatus⟩
    · rw [← hget]
      exact congrArg (fun core ↦ state.spend.book.spendRequests.get
        (TransferRequest.policyDecisionRef core)) hsame
    · rw [hamount]
      exact congrArg (fun core ↦ (TransferRequest.sourceMoney core).amountMinor) hsame.symm

omit [DecidableEq H] in
theorem Spent.typed (h : Spent state) (id : ℕ) :
    ∀ event ∈ state.store.listEventsOf id, Typed event :=
  fun event hevent ↦ (h.events event (mem_listEventsOf.1 hevent).1).1

omit [DecidableEq H] in
/-- An intent with a submission is not retired. -/
theorem Spent.submission_ne_none (h : Spent state) {id : ℕ} {intent : TransferIntent H}
    (hreplays : Replays (state.store.listEventsOf id) intent) {event : CreditEvent H}
    (hevent : event ∈ state.store.listEventsOf id) (hsubmission : event.isSubmission = true) :
    intent.submission ≠ none := by
  rcases hreplays.submissions (h.typed id) with ⟨hcount, -⟩ | ⟨-, hsome, -⟩
  · exact absurd hsubmission (List.countP_eq_zero.1 hcount event hevent)
  · exact hsome

omit [DecidableEq H] in
/-- Two intents for one request that are both submitted are one. -/
theorem Spent.once (h : Spent state) {id id' : ℕ} {intent intent' : TransferIntent H}
    (hreplays : Replays (state.store.listEventsOf id) intent)
    (hreplays' : Replays (state.store.listEventsOf id') intent')
    (href : intent.policyDecisionRef = intent'.policyDecisionRef)
    (hsubmission : intent.submission ≠ none) (hsubmission' : intent'.submission ≠ none) :
    id = id' := by
  by_contra hne
  rcases h.single id id' intent intent' hne hreplays hreplays' href with hretired | hretired
  · exact hsubmission hretired.2
  · exact hsubmission' hretired.2

omit [DecidableEq H] in
/-- An amount that is submitted is one of a submission. -/
theorem submittedAmount_eq_some (hsound : state.Sound hashId) {spendRequestId : String}
    {event : CreditEvent H} {amount : ℤ}
    (hamount : submittedAmount state.store spendRequestId event = some amount) :
    event.isSubmission = true ∧ ∃ intent,
      Replays (state.store.listEventsOf event.payload.transferIntentId) intent ∧
      intent.policyDecisionRef = spendRequestId ∧ intent.sourceMoney.amountMinor = amount := by
  rw [submittedAmount] at hamount
  split at hamount
  case isFalse => cases hamount
  case isTrue hsubmission =>
    refine ⟨hsubmission, ?_⟩
    split at hamount
    case h_2 => cases hamount
    case h_1 intent hread =>
      split at hamount
      case isFalse => cases hamount
      case isTrue href =>
        exact ⟨intent, (getTransferIntent_eq_ok hsound.store).1 hread, href,
          Option.some.inj hamount⟩

omit [DecidableEq H] in
/-- What is submitted for a request is nothing, or the amount of one intent. -/
theorem Spent.submittedMinor_cases (hsound : state.Sound hashId) (h : Spent state)
    (spendRequestId : String) :
    submittedMinor state.store spendRequestId = [] ∨ ∃ intent, Approved state.spend.book intent ∧
      intent.policyDecisionRef = spendRequestId ∧
      submittedMinor state.store spendRequestId = [intent.sourceMoney.amountMinor] := by
  by_cases hempty : submittedMinor state.store spendRequestId = []
  · exact .inl hempty
  right
  obtain ⟨amount, hamount⟩ := List.exists_mem_of_ne_nil _ hempty
  obtain ⟨event, hevent, hsubmitted⟩ := List.mem_filterMap.1 hamount
  obtain ⟨hsubmission, intent, hreplays, href, rfl⟩ := submittedAmount_eq_some hsound hsubmitted
  -- every submission for the request is in the stream of this one, which has one submission
  have hone : (submittedMinor state.store spendRequestId).length ≤ 1 := by
    have hstream : ∀ other ∈ state.store.creditEvents,
        (submittedAmount state.store spendRequestId other).isSome = true →
        (other.isSubmission &&
          decide (other.payload.transferIntentId = event.payload.transferIntentId)) = true := by
      intro other hother hsome
      obtain ⟨amount', hamount'⟩ := Option.isSome_iff_exists.1 hsome
      obtain ⟨hsubmission', intent', hreplays', href', -⟩ := submittedAmount_eq_some hsound hamount'
      rw [hsubmission', Bool.true_and, decide_eq_true_eq]
      refine h.once hreplays' hreplays (href'.trans href.symm) ?_ ?_
      · exact h.submission_ne_none hreplays' (mem_listEventsOf.2 ⟨hother, rfl⟩) hsubmission'
      · exact h.submission_ne_none hreplays (mem_listEventsOf.2 ⟨hevent, rfl⟩) hsubmission
    calc (submittedMinor state.store spendRequestId).length
        = state.store.creditEvents.countP fun other ↦
            (submittedAmount state.store spendRequestId other).isSome :=
          List.length_filterMap_eq_countP
      _ ≤ state.store.creditEvents.countP fun other ↦ other.isSubmission &&
            decide (other.payload.transferIntentId = event.payload.transferIntentId) :=
          List.countP_mono_left hstream
      _ = (state.store.listEventsOf event.payload.transferIntentId).countP
            CreditEvent.isSubmission := List.countP_filter.symm
      _ ≤ 1 := by
          rcases hreplays.submissions (h.typed _) with ⟨hcount, -⟩ | ⟨hcount, -⟩ <;> omega
  refine ⟨intent, h.approved hreplays (List.prefix_refl _), href, ?_⟩
  obtain ⟨only, honly⟩ := List.length_eq_one_iff.1
    (Nat.le_antisymm hone (List.length_pos_iff.2 hempty))
  rw [honly] at hamount ⊢
  rw [List.mem_singleton.1 hamount]

omit [DecidableEq H] in
theorem Spent.transferredOnce (hsound : state.Sound hashId) (h : Spent state) :
    SpendTransferredOnce state := by
  constructor
  case once =>
    intro id id' intent intent' hread hread' href ⟨event, hevent, hsubmission⟩
      ⟨event', hevent', hsubmission'⟩
    rw [getTransferIntent_eq_ok hsound.store] at hread hread'
    rw [eventsForIntent_eq hsound.store] at hevent hevent'
    exact h.once hread hread' href (h.submission_ne_none hread hevent hsubmission)
      (h.submission_ne_none hread' hevent' hsubmission')
  case bounded =>
    intro spendRequestId request hrequest
    obtain hempty | ⟨intent, ⟨request', hget, hamount, -⟩, href, hone⟩ :=
      h.submittedMinor_cases hsound spendRequestId
    · rw [hempty]
      exact Int.le_of_lt (h.book.amount_pos spendRequestId request hrequest)
    · rw [href] at hget
      obtain rfl := Option.some.inj (hrequest.symm.trans hget)
      rw [hone, List.sum_singleton, hamount]
  case reserved =>
    intro spendRequestId hne
    obtain hempty | ⟨intent, ⟨request, hget, -, hstatus⟩, href, -⟩ :=
      h.submittedMinor_cases hsound spendRequestId
    · exact absurd hempty hne
    · rw [href] at hget
      obtain ⟨reservation, hreservation, hamount⟩ :=
        h.book.reserved spendRequestId request hget hstatus
      exact ⟨request, reservation, hget, hstatus, hreservation, hamount⟩

/-- **One approved spend is transferred once**, in every state of a run in which a new intent is
recorded only when the intents of its spend request are retired. -/
theorem spend_transferred_once (adapters : InsertionMap String (RailAdapter H))
    (hashId : RailPreimage H → H) (mandateHashId : MandatePreimage → H)
    (inputs : List (RailInput H))
    (hretired : Run.Steps (step adapters hashId mandateHashId) ReplacesRetired .new inputs) :
    Run.Along (step adapters hashId mandateHashId) SpendTransferredOnce .new inputs := by
  have hstep : ∀ state input, (state.Sound hashId ∧ Spent state) → ReplacesRetired state input →
      (step adapters hashId mandateHashId state input).Sound hashId ∧
        Spent (step adapters hashId mandateHashId state input) :=
    fun state input h hinput ↦
      ⟨(step_sound adapters mandateHashId h.1 input).1, h.2.step h.1 hinput⟩
  have halong := Run.along_of_steps hstep inputs ⟨sound_new, spent_new⟩ hretired
  exact halong.mono fun state h ↦ h.2.transferredOnce h.1

end Steps

/-! ## Two runs -/

/-- An intent expires unsubmitted, and the one that replaces it is submitted. -/
def replacedIntent : List (RailInput ℕ) :=
  demoPolicy ++ [demoSpend "spend" 100] ++ demoCall 0 (demoCreate "spend" "create") ++
    demoCall 1 (.transfer ⟨0, "quote", 1, 0, .quoteTransfer⟩) ++
    demoCall 2 (.transfer ⟨0, "expire", 2, 300000, .expireTransfer "system" "quote elapsed"⟩) ++
    demoCall 3 (demoCreate "spend" "create again") ++
    demoCall 4 (.transfer ⟨5, "quote again", 1, 0, .quoteTransfer⟩) ++
    demoCall 5 (.transfer ⟨5, "authorize", 2, 0, .authorizeTransfer "principal"⟩) ++
    demoCall 6 (.transfer ⟨5, "submit", 3, 0, .submitTransfer⟩)

theorem spend_transferred_once_replaced :
    Run.Steps demoStep ReplacesRetired .new replacedIntent ∧
      submittedMinor (Run.run demoStep .new replacedIntent).store "spend" = [100] ∧
      Run.Along demoStep SpendTransferredOnce .new replacedIntent := by
  have hretired : Run.Steps demoStep ReplacesRetired .new replacedIntent := by
    decide +kernel
  exact ⟨hretired, by decide +kernel, spend_transferred_once _ _ _ _ hretired⟩

/-- A second intent for the spend is created under another key, and both are submitted. -/
def secondIntent : List (RailInput ℕ) :=
  demoPolicy ++ [demoSpend "spend" 100] ++ demoCall 0 (demoCreate "spend" "create") ++
    demoCall 1 (.transfer ⟨0, "quote", 1, 0, .quoteTransfer⟩) ++
    demoCall 2 (.transfer ⟨0, "authorize", 2, 0, .authorizeTransfer "principal"⟩) ++
    demoCall 3 (.transfer ⟨0, "submit", 3, 0, .submitTransfer⟩) ++
    demoCall 4 (demoCreate "spend" "create again") ++
    demoCall 5 (.transfer ⟨6, "quote again", 1, 0, .quoteTransfer⟩) ++
    demoCall 6 (.transfer ⟨6, "authorize again", 2, 0, .authorizeTransfer "principal"⟩) ++
    demoCall 7 (.transfer ⟨6, "submit again", 3, 0, .submitTransfer⟩)

/-- **Twice the amount is submitted** for a spend that used up its mandate. -/
theorem second_intent_submitted :
    ((Run.run demoStep .new secondIntent).spend.spendRequests.get "spend").map
        (fun request ↦ request.amountMinor) = some 100 ∧
      submittedMinor (Run.run demoStep .new secondIntent).store "spend" = [100, 100] ∧
      ¬ SpendTransferredOnce (Run.run demoStep .new secondIntent) := by
  have hrequest : ((Run.run demoStep .new secondIntent).spend.spendRequests.get "spend").map
      (fun request ↦ request.amountMinor) = some 100 := by
    decide +kernel
  have hsubmitted : submittedMinor (Run.run demoStep .new secondIntent).store "spend"
      = [100, 100] := by
    decide +kernel
  refine ⟨hrequest, hsubmitted, fun h ↦ ?_⟩
  obtain ⟨request, hget, hamount⟩ := Option.map_eq_some_iff.1 hrequest
  have hbound := h.bounded "spend" request hget
  rw [hsubmitted, hamount] at hbound
  revert hbound
  decide

end Rail
end IpoOne
