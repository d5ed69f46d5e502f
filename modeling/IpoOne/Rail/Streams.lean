import IpoOne.Rail.Service

/-!
# Streams of transfer events

What the events of one intent look like in a store that the service has written: they replay.  The
events of an intent are in the order of their versions, `1, 2, …`, each leads to a status that may
follow the one before, and each has an envelope of its own.

`Replays` builds a stream event by event, and `EventStore.Sound` is the invariant of the store; an
append keeps it if the stream with the event replays.
-/

set_option autoImplicit false

namespace IpoOne
namespace Rail

open Fallible

variable {H : Type}

/-! ## Replaying -/

/-- A stream, event by event, with the intent it replays to. -/
inductive Replays : List (CreditEvent H) → TransferIntent H → Prop where
  | created {first : CreditEvent H} {intent : TransferIntent H}
      (body : first.payload.body = .intent intent) (version : first.payload.intentVersion = 1)
      (intentVersion : intent.version = 1) (status : intent.status = .created)
      (submission : intent.submission = none)
      (transferIntentId : intent.transferIntentId = first.payload.transferIntentId) :
      Replays [first] intent
  | appended {events : List (CreditEvent H)} {event : CreditEvent H}
      {intent next : TransferIntent H} (replays : Replays events intent)
      (applied : applyEvent intent event = .ok next) : Replays (events ++ [event]) next

theorem Replays.ne_nil {events : List (CreditEvent H)} {intent : TransferIntent H}
    (h : Replays events intent) : events ≠ [] := by
  cases h with
  | created => exact List.cons_ne_nil _ _
  | appended => exact List.append_ne_nil_of_right_ne_nil _ (List.cons_ne_nil _ _)

/-- What an event that could be applied leads to. -/
theorem applyEvent_eq_ok {intent next : TransferIntent H} {event : CreditEvent H} :
    applyEvent intent event = .ok next ↔ event.payload.intentVersion = intent.version + 1 ∧
      ∃ status, event.payload.resultingStatus = some status ∧
        status ∈ transferIntentTransitions intent.status ∧
        next = { applyBody intent event.payload.body with
          status, version := event.payload.intentVersion, updatedAt := event.occurredAt } := by
  rw [applyEvent]
  rcases hstatus : event.payload.resultingStatus with _ | status
  · simp
  · simp only [bind_eq_ok, throwIf_eq_ok, assertTransition, pure_eq_ok, not_not]
    constructor
    · rintro ⟨_, hversion, _, hmem, rfl⟩
      exact ⟨hversion, status, rfl, hmem, rfl⟩
    · rintro ⟨hversion, status', hstatus', hmem, rfl⟩
      obtain rfl := Option.some.inj hstatus'
      exact ⟨(), hversion, (), hmem, rfl⟩

theorem reduce_append {events : List (CreditEvent H)} {event : CreditEvent H}
    {intent next : TransferIntent H} (hreduce : reduce events = .ok intent)
    (happly : applyEvent intent event = .ok next) : reduce (events ++ [event]) = .ok next := by
  rcases events with _ | ⟨first, rest⟩
  · cases hreduce
  · rw [List.cons_append]
    rw [reduce] at hreduce ⊢
    rcases hbody : first.payload.body with created | _ | _ | _ | _ | _
    case intent =>
      rw [hbody] at hreduce
      simp only [bind_eq_ok, throwIf_eq_ok] at hreduce ⊢
      obtain ⟨u, hversion, hrest⟩ := hreduce
      refine ⟨u, hversion, ?_⟩
      rw [List.foldlM_append, hrest]
      simpa [List.foldlM] using happly
    all_goals
      rw [hbody] at hreduce
      cases hreduce

/-- **Replaying does not throw.** -/
theorem Replays.reduce_eq {events : List (CreditEvent H)} {intent : TransferIntent H}
    (h : Replays events intent) : reduce events = .ok intent := by
  induction h with
  | created body version =>
    rw [reduce, body]
    simp only [bind_eq_ok, throwIf_eq_ok]
    exact ⟨(), not_not.2 version, rfl⟩
  | appended _ applied ih => exact reduce_append ih applied

theorem Replays.version_eq {events : List (CreditEvent H)} {intent : TransferIntent H}
    (h : Replays events intent) : intent.version = events.length := by
  induction h with
  | created _ _ intentVersion => exact intentVersion
  | appended _ applied ih =>
    obtain ⟨hversion, status, _, _, rfl⟩ := applyEvent_eq_ok.1 applied
    rw [List.length_append, ← ih]
    exact hversion

/-- The versions of a stream are contiguous. -/
theorem Replays.versions_eq {events : List (CreditEvent H)} {intent : TransferIntent H}
    (h : Replays events intent) :
    events.map (fun event ↦ event.payload.intentVersion) = List.range' 1 events.length := by
  induction h with
  | created _ version => rw [List.map_singleton, version]; rfl
  | appended replays applied ih =>
    obtain ⟨hversion, -⟩ := applyEvent_eq_ok.1 applied
    rw [List.map_append, ih, List.length_append, List.length_singleton, List.range'_concat,
      List.map_singleton, hversion, replays.version_eq]
    congr 2
    omega

@[simp] theorem applyBody_transferIntentId (intent : TransferIntent H) (body : EventBody H) :
    (applyBody intent body).transferIntentId = intent.transferIntentId := by
  cases body <;> rfl

@[simp] theorem applyBody_toTransferRequest (intent : TransferIntent H) (body : EventBody H) :
    (applyBody intent body).toTransferRequest = intent.toTransferRequest := by
  cases body <;> rfl

theorem Replays.transferIntentId_eq {events : List (CreditEvent H)} {intent : TransferIntent H}
    {id : ℕ} (h : Replays events intent)
    (hid : ∀ event ∈ events, event.payload.transferIntentId = id) :
    intent.transferIntentId = id := by
  induction h with
  | created _ _ _ _ _ transferIntentId =>
    rw [transferIntentId]
    exact hid _ (List.mem_singleton_self _)
  | appended _ applied ih =>
    obtain ⟨_, status, _, _, rfl⟩ := applyEvent_eq_ok.1 applied
    rw [← ih fun event hevent ↦ hid event (List.mem_append_left _ hevent)]
    exact applyBody_transferIntentId _ _

/-- The last event of a stream is its first, or it was applied to what the others replay to. -/
theorem Replays.append_cases {events : List (CreditEvent H)} {event : CreditEvent H}
    {next : TransferIntent H} (h : Replays (events ++ [event]) next) :
    (events = [] ∧ event.payload.body = .intent next ∧ next.status = .created ∧
      next.submission = none) ∨
    ∃ intent, Replays events intent ∧ applyEvent intent event = .ok next := by
  generalize hall : events ++ [event] = all at h
  cases h with
  | created body _ _ status submission =>
    obtain ⟨rfl, hlast⟩ := List.append_inj' (hall.trans (List.nil_append _).symm) rfl
    obtain rfl := List.singleton_inj.1 hlast
    exact .inl ⟨rfl, body, status, submission⟩
  | appended replays applied =>
    obtain ⟨rfl, hlast⟩ := List.append_inj' hall rfl
    obtain rfl := List.singleton_inj.1 hlast
    exact .inr ⟨_, replays, applied⟩

/-- A stream replays to one intent. -/
theorem Replays.unique {events : List (CreditEvent H)} {intent intent' : TransferIntent H}
    (h : Replays events intent) (h' : Replays events intent') : intent = intent' :=
  Except.ok.inj (h.reduce_eq.symm.trans h'.reduce_eq)

/-- The events of a stream are in the order of their versions. -/
theorem Replays.pairwise {events : List (CreditEvent H)} {intent : TransferIntent H}
    (h : Replays events intent) :
    events.Pairwise fun left right ↦ left.payload.intentVersion ≤ right.payload.intentVersion := by
  have hsorted : (events.map fun event ↦ event.payload.intentVersion).Pairwise (· ≤ ·) := by
    rw [h.versions_eq]
    exact List.Pairwise.imp Nat.le_of_lt List.pairwise_lt_range'
  exact List.pairwise_map.1 hsorted

theorem Replays.sortEvents_eq {events : List (CreditEvent H)} {intent : TransferIntent H}
    (h : Replays events intent) : sortEvents events = events :=
  List.Pairwise.insertionSort_eq h.pairwise

/-! ## The store -/

section Store

variable (hashId : RailPreimage H → H)

/-- The envelope that is recorded with an event. -/
structure EvidenceOf (event : CreditEvent H) (envelope : EvidenceEnvelope H) : Prop where
  eventId : envelope.eventId = event.eventId
  eventType : envelope.eventType = event.eventType
  aggregateId : envelope.aggregateId = event.payload.transferIntentId
  aggregateVersion : envelope.aggregateVersion = event.payload.intentVersion
  payloadHash : envelope.payloadHash = hashId (.evidencePayload envelope.payload)
  evidenceHash : envelope.evidenceHash = hashId (.evidenceEnvelope envelope.toEvidenceCore)

/-- What the service keeps of the event store. -/
structure EventStore.Sound (store : EventStore H) : Prop where
  evidence : List.Forall₂ (EvidenceOf hashId) store.creditEvents store.evidenceEnvelopes
  versions : ∀ id, (store.aggregateVersions.get id).getD 0 = (store.listEventsOf id).length
  replays : ∀ id, store.listEventsOf id ≠ [] → ∃ intent, Replays (store.listEventsOf id) intent
  payloadHashes : ∀ event ∈ store.creditEvents,
    event.payloadHash = hashId (.eventPayload event.payload)
  /-- Each idempotency key is recorded once. -/
  keys : (store.creditEvents.map fun event ↦ event.payload.idempotencyKey).Nodup

theorem EventStore.sound_new : (EventStore.new : EventStore H).Sound hashId where
  evidence := .nil
  versions _ := rfl
  replays _ h := absurd rfl h
  payloadHashes _ h := absurd h List.not_mem_nil
  keys := List.nodup_nil

variable {hashId} {store : EventStore H}

/-- The envelopes about an intent are those of its events. -/
theorem forall₂_listEvidence (hsound : store.Sound hashId) (id : ℕ) :
    List.Forall₂ (EvidenceOf hashId) (store.listEventsOf id) (store.listEvidence id) := by
  refine List.rel_filter (fun event envelope h ↦ ?_) hsound.evidence
  simp only [h.aggregateId]

theorem getStreamVersion_eq (hsound : store.Sound hashId) (id : ℕ) :
    store.getStreamVersion id = (store.listEventsOf id).length :=
  (forall₂_listEvidence hsound id).length_eq.symm

theorem mem_listEventsOf {id : ℕ} {event : CreditEvent H} :
    event ∈ store.listEventsOf id ↔
      event ∈ store.creditEvents ∧ event.payload.transferIntentId = id := by
  rw [EventStore.listEventsOf, List.mem_filter, decide_eq_true_eq]

theorem eventsForIntent_eq (hsound : store.Sound hashId) (id : ℕ) :
    eventsForIntent store id = store.listEventsOf id := by
  rw [eventsForIntent]
  by_cases hempty : store.listEventsOf id = []
  · rw [hempty]
    rfl
  · obtain ⟨intent, hreplays⟩ := hsound.replays id hempty
    exact hreplays.sortEvents_eq

/-- Reading an intent is replaying its stream. -/
theorem getTransferIntent_eq_ok (hsound : store.Sound hashId) {id : ℕ} {intent : TransferIntent H} :
    getTransferIntent store id = .ok intent ↔ Replays (store.listEventsOf id) intent := by
  rw [getTransferIntent, eventsForIntent_eq hsound]
  by_cases hempty : store.listEventsOf id = []
  · rw [if_pos hempty]
    exact ⟨fun h ↦ (nomatch h), fun h ↦ absurd hempty h.ne_nil⟩
  · rw [if_neg hempty]
    obtain ⟨replayed, hreplays⟩ := hsound.replays id hempty
    rw [hreplays.reduce_eq]
    constructor
    · intro h
      rw [← Except.ok.inj h]
      exact hreplays
    · intro h
      rw [hreplays.unique h]

/-! ## Appending -/

theorem listEventsOf_append {store' : EventStore H} {event : CreditEvent H}
    (h : store'.creditEvents = store.creditEvents ++ [event]) (id : ℕ) :
    store'.listEventsOf id = if event.payload.transferIntentId = id
      then store.listEventsOf id ++ [event] else store.listEventsOf id := by
  rw [EventStore.listEventsOf, h, List.filter_append]
  split
  case isTrue hid =>
    rw [List.filter_cons_of_pos (by simpa using hid)]
    rfl
  case isFalse hid =>
    rw [List.filter_cons_of_neg (by simpa using hid)]
    exact List.append_nil _

/-- The version of the last event of a stream is its length. -/
theorem Replays.last_version {events : List (CreditEvent H)} {event : CreditEvent H}
    {intent : TransferIntent H} (h : Replays (events ++ [event]) intent) :
    event.payload.intentVersion = events.length + 1 := by
  have hversions := h.versions_eq
  rw [List.map_append, List.length_append, List.length_singleton, List.range'_concat] at hversions
  have hlast := (List.append_inj' hversions rfl).2
  rw [List.map_singleton] at hlast
  have := List.singleton_inj.1 hlast
  omega

/-- What `appendCreditEvent` leaves. -/
theorem appendCreditEvent_ok {store' : EventStore H} {event : CreditEvent H} {recordedAt : ℕ}
    (h : store.appendCreditEvent hashId event recordedAt = .ok store') :
    (∀ recorded ∈ store.creditEvents, recorded.eventId ≠ event.eventId) ∧
      store'.creditEvents = store.creditEvents ++ [event] ∧
      store'.aggregateVersions = store.aggregateVersions.set event.payload.transferIntentId
        ((store.aggregateVersions.get event.payload.transferIntentId).getD 0 + 1) ∧
      ∃ envelope, store'.evidenceEnvelopes = store.evidenceEnvelopes ++ [envelope] ∧
        ((store.aggregateVersions.get event.payload.transferIntentId).getD 0 + 1 =
          event.payload.intentVersion → EvidenceOf hashId event envelope) := by
  simp only [EventStore.appendCreditEvent, createEvidenceEnvelope, bind_eq_ok, throwIf_eq_ok,
    pure_eq_ok] at h
  obtain ⟨_, hfresh, envelope, ⟨_, _, _, _, _, _, _, _, _, _, rfl⟩, rfl⟩ := h
  refine ⟨fun recorded hmem heq ↦ hfresh ⟨recorded, hmem, heq⟩, rfl, rfl, _, rfl, fun hversion ↦ ?_⟩
  exact
    { eventId := rfl
      eventType := rfl
      aggregateId := rfl
      aggregateVersion := hversion
      payloadHash := rfl
      evidenceHash := rfl }

/-- **An append keeps the store sound** if the stream replays with the event. -/
theorem EventStore.Sound.append {store' : EventStore H} {event : CreditEvent H} {recordedAt : ℕ}
    {next : TransferIntent H} (hsound : store.Sound hashId)
    (h : store.appendCreditEvent hashId event recordedAt = .ok store')
    (hreplays : Replays (store.listEventsOf event.payload.transferIntentId ++ [event]) next)
    (hpayload : event.payloadHash = hashId (.eventPayload event.payload))
    (hkey : ∀ recorded ∈ store.creditEvents,
      recorded.payload.idempotencyKey ≠ event.payload.idempotencyKey) :
    store'.Sound hashId := by
  obtain ⟨-, hevents, hversions, envelope, henvelopes, hevidence⟩ := appendCreditEvent_ok h
  constructor
  case evidence =>
    rw [hevents, henvelopes]
    refine List.rel_append hsound.evidence (.cons (hevidence ?_) .nil)
    rw [hsound.versions, hreplays.last_version]
  case versions =>
    intro id
    rw [hversions, InsertionMap.get_set, listEventsOf_append hevents]
    by_cases hid : event.payload.transferIntentId = id
    · subst hid
      rw [if_pos rfl, if_pos rfl, List.length_append, hsound.versions]
      rfl
    · rw [if_neg fun heq ↦ hid heq.symm, if_neg hid, hsound.versions]
  case replays =>
    intro id hne
    rw [listEventsOf_append hevents] at hne ⊢
    by_cases hid : event.payload.transferIntentId = id
    · subst hid
      rw [if_pos rfl]
      exact ⟨next, hreplays⟩
    · rw [if_neg hid] at hne ⊢
      exact hsound.replays id hne
  case payloadHashes =>
    rw [hevents]
    intro recorded hmem
    rcases List.mem_append.1 hmem with hmem | hmem
    · exact hsound.payloadHashes recorded hmem
    · rw [List.mem_singleton.1 hmem]
      exact hpayload
  case keys =>
    rw [hevents, List.map_append, List.nodup_append]
    refine ⟨hsound.keys, List.nodup_singleton _, ?_⟩
    intro key hmem key' hmem' heq
    obtain ⟨recorded, hrecorded, rfl⟩ := List.mem_map.1 hmem
    rw [List.map_singleton, List.mem_singleton] at hmem'
    exact hkey recorded hrecorded (heq.trans hmem')

variable [DecidableEq H]

theorem findCommand_ok {key : String} {commandHash : H} {found : Option (CreditEvent H)}
    (h : store.findCommand key commandHash = .ok found) :
    match found with
    | none => ∀ recorded ∈ store.creditEvents, recorded.payload.idempotencyKey ≠ key
    | some event => event ∈ store.creditEvents ∧ event.payload.idempotencyKey = key ∧
        event.payload.commandHash = commandHash := by
  rw [EventStore.findCommand] at h
  split at h
  case h_1 hfind =>
    obtain rfl := pure_eq_ok.1 h
    intro recorded hmem
    simpa using List.find?_eq_none.1 hfind recorded hmem
  case h_2 event hfind =>
    simp only [bind_eq_ok, throwIf_eq_ok, pure_eq_ok, not_not] at h
    obtain ⟨_, hhash, rfl⟩ := h
    exact ⟨List.mem_of_find?_eq_some hfind, by simpa using List.find?_some hfind, hhash⟩

/-- An append answers with the event of the command, or adds the event. -/
theorem appendCommand_cases {request : EventStore.AppendRequest H} {recordedAt : ℕ}
    {event : CreditEvent H} {store' : EventStore H}
    (h : store.appendCommand hashId request recordedAt = .ok (event, store')) :
    (store' = store ∧ event ∈ store.creditEvents ∧
      event.payload.idempotencyKey = request.idempotencyKey ∧
      event.payload.commandHash = request.commandHash) ∨
    (event = request.event ∧
      (∀ recorded ∈ store.creditEvents,
        recorded.payload.idempotencyKey ≠ request.idempotencyKey) ∧
      store.getStreamVersion request.aggregateId = request.expectedVersion ∧
      request.event.payloadHash = hashId (.eventPayload request.event.payload) ∧
      store.appendCreditEvent hashId request.event recordedAt = .ok store') := by
  simp only [EventStore.appendCommand, bind_eq_ok, throwIf_eq_ok] at h
  obtain ⟨_, _, found, hfound, h⟩ := h
  have hfind := findCommand_ok hfound
  rcases found with _ | found
  · simp only [bind_eq_ok, throwIf_eq_ok, pure_eq_ok, Prod.mk.injEq, not_not] at h
    obtain ⟨_, hpayload, _, hversion, appended, happend, rfl, rfl⟩ := h
    exact .inr ⟨rfl, hfind, hversion, hpayload, happend⟩
  · simp only [pure_eq_ok, Prod.mk.injEq] at h
    obtain ⟨rfl, rfl⟩ := h
    exact .inl ⟨rfl, hfind⟩

/-! ## The replay proof -/

omit [DecidableEq H] in
/-- An envelope about an intent has good hashes. -/
theorem EventStore.Sound.envelope_hashes (hsound : store.Sound hashId)
    {envelope : EvidenceEnvelope H} (hmem : envelope ∈ store.evidenceEnvelopes) :
    envelope.payloadHash = hashId (.evidencePayload envelope.payload) ∧
      envelope.evidenceHash = hashId (.evidenceEnvelope envelope.toEvidenceCore) := by
  obtain ⟨index, hlt, rfl⟩ := List.getElem_of_mem hmem
  have hlt' := hsound.evidence.length_eq ▸ hlt
  have hof := List.Forall₂.get hsound.evidence hlt' hlt
  exact ⟨hof.payloadHash, hof.evidenceHash⟩

omit [DecidableEq H] in
/-- The envelopes about an intent are in the order of their versions. -/
theorem aggregateVersions_eq (hsound : store.Sound hashId) {id : ℕ} {intent : TransferIntent H}
    (hreplays : Replays (store.listEventsOf id) intent) :
    (store.listEvidence id).map (fun envelope ↦ envelope.aggregateVersion) =
      List.range' 1 (store.listEvidence id).length := by
  have hevidence := forall₂_listEvidence hsound id
  rw [← hevidence.length_eq, ← hreplays.versions_eq]
  symm
  rw [← List.forall₂_eq_eq_eq, List.forall₂_map_left_iff, List.forall₂_map_right_iff]
  exact hevidence.imp fun _ _ h ↦ h.aggregateVersion.symm

theorem contiguous_of_map_eq {α : Type} {version : α → ℕ} {values : List α}
    (h : values.map version = List.range' 1 values.length) : contiguous version values = true := by
  rw [contiguous, List.all_eq_true]
  rintro ⟨value, index⟩ hmem
  rw [List.mem_zipIdx_iff_getElem?] at hmem
  obtain ⟨hlt, -⟩ := List.getElem?_eq_some_iff.1 hmem
  have hget : (values.map version)[index]? = some (version value) := by
    rw [List.getElem?_map, hmem]
    rfl
  rw [h, List.getElem?_range' hlt] at hget
  have := Option.some.inj hget
  simp only [decide_eq_true_eq]
  omega

/-- **What was read from one store is replayable.** -/
theorem replayProof_eq (hsound : store.Sound hashId) {id : ℕ} {intent : TransferIntent H}
    (hreplays : Replays (store.listEventsOf id) intent) :
    replayProof hashId id (store.listEventsOf id) (store.listEvidence id) =
      .ok
        { transferIntentId := id
          eventCount := (store.listEventsOf id).length
          evidenceEnvelopeCount := (store.listEventsOf id).length
          latestVersion := intent.version
          resultingStatus := intent.status
          contiguousEvents := true
          contiguousEvidence := true
          payloadHashesValid := true
          evidenceHashesValid := true
          envelopeHashesValid := true
          eventEnvelopeLinksValid := true
          replayable := true } := by
  have hevidence := forall₂_listEvidence hsound id
  have hversions := aggregateVersions_eq hsound hreplays
  have hsorted : (store.listEvidence id).insertionSort
      (fun left right ↦ left.aggregateVersion ≤ right.aggregateVersion)
        = store.listEvidence id := by
    refine List.Pairwise.insertionSort_eq (List.pairwise_map.1 ?_)
    rw [hversions]
    exact List.Pairwise.imp Nat.le_of_lt List.pairwise_lt_range'
  have hpayload : (store.listEventsOf id).all
      (fun event ↦ event.payloadHash = hashId (.eventPayload event.payload)) = true := by
    rw [List.all_eq_true]
    intro event hmem
    exact decide_eq_true (hsound.payloadHashes event (mem_listEventsOf.1 hmem).1)
  have hmemEvidence : ∀ envelope ∈ store.listEvidence id, envelope ∈ store.evidenceEnvelopes :=
    fun _ hmem ↦ (List.mem_filter.1 hmem).1
  have hevidenceHash : (store.listEvidence id).all
      (fun envelope ↦ envelope.payloadHash = hashId (.evidencePayload envelope.payload))
        = true := by
    rw [List.all_eq_true]
    intro envelope hmem
    exact decide_eq_true (hsound.envelope_hashes (hmemEvidence envelope hmem)).1
  have henvelopeHash : (store.listEvidence id).all
      (fun envelope ↦
        envelope.evidenceHash = hashId (.evidenceEnvelope envelope.toEvidenceCore)) = true := by
    rw [List.all_eq_true]
    intro envelope hmem
    exact decide_eq_true (hsound.envelope_hashes (hmemEvidence envelope hmem)).2
  have hlinks : (store.listEventsOf id).zipIdx.all
      (fun entry ↦ linked (store.listEvidence id) entry.1 entry.2) = true := by
    rw [List.all_eq_true]
    rintro ⟨event, index⟩ hmem
    have hget : (store.listEventsOf id)[index]? = some event := List.mem_zipIdx_iff_getElem?.1 hmem
    obtain ⟨hlt, rfl⟩ := List.getElem?_eq_some_iff.1 hget
    have hlt' := hevidence.length_eq ▸ hlt
    have hof := List.Forall₂.get hevidence hlt hlt'
    simp only [linked, List.getElem?_eq_getElem hlt', Bool.and_eq_true, decide_eq_true_eq]
    exact ⟨⟨hof.eventId, hof.eventType⟩, hof.aggregateVersion⟩
  rw [replayProof, hreplays.reduce_eq, hsorted]
  simp only [bind_eq_ok, pure_eq_ok]
  refine ⟨intent, rfl, ?_⟩
  rw [contiguous_of_map_eq hreplays.versions_eq, contiguous_of_map_eq hversions, hpayload,
    hevidenceHash, henvelopeHash, hlinks, hevidence.length_eq]
  simp

/-- A proof that says so was made of as many envelopes as events. -/
theorem length_eq_of_replayable {id : ℕ} {events : List (CreditEvent H)}
    {evidence : List (EvidenceEnvelope H)} {proof : ReplayProof}
    (h : replayProof hashId id events evidence = .ok proof)
    (hreplayable : proof.replayable = true) :
    events.length = evidence.length := by
  simp only [replayProof, bind_eq_ok, pure_eq_ok] at h
  obtain ⟨intent, -, rfl⟩ := h
  simp only [Bool.and_eq_true, decide_eq_true_eq] at hreplayable
  rw [hreplayable.1.1.1.1.1.1, List.length_insertionSort]

end Store

end Rail
end IpoOne
