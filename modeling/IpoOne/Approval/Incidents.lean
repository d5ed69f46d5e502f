import IpoOne.Approval.BreakGlassService

/-!
# What is stored of an incident

The invariant of the records (`StoreSound`), and what a commit of the service does to it.  A call
commits what it has worked out from an incident it has read before; the commit is refused unless the
incident is still at that version, and then it is the same incident with the same decisions.

`Progress` says how an incident may change: its terms never do, and neither does its session once it
has one.
-/

set_option autoImplicit false

namespace IpoOne
namespace Approval

open Fallible
open ApprovalStore (Filed Recorded)

variable {H : Type}

/-! ## How an incident changes -/

/-- An incident has come to be another one. -/
structure Progress (incident current : BreakGlassIncident H) : Prop where
  terms : current.toIncidentTerms = incident.toIncidentTerms
  version : incident.version ≤ current.version
  same : current.version = incident.version → current = incident
  session : incident.status ≠ .pendingCustodians → current.status ≠ .pendingCustodians ∧
    current.activatedAt = incident.activatedAt ∧ current.expiresAt = incident.expiresAt
  ended : incident.status = .closed ∨ incident.status = .expired →
    current.status = incident.status

namespace Progress

variable {incident current next : BreakGlassIncident H}

theorem refl (incident : BreakGlassIncident H) : Progress incident incident :=
  ⟨rfl, le_rfl, fun _ ↦ rfl, fun h ↦ ⟨h, rfl, rfl⟩, fun _ ↦ rfl⟩

theorem trans (h : Progress incident current) (h' : Progress current next) :
    Progress incident next where
  terms := h'.terms.trans h.terms
  version := h.version.trans h'.version
  same := by
    intro hversion
    have hcurrent : current.version = incident.version :=
      le_antisymm (hversion ▸ h'.version) h.version
    rw [h'.same (hversion.trans hcurrent.symm), h.same hcurrent]
  session := by
    intro hstatus
    obtain ⟨hstatus', hactivated, hexpires⟩ := h.session hstatus
    obtain ⟨hstatus'', hactivated', hexpires'⟩ := h'.session hstatus'
    exact ⟨hstatus'', hactivated'.trans hactivated, hexpires'.trans hexpires⟩
  ended := by
    intro hended
    have hstatus := h.ended hended
    rw [← hstatus]
    exact h'.ended (hstatus ▸ hended)

theorem breakGlassIncidentId_eq (h : Progress incident current) :
    current.breakGlassIncidentId = incident.breakGlassIncidentId :=
  congrArg IncidentTerms.breakGlassIncidentId h.terms

end Progress

/-- What a transition comes to. -/
theorem transition_ok {incident updated : BreakGlassIncident H} {status : BreakGlassIncidentStatus}
    {reviewStatus : BreakGlassReviewStatus} {expiresAt reviewDueAt : Option ℕ} {now : ℕ}
    (h : transitionBreakGlassIncident incident status reviewStatus expiresAt reviewDueAt now =
      .ok updated) :
    Progress incident updated ∧ updated.version = incident.version + 1 ∧ updated.status = status ∧
      updated.reviewStatus = reviewStatus ∧
      (status = .active →
        updated.activatedAt = some now ∧ updated.expiresAt = expiresAt ∧ expiresAt ≠ none) := by
  simp only [transitionBreakGlassIncident, bind_eq_ok, throwIf_eq_ok, pure_eq_ok, not_not] at h
  obtain ⟨_, hallowed, _, hexpires, rfl⟩ := h
  have hsession : incident.status ≠ .pendingCustodians → status ≠ .active ∧
      status ≠ .pendingCustodians := by
    intro hpending
    cases hstatus : incident.status with
    | pendingCustodians => exact absurd hstatus hpending
    | canceled => rw [hstatus] at hallowed; cases hallowed
    | active | expired | closed =>
      rw [hstatus] at hallowed
      simp only [breakGlassTransitions, List.mem_cons, List.not_mem_nil, or_false] at hallowed
      grind
  refine ⟨⟨rfl, Nat.le_succ _, fun hversion ↦ absurd hversion (Nat.succ_ne_self _), ?_, ?_⟩, rfl,
    rfl, rfl, ?_⟩
  · intro hpending
    obtain ⟨hactive, hstill⟩ := hsession hpending
    refine ⟨hstill, ?_, ?_⟩ <;> exact if_neg fun hentered ↦ hactive hentered.1
  · rintro (hended | hended) <;> rw [hended] at hallowed ⊢ <;> exact List.mem_singleton.1 hallowed
  · rintro rfl
    have hne : incident.status ≠ .active := by
      intro hactive
      rw [hactive] at hallowed
      revert hallowed
      decide
    refine ⟨if_pos ⟨rfl, hne⟩, if_pos ⟨rfl, hne⟩, fun hnone ↦ hexpires ⟨rfl, hne, hnone⟩⟩

/-! ## What a commit writes -/

/-- What can be read of a store after a commit: an incident is there, with a decision or a review or
neither. -/
structure Commits (store store' : BreakGlassStore H) (incident : BreakGlassIncident H)
    (decisions : List (BreakGlassCustodianDecision H)) (reviews : List (BreakGlassReview H)) :
    Prop where
  filed : store'.Filed
  version : store.streamVersion .breakGlassIncident incident.breakGlassIncidentId + 1 =
    incident.version
  incidents : ∀ id, getBreakGlassIncident store' id =
    if id = incident.breakGlassIncidentId then some incident else getBreakGlassIncident store id
  decided : ∀ id, decisionsOn store' id =
    decisionsOn store id ++ decisions.filter (·.breakGlassIncidentId = id)
  reviewed : ∀ id, reviewsOf store' id =
    reviewsOf store id ++ reviews.filter (·.breakGlassIncidentId = id)

theorem getBreakGlassIncident_eq_some {store : BreakGlassStore H} {id : String}
    {incident : BreakGlassIncident H} :
    getBreakGlassIncident store id = some incident ↔
      store.projections.get (.breakGlassIncident, id) = some (.incident incident) := by
  rw [getBreakGlassIncident]
  rcases store.projections.get (.breakGlassIncident, id) with _ | (found | found | found) <;> simp

/-- An incident is stored under its own identifier, at the version of its stream. -/
theorem stored_incident {store : BreakGlassStore H} (hfiled : store.Filed) {id : String}
    {incident : BreakGlassIncident H} (h : getBreakGlassIncident store id = some incident) :
    incident.breakGlassIncidentId = id ∧
      store.streamVersion .breakGlassIncident id = incident.version := by
  obtain ⟨hkey, hversion⟩ := hfiled _ _ (getBreakGlassIncident_eq_some.1 h)
  exact ⟨congrArg Prod.snd hkey, hversion⟩

section Set

variable {store store' : BreakGlassStore H}

/-- An incident that is written is what is found, and no decision and no review. -/
theorem set_incident (hfiled : store.Filed) {incident : BreakGlassIncident H}
    (h : store'.projections = store.projections.set
      (.breakGlassIncident, incident.breakGlassIncidentId) (.incident incident)) :
    (∀ id, getBreakGlassIncident store' id =
      if id = incident.breakGlassIncidentId then some incident
      else getBreakGlassIncident store id) ∧
      (∀ id, decisionsOn store' id = decisionsOn store id) ∧
      ∀ id, reviewsOf store' id = reviewsOf store id := by
  have hold : ∀ value, store.projections.get
      (.breakGlassIncident, incident.breakGlassIncidentId) = some value →
      value.decision? = none ∧ value.review? = none := by
    intro value hvalue
    have hkey := (hfiled _ _ hvalue).1
    rcases value with found | found | found
    · exact ⟨rfl, rfl⟩
    · cases congrArg Prod.fst hkey
    · cases congrArg Prod.fst hkey
  refine ⟨fun id ↦ ?_, fun id ↦ ?_, fun id ↦ ?_⟩
  · rw [getBreakGlassIncident, h, InsertionMap.get_set]
    by_cases hid : id = incident.breakGlassIncidentId
    · rw [if_pos (by rw [hid]), if_pos hid]
    · rw [if_neg (fun heq ↦ hid (congrArg Prod.snd heq)), if_neg hid, getBreakGlassIncident]
  · rw [decisionsOn, h, InsertionMap.filterMap_values_set (fun w hw ↦ (hold w hw).1) rfl,
      decisionsOn]
  · rw [reviewsOf, h, InsertionMap.filterMap_values_set (fun w hw ↦ (hold w hw).2) rfl, reviewsOf]

theorem getBreakGlassIncident_set_of_ne {key : ProjectionKey} {value : BreakGlassProjection H}
    (h : store'.projections = store.projections.set key value)
    (hkey : key.1 ≠ .breakGlassIncident) (id : String) :
    getBreakGlassIncident store' id = getBreakGlassIncident store id := by
  rw [getBreakGlassIncident, h, InsertionMap.get_set_of_ne _ _ fun heq ↦
    hkey (congrArg Prod.fst heq).symm, getBreakGlassIncident]

theorem set_decision {decision : BreakGlassCustodianDecision H} {key : ProjectionKey}
    (hnew : store.projections.get key = none)
    (h : store'.projections = store.projections.set key (.custodianDecision decision)) :
    (∀ id, decisionsOn store' id =
      decisionsOn store id ++ [decision].filter (·.breakGlassIncidentId = id)) ∧
      ∀ id, reviewsOf store' id = reviewsOf store id := by
  have hvalues := InsertionMap.values_set_of_get_eq_none (.custodianDecision decision) hnew
  refine ⟨fun id ↦ ?_, fun id ↦ ?_⟩
  · rw [decisionsOn, h, hvalues, List.filterMap_append, List.filter_append]
    rfl
  · rw [reviewsOf, h, hvalues, List.filterMap_append, List.filter_append]
    exact List.append_nil _

theorem set_review {review : BreakGlassReview H} {key : ProjectionKey}
    (hnew : store.projections.get key = none)
    (h : store'.projections = store.projections.set key (.review review)) :
    (∀ id, decisionsOn store' id = decisionsOn store id) ∧
      ∀ id, reviewsOf store' id =
        reviewsOf store id ++ [review].filter (·.breakGlassIncidentId = id) := by
  have hvalues := InsertionMap.values_set_of_get_eq_none (.review review) hnew
  refine ⟨fun id ↦ ?_, fun id ↦ ?_⟩
  · rw [decisionsOn, h, hvalues, List.filterMap_append, List.filter_append]
    exact List.append_nil _
  · rw [reviewsOf, h, hvalues, List.filterMap_append, List.filter_append]
    rfl

/-- A stream without events has no record that is written only once. -/
theorem get_eq_none_of_streamVersion (hfiled : store.Filed) {type : ApprovalProjectionType}
    {id : String} (htype : type ≠ .breakGlassIncident)
    (hversion : store.streamVersion type id = 0) :
    store.projections.get (type, id) = none := by
  by_contra hsome
  obtain ⟨value, hvalue⟩ := Option.ne_none_iff_exists'.1 hsome
  obtain ⟨hkey, hstream⟩ := hfiled _ _ hvalue
  rw [hversion] at hstream
  rcases value with found | found | found
  · exact htype (congrArg Prod.fst hkey).symm
  · cases hstream
  · cases hstream

end Set

section Commit

variable [DecidableEq H] {hashId : BreakGlassProjection H → H} {store store' : BreakGlassStore H}
  {incident : BreakGlassIncident H} {previousVersion : ℕ} {idempotencyKey : String}
  {commandHash : H}

theorem commits_incident (hfiled : store.Filed) (hversion : incident.version = previousVersion + 1)
    (h : store.commitCommand hashId
      (incidentCommit incident previousVersion idempotencyKey commandHash) = .ok store') :
    Commits store store' incident [] [] := by
  obtain ⟨hstream, hversions, hprojections⟩ :=
    ApprovalStore.commitCommand_one rfl rfl ⟨rfl, hversion⟩ h
  obtain ⟨hincidents, hdecisions, hreviews⟩ := set_incident hfiled hprojections
  refine ⟨hfiled.set hversions hprojections, ?_, hincidents, fun id ↦ ?_, fun id ↦ ?_⟩
  · rw [hversion]
    exact congrArg (· + 1) hstream
  · rw [hdecisions id]
    exact (List.append_nil _).symm
  · rw [hreviews id]
    exact (List.append_nil _).symm

/-- The store between the two writes of a commit. -/
def midway (store : BreakGlassStore H) (value : BreakGlassProjection H) : BreakGlassStore H where
  commands := store.commands
  streamVersions := store.streamVersions.set (projectionKey value) (Projection.version value)
  projections := store.projections.set (projectionKey value) value

theorem commits_decision {decision : BreakGlassCustodianDecision H}
    {decisions : List (BreakGlassCustodianDecision H)} (hfiled : store.Filed)
    (hversion : incident.version = previousVersion + 1)
    (h : store.commitCommand hashId
      (decisionCommit incident previousVersion idempotencyKey commandHash decision decisions) =
        .ok store') :
    Commits store store' incident [decision] [] := by
  obtain ⟨hnew, hstream, hversions, hprojections⟩ :=
    ApprovalStore.commitCommand_two rfl rfl ⟨rfl, rfl⟩ ⟨rfl, hversion⟩
      (fun heq ↦ by cases congrArg Prod.fst heq) h
  have hmid : (midway store (.custodianDecision decision)).Filed := hfiled.set rfl rfl
  obtain ⟨hincidents, hdecisions, hreviews⟩ := set_incident hmid hprojections
  have hset : (midway store (.custodianDecision decision)).projections =
    store.projections.set (.breakGlassCustodianDecision, _) (.custodianDecision decision) := rfl
  obtain ⟨hdecisions', hreviews'⟩ :=
    set_decision (get_eq_none_of_streamVersion hfiled (by simp) hnew) hset
  have hincidents' := getBreakGlassIncident_set_of_ne hset (by simp)
  refine ⟨hmid.set hversions hprojections, ?_, fun id ↦ ?_, fun id ↦ ?_, fun id ↦ ?_⟩
  · rw [hversion]
    exact congrArg (· + 1) hstream
  · rw [hincidents id, hincidents' id]
  · rw [hdecisions id, hdecisions' id]
  · rw [hreviews id, hreviews' id]
    exact (List.append_nil _).symm

theorem commits_review {review : BreakGlassReview H} (hfiled : store.Filed)
    (hversion : incident.version = previousVersion + 1)
    (h : store.commitCommand hashId
      (reviewCommit incident previousVersion idempotencyKey commandHash review) = .ok store') :
    Commits store store' incident [] [review] := by
  obtain ⟨hnew, hstream, hversions, hprojections⟩ :=
    ApprovalStore.commitCommand_two rfl rfl ⟨rfl, rfl⟩ ⟨rfl, hversion⟩
      (fun heq ↦ by cases congrArg Prod.fst heq) h
  have hmid : (midway store (.review review)).Filed := hfiled.set rfl rfl
  obtain ⟨hincidents, hdecisions, hreviews⟩ := set_incident hmid hprojections
  have hset : (midway store (.review review)).projections =
    store.projections.set (.breakGlassReview, _) (.review review) := rfl
  obtain ⟨hdecisions', hreviews'⟩ :=
    set_review (get_eq_none_of_streamVersion hfiled (by simp) hnew) hset
  have hincidents' := getBreakGlassIncident_set_of_ne hset (by simp)
  refine ⟨hmid.set hversions hprojections, ?_, fun id ↦ ?_, fun id ↦ ?_, fun id ↦ ?_⟩
  · rw [hversion]
    exact congrArg (· + 1) hstream
  · rw [hincidents id, hincidents' id]
  · rw [hdecisions id, hdecisions' id]
    exact (List.append_nil _).symm
  · rw [hreviews id, hreviews' id]

end Commit

/-! ## The invariant of the records -/

/-- A session of the length that the incident allows. -/
def HasSession (incident : BreakGlassIncident H) : Prop :=
  ∃ activatedAt, incident.activatedAt = some activatedAt ∧
    incident.expiresAt = some (activatedAt + incident.maximumSessionMs)

/-- A decision that counts: of a custodian who is not the requester, before the deadline. -/
structure Confirms (terms : IncidentTerms) (decision : BreakGlassCustodianDecision H) : Prop where
  custodian : decision.custodianActorId ∈ terms.custodianActorIds
  notRequester : decision.custodianActorId ≠ terms.requestedByActorId
  inTime : decision.createdAt < terms.activationDeadline

/-- A review is due, and there is none. -/
def ReviewDue (incident : BreakGlassIncident H) (reviews : List (BreakGlassReview H)) : Prop :=
  (incident.reviewStatus = .pending ∨ incident.reviewStatus = .overdue) ∧ reviews = []

/-- The review owner has reviewed the incident, once. -/
def ReviewedOnce (incident : BreakGlassIncident H) (reviews : List (BreakGlassReview H)) : Prop :=
  incident.reviewStatus = .completed ∧
    ∃ review, reviews = [review] ∧ review.reviewerActorId = incident.reviewOwnerActorId

/-- What goes with each status. -/
def PhaseSound (incident : BreakGlassIncident H) (decisions : List (BreakGlassCustodianDecision H))
    (reviews : List (BreakGlassReview H)) : Prop :=
  match incident.status with
  | .pendingCustodians => decisions.length ≤ 1 ∧ reviews = []
  | .active => decisions.length = 2 ∧ HasSession incident ∧ reviews = []
  | .closed | .expired => decisions.length = 2 ∧ HasSession incident ∧
      (ReviewDue incident reviews ∨ ReviewedOnce incident reviews)
  | .canceled => False

/-- An incident with the decisions on it and its reviews. -/
structure IncidentSound (incident : BreakGlassIncident H)
    (decisions : List (BreakGlassCustodianDecision H)) (reviews : List (BreakGlassReview H)) :
    Prop where
  version : 1 ≤ incident.version
  protective : ∀ action ∈ incident.allowedActions, action ∈ breakGlassProtectiveActions
  confirms : ∀ decision ∈ decisions, Confirms incident.toIncidentTerms decision
  distinct : (decisions.map (·.custodianActorId)).Nodup
  phase : PhaseSound incident decisions reviews

/-- **The invariant of the records.** -/
structure StoreSound (store : BreakGlassStore H) : Prop where
  filed : store.Filed
  incidents : ∀ id incident, getBreakGlassIncident store id = some incident →
    IncidentSound incident (decisionsOn store id) (reviewsOf store id)
  absent : ∀ id, getBreakGlassIncident store id = none →
    decisionsOn store id = [] ∧ reviewsOf store id = []

theorem StoreSound.empty : StoreSound (H := H) ApprovalStore.empty :=
  ⟨(fun _ _ h ↦ by cases h), (fun _ _ h ↦ by cases h), fun _ _ ↦ ⟨rfl, rfl⟩⟩

/-- A store in which every incident has made progress, and where one that has not has the same
decisions. -/
structure Extends (store store' : BreakGlassStore H) : Prop where
  incidents : ∀ id incident, getBreakGlassIncident store id = some incident →
    ∃ current, getBreakGlassIncident store' id = some current ∧ Progress incident current
  decisions : ∀ id incident current, getBreakGlassIncident store id = some incident →
    getBreakGlassIncident store' id = some current → current.version = incident.version →
    decisionsOn store' id = decisionsOn store id

theorem Extends.refl (store : BreakGlassStore H) : Extends store store :=
  ⟨fun _ incident h ↦ ⟨incident, h, .refl incident⟩, fun _ _ _ _ _ _ ↦ rfl⟩

section Commits

variable {store store' : BreakGlassStore H} {incident updated : BreakGlassIncident H}
  {decisions : List (BreakGlassCustodianDecision H)} {reviews : List (BreakGlassReview H)}

/-- A commit keeps the records sound if the incident that it writes is. -/
theorem Commits.sound (hcommits : Commits store store' updated decisions reviews)
    (hsound : StoreSound store)
    (hdecisions : ∀ d ∈ decisions, d.breakGlassIncidentId = updated.breakGlassIncidentId)
    (hreviews : ∀ r ∈ reviews, r.breakGlassIncidentId = updated.breakGlassIncidentId)
    (hupdated : IncidentSound updated
      (decisionsOn store updated.breakGlassIncidentId ++ decisions)
      (reviewsOf store updated.breakGlassIncidentId ++ reviews)) : StoreSound store' := by
  have hother : ∀ id, id ≠ updated.breakGlassIncidentId →
      decisionsOn store' id = decisionsOn store id ∧ reviewsOf store' id = reviewsOf store id := by
    intro id hid
    rw [hcommits.decided, hcommits.reviewed, List.filter_eq_nil_iff.2, List.filter_eq_nil_iff.2,
      List.append_nil, List.append_nil]
    · exact ⟨rfl, rfl⟩
    · intro r hr heq
      exact hid ((of_decide_eq_true heq).symm.trans (hreviews r hr))
    · intro d hd heq
      exact hid ((of_decide_eq_true heq).symm.trans (hdecisions d hd))
  refine ⟨hcommits.filed, fun id current hcurrent ↦ ?_, fun id hnone ↦ ?_⟩
  · rw [hcommits.incidents] at hcurrent
    by_cases hid : id = updated.breakGlassIncidentId
    · rw [if_pos hid] at hcurrent
      obtain rfl := Option.some.inj hcurrent
      rw [hcommits.decided, hcommits.reviewed, hid, List.filter_eq_self.2, List.filter_eq_self.2]
      · exact hupdated
      · exact fun r hr ↦ decide_eq_true (hreviews r hr)
      · exact fun d hd ↦ decide_eq_true (hdecisions d hd)
    · rw [if_neg hid] at hcurrent
      rw [(hother id hid).1, (hother id hid).2]
      exact hsound.incidents id current hcurrent
  · rw [hcommits.incidents] at hnone
    by_cases hid : id = updated.breakGlassIncidentId
    · rw [if_pos hid] at hnone
      cases hnone
    · rw [if_neg hid] at hnone
      rw [(hother id hid).1, (hother id hid).2]
      exact hsound.absent id hnone

/-- A commit of an incident that has made progress extends the store. -/
theorem Commits.extends (hcommits : Commits store store' updated decisions reviews)
    (hdecisions : ∀ d ∈ decisions, d.breakGlassIncidentId = updated.breakGlassIncidentId)
    (hprogress : ∀ current, getBreakGlassIncident store updated.breakGlassIncidentId
      = some current →
      Progress current updated ∧ updated.version ≠ current.version) : Extends store store' := by
  refine ⟨fun id current hcurrent ↦ ?_, fun id before after hbefore hafter hversion ↦ ?_⟩
  · rw [hcommits.incidents]
    by_cases hid : id = updated.breakGlassIncidentId
    · rw [if_pos hid]
      exact ⟨updated, rfl, (hprogress current (hid ▸ hcurrent)).1⟩
    · rw [if_neg hid]
      exact ⟨current, hcurrent, .refl current⟩
  · rw [hcommits.incidents] at hafter
    by_cases hid : id = updated.breakGlassIncidentId
    · rw [if_pos hid] at hafter
      obtain rfl := Option.some.inj hafter
      exact absurd hversion (hprogress before (hid ▸ hbefore)).2
    · rw [hcommits.decided, List.filter_eq_nil_iff.2, List.append_nil]
      intro d hd heq
      exact hid ((of_decide_eq_true heq).symm.trans (hdecisions d hd))

end Commits

end Approval
end IpoOne
