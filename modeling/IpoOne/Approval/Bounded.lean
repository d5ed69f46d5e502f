import IpoOne.Approval.Incidents
import IpoOne.Lib.Run
import Mathlib

/-!
# Break-glass authority is bounded

Any number of calls run at once.  What a call has read may be out of date when it commits, and then
the repository refuses the commit: the invariant `CallSound` says of a call that waits that the
incident it holds is an earlier state of the stored one, and of a commit that it is worked out from
such an incident (`Planned`).

`break_glass_bounded` is the result: two custodians are needed, the session has an end, and nothing
that was ended begins again.
-/

set_option autoImplicit false

namespace IpoOne
namespace Approval

open Fallible

variable {H : Type}

/-! ## What a call knows -/

/-- The incident is an earlier state of the stored one. -/
def HasRead (store : BreakGlassStore H) (incident : BreakGlassIncident H) : Prop :=
  ∃ current, getBreakGlassIncident store incident.breakGlassIncidentId = some current ∧
    Progress incident current

/-- The decisions are those on the incident, if it is still at the version that was read. -/
def Listed (store : BreakGlassStore H) (incident : BreakGlassIncident H)
    (existing : List (BreakGlassCustodianDecision H)) : Prop :=
  ∀ current, getBreakGlassIncident store incident.breakGlassIncidentId = some current →
    current.version = incident.version →
      existing.Perm (decisionsOn store incident.breakGlassIncidentId)

theorem HasRead.mono {store store' : BreakGlassStore H} {incident : BreakGlassIncident H}
    (hextends : Extends store store') (h : HasRead store incident) : HasRead store' incident := by
  obtain ⟨current, hcurrent, hprogress⟩ := h
  obtain ⟨next, hnext, hprogress'⟩ := hextends.incidents _ current hcurrent
  exact ⟨next, hnext, hprogress.trans hprogress'⟩

theorem Listed.mono {store store' : BreakGlassStore H} {incident : BreakGlassIncident H}
    {existing : List (BreakGlassCustodianDecision H)} (hextends : Extends store store')
    (hread : HasRead store incident) (h : Listed store incident existing) :
    Listed store' incident existing := by
  intro next hnext hversion
  obtain ⟨current, hcurrent, hprogress⟩ := hread
  obtain ⟨next', hnext', hprogress'⟩ := hextends.incidents _ current hcurrent
  obtain rfl : next' = next := Option.some.inj (hnext'.symm.trans hnext)
  -- the version only grows, so that it has not changed in between
  have hcurrentVersion : current.version = incident.version :=
    le_antisymm (hversion ▸ hprogress'.version) hprogress.version
  rw [hextends.decisions _ current next' hcurrent hnext (hversion.trans hcurrentVersion.symm)]
  exact h current hcurrent hcurrentVersion

/-- A new incident. -/
structure Declared (incident : BreakGlassIncident H) : Prop where
  status : incident.status = .pendingCustodians
  version : incident.version = 1
  protective : ∀ action ∈ incident.allowedActions, action ∈ breakGlassProtectiveActions

/-- A commit that a call has worked out from what it has read. -/
inductive Planned (store : BreakGlassStore H) (request : BreakGlassRequest) :
    BreakGlassCommit H → Prop where
  | declared {incident : BreakGlassIncident H} {key : String} {commandHash : H}
      (hnew : Declared incident) : Planned store request (incidentCommit incident 0 key commandHash)
  | confirmed {incident updated : BreakGlassIncident H} {decision : BreakGlassCustodianDecision H}
      {existing : List (BreakGlassCustodianDecision H)} {key : String} {commandHash : H}
      {expectedVersion : ℕ} {hardwareKeyRefHash : String} {active : Prop} [Decidable active]
      (hcommand : request.command = .keyed (.confirmCustodian incident.breakGlassIncidentId
        expectedVersion hardwareKeyRefHash) key)
      (hread : HasRead store incident) (hlisted : Listed store incident existing)
      (hpending : incident.status = .pendingCustodians)
      (hincident : decision.breakGlassIncidentId = incident.breakGlassIncidentId)
      (hactor : decision.custodianActorId = request.context.actorId)
      (hcreated : decision.createdAt = request.now)
      (hconfirms : Confirms incident.toIncidentTerms decision)
      (hunique : ∀ other ∈ existing, other.custodianActorId ≠ decision.custodianActorId)
      (hactive : active ↔ ((existing ++ [decision]).map (·.custodianActorId)).dedup.length = 2)
      (htransition : transitionBreakGlassIncident incident
        (if active then .active else .pendingCustodians) .notRequired
        (if active then some (request.now + incident.maximumSessionMs) else none)
        (if active then some (request.now + incident.maximumSessionMs + breakGlassReviewWindowMs)
          else none) request.now = .ok updated) :
      Planned store request (decisionCommit updated incident.version key commandHash decision
        (existing ++ [decision]))
  | ended {incident updated : BreakGlassIncident H} {key : String} {commandHash : H}
      {status : BreakGlassIncidentStatus} {reviewStatus : BreakGlassReviewStatus}
      {reviewDueAt : Option ℕ} (hread : HasRead store incident) (hwas : incident.status = .active)
      (hstatus : status = .closed ∨ status = .expired)
      (hreview : reviewStatus = .pending ∨ reviewStatus = .overdue)
      (htransition : transitionBreakGlassIncident incident status reviewStatus none reviewDueAt
        request.now = .ok updated) :
      Planned store request (incidentCommit updated incident.version key commandHash)
  | reviewed {incident updated : BreakGlassIncident H} {review : BreakGlassReview H} {key : String}
      {commandHash : H} (hread : HasRead store incident)
      (hstatus : incident.status = .closed ∨ incident.status = .expired)
      (hdue : incident.reviewStatus = .pending ∨ incident.reviewStatus = .overdue)
      (hincident : review.breakGlassIncidentId = incident.breakGlassIncidentId)
      (hreviewer : review.reviewerActorId = incident.reviewOwnerActorId)
      (htransition : transitionBreakGlassIncident incident incident.status .completed none none
        request.now = .ok updated) :
      Planned store request (reviewCommit updated incident.version key commandHash review)

theorem Planned.mono {store store' : BreakGlassStore H} {request : BreakGlassRequest}
    {commit : BreakGlassCommit H} (hextends : Extends store store')
    (h : Planned store request commit) : Planned store' request commit := by
  cases h with
  | declared hnew => exact .declared hnew
  | confirmed hcommand hread hlisted hpending hincident hactor hcreated hconfirms hunique hactive
      htransition =>
    exact .confirmed hcommand (hread.mono hextends) (hlisted.mono hextends hread) hpending hincident
      hactor hcreated hconfirms hunique hactive htransition
  | ended hread hwas hstatus hreview htransition =>
    exact .ended (hread.mono hextends) hwas hstatus hreview htransition
  | reviewed hread hstatus hdue hincident hreviewer htransition =>
    exact .reviewed (hread.mono hextends) hstatus hdue hincident hreviewer htransition

/-! ## A commit keeps the records sound -/

section Sound

variable {store store' : BreakGlassStore H} {incident updated : BreakGlassIncident H}
  {decision : BreakGlassCustodianDecision H}
  {decisions existing : List (BreakGlassCustodianDecision H)} {reviews : List (BreakGlassReview H)}

/-- At the version that was read, the incident is the one that was read. -/
theorem current_of_commits (hsound : StoreSound store) (hread : HasRead store incident)
    (hcommits : Commits store store' updated decisions reviews)
    (hprogress : Progress incident updated)
    (hversion : updated.version = incident.version + 1) :
    getBreakGlassIncident store updated.breakGlassIncidentId = some incident := by
  obtain ⟨current, hcurrent, hprogress'⟩ := hread
  have hid := hprogress.breakGlassIncidentId_eq
  have hstream := hcommits.version
  rw [hid, (stored_incident hsound.filed hcurrent).2, hversion] at hstream
  rw [hid, hcurrent, hprogress'.same (Nat.succ.inj hstream)]

theorem nodup_custodians_append (hnodup : (decisions.map (·.custodianActorId)).Nodup)
    (hunique : ∀ other ∈ decisions, other.custodianActorId ≠ decision.custodianActorId) :
    ((decisions ++ [decision]).map (·.custodianActorId)).Nodup := by
  rw [List.map_append, List.nodup_append]
  refine ⟨hnodup, List.nodup_singleton _, ?_⟩
  intro actor hactor other hother
  obtain ⟨d, hd, rfl⟩ := List.mem_map.1 hactor
  rw [List.mem_singleton.1 hother]
  exact hunique d hd

/-- What a transition leaves of a sound incident. -/
theorem IncidentSound.of_progress (hincident : IncidentSound incident decisions reviews)
    (hprogress : Progress incident updated) {added : List (BreakGlassCustodianDecision H)}
    {reviews' : List (BreakGlassReview H)}
    (hconfirms : ∀ d ∈ added, Confirms incident.toIncidentTerms d)
    (hdistinct : ((decisions ++ added).map (·.custodianActorId)).Nodup)
    (hphase : PhaseSound updated (decisions ++ added) reviews') :
    IncidentSound updated (decisions ++ added) reviews' where
  version := hincident.version.trans hprogress.version
  protective := by
    have hactions := congrArg IncidentTerms.allowedActions hprogress.terms
    rw [hactions]
    exact hincident.protective
  confirms := by
    rw [hprogress.terms]
    intro d hd
    rcases List.mem_append.1 hd with hd | hd
    · exact hincident.confirms d hd
    · exact hconfirms d hd
  distinct := hdistinct
  phase := hphase

/-- A confirmation: the second one opens the session, and it is the only one that does. -/
theorem sound_confirmed {active : Prop} [Decidable active] {now : ℕ} {reviewDueAt : Option ℕ}
    (hincident : IncidentSound incident decisions reviews)
    (hpending : incident.status = .pendingCustodians) (hperm : existing.Perm decisions)
    (hcreated : decision.createdAt = now) (hconfirms : Confirms incident.toIncidentTerms decision)
    (hunique : ∀ other ∈ existing, other.custodianActorId ≠ decision.custodianActorId)
    (hactive : active ↔ ((existing ++ [decision]).map (·.custodianActorId)).dedup.length = 2)
    (htransition : transitionBreakGlassIncident incident
      (if active then .active else .pendingCustodians) .notRequired
      (if active then some (now + incident.maximumSessionMs) else none) reviewDueAt now =
        .ok updated) :
    IncidentSound updated (decisions ++ [decision]) reviews ∧
      (updated.status = .active →
        decisions.length = 1 ∧ updated.activatedAt = some decision.createdAt) := by
  obtain ⟨hprogress, -, hstatus, -, hsession⟩ := transition_ok htransition
  have hphase := hincident.phase
  rw [PhaseSound, hpending] at hphase
  obtain ⟨hlength, hreviews⟩ := hphase
  have hunique' : ∀ other ∈ decisions, other.custodianActorId ≠ decision.custodianActorId :=
    fun other hother ↦ hunique other (hperm.mem_iff.2 hother)
  have hdistinct := nodup_custodians_append hincident.distinct hunique'
  have hcount : active ↔ decisions.length = 1 := by
    have hnodup := nodup_custodians_append (hperm.map _ |>.nodup_iff.2 hincident.distinct) hunique
    rw [hactive, hnodup.dedup, List.length_map, List.length_append, hperm.length_eq,
      List.length_singleton]
    omega
  by_cases h : active
  · rw [if_pos h] at hstatus
    obtain ⟨hactivated, hexpires, -⟩ := hsession (if_pos h)
    rw [if_pos h] at hexpires
    have hone := hcount.1 h
    refine ⟨hincident.of_progress hprogress (List.forall_mem_singleton.2 hconfirms) hdistinct ?_,
      fun _ ↦ ⟨hone, hcreated ▸ hactivated⟩⟩
    rw [PhaseSound, hstatus]
    refine ⟨by rw [List.length_append, hone]; rfl, ⟨now, hactivated, ?_⟩, hreviews⟩
    rw [hexpires, congrArg IncidentTerms.maximumSessionMs hprogress.terms]
  · rw [if_neg h] at hstatus
    refine ⟨hincident.of_progress hprogress (List.forall_mem_singleton.2 hconfirms) hdistinct ?_,
      fun hnow ↦ ?_⟩
    · rw [PhaseSound, hstatus]
      refine ⟨?_, hreviews⟩
      rw [List.length_append, List.length_singleton]
      have hnot : decisions.length ≠ 1 := fun hone ↦ h (hcount.2 hone)
      omega
    · rw [hstatus] at hnow
      cases hnow

theorem HasSession.of_progress (h : HasSession incident) (hprogress : Progress incident updated)
    (hstatus : incident.status ≠ .pendingCustodians) : HasSession updated := by
  obtain ⟨activatedAt, hactivated, hexpires⟩ := h
  obtain ⟨-, hactivated', hexpires'⟩ := hprogress.session hstatus
  refine ⟨activatedAt, hactivated'.trans hactivated, ?_⟩
  rw [hexpires', hexpires, congrArg IncidentTerms.maximumSessionMs hprogress.terms]

/-- The end of a session, closed or expired. -/
theorem sound_ended {status : BreakGlassIncidentStatus} {reviewStatus : BreakGlassReviewStatus}
    {reviewDueAt : Option ℕ} {now : ℕ} (hincident : IncidentSound incident decisions reviews)
    (hwas : incident.status = .active) (hended : status = .closed ∨ status = .expired)
    (hreview : reviewStatus = .pending ∨ reviewStatus = .overdue)
    (htransition : transitionBreakGlassIncident incident status reviewStatus none reviewDueAt now =
      .ok updated) :
    IncidentSound updated (decisions ++ []) reviews := by
  obtain ⟨hprogress, -, hstatus, hreviewStatus, -⟩ := transition_ok htransition
  have hphase := hincident.phase
  rw [PhaseSound, hwas] at hphase
  obtain ⟨hlength, hsession, hreviews⟩ := hphase
  have hsession' := hsession.of_progress hprogress (by rw [hwas]; decide)
  refine hincident.of_progress hprogress (fun _ h ↦ by cases h) (by
    rw [List.append_nil]
    exact hincident.distinct) ?_
  rw [List.append_nil]
  rw [← hreviewStatus] at hreview
  rw [← hstatus] at hended
  rw [PhaseSound]
  rcases hended with hended | hended <;>
    · rw [hended]
      exact ⟨hlength, hsession', .inl ⟨hreview, hreviews⟩⟩

/-- The review of an incident that has ended. -/
theorem sound_reviewed {review : BreakGlassReview H} {now : ℕ}
    (hincident : IncidentSound incident decisions reviews)
    (hended : incident.status = .closed ∨ incident.status = .expired)
    (hdue : incident.reviewStatus = .pending ∨ incident.reviewStatus = .overdue)
    (hreviewer : review.reviewerActorId = incident.reviewOwnerActorId)
    (htransition : transitionBreakGlassIncident incident incident.status .completed none none now =
      .ok updated) :
    IncidentSound updated (decisions ++ []) (reviews ++ [review]) := by
  obtain ⟨hprogress, -, hstatus, hreviewStatus, -⟩ := transition_ok htransition
  have howner := congrArg IncidentTerms.reviewOwnerActorId hprogress.terms
  have hphase := hincident.phase
  have hboth : decisions.length = 2 ∧ HasSession incident ∧
      (ReviewDue incident reviews ∨ ReviewedOnce incident reviews) := by
    rw [PhaseSound] at hphase
    rcases hended with hended | hended <;>
      · rw [hended] at hphase
        exact hphase
  obtain ⟨hlength, hsession, hreview⟩ := hboth
  have hnone : reviews = [] := by
    rcases hreview with hreview | hreview
    · exact hreview.2
    · rw [hreview.1] at hdue
      rcases hdue with hdue | hdue <;> cases hdue
  have hsession' := hsession.of_progress hprogress
      (by rcases hended with h | h <;> rw [h] <;> decide)
  have hdone : ReviewedOnce updated (reviews ++ [review]) := by
    refine ⟨hreviewStatus, review, by rw [hnone]; rfl, ?_⟩
    rw [hreviewer, howner]
  refine hincident.of_progress hprogress (fun _ h ↦ by cases h) (by
    rw [List.append_nil]
    exact hincident.distinct) ?_
  rw [List.append_nil, PhaseSound]
  rw [← hstatus] at hended
  rcases hended with hended | hended <;>
    · rw [hended]
      exact ⟨hlength, hsession', .inr hdone⟩

end Sound

/-- The incident becomes active in the one store and was not in the other, by the second of two
confirmations, which this request gives. -/
structure Activates (request : BreakGlassRequest) (store store' : BreakGlassStore H) (id : String)
    (incident : BreakGlassIncident H) (first second : BreakGlassCustodianDecision H) : Prop where
  before : decisionsOn store id = [first]
  after : decisionsOn store' id = [first, second]
  distinct : first.custodianActorId ≠ second.custodianActorId
  confirms : Confirms incident.toIncidentTerms first
  confirms' : Confirms incident.toIncidentTerms second
  activatedAt : incident.activatedAt = some second.createdAt
  actor : request.context.actorId = second.custodianActorId
  instant : request.now = second.createdAt
  command : ∃ expectedVersion hardwareKeyRefHash key,
    request.command = .keyed (.confirmCustodian id expectedVersion hardwareKeyRefHash) key

/-- Whatever becomes active does so by its second confirmation. -/
def ActivatesOnly (request : BreakGlassRequest) (store store' : BreakGlassStore H) : Prop :=
  ∀ id incident, getBreakGlassIncident store' id = some incident → incident.status = .active →
    getBreakGlassIncident store id = some incident ∨
      ∃ first second, Activates request store store' id incident first second

section Commit

variable [DecidableEq H] {hashId : BreakGlassProjection H → H} {store store' : BreakGlassStore H}

omit [DecidableEq H] in
/-- A commit of something that is not active activates nothing. -/
theorem activatesOnly_of_commits {request : BreakGlassRequest} {updated : BreakGlassIncident H}
    {decisions : List (BreakGlassCustodianDecision H)} {reviews : List (BreakGlassReview H)}
    (hcommits : Commits store store' updated decisions reviews)
    (hstatus : updated.status ≠ .active) :
    ActivatesOnly request store store' := by
  intro id incident hincident hactive
  rw [hcommits.incidents] at hincident
  by_cases hid : id = updated.breakGlassIncidentId
  · rw [if_pos hid] at hincident
    obtain rfl := Option.some.inj hincident
    exact absurd hactive hstatus
  · rw [if_neg hid] at hincident
    exact .inl hincident

/-- **A commit** that was planned keeps the records sound, lets every incident make progress, and
activates one only by its second confirmation. -/
theorem Planned.commit {request : BreakGlassRequest} {commit : BreakGlassCommit H}
    (hplanned : Planned store request commit) (hsound : StoreSound store)
    (h : store.commitCommand hashId commit = .ok store') :
    StoreSound store' ∧ Extends store store' ∧ ActivatesOnly request store store' := by
  cases hplanned with
  | @declared incident key commandHash hnew =>
    have hcommits := commits_incident hsound.filed (by rw [hnew.version]) h
    -- the identifier is not in use, or the stream would have events
    have habsent : getBreakGlassIncident store incident.breakGlassIncidentId = none := by
      by_contra hsome
      obtain ⟨current, hcurrent⟩ := Option.ne_none_iff_exists'.1 hsome
      have hstream := hcommits.version
      rw [(stored_incident hsound.filed hcurrent).2, hnew.version] at hstream
      have hversion := (hsound.incidents _ current hcurrent).version
      omega
    obtain ⟨hdecisions, hreviews⟩ := hsound.absent _ habsent
    refine ⟨hcommits.sound hsound (fun _ hd ↦ by cases hd) (fun _ hr ↦ by cases hr) ?_,
      hcommits.extends (fun _ hd ↦ by cases hd) fun current hcurrent ↦ ?_,
      activatesOnly_of_commits hcommits (by rw [hnew.status]; decide)⟩
    · rw [hdecisions, hreviews]
      refine ⟨by rw [hnew.version], hnew.protective, List.forall_mem_nil _, List.nodup_nil, ?_⟩
      rw [PhaseSound, hnew.status]
      exact ⟨Nat.zero_le _, rfl⟩
    · rw [habsent] at hcurrent
      cases hcurrent
  | @confirmed incident updated decision existing key commandHash expectedVersion hardwareKeyRefHash
      active _ hcommand hread hlisted hpending hincident hactor hcreated hconfirms hunique hactive
      htransition =>
    obtain ⟨hprogress, hversion, -⟩ := transition_ok htransition
    have hid := hprogress.breakGlassIncidentId_eq
    have hcommits := commits_decision hsound.filed hversion h
    have hcurrent := current_of_commits hsound hread hcommits hprogress hversion
    have hperm := hlisted incident (hid ▸ hcurrent) rfl
    rw [← hid] at hperm
    obtain ⟨hsound', hsecond⟩ := sound_confirmed (hsound.incidents _ incident hcurrent) hpending
      hperm hcreated hconfirms hunique hactive htransition
    have hof : ∀ d ∈ [decision], d.breakGlassIncidentId = updated.breakGlassIncidentId :=
      List.forall_mem_singleton.2 (hincident.trans hid.symm)
    refine ⟨hcommits.sound hsound hof (fun _ hr ↦ by cases hr) (by rwa [List.append_nil]),
      hcommits.extends hof fun current hcurrent' ↦ ?_, fun id activated hactivated hstatus ↦ ?_⟩
    · obtain rfl := Option.some.inj (hcurrent.symm.trans hcurrent')
      exact ⟨hprogress, by rw [hversion]; exact Nat.succ_ne_self _⟩
    · rw [hcommits.incidents] at hactivated
      by_cases hsame : id = updated.breakGlassIncidentId
      · rw [if_pos hsame] at hactivated
        obtain rfl := Option.some.inj hactivated
        obtain ⟨hone, hat⟩ := hsecond hstatus
        obtain ⟨first, hfirst⟩ := List.length_eq_one_iff.1 hone
        have hdecided := hcommits.decided updated.breakGlassIncidentId
        rw [hfirst, List.filter_eq_self.2 (fun d hd ↦ decide_eq_true (hof d hd))] at hdecided
        rw [hfirst] at hsound' hperm
        have hmem := hperm.mem_iff.2 (List.mem_singleton_self first)
        exact .inr ⟨first, decision, hsame ▸ hfirst, hsame ▸ hdecided, hunique first hmem,
          hsound'.confirms first (by simp), hsound'.confirms decision (by simp), hat, hactor.symm,
          hcreated.symm, expectedVersion, hardwareKeyRefHash, key, by rw [hcommand, hsame, hid]⟩
      · rw [if_neg hsame] at hactivated
        exact .inl hactivated
  | @ended incident updated key commandHash status reviewStatus reviewDueAt hread hwas
    hended hreview
      htransition =>
    obtain ⟨hprogress, hversion, hstatus, -⟩ := transition_ok htransition
    have hcommits := commits_incident hsound.filed hversion h
    have hcurrent := current_of_commits hsound hread hcommits hprogress hversion
    refine ⟨hcommits.sound hsound (fun _ hd ↦ by cases hd) (fun _ hr ↦ by cases hr) ?_,
      hcommits.extends (fun _ hd ↦ by cases hd) fun current hcurrent' ↦ ?_,
      activatesOnly_of_commits hcommits ?_⟩
    · rw [List.append_nil (reviewsOf store updated.breakGlassIncidentId)]
      exact sound_ended (hsound.incidents _ incident hcurrent) hwas hended hreview htransition
    · obtain rfl := Option.some.inj (hcurrent.symm.trans hcurrent')
      exact ⟨hprogress, by rw [hversion]; exact Nat.succ_ne_self _⟩
    · rw [hstatus]
      rcases hended with rfl | rfl <;> decide
  | @reviewed incident updated review key commandHash hread hended hdue hincident hreviewer
      htransition =>
    obtain ⟨hprogress, hversion, hstatus, -⟩ := transition_ok htransition
    have hid := hprogress.breakGlassIncidentId_eq
    have hcommits := commits_review hsound.filed hversion h
    have hcurrent := current_of_commits hsound hread hcommits hprogress hversion
    refine ⟨hcommits.sound hsound (fun _ hd ↦ by cases hd)
      (List.forall_mem_singleton.2 (hincident.trans hid.symm)) ?_,
      hcommits.extends (fun _ hd ↦ by cases hd) fun current hcurrent' ↦ ?_,
      activatesOnly_of_commits hcommits ?_⟩
    · exact sound_reviewed (hsound.incidents _ incident hcurrent) hended hdue hreviewer htransition
    · obtain rfl := Option.some.inj (hcurrent.symm.trans hcurrent')
      exact ⟨hprogress, by rw [hversion]; exact Nat.succ_ne_self _⟩
    · rw [hstatus]
      rcases hended with hended | hended <;> rw [hended] <;> decide

end Commit

/-! ## Segments -/

/-- What a call that waits knows. -/
def CallSound (store : BreakGlassStore H) (request : BreakGlassRequest) : BreakGlassCall H → Prop
  | .authenticating action key => request.command = .keyed action key
  | .searched command => request.command = .keyed command.action command.idempotencyKey
  | .read command incident =>
    request.command = .keyed command.action command.idempotencyKey ∧ HasRead store incident ∧
      ∀ id expectedVersion hardwareKeyRefHash,
        command.action = .confirmCustodian id expectedVersion hardwareKeyRefHash →
          incident.breakGlassIncidentId = id
  | .listed expectedVersion hardwareKeyRefHash command incident existing =>
    request.command = .keyed (.confirmCustodian incident.breakGlassIncidentId expectedVersion
      hardwareKeyRefHash) command.idempotencyKey ∧
      HasRead store incident ∧ Listed store incident existing
  | .reviewing _ _ incident _ => HasRead store incident ∧
      (incident.status = .closed ∨ incident.status = .expired) ∧
      (incident.reviewStatus = .pending ∨ incident.reviewStatus = .overdue)
  | .scoping _ incident | .validating _ incident => HasRead store incident
  | .proving _ incident =>
    HasRead store incident ∧ incident.requestedByActorId = request.context.actorId
  | .committing commit _ => Planned store request commit
  | .revalidating _ | .done _ => True

theorem CallSound.mono {store store' : BreakGlassStore H} {request : BreakGlassRequest}
    {call : BreakGlassCall H} (hextends : Extends store store') (h : CallSound store request call) :
    CallSound store' request call := by
  cases call with
  | authenticating => exact h
  | searched => exact h
  | read => exact ⟨h.1, h.2.1.mono hextends, h.2.2⟩
  | listed => exact ⟨h.1, h.2.1.mono hextends, h.2.2.mono hextends h.2.1⟩
  | reviewing => exact ⟨h.1.mono hextends, h.2⟩
  | scoping => exact HasRead.mono hextends h
  | proving => exact ⟨h.1.mono hextends, h.2⟩
  | committing => exact Planned.mono hextends h
  | validating => exact HasRead.mono hextends h
  | revalidating => trivial
  | done => trivial

/-- An authorisation that is within its incident. -/
structure AuthorizationSound (store : BreakGlassStore H)
    (authorization : BreakGlassAuthorization H) (incident : BreakGlassIncident H) : Prop where
  stored : getBreakGlassIncident store authorization.breakGlassIncidentId = some incident
  activated : incident.status ≠ .pendingCustodians
  action : authorization.action ∈ incident.allowedActions
  resource : (⟨authorization.resourceType, authorization.resourceId⟩ : ResourceScope) ∈
    incident.resourceScopes
  requester : authorization.executorActorId = incident.requestedByActorId
  expiresAt : authorization.expiresAt = incident.expiresAt

/-- What is within an incident stays within it. -/
theorem AuthorizationSound.progress {store store' : BreakGlassStore H}
    {authorization : BreakGlassAuthorization H} {incident current : BreakGlassIncident H}
    (h : AuthorizationSound store authorization incident)
    (hstored : getBreakGlassIncident store' authorization.breakGlassIncidentId = some current)
    (hprogress : Progress incident current) :
    AuthorizationSound store' authorization current := by
  obtain ⟨hactivated, -, hexpires⟩ := hprogress.session h.activated
  refine ⟨hstored, hactivated, ?_, ?_, ?_, h.expiresAt.trans hexpires.symm⟩
  · rw [hprogress.terms]
    exact h.action
  · rw [hprogress.terms]
    exact h.resource
  · rw [hprogress.terms]
    exact h.requester

section Segment

variable {store : BreakGlassStore H} {request : BreakGlassRequest} {incident : BreakGlassIncident H}

theorem requireIncident_ok (hsound : StoreSound store) {id : String}
    (h : requireIncident store id = .ok incident) :
    HasRead store incident ∧ incident.breakGlassIncidentId = id := by
  simp only [requireIncident, bind_eq_ok] at h
  obtain ⟨_, _, h⟩ := h
  rcases hget : getBreakGlassIncident store id with _ | found
  · rw [hget] at h
    cases h
  · rw [hget] at h
    obtain rfl := pure_eq_ok.1 h
    have hid := (stored_incident hsound.filed hget).1
    exact ⟨⟨found, hid.symm ▸ hget, .refl found⟩, hid⟩

variable [DecidableEq H] {hashId : BreakGlassPreimage H → H}
  {referenceHash : String → String → String} {answers : Answers} {next : BreakGlassCall H}

theorem commitIncident_ok {commit : BreakGlassCommit H} {after : AfterCommit}
    (hplanned : Planned store request commit) (h : commitIncident store commit after = .ok next) :
    CallSound store request next := by
  simp only [commitIncident, bind_eq_ok] at h
  obtain ⟨_ | response, _, h⟩ := h
  · obtain rfl := pure_eq_ok.1 h
    exact hplanned
  · obtain rfl := pure_eq_ok.1 h
    trivial

theorem expireIncident_ok (hread : HasRead store incident)
    (hexpired : hasExpired incident request.now)
    (h : expireIncident hashId store incident request.now = .ok next) :
    CallSound store request next := by
  simp only [expireIncident, bind_eq_ok] at h
  obtain ⟨updated, htransition, h⟩ := h
  refine commitIncident_ok (.ended hread hexpired.1 (.inr rfl) ?_ htransition) h
  split
  · exact .inr rfl
  · exact .inl rfl

theorem declareIncident_ok {command : KeyedCommand H} {reasonCode operationalId : String}
    {allowedActions : List String} {resourceScopes : List ResourceScope}
    (h : declareIncident hashId referenceHash store request command reasonCode allowedActions
      resourceScopes operationalId = .ok next) : CallSound store request next := by
  simp only [declareIncident, bind_eq_ok] at h
  obtain ⟨incident, hcreated, h⟩ := h
  refine commitIncident_ok (.declared ?_) h
  simp only [createBreakGlassIncident, assertProtectiveActions, bind_eq_ok, pure_eq_ok,
    throwIf_eq_ok, not_or] at hcreated
  obtain ⟨_, _, _, _, _, ⟨_, _, hactions, _⟩, hrest⟩ := hcreated
  obtain ⟨_, _, _, _, _, _, _, _, _, _, _, _, _, _, _, _, _, _, _, _, _, _, rfl⟩ := hrest
  refine ⟨rfl, rfl, fun action hmem ↦ ?_⟩
  by_contra hnot
  exact hactions ⟨action, hmem, hnot⟩

theorem confirmCustodian_ok {command : KeyedCommand H} {expectedVersion : ℕ}
    {hardwareKeyRefHash operationalId : String}
    {existing : List (BreakGlassCustodianDecision H)}
    (hcommand : request.command = .keyed (.confirmCustodian incident.breakGlassIncidentId
      expectedVersion hardwareKeyRefHash) command.idempotencyKey)
    (hread : HasRead store incident) (hlisted : Listed store incident existing)
    (h : confirmCustodian hashId store request command expectedVersion hardwareKeyRefHash incident
      existing operationalId = .ok next) : CallSound store request next := by
  simp only [confirmCustodian, bind_eq_ok, throwIf_eq_ok] at h
  obtain ⟨_, hchecks, decision, hdecision, updated, htransition, h⟩ := h
  simp only [not_or, not_not, not_exists, not_and, not_le] at hchecks
  obtain ⟨-, -, hpending, hrequester, hcustodian, hdeadline, hunique⟩ := hchecks
  -- the decision is the caller's, at the instant of the call
  have hfields : decision.breakGlassIncidentId = incident.breakGlassIncidentId ∧
      decision.custodianActorId = request.context.actorId ∧ decision.createdAt = request.now := by
    simp only [createBreakGlassCustodianDecision, bind_eq_ok] at hdecision
    obtain ⟨_, _, _, _, _, _, _, _, _, _, _, _, hdecision⟩ := hdecision
    rcases hauth : request.context.authTime with _ | authTime
    · rw [hauth] at hdecision
      cases hdecision
    · rw [hauth] at hdecision
      simp only [bind_eq_ok, pure_eq_ok] at hdecision
      obtain ⟨_, _, rfl⟩ := hdecision
      exact ⟨rfl, rfl, rfl⟩
  obtain ⟨hof, hactor, hcreated⟩ := hfields
  refine commitIncident_ok (.confirmed hcommand hread hlisted hpending hof hactor hcreated
    ⟨hactor ▸ hcustodian, fun heq ↦ hrequester (heq.symm.trans hactor), hcreated ▸ hdeadline⟩
    (fun other hother ↦ hactor ▸ hunique other hother) Iff.rfl htransition) h

theorem close_ok {command : KeyedCommand H} {expectedVersion : ℕ} (hread : HasRead store incident)
    (h : close hashId store request command expectedVersion incident = .ok next) :
    CallSound store request next := by
  rw [close] at h
  split at h
  · exact expireIncident_ok hread ‹_› h
  · simp only [bind_eq_ok, throwIf_eq_ok] at h
    obtain ⟨_, hchecks, updated, htransition, h⟩ := h
    simp only [not_or, not_not] at hchecks
    exact commitIncident_ok (.ended hread hchecks.2.2.1 (.inl rfl) (.inl rfl) htransition) h

theorem review_ok {command : KeyedCommand H} {findingsRefHash operationalId : String}
    {existing : Option (BreakGlassReview H)} (hread : HasRead store incident)
    (hended : incident.status = .closed ∨ incident.status = .expired)
    (hdue : incident.reviewStatus = .pending ∨ incident.reviewStatus = .overdue)
    (h : review hashId store request command findingsRefHash incident existing operationalId =
      .ok next) : CallSound store request next := by
  simp only [review, bind_eq_ok, throwIf_eq_ok] at h
  obtain ⟨_, _, record, hrecord, updated, htransition, h⟩ := h
  simp only [createBreakGlassReview, bind_eq_ok, throwIf_eq_ok, pure_eq_ok, not_or, not_not]
    at hrecord
  obtain ⟨_, ⟨-, hreviewer⟩, _, _, _, _, _, _, rfl⟩ := hrecord
  exact commitIncident_ok (.reviewed hread hended hdue rfl hreviewer htransition) h

/-- **A segment that writes nothing** goes on with something that the call knows. -/
theorem advance_ok {call : BreakGlassCall H} (hsound : StoreSound store)
    (hcall : CallSound store request call)
    (h : advance hashId referenceHash store request answers call = .ok next) :
    CallSound store request next := by
  cases call with
  | authenticating action key =>
    simp only [advance, findKeyed, bind_eq_ok] at h
    obtain ⟨_, _, commandHash, _, _ | response, _, h⟩ := h
    · obtain rfl := pure_eq_ok.1 h
      exact hcall
    · obtain rfl := pure_eq_ok.1 h
      trivial
  | searched command =>
    rcases haction : command.action with _ | ⟨id, version, key⟩ | ⟨id, version⟩
      | ⟨id, version, hash⟩
    · simp only [advance, beginKeyed, haction] at h
      exact declareIncident_ok h
    all_goals
      simp only [advance, beginKeyed, haction, bind_eq_ok, pure_eq_ok] at h
      obtain ⟨incident, hrequire, rfl⟩ := h
      obtain ⟨hread, hid⟩ := requireIncident_ok hsound hrequire
      refine ⟨hcall, hread, fun id' _ _ haction' ↦ ?_⟩
      rw [haction] at haction'
      cases haction'
    exact hid
  | read command incident =>
    obtain ⟨hcommand, hread, hconfirm⟩ := hcall
    simp only [advance, performKeyed] at h
    split at h
    · obtain rfl := pure_eq_ok.1 h
      exact ⟨hcommand, hread, hconfirm⟩
    · rename_i id expectedVersion hardwareKeyRefHash haction
      obtain rfl := pure_eq_ok.1 h
      have hid := hconfirm _ _ _ haction
      refine ⟨?_, hread, fun current _ _ ↦ ?_⟩
      · rw [hcommand, haction, hid]
      · rw [hid]
        exact List.perm_insertionSort _ _
    · exact close_ok hread h
    · simp only [beginReview, bind_eq_ok, throwIf_eq_ok, pure_eq_ok] at h
      obtain ⟨_, hchecks, rfl⟩ := h
      rw [not_or, not_or, not_or, not_or, not_not, not_not, not_not, not_not, not_not] at hchecks
      simp only [List.mem_cons, List.not_mem_nil, or_false] at hchecks
      exact ⟨hread, hchecks.2.2.2.1, hchecks.2.2.2.2⟩
  | listed expectedVersion hardwareKeyRefHash command incident existing =>
    exact confirmCustodian_ok hcall.1 hcall.2.1 hcall.2.2 h
  | reviewing findingsRefHash command incident existing =>
    exact review_ok hcall.1 hcall.2.1 hcall.2.2 h
  | scoping scope incident =>
    simp only [advance, scopeIncident, bind_eq_ok, throwIf_eq_ok] at h
    obtain ⟨_, hchecks, h⟩ := h
    simp only [not_or, not_not] at hchecks
    split at h
    · exact expireIncident_ok hcall ‹_› h
    · simp only [bind_eq_ok, pure_eq_ok] at h
      obtain ⟨_, _, rfl⟩ := h
      exact ⟨hcall, hchecks.2⟩
  | proving scope incident =>
    obtain rfl := pure_eq_ok.1 h
    exact hcall
  | revalidating authorization =>
    simp only [advance, bind_eq_ok, pure_eq_ok] at h
    obtain ⟨_, _, incident, hrequire, rfl⟩ := h
    exact (requireIncident_ok hsound hrequire).1
  | validating authorization incident =>
    rw [advance, validateAuthorization] at h
    split at h
    · exact expireIncident_ok hcall ‹_› h
    · simp only [bind_eq_ok, pure_eq_ok] at h
      obtain ⟨_, _, rfl⟩ := h
      trivial
  | committing commit after =>
    obtain rfl := pure_eq_ok.1 h
    exact hcall
  | done result =>
    obtain rfl := pure_eq_ok.1 h
    trivial

omit [DecidableEq H] in
theorem begin_ok {state : BreakGlassState H} (hsound : StoreSound state.store)
    (h : begin state request = .ok next) : CallSound state.store request next := by
  simp only [begin, bind_eq_ok] at h
  obtain ⟨_, _, h⟩ := h
  rcases hcommand : request.command with ⟨action, key⟩ | scope | authorization
  · simp only [hcommand, bind_eq_ok, pure_eq_ok] at h
    obtain ⟨_, _, rfl⟩ := h
    exact hcommand
  · simp only [hcommand, bind_eq_ok, pure_eq_ok] at h
    obtain ⟨_, _, incident, hrequire, rfl⟩ := h
    exact (requireIncident_ok hsound hrequire).1
  · simp only [hcommand, bind_eq_ok, pure_eq_ok] at h
    obtain ⟨_, _, _, _, rfl⟩ := h
    trivial

omit [DecidableEq H] in
theorem settle_sound {result : Domain (BreakGlassCall H)}
    (h : ∀ next, result = .ok next → CallSound store request next) :
    CallSound store request (settle result) := by
  rcases result with error | next
  · trivial
  · exact h next rfl

omit [DecidableEq H] in
theorem proveScope_ok {scope : ProtectiveScope} {authorization : BreakGlassAuthorization H}
    (hread : HasRead store incident)
    (hrequester : incident.requestedByActorId = request.context.actorId)
    (h : proveScope hashId request answers scope incident = .ok authorization) :
    ∃ current, AuthorizationSound store authorization current := by
  simp only [proveScope, bind_eq_ok, throwIf_eq_ok, pure_eq_ok, not_or, not_not] at h
  obtain ⟨_, _, _, _, _, _, _, _, _, ⟨hactive, haction, -, hresource⟩, rfl⟩ := h
  obtain ⟨current, hcurrent, hprogress⟩ := hread
  obtain ⟨hactivated, -, hexpires⟩ := hprogress.session (by rw [hactive]; decide)
  refine ⟨current, hcurrent, hactivated, ?_, ?_, ?_, hexpires.symm⟩
  · rw [hprogress.terms]
    exact haction
  · rw [hprogress.terms]
    exact hresource
  · rw [hprogress.terms]
    exact hrequester.symm

end Segment

/-! ## Runs -/

/-- **The invariant of the service.** -/
structure StateSound (state : BreakGlassState H) : Prop where
  store : StoreSound state.store
  trusted : ∀ authorization ∈ state.trusted,
    ∃ incident, AuthorizationSound state.store authorization incident
  calls : ∀ entry ∈ state.calls, CallSound state.store entry.1 entry.2

section Run

variable [DecidableEq H] (hashId : BreakGlassPreimage H → H)
  (referenceHash : String → String → String)

/-- What a segment does to what all calls share. -/
theorem resume_sound {state : BreakGlassState H} (hsound : StateSound state)
    {request : BreakGlassRequest} {call next : BreakGlassCall H} {answers : Answers}
    {store' : BreakGlassStore H} {trusted' : List (BreakGlassAuthorization H)}
    (hcall : CallSound state.store request call)
    (h : resume hashId referenceHash state.store state.trusted request answers call =
      (store', trusted', next)) :
    StoreSound store' ∧ Extends state.store store' ∧ ActivatesOnly request state.store store' ∧
      CallSound store' request next ∧
      ∀ authorization ∈ trusted', authorization ∈ state.trusted ∨
        ∃ incident, AuthorizationSound store' authorization incident := by
  have hsame : ActivatesOnly request state.store state.store := fun _ _ hstored _ ↦ .inl hstored
  cases call with
  | committing commit after =>
    simp only [resume] at h
    rcases hcommit : state.store.commitCommand (fun value ↦ hashId (.projection value)) commit with
      error | written
    · simp only [hcommit, Prod.mk.injEq] at h
      obtain ⟨rfl, rfl, rfl⟩ := h
      exact ⟨hsound.store, .refl _, hsame, trivial, fun _ ha ↦ .inl ha⟩
    · simp only [hcommit, Prod.mk.injEq] at h
      obtain ⟨rfl, rfl, rfl⟩ := h
      obtain ⟨hwritten, hextends, hactivates⟩ := Planned.commit hcall hsound.store hcommit
      exact ⟨hwritten, hextends, hactivates, trivial, fun _ ha ↦ .inl ha⟩
  | proving scope incident =>
    simp only [resume] at h
    rcases hprove : proveScope hashId request answers scope incident with error | authorization
    · simp only [hprove, Prod.mk.injEq] at h
      obtain ⟨rfl, rfl, rfl⟩ := h
      exact ⟨hsound.store, .refl _, hsame, trivial, fun _ ha ↦ .inl ha⟩
    · simp only [hprove, Prod.mk.injEq] at h
      obtain ⟨rfl, rfl, rfl⟩ := h
      refine ⟨hsound.store, .refl _, hsame, trivial, fun a ha ↦ ?_⟩
      rcases List.mem_append.1 ha with ha | ha
      · exact .inl ha
      · rw [List.mem_singleton.1 ha]
        exact .inr (proveScope_ok hcall.1 hcall.2 hprove)
  | _ =>
    simp only [resume, Prod.mk.injEq] at h
    obtain ⟨rfl, rfl, rfl⟩ := h
    exact ⟨hsound.store, .refl _, hsame,
      settle_sound fun next hnext ↦ advance_ok hsound.store hcall hnext, fun _ ha ↦ .inl ha⟩

/-- The request whose segment an input is. -/
def BreakGlassState.requestOf (state : BreakGlassState H) : BreakGlassInput →
    Option BreakGlassRequest
  | .call _ => none
  | .resume n _ => (state.calls[n]?).map Prod.fst

/-- **One step** keeps the service sound; an incident that becomes active does so by the second
confirmation. -/
theorem step_sound {state : BreakGlassState H} (hsound : StateSound state)
    (input : BreakGlassInput) :
    StateSound (state.step hashId referenceHash input) ∧
      Extends state.store (state.step hashId referenceHash input).store ∧
      ((state.step hashId referenceHash input).store = state.store ∨
        ∃ request, state.requestOf input = some request ∧
          ActivatesOnly request state.store (state.step hashId referenceHash input).store) := by
  cases input with
  | call request =>
    refine ⟨⟨hsound.store, hsound.trusted, fun entry hentry ↦ ?_⟩, .refl _, .inl rfl⟩
    rcases List.mem_append.1 hentry with hentry | hentry
    · exact hsound.calls entry hentry
    · rw [List.mem_singleton.1 hentry]
      exact settle_sound fun next hnext ↦ begin_ok hsound.store hnext
  | resume n answers =>
    rw [BreakGlassState.step]
    rcases hget : state.calls[n]? with _ | ⟨request, call⟩
    · exact ⟨hsound, .refl _, .inl rfl⟩
    · rcases hresume : resume hashId referenceHash state.store state.trusted request answers
        call with
        ⟨store', trusted', next⟩
      have hcall := hsound.calls _ (List.mem_of_getElem? hget)
      obtain ⟨hstore, hextends, hactivates, hnext, htrusted⟩ :=
        resume_sound hashId referenceHash hsound hcall hresume
      simp only [hresume]
      refine ⟨⟨hstore, fun authorization ha ↦ ?_, fun entry hentry ↦ ?_⟩, hextends,
        .inr ⟨request, ?_, hactivates⟩⟩
      · rcases htrusted authorization ha with hold | hnew
        · obtain ⟨incident, hincident⟩ := hsound.trusted authorization hold
          obtain ⟨current, hcurrent, hprogress⟩ := hextends.incidents _ incident hincident.stored
          exact ⟨current, hincident.progress hcurrent hprogress⟩
        · exact hnew
      · rcases List.mem_or_eq_of_mem_set hentry with hentry | rfl
        · exact (hsound.calls entry hentry).mono hextends
        · exact hnext
      · rw [BreakGlassState.requestOf, hget]
        rfl

omit [DecidableEq H] in
theorem initial_sound : StateSound (BreakGlassState.initial : BreakGlassState H) :=
  ⟨.empty, List.forall_mem_nil _, List.forall_mem_nil _⟩

theorem run_sound (inputs : List BreakGlassInput) {state : BreakGlassState H}
    (hsound : StateSound state) :
    StateSound (Run.run (BreakGlassState.step hashId referenceHash) state inputs) :=
  Run.run_induct (P := StateSound) (fun _ input h ↦ (step_sound hashId referenceHash h input).1)
    hsound
    inputs

/-- In a run every incident makes progress. -/
theorem run_progress (inputs : List BreakGlassInput) {state : BreakGlassState H}
    (hsound : StateSound state) {id : String} {incident : BreakGlassIncident H}
    (h : getBreakGlassIncident state.store id = some incident) :
    ∃ current, getBreakGlassIncident
      (Run.run (BreakGlassState.step hashId referenceHash) state inputs).store id = some current ∧
        Progress incident current := by
  induction inputs generalizing state incident with
  | nil => exact ⟨incident, h, .refl incident⟩
  | cons input rest ih =>
    obtain ⟨hsound', hextends, -⟩ := step_sound hashId referenceHash hsound input
    obtain ⟨next, hnext, hprogress⟩ := hextends.incidents id incident h
    obtain ⟨current, hcurrent, hprogress'⟩ := ih hsound' hnext
    exact ⟨current, hcurrent, hprogress.trans hprogress'⟩

/-! ## Revalidation -/

/-- A revalidation that has read an incident without a session, or after its end, and what such a
call comes to. -/
def Refused (request : BreakGlassRequest) : BreakGlassCall H → Prop
  | .validating _ incident => incident.status ≠ .active ∨
      ∃ expiresAt ∈ incident.expiresAt, expiresAt ≤ request.now
  | .committing _ after => after = .expired
  | .done result => ∀ outcome, result ≠ .ok outcome
  | _ => False

theorem expireIncident_refused {store : BreakGlassStore H} {request : BreakGlassRequest}
    {incident : BreakGlassIncident H} {now : ℕ} :
    Refused request (settle (expireIncident hashId store incident now)) := by
  rcases hresult : expireIncident hashId store incident now with error | next
  · exact fun _ h ↦ by cases h
  · simp only [expireIncident, commitIncident, bind_eq_ok] at hresult
    obtain ⟨_, _, _ | response, _, h⟩ := hresult
    · obtain rfl := pure_eq_ok.1 h
      rfl
    · obtain rfl := pure_eq_ok.1 h
      exact fun _ h ↦ by cases h

theorem resume_refused {store store' : BreakGlassStore H}
    {trusted trusted' : List (BreakGlassAuthorization H)} {request : BreakGlassRequest}
    {answers : Answers} {call next : BreakGlassCall H} (hcall : Refused request call)
    (h : resume hashId referenceHash store trusted request answers call
      = (store', trusted', next)) :
    Refused request next := by
  cases call with
  | validating authorization incident =>
    obtain ⟨-, -, rfl⟩ := Prod.mk.inj h |>.imp_right Prod.mk.inj
    rw [advance, validateAuthorization]
    split
    · exact expireIncident_refused hashId
    · rename_i hnot
      have hstale : isStale request authorization incident := by
        refine .inl fun hactive ↦ ?_
        rcases hcall with hcall | hcall
        · exact hcall hactive
        · exact hnot ⟨hactive, hcall⟩
      rw [throwIf, failIf, if_pos hstale]
      exact fun _ h ↦ by cases h
  | committing commit after =>
    obtain rfl : after = .expired := hcall
    simp only [resume] at h
    split at h
    · obtain ⟨-, -, rfl⟩ := Prod.mk.inj h |>.imp_right Prod.mk.inj
      exact fun _ h ↦ by cases h
    · obtain ⟨-, -, rfl⟩ := Prod.mk.inj h |>.imp_right Prod.mk.inj
      exact fun _ h ↦ by cases h
  | done result =>
    obtain ⟨-, -, rfl⟩ := Prod.mk.inj h |>.imp_right Prod.mk.inj
    exact hcall
  | _ => exact hcall.elim

/-- A call goes on by its own segments only. -/
theorem step_call {state : BreakGlassState H} {n : ℕ} {request : BreakGlassRequest}
    {call : BreakGlassCall H} (h : state.calls[n]? = some (request, call))
    (input : BreakGlassInput) :
    (state.step hashId referenceHash input).calls[n]? = some (request, call) ∨
      ∃ answers, input = .resume n answers ∧
        (state.step hashId referenceHash input).calls[n]? = some (request,
          (resume hashId referenceHash state.store state.trusted request answers call).2.2) := by
  have hlt : n < state.calls.length := (List.getElem?_eq_some_iff.1 h).1
  cases input with
  | call request' => exact .inl ((List.getElem?_append_left hlt).trans h)
  | resume m answers =>
    by_cases hm : m = n
    · refine .inr ⟨answers, by rw [hm], ?_⟩
      rw [BreakGlassState.step, hm, h]
      exact List.getElem?_set_self hlt
    · refine .inl ?_
      rw [BreakGlassState.step]
      rcases state.calls[m]? with _ | ⟨request', call'⟩
      · exact h
      · exact (List.getElem?_set_ne hm).trans h

/-- What is refused stays refused. -/
theorem run_refused (inputs : List BreakGlassInput) {state : BreakGlassState H} {n : ℕ}
    {request : BreakGlassRequest} {call : BreakGlassCall H}
    (h : state.calls[n]? = some (request, call)) (hrefused : Refused request call) :
    ∃ call', (Run.run (BreakGlassState.step hashId referenceHash) state inputs).calls[n]? =
      some (request, call') ∧ Refused request call' := by
  induction inputs generalizing state call with
  | nil => exact ⟨call, h, hrefused⟩
  | cons input rest ih =>
    rcases step_call hashId referenceHash h input with hnext | ⟨answers, -, hnext⟩
    · exact ih hnext hrefused
    · exact ih hnext (resume_refused hashId referenceHash hrefused rfl)

/-! ## The result -/

/-- The state after a list of inputs. -/
def afterInputs (inputs : List BreakGlassInput) : BreakGlassState H :=
  Run.run (BreakGlassState.step hashId referenceHash) .initial inputs

/-- The authority of an authorisation: a protective action on a resource in the scope of its
incident, for the requester, until the end of the session. -/
def Bounded (store : BreakGlassStore H) (authorization : BreakGlassAuthorization H) : Prop :=
  ∃ incident activatedAt expiresAt,
    getBreakGlassIncident store authorization.breakGlassIncidentId = some incident ∧
      authorization.action ∈ breakGlassProtectiveActions ∧
      authorization.action ∈ incident.allowedActions ∧
      (⟨authorization.resourceType, authorization.resourceId⟩ : ResourceScope) ∈
        incident.resourceScopes ∧
      authorization.executorActorId = incident.requestedByActorId ∧
      incident.activatedAt = some activatedAt ∧ authorization.expiresAt = some expiresAt ∧
      expiresAt ≤ activatedAt + incident.maximumSessionMs

/-- What holds of the authority in a run, whatever the order of its segments is. -/
structure AuthorityBounded (inputs : List BreakGlassInput) : Prop where
  /-- An incident becomes active by the second of two confirmations only. -/
  activation : ∀ past input future, inputs = past ++ input :: future → ∀ id incident,
    getBreakGlassIncident (afterInputs hashId referenceHash (past ++ [input])).store id =
      some incident → incident.status = .active →
    (∀ before, getBreakGlassIncident (afterInputs hashId referenceHash past).store id =
      some before → before.status ≠ .active) →
    ∃ request first second, (afterInputs hashId referenceHash past).requestOf input = some request ∧
      Activates request (afterInputs hashId referenceHash past).store
        (afterInputs hashId referenceHash (past ++ [input])).store id incident first second
  authorizations : ∀ authorization ∈ (afterInputs hashId referenceHash inputs).trusted,
    Bounded (afterInputs hashId referenceHash inputs).store authorization
  /-- A revalidation that reads the incident when it is not active any more, or that is made at the
  end of its session or later, does not succeed. -/
  revalidation : ∀ past n answers future, inputs = past ++ .resume n answers :: future →
    ∀ request authorization incident,
      (afterInputs hashId referenceHash past).calls[n]? =
        some (request, .revalidating authorization) →
      getBreakGlassIncident (afterInputs hashId referenceHash past).store
        authorization.breakGlassIncidentId = some incident →
      (incident.status ≠ .active ∨ ∃ expiresAt ∈ incident.expiresAt, expiresAt ≤ request.now) →
      ∀ outcome, (afterInputs hashId referenceHash inputs).calls[n]? ≠
        some (request, .done (.ok outcome))
  /-- What has ended stays so. -/
  ended : ∀ past future, inputs = past ++ future → ∀ id incident,
    getBreakGlassIncident (afterInputs hashId referenceHash past).store id = some incident →
    incident.status = .closed ∨ incident.status = .expired →
    ∃ current, getBreakGlassIncident (afterInputs hashId referenceHash inputs).store id =
      some current ∧ current.status = incident.status
  /-- An incident that has ended is due for review until its owner has reviewed it, once. -/
  review : ∀ id incident,
    getBreakGlassIncident (afterInputs hashId referenceHash inputs).store id = some incident →
    incident.status = .closed ∨ incident.status = .expired →
    ReviewDue incident (reviewsOf (afterInputs hashId referenceHash inputs).store id) ∨
      ReviewedOnce incident (reviewsOf (afterInputs hashId referenceHash inputs).store id)

theorem afterInputs_sound (inputs : List BreakGlassInput) :
    StateSound (afterInputs hashId referenceHash inputs) :=
  run_sound hashId referenceHash inputs initial_sound

theorem afterInputs_append (past future : List BreakGlassInput) :
    afterInputs hashId referenceHash (past ++ future) =
      Run.run (BreakGlassState.step hashId referenceHash)
        (afterInputs hashId referenceHash past) future :=
  Run.run_append _ past future

omit [DecidableEq H] in
/-- A sound authorisation of a sound store is bounded. -/
theorem bounded_of_sound {store : BreakGlassStore H} {authorization : BreakGlassAuthorization H}
    {incident : BreakGlassIncident H} (hstore : StoreSound store)
    (h : AuthorizationSound store authorization incident) : Bounded store authorization := by
  have hincident := hstore.incidents _ incident h.stored
  have hsession : HasSession incident := by
    have hphase := hincident.phase
    rw [PhaseSound] at hphase
    cases hstatus : incident.status with
    | pendingCustodians => exact absurd hstatus h.activated
    | canceled => rw [hstatus] at hphase; exact hphase.elim
    | active | expired | closed => rw [hstatus] at hphase; exact hphase.2.1
  obtain ⟨activatedAt, hactivated, hexpires⟩ := hsession
  exact ⟨incident, activatedAt, _, h.stored, hincident.protective _ h.action, h.action, h.resource,
    h.requester, hactivated, h.expiresAt.trans hexpires, le_rfl⟩

/-- The segment in which a revalidation reads its incident. -/
theorem reads_refused {state : BreakGlassState H} {request : BreakGlassRequest}
    {authorization : BreakGlassAuthorization H} {incident : BreakGlassIncident H}
    (hstored : getBreakGlassIncident state.store authorization.breakGlassIncidentId = some incident)
    (hover : incident.status ≠ .active ∨ ∃ expiresAt ∈ incident.expiresAt, expiresAt ≤ request.now)
    (answers : Answers) :
    Refused request (resume hashId referenceHash state.store state.trusted request answers
      (.revalidating authorization)).2.2 := by
  show Refused request (settle (advance hashId referenceHash state.store request answers
    (.revalidating authorization)))
  rcases hresult : advance hashId referenceHash state.store request answers
    (.revalidating authorization) with error | next
  · exact fun _ h ↦ by cases h
  · simp only [advance, bind_eq_ok, pure_eq_ok] at hresult
    obtain ⟨_, _, found, hfound, rfl⟩ := hresult
    simp only [requireIncident, hstored, bind_eq_ok, pure_eq_ok] at hfound
    obtain ⟨_, _, rfl⟩ := hfound
    exact hover

/-- **Break-glass authority is bounded**, over every interleaving of the calls. -/
theorem break_glass_bounded (inputs : List BreakGlassInput) :
    AuthorityBounded hashId referenceHash inputs where
  activation := by
    intro past input future _ id incident hincident hactive hbefore
    rw [afterInputs_append] at hincident ⊢
    obtain ⟨-, -, hsame | ⟨request, hrequest, hactivates⟩⟩ :=
      step_sound hashId referenceHash (afterInputs_sound hashId referenceHash past) input
    · rw [Run.run, Run.run, hsame] at hincident
      exact absurd hactive (hbefore incident hincident)
    · rcases hactivates id incident hincident hactive with hstored | ⟨first, second, hsecond⟩
      · exact absurd hactive (hbefore incident hstored)
      · exact ⟨request, first, second, hrequest, hsecond⟩
  authorizations := by
    intro authorization hmem
    have hsound := afterInputs_sound hashId referenceHash inputs
    obtain ⟨incident, hincident⟩ := hsound.trusted authorization hmem
    exact bounded_of_sound hsound.store hincident
  revalidation := by
    rintro past n answers future rfl request authorization incident hcall hstored hover
      outcome hdone
    have hrefused := reads_refused hashId referenceHash hstored hover answers
    have hstep : (BreakGlassState.step hashId referenceHash (afterInputs hashId referenceHash past)
        (.resume n answers)).calls[n]? = some (request, (resume hashId referenceHash
          (afterInputs hashId referenceHash past).store
          (afterInputs hashId referenceHash past).trusted request answers
          (.revalidating authorization)).2.2) := by
      rw [BreakGlassState.step, hcall]
      exact List.getElem?_set_self (List.getElem?_eq_some_iff.1 hcall).1
    obtain ⟨call, hend, hrefused'⟩ := run_refused hashId referenceHash future hstep hrefused
    rw [afterInputs_append, Run.run, hend] at hdone
    obtain rfl := (Prod.mk.inj (Option.some.inj hdone)).2
    exact hrefused' outcome rfl
  ended := by
    rintro past future rfl id incident hincident hended
    rw [afterInputs_append]
    obtain ⟨current, hcurrent, hprogress⟩ := run_progress hashId referenceHash future
      (afterInputs_sound hashId referenceHash past) hincident
    exact ⟨current, hcurrent, hprogress.ended hended⟩
  review := by
    intro id incident hincident hended
    have hphase := ((afterInputs_sound hashId referenceHash inputs).store.incidents id incident
      hincident).phase
    rw [PhaseSound] at hphase
    rcases hended with hended | hended <;>
      · rw [hended] at hphase
        exact hphase.2.2

end Run

section Demo

/-- An actor of the demo with a hardware key. -/
def demoContext (actorId : String) : AuthenticationContext where
  tenantId := "tenant_alpha"
  actorId := actorId
  actorType := "risk_operator"
  clientId := "client_alpha"
  credentialId := "credential_alpha"
  credentialVersion := 1
  policyVersion := "policy_alpha"
  authTime := some 0
  amr := ["hwk"]

/-- A call of the demo, under its one configuration. -/
def demoRequest (actorId : String) (now : ℕ) (command : BreakGlassCommand) : BreakGlassRequest where
  config :=
    { enabled := true
      deploymentApprovalRef := "approval:break-glass"
      requesterActorIds := ["requester"]
      custodianActorIds := ["custodian_one", "custodian_two"]
      reviewOwnerActorId := "reviewer"
      notificationTargetRef := "notification:security"
      maximumSessionMs := 60000 }
  context := demoContext actorId
  now := now
  command := command

/-- A call that is made and goes on until it is done. -/
def demoCall (n : ℕ) (actorId : String) (command : BreakGlassCommand) (operationalId : String) :
    List BreakGlassInput :=
  .call (demoRequest actorId n command) :: List.replicate 6 (.resume n
    { credential := .ok
        { tenantId := "tenant_alpha"
          actorId
          actorType := "risk_operator"
          clientId := "client_alpha"
          version := 1
          policyVersion := "policy_alpha" }
      membership := .ok ()
      operationalId })

/-- A reference hash. -/
def demoHash : String := "abcdefghijklmnopqrstuvwxyz0123456789"

/-- An incident from its declaration to its review. -/
def demoIncident : List BreakGlassInput :=
  demoCall 0 "requester" (.keyed (.declareIncident "security_incident" ["risk.freeze"]
      [⟨"subject", "subject_alpha"⟩]) "key-declare") "incident_alpha" ++
    demoCall 1 "custodian_one" (.keyed (.confirmCustodian "incident_alpha" 1 demoHash) "key-one")
      "decision_one" ++
    demoCall 2 "custodian_two" (.keyed (.confirmCustodian "incident_alpha" 2 demoHash) "key-two")
      "decision_two" ++
    demoCall 3 "requester" (.assertProtectiveScope
      ⟨"incident_alpha", "risk.freeze", "subject", "subject_alpha"⟩) "" ++
    demoCall 4 "requester" (.revalidateProtectiveAuthorization 0) "" ++
    demoCall 5 "custodian_one" (.keyed (.close "incident_alpha" 3) "key-close") "" ++
    demoCall 6 "reviewer" (.keyed (.review "incident_alpha" 4 demoHash) "key-review") "review_alpha"

/-- The authority was given, used and given back. -/
example :
    let state := afterInputs (H := Unit) (fun _ ↦ ()) (fun _ _ ↦ demoHash) demoIncident
    (getBreakGlassIncident state.store "incident_alpha").map (fun i ↦ (i.status, i.reviewStatus)) =
        some (.closed, .completed) ∧
      state.trusted.map (fun a ↦ (a.executorActorId, a.action, a.expiresAt)) =
        [("requester", "risk.freeze", some 60002)] := by
  decide +kernel

end Demo

end Approval
end IpoOne
