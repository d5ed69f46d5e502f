import IpoOne.Approval.Repository
import Mathlib

/-!
# Break-glass incidents

The records of `break-glass-models.js` and `BreakGlassService`.  A call of the service is cut at the
places where it waits, so that other calls can run between any two of its segments: it reads the
incident in one segment, the decisions of the custodians in the next one, and the record that it
writes is checked against the store in a later one still.

The registry of credentials and the directory are not modelled: what they answer is an input of the
segment that waits for it.
-/

set_option autoImplicit false

namespace IpoOne
namespace Approval

open Fallible

/-! ## Records -/

/-- The states of an incident. -/
inductive BreakGlassIncidentStatus where
  | pendingCustodians
  | active
  | expired
  | closed
  | canceled
  deriving DecidableEq, Repr

/-- The states of an incident's review. -/
inductive BreakGlassReviewStatus where
  | notRequired
  | pending
  | completed
  | overdue
  deriving DecidableEq, Repr

/-- A session lasts at most half an hour. -/
def maxBreakGlassWindowMs : ℕ := 30 * 60 * 1000

/-- The custodians have ten minutes to confirm an incident. -/
def breakGlassActivationWindowMs : ℕ := 10 * 60 * 1000

/-- The review is due a day later. -/
def breakGlassReviewWindowMs : ℕ := 24 * 60 * 60 * 1000

/-- The actions that an incident may allow. -/
def breakGlassProtectiveActions : List String :=
  ["credential.revoke", "provider.pause", "risk.freeze", "tenant.command.pause",
    "worker.delivery.pause"]

/-- What no incident allows. -/
def breakGlassProhibitedActionPrefixes : List String :=
  ["access_grant.", "credential.issue", "funds.", "history.", "pii.", "projection_repair.execute",
    "risk.limit.increase", "risk.unfreeze"]

/-- `BREAK_GLASS_PROHIBITED_ACTION_PREFIXES.some((prefix) => action.startsWith(prefix))` -/
def isProhibitedAction (action : String) : Bool :=
  breakGlassProhibitedActionPrefixes.any fun start ↦ start.toList.isPrefixOf action.toList

/-- A resource that an incident is about. -/
structure ResourceScope where
  resourceType : String
  resourceId : String
  deriving DecidableEq, Repr

/-- A context that the server has created: `assertAuthenticationContext` accepts nothing else. -/
structure AuthenticationContext where
  tenantId : String
  actorId : String
  actorType : String
  clientId : String
  credentialId : String
  credentialVersion : ℕ
  policyVersion : String
  authTime : Option ℕ
  amr : List String
  deriving DecidableEq, Repr

/-- The fields of an incident that its hash covers. -/
structure IncidentTerms where
  breakGlassIncidentId : String
  tenantId : String
  reasonCode : String
  allowedActions : List String
  resourceScopes : List ResourceScope
  requestedByActorId : String
  requestedByClientId : String
  custodianActorIds : List String
  reviewOwnerActorId : String
  deploymentApprovalRefHash : String
  notificationTargetRefHash : String
  maximumSessionMs : ℕ
  activationDeadline : ℕ
  declaredAt : ℕ
  deriving DecidableEq, Repr

/-- A stored incident. -/
structure BreakGlassIncident (H : Type) extends IncidentTerms where
  incidentHash : H
  status : BreakGlassIncidentStatus
  reviewStatus : BreakGlassReviewStatus
  version : ℕ
  updatedAt : ℕ
  activatedAt : Option ℕ
  expiresAt : Option ℕ
  expiredAt : Option ℕ
  closedAt : Option ℕ
  canceledAt : Option ℕ
  reviewDueAt : Option ℕ
  deriving DecidableEq, Repr

/-- The fields of a custodian's decision that its hash covers. -/
structure DecisionTerms (H : Type) where
  breakGlassCustodianDecisionId : String
  tenantId : String
  breakGlassIncidentId : String
  incidentVersion : ℕ
  incidentHash : H
  custodianActorId : String
  custodianClientId : String
  custodianCredentialId : String
  custodianCredentialVersion : ℕ
  hardwareKeyRefHash : String
  authTime : ℕ
  authenticationMethods : List String
  createdAt : ℕ
  deriving DecidableEq, Repr

/-- A custodian's confirmation of an incident. -/
structure BreakGlassCustodianDecision (H : Type) extends DecisionTerms H where
  decisionHash : H
  deriving DecidableEq, Repr

/-- The fields of a review that its hash covers. -/
structure ReviewTerms (H : Type) where
  breakGlassReviewId : String
  tenantId : String
  breakGlassIncidentId : String
  incidentHash : H
  reviewerActorId : String
  reviewerClientId : String
  findingsRefHash : String
  completedAt : ℕ
  deriving DecidableEq, Repr

/-- The review of an incident. -/
structure BreakGlassReview (H : Type) extends ReviewTerms H where
  reviewHash : H
  deriving DecidableEq, Repr

/-- The fields of an authorisation that its hash covers. -/
structure AuthorizationTerms (H : Type) where
  breakGlassIncidentId : String
  tenantId : String
  action : String
  resourceType : String
  resourceId : String
  incidentHash : H
  incidentVersion : ℕ
  executorActorId : String
  executorClientId : String
  executorCredentialId : String
  executorCredentialVersion : ℕ
  policyVersion : String
  issuedAt : ℕ
  expiresAt : Option ℕ
  deriving DecidableEq, Repr

/-- The permission for one protective action. -/
structure BreakGlassAuthorization (H : Type) extends AuthorizationTerms H where
  authorizationHash : H
  deriving DecidableEq, Repr

/-- The records of break glass. -/
inductive BreakGlassProjection (H : Type) where
  | incident (incident : BreakGlassIncident H)
  | custodianDecision (decision : BreakGlassCustodianDecision H)
  | review (review : BreakGlassReview H)
  deriving DecidableEq, Repr

instance {H : Type} : Projection (BreakGlassProjection H) where
  type
    | .incident _ => .breakGlassIncident
    | .custodianDecision _ => .breakGlassCustodianDecision
    | .review _ => .breakGlassReview
  id
    | .incident incident => incident.breakGlassIncidentId
    | .custodianDecision decision => decision.breakGlassCustodianDecisionId
    | .review review => review.breakGlassReviewId
  version
    | .incident incident => incident.version
    | .custodianDecision _ => 1
    | .review _ => 1

/-- What `hashId` is applied to, with the name it is given. -/
inductive BreakGlassPreimage (H : Type) where
  | declareCommand (tenantId requestedByActorId reasonCode : String) (allowedActions : List String)
      (resourceScopes : List ResourceScope) (custodianActorIds : List String)
      (reviewOwnerActorId deploymentApprovalRefHash notificationTargetRefHash : String)
      (maximumSessionMs activationWindowMs : ℕ)
  | confirmCommand (incidentId : String) (expectedVersion : ℕ) (custodianActorId : String)
      (hardwareKeyRefHash : String)
  | closeCommand (incidentId : String) (expectedVersion : ℕ) (actorId : String)
  | reviewCommand (incidentId : String) (expectedVersion : ℕ) (reviewerActorId : String)
      (findingsRefHash : String)
  | expireCommand (incidentId : String) (expectedVersion : ℕ) (expiresAt : Option ℕ)
  | incident (terms : IncidentTerms)
  | custodianDecision (terms : DecisionTerms H)
  | review (terms : ReviewTerms H)
  | authorization (terms : AuthorizationTerms H)
  | projection (value : BreakGlassProjection H)
  deriving DecidableEq, Repr

/-! ## `break-glass-models.js` -/

variable {H : Type}

/-- `methods.some((method) => HARDWARE_KEY_METHODS.has(method.toLowerCase()))`, which is also what
`PHISHING_RESISTANT_AMR` is tested by.  Only the sign of the unit kelvin becomes a letter of these
names, besides the capital letters. -/
def usesHardwareKey (amr : List String) : Bool :=
  amr.any fun method ↦ ["hwk", "webauthn", "fido"].contains
    (String.ofList (method.toList.map fun c ↦ if c = '\u212a' then 'k' else c.toLower))

/-- The arguments of `createBreakGlassIncident`. -/
structure IncidentInput where
  tenantId : String
  reasonCode : String
  allowedActions : List String
  resourceScopes : List ResourceScope
  requesterContext : AuthenticationContext
  custodianActorIds : List String
  reviewOwnerActorId : String
  deploymentApprovalRefHash : String
  notificationTargetRefHash : String
  maximumSessionMs : ℕ
  activationDeadline : ℕ
  now : ℕ

/-- The check of the actions, which `declareIncident` and `createBreakGlassIncident` both make. -/
def assertProtectiveActions (actions : List String) : Domain Unit := do
  assertApprovalList "allowedActions" actions 1 8
  throwIf ((∃ action ∈ actions, action ∉ breakGlassProtectiveActions) ∨
      ∃ action ∈ actions, isProhibitedAction action = true)
    "break_glass_scope_prohibited" "break-glass action is prohibited"

/-- The check of the resources, which both make too. -/
def assertResourceScopes (scopes : List ResourceScope) : Domain Unit := do
  throwIf (scopes = [] ∨ 16 < scopes.length) "invalid_break_glass_scope"
    "break-glass resource scope is invalid"
  let _ ← scopes.mapM fun scope ↦ do
    assertApprovalIdentifier "resourceType" scope.resourceType
    assertApprovalIdentifier "resourceId" scope.resourceId
  throwIf (¬ scopes.Nodup) "invalid_break_glass_scope" "break-glass resource scope is duplicated"

/-- `createBreakGlassIncident`, with the identifier that is drawn. -/
def createBreakGlassIncident (hashId : BreakGlassPreimage H → H) (input : IncidentInput)
    (breakGlassIncidentId : String) : Domain (BreakGlassIncident H) := do
  throwIf (input.maximumSessionMs < 60000 ∨ maxBreakGlassWindowMs < input.maximumSessionMs)
    "invalid_break_glass_window" "break-glass session window is invalid"
  throwIf (input.requesterContext.tenantId ≠ input.tenantId) "break_glass_actor_rejected"
    "break-glass requester tenant is invalid"
  assertProtectiveActions input.allowedActions
  assertResourceScopes input.resourceScopes
  assertApprovalList "custodianActorIds" input.custodianActorIds 2 2
  assertApprovalIdentifier "reviewOwnerActorId" input.reviewOwnerActorId
  throwIf (input.requesterContext.actorId ∈ input.custodianActorIds ∨
      input.reviewOwnerActorId ∈ input.custodianActorIds ∨
      input.requesterContext.actorId = input.reviewOwnerActorId)
    "invalid_break_glass_configuration" "break-glass duties are not separated"
  throwIf (input.activationDeadline ≤ input.now ∨
      breakGlassActivationWindowMs < input.activationDeadline - input.now)
    "invalid_break_glass_window" "break-glass activation window is invalid"
  assertApprovalIdentifier "tenantId" input.tenantId
  assertApprovalReason "reasonCode" input.reasonCode
  assertApprovalIdentifier "requestedByActorId" input.requesterContext.actorId
  assertApprovalIdentifier "requestedByClientId" input.requesterContext.clientId
  assertApprovalReferenceHash "deploymentApprovalRefHash" input.deploymentApprovalRefHash
  assertApprovalReferenceHash "notificationTargetRefHash" input.notificationTargetRefHash
  let terms : IncidentTerms :=
    { breakGlassIncidentId
      tenantId := input.tenantId
      reasonCode := input.reasonCode
      allowedActions := input.allowedActions
      resourceScopes := input.resourceScopes
      requestedByActorId := input.requesterContext.actorId
      requestedByClientId := input.requesterContext.clientId
      custodianActorIds := input.custodianActorIds
      reviewOwnerActorId := input.reviewOwnerActorId
      deploymentApprovalRefHash := input.deploymentApprovalRefHash
      notificationTargetRefHash := input.notificationTargetRefHash
      maximumSessionMs := input.maximumSessionMs
      activationDeadline := input.activationDeadline
      declaredAt := input.now }
  pure
    { terms with
      incidentHash := hashId (.incident terms)
      status := .pendingCustodians
      reviewStatus := .notRequired
      version := 1
      updatedAt := input.now
      activatedAt := none
      expiresAt := none
      expiredAt := none
      closedAt := none
      canceledAt := none
      reviewDueAt := none }

/-- The decision of a custodian who confirms the incident with a hardware key. -/
def createBreakGlassCustodianDecision (hashId : BreakGlassPreimage H → H)
    (incident : BreakGlassIncident H) (context : AuthenticationContext)
    (hardwareKeyRefHash : String)
    (now : ℕ) (breakGlassCustodianDecisionId : String) :
    Domain (BreakGlassCustodianDecision H) := do
  throwIf (context.tenantId ≠ incident.tenantId ∨ context.actorId = incident.requestedByActorId ∨
      context.actorId ∉ incident.custodianActorIds ∨ usesHardwareKey context.amr = false)
    "break_glass_confirmation_rejected" "break-glass custodian is invalid"
  assertApprovalIdentifier "custodianActorId" context.actorId
  assertApprovalIdentifier "custodianClientId" context.clientId
  assertApprovalIdentifier "custodianCredentialId" context.credentialId
  assertApprovalVersion "custodianCredentialVersion" context.credentialVersion 1
  assertApprovalReferenceHash "hardwareKeyRefHash" hardwareKeyRefHash
  match context.authTime with
  | none => .error { code := "invalid_approval_input", message := "authTime is invalid" }
  | some authTime =>
    assertApprovalList "authenticationMethods" context.amr 1 8
    let terms : DecisionTerms H :=
      { breakGlassCustodianDecisionId
        tenantId := incident.tenantId
        breakGlassIncidentId := incident.breakGlassIncidentId
        incidentVersion := incident.version
        incidentHash := incident.incidentHash
        custodianActorId := context.actorId
        custodianClientId := context.clientId
        custodianCredentialId := context.credentialId
        custodianCredentialVersion := context.credentialVersion
        hardwareKeyRefHash
        authTime
        authenticationMethods := context.amr
        createdAt := now }
    pure { terms with decisionHash := hashId (.custodianDecision terms) }

/-- What may follow each status. -/
def breakGlassTransitions : BreakGlassIncidentStatus → List BreakGlassIncidentStatus
  | .pendingCustodians => [.pendingCustodians, .active, .canceled]
  | .active => [.expired, .closed]
  | .expired => [.expired]
  | .closed => [.closed]
  | .canceled => []

/-- `occurredAt` for a status that is entered, and what was recorded for one that is not. -/
def entered (incident : BreakGlassIncident H) (status target : BreakGlassIncidentStatus)
    (occurredAt recorded : Option ℕ) : Option ℕ :=
  if status = target ∧ incident.status ≠ status then occurredAt else recorded

/-- The incident in its next state, with the instants that belong to it. -/
def transitionBreakGlassIncident (incident : BreakGlassIncident H)
    (status : BreakGlassIncidentStatus) (reviewStatus : BreakGlassReviewStatus)
    (expiresAt reviewDueAt : Option ℕ) (now : ℕ) : Domain (BreakGlassIncident H) := do
  throwIf (status ∉ breakGlassTransitions incident.status) "invalid_break_glass_transition"
    "break-glass transition is invalid"
  throwIf (status = .active ∧ incident.status ≠ status ∧ expiresAt = none) "invalid_approval_input"
    "expiresAt is invalid"
  pure
    { incident with
      activatedAt := entered incident status .active (some now) incident.activatedAt
      expiresAt := entered incident status .active expiresAt incident.expiresAt
      expiredAt := entered incident status .expired (some now) incident.expiredAt
      closedAt := entered incident status .closed (some now) incident.closedAt
      canceledAt := entered incident status .canceled (some now) incident.canceledAt
      reviewDueAt := reviewDueAt.or incident.reviewDueAt
      status
      reviewStatus
      version := incident.version + 1
      updatedAt := now }

/-- The review, which only the owner of the review can write. -/
def createBreakGlassReview (hashId : BreakGlassPreimage H → H) (incident : BreakGlassIncident H)
    (reviewerContext : AuthenticationContext) (findingsRefHash : String) (now : ℕ)
    (breakGlassReviewId : String) : Domain (BreakGlassReview H) := do
  throwIf (reviewerContext.tenantId ≠ incident.tenantId ∨
      reviewerContext.actorId ≠ incident.reviewOwnerActorId)
    "break_glass_review_rejected" "break-glass reviewer is invalid"
  assertApprovalIdentifier "reviewerActorId" reviewerContext.actorId
  assertApprovalIdentifier "reviewerClientId" reviewerContext.clientId
  assertApprovalReferenceHash "findingsRefHash" findingsRefHash
  let terms : ReviewTerms H :=
    { breakGlassReviewId
      tenantId := incident.tenantId
      breakGlassIncidentId := incident.breakGlassIncidentId
      incidentHash := incident.incidentHash
      reviewerActorId := reviewerContext.actorId
      reviewerClientId := reviewerContext.clientId
      findingsRefHash
      completedAt := now }
  pure { terms with reviewHash := hashId (.review terms) }

/-! ## Calls of the service -/

/-- The configuration of the service. -/
structure BreakGlassConfig where
  enabled : Bool
  deploymentApprovalRef : String
  requesterActorIds : List String
  custodianActorIds : List String
  reviewOwnerActorId : String
  notificationTargetRef : String
  maximumSessionMs : ℕ

/-- The commands that are recorded under an idempotency key. -/
inductive KeyedAction where
  | declareIncident (reasonCode : String) (allowedActions : List String)
      (resourceScopes : List ResourceScope)
  | confirmCustodian (breakGlassIncidentId : String) (expectedVersion : ℕ)
      (hardwareKeyRefHash : String)
  | close (breakGlassIncidentId : String) (expectedVersion : ℕ)
  | review (breakGlassIncidentId : String) (expectedVersion : ℕ) (findingsRefHash : String)

/-- What `assertProtectiveScope` is asked for. -/
structure ProtectiveScope where
  breakGlassIncidentId : String
  action : String
  resourceType : String
  resourceId : String

/-- The calls of the service. -/
inductive BreakGlassCommand where
  | keyed (action : KeyedAction) (idempotencyKey : String)
  | assertProtectiveScope (scope : ProtectiveScope)
  /-- The authorisation is an object, which is known by its place among those that were issued. -/
  | revalidateProtectiveAuthorization (breakGlassAuthorization : ℕ)

/-- A call: the configuration of the service that takes it, who calls, when and what. -/
structure BreakGlassRequest where
  config : BreakGlassConfig
  context : AuthenticationContext
  now : ℕ
  command : BreakGlassCommand

/-- A credential, as the registry has it. -/
structure Credential where
  tenantId : String
  actorId : String
  actorType : String
  clientId : String
  version : ℕ
  policyVersion : String

/-- What a segment is given from outside: the answers of the registry and of the directory, and an
identifier that is drawn. -/
structure Answers where
  credential : Domain Credential
  membership : Domain Unit
  operationalId : String

/-- What a keyed command answers. -/
structure BreakGlassResponse (H : Type) where
  incident : BreakGlassIncident H
  custodianDecisions : List (BreakGlassCustodianDecision H) := []
  review : Option (BreakGlassReview H) := none
  deriving DecidableEq

/-- What a call returns. -/
inductive BreakGlassOutcome (H : Type) where
  | response (response : BreakGlassResponse H) (replayed : Bool)
  | authorization (authorization : BreakGlassAuthorization H)
  deriving DecidableEq

/-- The approval repository with the records of break glass. -/
abbrev BreakGlassStore (H : Type) : Type :=
  ApprovalStore H (BreakGlassProjection H) (BreakGlassResponse H)

/-- A commit to it. -/
abbrev BreakGlassCommit (H : Type) : Type :=
  CommitRequest H (BreakGlassProjection H) (BreakGlassResponse H)

/-- What a call does with the response of its commit: it returns it, or throws because the incident
has expired. -/
inductive AfterCommit where
  | respond
  | expired
  deriving DecidableEq

/-- A keyed command with the hash it is recorded under. -/
structure KeyedCommand (H : Type) where
  action : KeyedAction
  idempotencyKey : String
  commandHash : H

/-- A call, by the place where it waits. -/
inductive BreakGlassCall (H : Type) where
  /-- For the registry and the directory. -/
  | authenticating (action : KeyedAction) (idempotencyKey : String)
  /-- For `findCommand`, which has found nothing. -/
  | searched (command : KeyedCommand H)
  /-- For the incident. -/
  | read (command : KeyedCommand H) (incident : BreakGlassIncident H)
  /-- `confirmCustodian`, for the decisions. -/
  | listed (expectedVersion : ℕ) (hardwareKeyRefHash : String) (command : KeyedCommand H)
      (incident : BreakGlassIncident H) (existing : List (BreakGlassCustodianDecision H))
  /-- `review`, for the review that there may be. -/
  | reviewing (findingsRefHash : String) (command : KeyedCommand H)
      (incident : BreakGlassIncident H) (existing : Option (BreakGlassReview H))
  /-- `assertProtectiveScope`, for the incident. -/
  | scoping (scope : ProtectiveScope) (incident : BreakGlassIncident H)
  /-- `assertProtectiveScope`, for the registry and the directory. -/
  | proving (scope : ProtectiveScope) (incident : BreakGlassIncident H)
  /-- `revalidateProtectiveAuthorization`, for the registry and the directory. -/
  | revalidating (authorization : BreakGlassAuthorization H)
  /-- `revalidateProtectiveAuthorization`, for the incident. -/
  | validating (authorization : BreakGlassAuthorization H) (incident : BreakGlassIncident H)
  /-- For the `findCommand` of a commit, which has found nothing. -/
  | committing (request : BreakGlassCommit H) (after : AfterCommit)
  | done (result : Domain (BreakGlassOutcome H))

/-! ## What a call reads -/

/-- The decision that a record is, if it is one. -/
def BreakGlassProjection.decision? : BreakGlassProjection H → Option (BreakGlassCustodianDecision H)
  | .custodianDecision decision => some decision
  | _ => none

/-- The review that a record is, if it is one. -/
def BreakGlassProjection.review? : BreakGlassProjection H → Option (BreakGlassReview H)
  | .review record => some record
  | _ => none

/-- The stored incident of this name. -/
def getBreakGlassIncident (store : BreakGlassStore H) (incidentId : String) :
    Option (BreakGlassIncident H) :=
  match store.projections.get (.breakGlassIncident, incidentId) with
  | some (.incident incident) => some incident
  | _ => none

/-- The decisions on an incident, in the order in which they were recorded. -/
def decisionsOn (store : BreakGlassStore H) (incidentId : String) :
    List (BreakGlassCustodianDecision H) :=
  (store.projections.values.filterMap BreakGlassProjection.decision?).filter
    (·.breakGlassIncidentId = incidentId)

/-- The reviews of an incident, in the order in which they were recorded. -/
def reviewsOf (store : BreakGlassStore H) (incidentId : String) : List (BreakGlassReview H) :=
  (store.projections.values.filterMap BreakGlassProjection.review?).filter
    (·.breakGlassIncidentId = incidentId)

/-- The decisions on an incident by the time they were made. -/
def listBreakGlassCustodianDecisions (store : BreakGlassStore H) (incidentId : String) :
    List (BreakGlassCustodianDecision H) :=
  (decisionsOn store incidentId).insertionSort fun left right ↦ left.createdAt ≤ right.createdAt

/-- The review of an incident. -/
def getBreakGlassReview (store : BreakGlassStore H) (incidentId : String) :
    Option (BreakGlassReview H) :=
  (reviewsOf store incidentId).head?

/-- The stored incident, which has to be there. -/
def requireIncident (store : BreakGlassStore H) (incidentId : String) :
    Domain (BreakGlassIncident H) := do
  assertApprovalIdentifier "breakGlassIncidentId" incidentId
  match getBreakGlassIncident store incidentId with
  | none =>
    .error { code := "break_glass_incident_not_found"
             message := "break-glass incident is unavailable" }
  | some incident => pure incident

/-- `incident.status === ACTIVE && new Date(incident.expiresAt) <= currentTime`: an instant that is
not there is not a number, and not below anything. -/
def hasExpired (incident : BreakGlassIncident H) (now : ℕ) : Prop :=
  incident.status = .active ∧ ∃ expiresAt ∈ incident.expiresAt, expiresAt ≤ now

instance (incident : BreakGlassIncident H) (now : ℕ) : Decidable (hasExpired incident now) :=
  inferInstanceAs (Decidable (_ ∧ _))

end Approval
end IpoOne
