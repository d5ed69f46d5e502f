import IpoOne.Approval.BreakGlass

/-!
# The break-glass service

The segments of `BreakGlassService`, and the system in which any number of its calls run at once.
Each segment reads the store as it is then; only the end of a commit writes to it, and only
`assertProtectiveScope` adds to the authorisations that are trusted.
-/

set_option autoImplicit false

namespace IpoOne
namespace Approval

open Fallible

variable {H : Type}

/-! ## Who may call -/

/-- Nothing goes before the deployment is approved. -/
def assertDeploymentGate (config : BreakGlassConfig) : Domain Unit :=
  throwIf (config.enabled = false) "break_glass_deployment_gate_closed"
    "break-glass custodians and review ownership are not deployment-approved"

/-- `#assertConfiguredActor` up to where it waits for the registry. -/
def assertConfiguredActor (context : AuthenticationContext) (actorIds : List String) :
    Domain Unit :=
  throwIf (context.actorId ∉ actorIds) "break_glass_actor_rejected"
    "break-glass actor is not configured"

/-- `assertRecentPhishingResistantAuthentication`, at the default age of a quarter of an hour. -/
def assertRecentPhishingResistantAuthentication (context : AuthenticationContext) (now : ℕ) :
    Domain Unit :=
  let age (authTime : ℕ) : ℤ := ((now : ℤ) - authTime) / 1000
  throwIf ((¬ ∃ authTime ∈ context.authTime, -30 ≤ age authTime ∧ age authTime ≤ 15 * 60) ∨
      usesHardwareKey context.amr = false)
    "recent_phishing_resistant_authentication_required"
    "recent phishing-resistant authentication is required"

/-- The rest of `#assertConfiguredActor`. -/
def assertAuthenticated (answers : Answers) (context : AuthenticationContext) (now : ℕ)
    (hardwareKeyRequired : Bool) : Domain Unit := do
  let credential ← answers.credential
  answers.membership
  throwIf (credential.tenantId ≠ context.tenantId ∨ credential.actorId ≠ context.actorId ∨
      credential.actorType ≠ context.actorType ∨ credential.clientId ≠ context.clientId ∨
      credential.version ≠ context.credentialVersion ∨
      credential.policyVersion ≠ context.policyVersion)
    "break_glass_actor_rejected" "break-glass credential changed"
  assertRecentPhishingResistantAuthentication context now
  throwIf (hardwareKeyRequired = true ∧ usesHardwareKey context.amr = false)
    "break_glass_hardware_key_required" "hardware-key authentication is required"

/-- The actors that may give a keyed command. -/
def KeyedAction.actorIds (config : BreakGlassConfig) : KeyedAction → List String
  | .declareIncident .. => config.requesterActorIds
  | .confirmCustodian .. => config.custodianActorIds
  | .close .. => config.requesterActorIds ++ config.custodianActorIds
  | .review .. => [config.reviewOwnerActorId]

/-- Only a custodian's confirmation asks for a hardware key. -/
def KeyedAction.hardwareKeyRequired : KeyedAction → Bool
  | .confirmCustodian .. => true
  | _ => false

/-! ## Segments -/

section Segments

variable (hashId : BreakGlassPreimage H → H) (referenceHash : String → String → String)

/-- The arguments of a keyed command are checked, and its hash taken. -/
def KeyedAction.prepare (request : BreakGlassRequest) (idempotencyKey : String) :
    KeyedAction → Domain H
  | .declareIncident reasonCode allowedActions resourceScopes => do
    assertApprovalReason "reasonCode" reasonCode
    assertProtectiveActions allowedActions
    assertResourceScopes resourceScopes
    assertApprovalIdentifier "idempotencyKey" idempotencyKey
    pure (hashId (.declareCommand request.context.tenantId request.context.actorId reasonCode
      allowedActions resourceScopes request.config.custodianActorIds
      request.config.reviewOwnerActorId
      (referenceHash "break_glass.deployment_approval" request.config.deploymentApprovalRef)
      (referenceHash "break_glass.notification_target" request.config.notificationTargetRef)
      request.config.maximumSessionMs breakGlassActivationWindowMs))
  | .confirmCustodian incidentId expectedVersion hardwareKeyRefHash => do
    assertApprovalIdentifier "breakGlassIncidentId" incidentId
    assertApprovalVersion "expectedVersion" expectedVersion 1
    assertApprovalReferenceHash "hardwareKeyRefHash" hardwareKeyRefHash
    assertApprovalIdentifier "idempotencyKey" idempotencyKey
    pure (hashId (.confirmCommand incidentId expectedVersion request.context.actorId
      hardwareKeyRefHash))
  | .close incidentId expectedVersion => do
    assertApprovalVersion "expectedVersion" expectedVersion 1
    assertApprovalIdentifier "breakGlassIncidentId" incidentId
    assertApprovalIdentifier "idempotencyKey" idempotencyKey
    pure (hashId (.closeCommand incidentId expectedVersion request.context.actorId))
  | .review incidentId expectedVersion findingsRefHash => do
    assertApprovalVersion "expectedVersion" expectedVersion 1
    assertApprovalIdentifier "breakGlassIncidentId" incidentId
    assertApprovalReferenceHash "findingsRefHash" findingsRefHash
    assertApprovalIdentifier "idempotencyKey" idempotencyKey
    pure (hashId (.reviewCommand incidentId expectedVersion request.context.actorId
      findingsRefHash))

/-- The outcome of a call whose commit has this response. -/
def AfterCommit.result (response : BreakGlassResponse H) (replayed : Bool) :
    AfterCommit → Domain (BreakGlassOutcome H)
  | .respond => pure (.response response replayed)
  | .expired => .error
    { code := "break_glass_incident_expired", message := "break-glass incident expired" }

variable [DecidableEq H] (store : BreakGlassStore H)

/-- `#commitIncident` up to where the repository waits. -/
def commitIncident (request : BreakGlassCommit H) (after : AfterCommit) :
    Domain (BreakGlassCall H) := do
  match ← store.beginCommit request with
  | some response => pure (.done (after.result response true))
  | none => pure (.committing request after)

/-- The commit of an incident alone. -/
def incidentCommit (incident : BreakGlassIncident H) (previousVersion : ℕ) (idempotencyKey : String)
    (commandHash : H) : BreakGlassCommit H where
  aggregateId := incident.breakGlassIncidentId
  idempotencyKey := idempotencyKey
  commandHash := commandHash
  events := [⟨.breakGlassIncident, incident.breakGlassIncidentId, previousVersion⟩]
  writes := [.incident incident]
  response := { incident }

/-- The commit of an incident with a new decision. -/
def decisionCommit (incident : BreakGlassIncident H) (previousVersion : ℕ) (idempotencyKey : String)
    (commandHash : H) (decision : BreakGlassCustodianDecision H)
    (decisions : List (BreakGlassCustodianDecision H)) : BreakGlassCommit H where
  aggregateId := incident.breakGlassIncidentId
  idempotencyKey := idempotencyKey
  commandHash := commandHash
  events := [⟨.breakGlassCustodianDecision, decision.breakGlassCustodianDecisionId, 0⟩,
    ⟨.breakGlassIncident, incident.breakGlassIncidentId, previousVersion⟩]
  writes := [.custodianDecision decision, .incident incident]
  response := { incident, custodianDecisions := decisions }

/-- The commit of an incident with its review. -/
def reviewCommit (incident : BreakGlassIncident H) (previousVersion : ℕ) (idempotencyKey : String)
    (commandHash : H) (review : BreakGlassReview H) : BreakGlassCommit H where
  aggregateId := incident.breakGlassIncidentId
  idempotencyKey := idempotencyKey
  commandHash := commandHash
  events := [⟨.breakGlassReview, review.breakGlassReviewId, 0⟩,
    ⟨.breakGlassIncident, incident.breakGlassIncidentId, previousVersion⟩]
  writes := [.review review, .incident incident]
  response := { incident, review := some review }

/-- `#expireIncident`, and the error that its callers throw after it. -/
def expireIncident (incident : BreakGlassIncident H) (now : ℕ) : Domain (BreakGlassCall H) := do
  let overdue := ∃ reviewDueAt ∈ incident.reviewDueAt, reviewDueAt ≤ now
  let updated ← transitionBreakGlassIncident incident .expired
    (if overdue then .overdue else .pending) none none now
  commitIncident store
    (incidentCommit updated incident.version
      ("break-glass-expire:" ++ incident.breakGlassIncidentId ++ ":" ++ toString incident.version)
      (hashId (.expireCommand incident.breakGlassIncidentId incident.version incident.expiresAt)))
    .expired

/-- `declareIncident`, from where nothing is recorded under its key. -/
def declareIncident (request : BreakGlassRequest) (command : KeyedCommand H) (reasonCode : String)
    (allowedActions : List String) (resourceScopes : List ResourceScope) (operationalId : String) :
    Domain (BreakGlassCall H) := do
  let incident ← createBreakGlassIncident hashId
    { tenantId := request.context.tenantId
      reasonCode
      allowedActions
      resourceScopes
      requesterContext := request.context
      custodianActorIds := request.config.custodianActorIds
      reviewOwnerActorId := request.config.reviewOwnerActorId
      deploymentApprovalRefHash :=
        referenceHash "break_glass.deployment_approval" request.config.deploymentApprovalRef
      notificationTargetRefHash :=
        referenceHash "break_glass.notification_target" request.config.notificationTargetRef
      maximumSessionMs := request.config.maximumSessionMs
      activationDeadline := request.now + breakGlassActivationWindowMs
      now := request.now } operationalId
  commitIncident store (incidentCommit incident 0 command.idempotencyKey command.commandHash)
    .respond

/-- `confirmCustodian`, from where it has the incident and the decisions. -/
def confirmCustodian (request : BreakGlassRequest) (command : KeyedCommand H) (expectedVersion : ℕ)
    (hardwareKeyRefHash : String) (incident : BreakGlassIncident H)
    (existing : List (BreakGlassCustodianDecision H)) (operationalId : String) :
    Domain (BreakGlassCall H) := do
  let context := request.context
  throwIf (incident.version ≠ expectedVersion ∨ incident.tenantId ≠ context.tenantId ∨
      incident.status ≠ .pendingCustodians ∨ incident.requestedByActorId = context.actorId ∨
      context.actorId ∉ incident.custodianActorIds ∨ incident.activationDeadline ≤ request.now ∨
      ∃ decision ∈ existing, decision.custodianActorId = context.actorId)
    "break_glass_confirmation_rejected" "break-glass confirmation is unavailable"
  let decision ← createBreakGlassCustodianDecision hashId incident context hardwareKeyRefHash
    request.now operationalId
  let decisions := existing ++ [decision]
  -- two custodians have confirmed
  let active := (decisions.map (·.custodianActorId)).dedup.length = 2
  let expiresAt := request.now + incident.maximumSessionMs
  let updated ← transitionBreakGlassIncident incident
    (if active then .active else .pendingCustodians) .notRequired
    (if active then some expiresAt else none)
    (if active then some (expiresAt + breakGlassReviewWindowMs) else none) request.now
  commitIncident store
    (decisionCommit updated incident.version command.idempotencyKey command.commandHash decision
      decisions) .respond

/-- `close`, from where it has the incident. -/
def close (request : BreakGlassRequest) (command : KeyedCommand H) (expectedVersion : ℕ)
    (incident : BreakGlassIncident H) : Domain (BreakGlassCall H) := do
  if hasExpired incident request.now then
    expireIncident hashId store incident request.now
  else
    throwIf (incident.version ≠ expectedVersion ∨ incident.tenantId ≠ request.context.tenantId ∨
        incident.status ≠ .active ∨ (incident.requestedByActorId ≠ request.context.actorId ∧
          request.context.actorId ∉ incident.custodianActorIds))
      "break_glass_close_rejected" "break-glass incident cannot be closed"
    let updated ← transitionBreakGlassIncident incident .closed .pending none
      (some (request.now + breakGlassReviewWindowMs)) request.now
    commitIncident store
      (incidentCommit updated incident.version command.idempotencyKey command.commandHash) .respond

/-- `review`, up to where it asks for the review that there may be. -/
def beginReview (request : BreakGlassRequest) (command : KeyedCommand H) (expectedVersion : ℕ)
    (findingsRefHash : String) (incident : BreakGlassIncident H) : Domain (BreakGlassCall H) := do
  throwIf (incident.version ≠ expectedVersion ∨ incident.tenantId ≠ request.context.tenantId ∨
      incident.reviewOwnerActorId ≠ request.context.actorId ∨
      incident.status ∉ [.closed, .expired] ∨ incident.reviewStatus ∉ [.pending, .overdue])
    "break_glass_review_rejected" "break-glass review is unavailable"
  pure (.reviewing findingsRefHash command incident
    (getBreakGlassReview store incident.breakGlassIncidentId))

/-- The rest of `review`. -/
def review (request : BreakGlassRequest) (command : KeyedCommand H) (findingsRefHash : String)
    (incident : BreakGlassIncident H) (existing : Option (BreakGlassReview H))
    (operationalId : String) : Domain (BreakGlassCall H) := do
  throwIf (existing.isSome = true) "break_glass_review_rejected" "break-glass review is unavailable"
  let review ← createBreakGlassReview hashId incident request.context findingsRefHash request.now
    operationalId
  let updated ← transitionBreakGlassIncident incident incident.status .completed none none
    request.now
  commitIncident store
    (reviewCommit updated incident.version command.idempotencyKey command.commandHash review)
    .respond

/-- `assertProtectiveScope`, from where it has the incident. -/
def scopeIncident (request : BreakGlassRequest) (scope : ProtectiveScope)
    (incident : BreakGlassIncident H) : Domain (BreakGlassCall H) := do
  throwIf (incident.tenantId ≠ request.context.tenantId ∨
      incident.requestedByActorId ≠ request.context.actorId)
    "break_glass_scope_rejected" "break-glass scope does not allow this action"
  if hasExpired incident request.now then
    expireIncident hashId store incident request.now
  else
    assertConfiguredActor request.context request.config.requesterActorIds
    pure (.proving scope incident)

omit [DecidableEq H] in
/-- The authorisation that `assertProtectiveScope` issues. -/
def proveScope (request : BreakGlassRequest) (answers : Answers) (scope : ProtectiveScope)
    (incident : BreakGlassIncident H) : Domain (BreakGlassAuthorization H) := do
  assertAuthenticated answers request.context request.now false
  assertApprovalIdentifier "action" scope.action
  assertApprovalIdentifier "resourceType" scope.resourceType
  assertApprovalIdentifier "resourceId" scope.resourceId
  throwIf (incident.status ≠ .active ∨ scope.action ∉ incident.allowedActions ∨
      isProhibitedAction scope.action = true ∨
      (⟨scope.resourceType, scope.resourceId⟩ : ResourceScope) ∉ incident.resourceScopes)
    "break_glass_scope_rejected" "break-glass scope does not allow this action"
  let terms : AuthorizationTerms H :=
    { breakGlassIncidentId := incident.breakGlassIncidentId
      tenantId := incident.tenantId
      action := scope.action
      resourceType := scope.resourceType
      resourceId := scope.resourceId
      incidentHash := incident.incidentHash
      incidentVersion := incident.version
      executorActorId := request.context.actorId
      executorClientId := request.context.clientId
      executorCredentialId := request.context.credentialId
      executorCredentialVersion := request.context.credentialVersion
      policyVersion := request.context.policyVersion
      issuedAt := request.now
      expiresAt := incident.expiresAt }
  pure { terms with authorizationHash := hashId (.authorization terms) }

omit [DecidableEq H] in
/-- An authorisation that was issued and has not expired. -/
def assertTrustedBreakGlassAuthorization (trusted : List (BreakGlassAuthorization H))
    (authorization : ℕ) (now : ℕ) : Domain (BreakGlassAuthorization H) := do
  match trusted[authorization]? with
  | none =>
    .error { code := "break_glass_authorization_required"
             message := "break-glass authorization is unavailable" }
  | some value =>
    throwIf (∃ expiresAt ∈ value.expiresAt, expiresAt ≤ now) "break_glass_authorization_expired"
      "break-glass authorization expired"
    pure value

/-- The last check of `revalidateProtectiveAuthorization`. -/
def isStale (request : BreakGlassRequest) (authorization : BreakGlassAuthorization H)
    (incident : BreakGlassIncident H) : Prop :=
  let context := request.context
  incident.status ≠ .active ∨ incident.version ≠ authorization.incidentVersion ∨
    incident.incidentHash ≠ authorization.incidentHash ∨
    incident.tenantId ≠ authorization.tenantId ∨ incident.tenantId ≠ context.tenantId ∨
    incident.requestedByActorId ≠ context.actorId ∨
    authorization.executorActorId ≠ context.actorId ∨
    authorization.executorClientId ≠ context.clientId ∨
    authorization.executorCredentialId ≠ context.credentialId ∨
    authorization.executorCredentialVersion ≠ context.credentialVersion ∨
    authorization.policyVersion ≠ context.policyVersion ∨
    authorization.action ∉ incident.allowedActions ∨
    isProhibitedAction authorization.action = true ∨
    (⟨authorization.resourceType, authorization.resourceId⟩ : ResourceScope) ∉
      incident.resourceScopes

instance (request : BreakGlassRequest) (authorization : BreakGlassAuthorization H)
    (incident : BreakGlassIncident H) : Decidable (isStale request authorization incident) :=
  inferInstanceAs (Decidable (_ ∨ _))

/-- `revalidateProtectiveAuthorization`, from where it has the incident. -/
def validateAuthorization (request : BreakGlassRequest) (authorization : BreakGlassAuthorization H)
    (incident : BreakGlassIncident H) : Domain (BreakGlassCall H) := do
  if hasExpired incident request.now then
    expireIncident hashId store incident request.now
  else
    throwIf (isStale request authorization incident) "break_glass_authorization_stale"
      "break-glass authorization is no longer current"
    pure (.done (.ok (.authorization authorization)))

end Segments

/-! ## The system -/

/-- The repository, the authorisations in the order in which they were issued, and the calls in the
order in which they were made. -/
structure BreakGlassState (H : Type) where
  store : BreakGlassStore H
  trusted : List (BreakGlassAuthorization H)
  calls : List (BreakGlassRequest × BreakGlassCall H)

/-- A new service. -/
def BreakGlassState.initial : BreakGlassState H := ⟨.empty, [], []⟩

/-- A call goes on, or throws. -/
def settle : Domain (BreakGlassCall H) → BreakGlassCall H
  | .ok call => call
  | .error error => .done (.error error)

/-- A call up to where it waits first. -/
def begin (state : BreakGlassState H) (request : BreakGlassRequest) :
    Domain (BreakGlassCall H) := do
  assertDeploymentGate request.config
  match request.command with
  | .keyed action idempotencyKey =>
    assertConfiguredActor request.context (action.actorIds request.config)
    pure (.authenticating action idempotencyKey)
  | .assertProtectiveScope scope =>
    assertConfiguredActor request.context request.config.requesterActorIds
    let incident ← requireIncident state.store scope.breakGlassIncidentId
    pure (.scoping scope incident)
  | .revalidateProtectiveAuthorization authorization =>
    let value ← assertTrustedBreakGlassAuthorization state.trusted authorization request.now
    assertConfiguredActor request.context request.config.requesterActorIds
    pure (.revalidating value)

section Step

variable [DecidableEq H] (hashId : BreakGlassPreimage H → H)
  (referenceHash : String → String → String)

/-- A keyed command from where its caller is known. -/
def findKeyed (store : BreakGlassStore H) (request : BreakGlassRequest) (answers : Answers)
    (action : KeyedAction) (idempotencyKey : String) : Domain (BreakGlassCall H) := do
  assertAuthenticated answers request.context request.now action.hardwareKeyRequired
  let commandHash ← action.prepare hashId referenceHash request idempotencyKey
  match ← store.findCommand idempotencyKey commandHash with
  | some response => pure (.done (.ok (.response response true)))
  | none => pure (.searched ⟨action, idempotencyKey, commandHash⟩)

/-- A keyed command from where nothing is recorded under its key. -/
def beginKeyed (store : BreakGlassStore H) (request : BreakGlassRequest) (answers : Answers)
    (command : KeyedCommand H) : Domain (BreakGlassCall H) :=
  match command.action with
  | .declareIncident reasonCode allowedActions resourceScopes =>
    declareIncident hashId referenceHash store request command reasonCode allowedActions
      resourceScopes answers.operationalId
  | .confirmCustodian incidentId _ _ | .close incidentId _ | .review incidentId _ _ => do
    pure (.read command (← requireIncident store incidentId))

/-- A keyed command from where it has the incident. -/
def performKeyed (store : BreakGlassStore H) (request : BreakGlassRequest)
    (command : KeyedCommand H) (incident : BreakGlassIncident H) : Domain (BreakGlassCall H) :=
  match command.action with
  | .declareIncident .. => pure (.read command incident)
  | .confirmCustodian incidentId expectedVersion hardwareKeyRefHash =>
    pure (.listed expectedVersion hardwareKeyRefHash command incident
      (listBreakGlassCustodianDecisions store incidentId))
  | .close _ expectedVersion => close hashId store request command expectedVersion incident
  | .review _ expectedVersion findingsRefHash =>
    beginReview store request command expectedVersion findingsRefHash incident

/-- The segments that write nothing. -/
def advance (store : BreakGlassStore H) (request : BreakGlassRequest) (answers : Answers) :
    BreakGlassCall H → Domain (BreakGlassCall H)
  | .authenticating action idempotencyKey =>
    findKeyed hashId referenceHash store request answers action idempotencyKey
  | .searched command => beginKeyed hashId referenceHash store request answers command
  | .read command incident => performKeyed hashId store request command incident
  | .listed expectedVersion hardwareKeyRefHash command incident existing =>
    confirmCustodian hashId store request command expectedVersion hardwareKeyRefHash incident
      existing answers.operationalId
  | .reviewing findingsRefHash command incident existing =>
    review hashId store request command findingsRefHash incident existing answers.operationalId
  | .scoping scope incident => scopeIncident hashId store request scope incident
  | .revalidating authorization => do
    assertAuthenticated answers request.context request.now false
    pure (.validating authorization (← requireIncident store authorization.breakGlassIncidentId))
  | .validating authorization incident =>
    validateAuthorization hashId store request authorization incident
  | call => pure call

/-- One segment of a call. -/
def resume (store : BreakGlassStore H) (trusted : List (BreakGlassAuthorization H))
    (request : BreakGlassRequest) (answers : Answers) (call : BreakGlassCall H) :
    BreakGlassStore H × List (BreakGlassAuthorization H) × BreakGlassCall H :=
  match call with
  | .committing commit after =>
    match store.commitCommand (fun value ↦ hashId (.projection value)) commit with
    | .ok store' => (store', trusted, .done (after.result commit.response false))
    | .error error => (store, trusted, .done (.error error))
  | .proving scope incident =>
    match proveScope hashId request answers scope incident with
    | .ok authorization =>
      (store, trusted ++ [authorization], .done (.ok (.authorization authorization)))
    | .error error => (store, trusted, .done (.error error))
  | call => (store, trusted, settle (advance hashId referenceHash store request answers call))

/-- What happens to the service. -/
inductive BreakGlassInput where
  | call (request : BreakGlassRequest)
  | resume (call : ℕ) (answers : Answers)

/-- A call is made, or a call that waits goes on. -/
def BreakGlassState.step (state : BreakGlassState H) : BreakGlassInput → BreakGlassState H
  | .call request => { state with calls := state.calls
    ++ [(request, settle (begin state request))] }
  | .resume n answers =>
    match state.calls[n]? with
    | none => state
    | some (request, call) =>
      let (store, trusted, next) :=
        resume hashId referenceHash state.store state.trusted request answers call
      { store, trusted, calls := state.calls.set n (request, next) }

end Step

end Approval
end IpoOne
