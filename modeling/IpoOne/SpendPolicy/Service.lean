import IpoOne.Authorization.MandateService

/-!
# The spend policy service

`SpendPolicyService`: a spend with an allowlisted provider is approved if the subject's policy and
mandate allow it.  An approval is charged to the policy's daily limit and reserved against the
mandate, under the identifier of the spend request.

The state has the mandate service in it, which the service calls.  Identifiers are given with the
call that draws them.  Of the events that the methods append only the check of their subject is
kept, and a call gives the instants that it reads from the clock.
-/

set_option autoImplicit false

namespace IpoOne
namespace SpendPolicy

open Fallible
open Throwing (get modify lift zoom attempt)
open Authorization (MandateState MandatePreimage MandateCapability)

/-- The states of a provider. -/
inductive ProviderStatus where
  | pending
  | allowlisted
  | suspended
  | closed
  deriving DecidableEq, Repr

/-- The states of a policy. -/
inductive SpendPolicyStatus where
  | active
  | paused
  | expired
  deriving DecidableEq, Repr

/-- The states of a request. -/
inductive SpendRequestStatus where
  | requested
  | approved
  | rejected
  | settled
  | failed
  deriving DecidableEq, Repr

/-- The names of the states. -/
def SpendRequestStatus.text : SpendRequestStatus → String
  | .requested => "requested"
  | .approved => "approved"
  | .rejected => "rejected"
  | .settled => "settled"
  | .failed => "failed"

/-- `SpendRequestTransitions` -/
def spendRequestTransitions : SpendRequestStatus → List SpendRequestStatus
  | .requested => [.approved, .rejected, .failed]
  | .approved => [.settled, .failed]
  | .rejected => []
  | .settled => []
  | .failed => []

/-- A provider. -/
structure Provider where
  providerId : String
  settlementAccountIdRef : String
  status : ProviderStatus
  deriving DecidableEq

/-- The limits of a subject's spending with a provider, and what it spent today. -/
structure Policy where
  spendPolicyId : String
  subjectId : String
  providerId : String
  assetId : String
  category : String
  perTxLimitMinor : ℤ
  dailyLimitMinor : ℤ
  obligationCapMinor : ℤ
  dailySpentMinor : ℤ
  /-- The day, counted from the epoch. -/
  dailySpentDate : ℕ
  status : SpendPolicyStatus
  deriving DecidableEq

/-- A request to spend. -/
structure SpendRequest where
  spendRequestId : String
  subjectId : String
  mandateId : ℕ
  providerId : String
  spendPolicyId : String
  assetId : String
  amountMinor : ℤ
  purposeCode : String
  status : SpendRequestStatus
  rejectionReason : Option String
  createdAt : ℕ
  updatedAt : ℕ
  deriving DecidableEq

/-- The fields of the service, its authorization service among them. -/
structure SpendState (H : Type) where
  providers : InsertionMap String Provider
  policies : InsertionMap String Policy
  spendRequests : InsertionMap String SpendRequest
  authorization : MandateState H

/-- A new service. -/
def SpendState.new {H : Type} : SpendState H where
  providers := .empty
  policies := .empty
  spendRequests := .empty
  authorization := .new

/-- The argument of `createSpendPolicy`. -/
structure CreateSpendPolicyInput where
  spendPolicyId : String
  subjectId : String
  providerId : String
  assetId : String
  perTxLimitMinor : ℤ
  dailyLimitMinor : ℤ
  obligationCapMinor : ℤ
  category : Option String
  now : ℕ

/-- The argument of `requestSpend`. -/
structure RequestSpendInput where
  spendRequestId : String
  mandateId : ℕ
  subjectId : String
  providerId : String
  spendPolicyId : String
  assetId : String
  amountMinor : ℤ
  purposeCode : String
  creditAvailableMinor : ℤ
  /-- When the call starts. -/
  now : ℕ
  /-- When the mandate is checked, and when the spend is reserved. -/
  authorizedAt : ℕ
  reservedAt : ℕ

/-- `new Date(now).toISOString().slice(0, 10)` -/
def dayOf (now : ℕ) : ℕ := now / 86400000

section Service

variable {H : Type}

/-- A program of the authorization service. -/
def withAuthorization {α : Type} (x : Throwing DomainError (MandateState H) α) :
    Throwing DomainError (SpendState H) α :=
  zoom SpendState.authorization (fun state authorization ↦ { state with authorization }) x

/-- `#requireProvider` -/
def requireProvider (state : SpendState H) (providerId : String) : Domain Provider :=
  match state.providers.get providerId with
  | none => .error { code := "provider_not_found", message := "provider not found" }
  | some provider => pure provider

/-- `#requireSpendRequest` -/
def requireSpendRequest (state : SpendState H) (spendRequestId : String) : Domain SpendRequest :=
  match state.spendRequests.get spendRequestId with
  | none => .error { code := "spend_request_not_found", message := "spend request not found" }
  | some request => pure request

theorem requireSpendRequest_eq_ok {state : SpendState H} {spendRequestId : String}
    {request : SpendRequest} : requireSpendRequest state spendRequestId = .ok request ↔
      state.spendRequests.get spendRequestId = some request := by
  rw [requireSpendRequest]
  rcases state.spendRequests.get spendRequestId with _ | found <;> simp

/-- Puts a provider on the list of those that may be paid. -/
def allowProvider (providerId settlementAccountId : String) :
    Throwing DomainError (SpendState H) Provider := do
  let provider : Provider :=
    { providerId, settlementAccountIdRef := settlementAccountId, status := .allowlisted }
  modify fun state ↦ { state with providers := state.providers.set providerId provider }
  pure provider

/-- Creates a policy for a provider on the list. -/
def createSpendPolicy (input : CreateSpendPolicyInput) :
    Throwing DomainError (SpendState H) Policy := do
  let provider ← lift (requireProvider (← get) input.providerId)
  lift (throwIf (provider.status ≠ .allowlisted) "provider_not_allowlisted"
    "spend policy requires allowlisted provider")
  let _ ← lift (assertPositiveMinorUnits input.perTxLimitMinor "perTxLimitMinor")
  let _ ← lift (assertPositiveMinorUnits input.dailyLimitMinor "dailyLimitMinor")
  let _ ← lift (assertPositiveMinorUnits input.obligationCapMinor "obligationCapMinor")
  lift (throwIf (input.dailyLimitMinor < input.perTxLimitMinor) "invalid_spend_policy_limits"
    "per transaction limit cannot exceed daily limit")
  let policy : Policy :=
    { spendPolicyId := input.spendPolicyId
      subjectId := input.subjectId
      providerId := input.providerId
      assetId := input.assetId
      category := input.category.getD "model_api"
      perTxLimitMinor := input.perTxLimitMinor
      dailyLimitMinor := input.dailyLimitMinor
      obligationCapMinor := input.obligationCapMinor
      dailySpentMinor := 0
      dailySpentDate := dayOf input.now
      status := .active }
  modify fun state ↦ { state with policies := state.policies.set policy.spendPolicyId policy }
  -- the event about the policy
  lift (assertNonEmptyString "correlationId" policy.subjectId)
  pure policy

/-- A policy that was last charged on another day starts again from zero. -/
def rollDay (policy : Policy) (now : ℕ) : Policy :=
  if policy.dailySpentDate = dayOf now then policy
  else { policy with dailySpentMinor := 0, dailySpentDate := dayOf now }

/-- The rolled policy is written, whatever becomes of the request. -/
def rollPolicy (spendPolicyId : String) (now : ℕ) :
    Throwing DomainError (SpendState H) (Option Policy) := do
  match (← get).policies.get spendPolicyId with
  | none => pure none
  | some policy => do
    let rolled := rollDay policy now
    modify fun state ↦ { state with policies := state.policies.set spendPolicyId rolled }
    pure (some rolled)

/-- Why a spend is out of the scope of the policy or of the mandate. -/
def scopeRejection (input : RequestSpendInput) (provider : Option Provider)
    (policy : Option Policy) : Throwing DomainError (SpendState H) (Option String) :=
  if ∀ found ∈ provider, found.status ≠ .allowlisted then pure (some "provider_not_allowlisted")
  else if ∀ found ∈ policy, found.status ≠ .active then pure (some "policy_not_active")
  else if ∃ found ∈ policy, found.subjectId ≠ input.subjectId ∨
      found.providerId ≠ input.providerId ∨ found.assetId ≠ input.assetId then
    pure (some "policy_scope_mismatch")
  else if ∃ found ∈ policy, found.category ≠ input.purposeCode then
    pure (some "purpose_not_allowed")
  else do
    let authorized ← attempt (withAuthorization (Authorization.assertAuthorized
      { mandateId := input.mandateId
        subjectId := input.subjectId
        capability := .providerSpend
        providerId := some input.providerId
        category := some input.purposeCode
        assetId := input.assetId
        amountMinor := some input.amountMinor
        now := input.authorizedAt }))
    match authorized with
    | .ok _ => pure none
    | .error error => pure (some error.code)

/-- Why a spend exceeds one of its limits. -/
def limitRejection (input : RequestSpendInput) (policy : Policy) : Option String :=
  if policy.perTxLimitMinor < input.amountMinor then some "per_tx_limit_exceeded"
  else if policy.dailyLimitMinor < input.amountMinor + policy.dailySpentMinor then
    some "daily_limit_exceeded"
  else if policy.obligationCapMinor < input.amountMinor then some "obligation_cap_exceeded"
  else if input.creditAvailableMinor < input.amountMinor then some "credit_available_exceeded"
  else none

/-- `createSpendRequest`, with the status and the reason that the request ends with. -/
def createSpendRequest (input : RequestSpendInput) (status : SpendRequestStatus)
    (rejectionReason : Option String) : SpendRequest where
  spendRequestId := input.spendRequestId
  subjectId := input.subjectId
  mandateId := input.mandateId
  providerId := input.providerId
  spendPolicyId := input.spendPolicyId
  assetId := input.assetId
  amountMinor := input.amountMinor
  purposeCode := input.purposeCode
  status
  rejectionReason
  createdAt := input.now
  updatedAt := input.reservedAt

/-- What a request records. -/
def recordRequest (request : SpendRequest) : Throwing DomainError (SpendState H) SpendRequest := do
  modify fun state ↦
    { state with spendRequests := state.spendRequests.set request.spendRequestId request }
  pure request

variable [DecidableEq H] (hashId : MandatePreimage → H)

/-- An approval reserves the amount against the mandate and charges it to the policy. -/
def approve (input : RequestSpendInput) (policy : Policy) :
    Throwing DomainError (SpendState H) SpendRequest := do
  let _ ← withAuthorization (Authorization.reserveUtilization hashId
    { mandateId := input.mandateId
      reservationId := input.spendRequestId
      subjectId := input.subjectId
      capability := .providerSpend
      providerId := some input.providerId
      category := some input.purposeCode
      assetId := input.assetId
      amountMinor := some input.amountMinor }
    input.reservedAt)
  modify fun state ↦
    { state with
      policies := state.policies.set input.spendPolicyId
        { policy with dailySpentMinor := policy.dailySpentMinor + input.amountMinor } }
  recordRequest (createSpendRequest input .approved none)

/-- Approves a request within the limits and reserves it, or records why it is rejected. -/
def requestSpend (input : RequestSpendInput) :
    Throwing DomainError (SpendState H) SpendRequest := do
  let provider := (← get).providers.get input.providerId
  let _ ← lift (assertPositiveMinorUnits input.amountMinor "amountMinor")
  let _ ← lift (toMinorUnitBigInt input.creditAvailableMinor "creditAvailableMinor")
  lift (assertNonEmptyString "purposeCode" input.purposeCode)
  -- the event about the request
  lift (assertNonEmptyString "correlationId" input.subjectId)
  let policy ← rollPolicy input.spendPolicyId input.now
  match ← scopeRejection input provider policy, policy with
  | some reason, _ => recordRequest (createSpendRequest input .rejected (some reason))
  | none, none => lift (.error { code := "TypeError", message := "policy is undefined" })
  | none, some policy =>
    match limitRejection input policy with
    | some reason => recordRequest (createSpendRequest input .rejected (some reason))
    | none => approve hashId input policy

/-- Settles an approved request. -/
def settleSpend (spendRequestId : String) (now : ℕ) :
    Throwing DomainError (SpendState H) SpendRequest := do
  let request ← lift (requireSpendRequest (← get) spendRequestId)
  lift (assertTransition "spend_request" spendRequestTransitions SpendRequestStatus.text
    request.status .settled)
  recordRequest { request with status := .settled, updatedAt := now }

end Service

end SpendPolicy
end IpoOne
