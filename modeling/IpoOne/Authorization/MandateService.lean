import IpoOne.Domain.Validators
import IpoOne.Lib.InsertionMap
import IpoOne.Lib.Throwing

/-!
# The mandate service

`MandateService`: a mandate allows its subject to spend up to an aggregate limit, within a window of
time.  What is spent is reserved against the mandate under the identifier of a reservation, and may
be released again.

Times are milliseconds.  The events that the methods append are left out: everything in them was
checked before, so that appending them does not throw.  Identifiers of mandates are drawn as those
of the ledger.
-/

set_option autoImplicit false

namespace IpoOne
namespace Authorization

open Fallible
open Throwing (get modify lift)

/-- The states of a mandate. -/
inductive MandateStatus where
  | draft
  | active
  | suspended
  | revoked
  | expired
  deriving DecidableEq, Repr

/-- The names of the states. -/
def MandateStatus.text : MandateStatus → String
  | .draft => "draft"
  | .active => "active"
  | .suspended => "suspended"
  | .revoked => "revoked"
  | .expired => "expired"

/-- `MandateTransitions` -/
def mandateTransitions : MandateStatus → List MandateStatus
  | .draft => [.active, .revoked, .expired]
  | .active => [.suspended, .revoked, .expired]
  | .suspended => [.active, .revoked, .expired]
  | .revoked => []
  | .expired => []

/-- What a mandate may allow its subject. -/
inductive MandateCapability where
  | requestCredit
  | acceptCreditOffer
  | executeSandboxCredit
  | providerSpend
  | captureRevenue
  | routeRepayment
  deriving DecidableEq, Repr

/-- What `createMandate` hashes. -/
structure MandateTerms where
  principalId : String
  subjectId : String
  capabilities : List MandateCapability
  allowedProviderIds : List String
  allowedCategories : List String
  assetIds : List String
  perActionLimitMinor : ℤ
  aggregateLimitMinor : ℤ
  validFrom : ℕ
  expiresAt : ℕ
  nonce : String
  termsRef : String
  deriving DecidableEq

/-- A stored mandate. -/
structure Mandate (H : Type) extends MandateTerms where
  mandateId : ℕ
  mandateHash : H
  utilizedMinor : ℤ
  status : MandateStatus
  updatedAt : ℕ
  deriving DecidableEq

/-- What `reserveUtilization` hashes. -/
structure ReservationRequest where
  mandateId : ℕ
  reservationId : String
  subjectId : String
  capability : MandateCapability
  providerId : Option String
  category : Option String
  assetId : String
  amountMinor : Option ℤ
  deriving DecidableEq

/-- A part of a mandate's limit that is set aside, and how much of it was given back. -/
structure Reservation (H : Type) where
  reservationId : String
  reservationHash : H
  mandateId : ℕ
  amountMinor : ℤ
  releasedMinor : ℤ
  createdAt : ℕ
  deriving DecidableEq

/-- What `releaseUtilization` hashes. -/
structure ReleaseRequest where
  mandateId : ℕ
  reservationId : String
  releaseId : String
  amountMinor : ℤ
  reason : String
  deriving DecidableEq

/-- An amount of a reservation that was given back. -/
structure Release (H : Type) where
  releaseId : String
  releaseHash : H
  mandateId : ℕ
  reservationId : String
  amountMinor : ℤ
  reason : String
  createdAt : ℕ
  deriving DecidableEq

/-- The payloads that are hashed about mandates. -/
inductive MandatePreimage where
  | mandate (terms : MandateTerms)
  | mandateReservation (request : ReservationRequest)
  | mandateRelease (request : ReleaseRequest)
  deriving DecidableEq

/-- The fields of the service. -/
structure MandateState (H : Type) where
  mandates : InsertionMap ℕ (Mandate H)
  mandateIdsByPrincipalNonce : InsertionMap String ℕ
  reservations : InsertionMap String (Reservation H)
  releases : InsertionMap String (Release H)
  /-- How many identifiers were drawn. -/
  drawn : ℕ
  deriving DecidableEq

/-- A new service. -/
def MandateState.new {H : Type} : MandateState H where
  mandates := .empty
  mandateIdsByPrincipalNonce := .empty
  reservations := .empty
  releases := .empty
  drawn := 0

/-- The argument of `createMandate`. -/
structure CreateMandateInput where
  principalId : String
  subjectId : String
  capabilities : List MandateCapability
  allowedProviderIds : Option (List String)
  allowedCategories : Option (List String)
  assetIds : List String
  perActionLimitMinor : ℤ
  aggregateLimitMinor : ℤ
  validFrom : Option ℕ
  expiresAt : Option ℕ
  nonce : String
  termsRef : String
  now : ℕ

/-- `assertAuthorized` -/
structure AuthorizationInput where
  mandateId : ℕ
  subjectId : String
  capability : MandateCapability
  providerId : Option String
  category : Option String
  assetId : String
  amountMinor : Option ℤ
  enforceAggregateLimit : Bool := true
  now : ℕ

/-- What `reserveUtilization` answers. -/
structure ReservationResult (H : Type) where
  mandate : Mandate H
  reservation : Reservation H
  replayed : Bool

/-- What `releaseUtilization` answers. -/
structure ReleaseResult (H : Type) where
  mandate : Mandate H
  release : Release H
  replayed : Bool

/-- `365 * 86400_000` -/
def yearMs : ℕ := 365 * 86400000

/-- `uniqueStrings` -/
def uniqueStrings (name : String) (values : List String) (allowEmpty : Bool) : Domain Unit := do
  throwIf (allowEmpty = false ∧ values = []) "invalid_string_list"
    (name ++ " must be " ++ (if allowEmpty then "an" else "a non-empty") ++ " array")
  let _ ← values.mapM fun value ↦ assertNonEmptyString name value
  throwIf (¬ values.Nodup) "duplicate_scope_value" (name ++ " cannot contain duplicates")

/-- A value that has to be given, and not to be empty. -/
def assertGiven (name : String) (value : Option String) : Domain Unit :=
  match value with
  | none => .error { code := "invalid_string", message := name ++ " must be a non-empty string" }
  | some value => assertNonEmptyString name value

section Service

variable {H : Type}

/-- `#requireMandate` -/
def requireMandate (state : MandateState H) (mandateId : ℕ) : Domain (Mandate H) :=
  match state.mandates.get mandateId with
  | none => .error { code := "mandate_not_found", message := "mandate not found" }
  | some mandate => pure mandate

/-- The checks of `createMandate`. -/
def checkMandate (input : CreateMandateInput) : Domain MandateTerms := do
  assertNonEmptyString "principalId" input.principalId
  assertNonEmptyString "subjectId" input.subjectId
  assertNonEmptyString "nonce" input.nonce
  assertNonEmptyString "termsRef" input.termsRef
  let validFrom := input.validFrom.getD input.now
  let expiresAt := input.expiresAt.getD (input.now + yearMs)
  throwIf (expiresAt ≤ validFrom) "invalid_mandate_window" "expiresAt must be after validFrom"
  throwIf (input.capabilities = []) "invalid_string_list" "capabilities must be a non-empty array"
  throwIf (¬ input.capabilities.Nodup) "duplicate_scope_value"
    "capabilities cannot contain duplicates"
  let allowedProviderIds := input.allowedProviderIds.getD []
  let allowedCategories := input.allowedCategories.getD []
  uniqueStrings "allowedProviderIds" allowedProviderIds true
  uniqueStrings "allowedCategories" allowedCategories true
  uniqueStrings "assetIds" input.assetIds false
  let perActionLimit ← assertPositiveMinorUnits input.perActionLimitMinor "perActionLimitMinor"
  let aggregateLimit ← assertPositiveMinorUnits input.aggregateLimitMinor "aggregateLimitMinor"
  throwIf (aggregateLimit < perActionLimit) "invalid_mandate_limits"
    "per-action limit cannot exceed aggregate limit"
  pure
    { principalId := input.principalId
      subjectId := input.subjectId
      capabilities := input.capabilities
      allowedProviderIds
      allowedCategories
      assetIds := input.assetIds
      perActionLimitMinor := perActionLimit
      aggregateLimitMinor := aggregateLimit
      validFrom
      expiresAt
      nonce := input.nonce
      termsRef := input.termsRef }

/-- What is written of a mandate. -/
def writeMandate (mandate : Mandate H) : Throwing DomainError (MandateState H) Unit :=
  modify fun state ↦ { state with mandates := state.mandates.set mandate.mandateId mandate }

/-- `#setStatus`; the actor is the system where none is given. -/
def setStatus (mandate : Mandate H) (nextStatus : MandateStatus) (actorId : Option String)
    (reason : String) (now : ℕ) : Throwing DomainError (MandateState H) (Mandate H) := do
  if mandate.status = nextStatus then pure mandate
  else do
    lift (assertNonEmptyString "actorId" (actorId.getD "system"))
    lift (assertNonEmptyString "reason" reason)
    lift (assertTransition "mandate" mandateTransitions MandateStatus.text mandate.status
      nextStatus)
    let updated := { mandate with status := nextStatus, updatedAt := now }
    writeMandate updated
    pure updated

/-- Activates a mandate, or lets it expire where its window is over. -/
def activateMandate (mandateId : ℕ) (actorId : Option String) (now : ℕ) :
    Throwing DomainError (MandateState H) (Mandate H) := do
  let mandate ← lift (requireMandate (← get) mandateId)
  if mandate.status = .active then pure mandate
  else do
    lift (throwIf (now < mandate.validFrom) "mandate_not_yet_valid"
      "mandate cannot activate before validFrom")
    if mandate.expiresAt ≤ now then
      setStatus mandate .expired actorId "validity_window_elapsed" now
    else setStatus mandate .active actorId "mandate_activated" now

/-- `suspendMandate` and `revokeMandate` -/
def endMandate (nextStatus : MandateStatus) (mandateId : ℕ) (actorId : Option String)
    (reason : String) (now : ℕ) : Throwing DomainError (MandateState H) (Mandate H) := do
  lift (assertNonEmptyString "reason" reason)
  let mandate ← lift (requireMandate (← get) mandateId)
  setStatus mandate nextStatus actorId reason now

/-- Suspends a mandate for a reason. -/
def suspendMandate (mandateId : ℕ) (actorId : Option String) (reason : String) (now : ℕ) :
    Throwing DomainError (MandateState H) (Mandate H) :=
  endMandate .suspended mandateId actorId reason now

/-- Revokes a mandate for a reason. -/
def revokeMandate (mandateId : ℕ) (actorId : Option String) (reason : String) (now : ℕ) :
    Throwing DomainError (MandateState H) (Mandate H) :=
  endMandate .revoked mandateId actorId reason now

/-- What `assertAuthorized` checks of a spend with a provider. -/
def checkProviderScope (mandate : Mandate H) (input : AuthorizationInput) : Domain Unit :=
  if input.capability = .providerSpend then do
    assertGiven "providerId" input.providerId
    assertGiven "category" input.category
    throwIf (∀ providerId ∈ input.providerId, providerId ∉ mandate.allowedProviderIds)
      "mandate_provider_denied" "provider is outside the mandate scope"
    throwIf (∀ category ∈ input.category, category ∉ mandate.allowedCategories)
      "mandate_category_denied" "category is outside the mandate scope"
  else pure ()

/-- What `assertAuthorized` checks of an amount. -/
def checkAmount (mandate : Mandate H) (input : AuthorizationInput) : Domain Unit :=
  match input.amountMinor with
  | none => pure ()
  | some amountMinor => do
    let amount ← assertPositiveMinorUnits amountMinor "amountMinor"
    throwIf (mandate.perActionLimitMinor < amount) "mandate_per_action_limit_exceeded"
      "action exceeds the mandate per-action limit"
    throwIf (input.enforceAggregateLimit = true ∧
        mandate.aggregateLimitMinor < amount + mandate.utilizedMinor)
      "mandate_aggregate_limit_exceeded" "action exceeds the mandate aggregate limit"

/-- The checks of `assertAuthorized` on a mandate whose status is up to date. -/
def checkAuthorized (mandate : Mandate H) (input : AuthorizationInput) : Domain Unit := do
  throwIf (mandate.status ≠ .active) "mandate_not_active" "an active mandate is required"
  throwIf (input.now < mandate.validFrom) "mandate_not_yet_valid" "mandate is not yet valid"
  throwIf (mandate.subjectId ≠ input.subjectId) "mandate_subject_mismatch"
    "mandate does not authorize this subject"
  throwIf (input.capability ∉ mandate.capabilities) "mandate_capability_denied"
    "mandate does not include the requested capability"
  throwIf (input.assetId ∉ mandate.assetIds) "mandate_asset_denied"
    "mandate does not include the requested asset"
  checkProviderScope mandate input
  checkAmount mandate input

/-- An elapsed window is recorded before anything is refused. -/
def expireIfElapsed (mandate : Mandate H) (now : ℕ) :
    Throwing DomainError (MandateState H) (Mandate H) :=
  if mandate.expiresAt ≤ now ∧ mandate.status ≠ .expired ∧ mandate.status ≠ .revoked then
    setStatus mandate .expired none "validity_window_elapsed" now
  else pure mandate

/-- Checks an action against the mandate, which expires first if its window is over. -/
def assertAuthorized (input : AuthorizationInput) :
    Throwing DomainError (MandateState H) (Mandate H) := do
  lift (assertNonEmptyString "subjectId" input.subjectId)
  lift (assertNonEmptyString "assetId" input.assetId)
  let found ← lift (requireMandate (← get) input.mandateId)
  let mandate ← expireIfElapsed found input.now
  lift (checkAuthorized mandate input)
  pure mandate

variable [DecidableEq H] (hashId : MandatePreimage → H)

/-- Creates a draft mandate; the same terms under the same nonce give the stored one. -/
def createMandate (input : CreateMandateInput) :
    Throwing DomainError (MandateState H) (Mandate H) := do
  let terms ← lift (checkMandate input)
  let mandateHash := hashId (.mandate terms)
  let nonceKey := terms.principalId ++ "\x00" ++ terms.nonce
  let state ← get
  match state.mandateIdsByPrincipalNonce.get nonceKey with
  | some existingId => do
    let existing ← lift (requireMandate state existingId)
    lift (throwIf (existing.mandateHash ≠ mandateHash) "mandate_nonce_conflict"
      "principal mandate nonce was reused with different terms")
    pure existing
  | none => do
    let mandate : Mandate H :=
      { terms with
        mandateId := state.drawn
        mandateHash
        utilizedMinor := 0
        status := .draft
        updatedAt := input.now }
    modify fun state ↦
      { state with
        mandates := state.mandates.set mandate.mandateId mandate
        mandateIdsByPrincipalNonce :=
          state.mandateIdsByPrincipalNonce.set nonceKey mandate.mandateId
        drawn := state.drawn + 1 }
    pure mandate

/-- Sets an amount of the mandate's limit aside; the same request again gives the stored
reservation. -/
def reserveUtilization (request : ReservationRequest) (now : ℕ) :
    Throwing DomainError (MandateState H) (ReservationResult H) := do
  lift (assertNonEmptyString "reservationId" request.reservationId)
  let reservationHash := hashId (.mandateReservation request)
  let state ← get
  match state.reservations.get request.reservationId with
  | some existing => do
    lift (throwIf (existing.reservationHash ≠ reservationHash) "mandate_reservation_conflict"
      "reservation id was reused with a different authorization")
    let mandate ← lift (requireMandate state existing.mandateId)
    pure { mandate, reservation := existing, replayed := true }
  | none => do
    let mandate ← assertAuthorized
      { mandateId := request.mandateId
        subjectId := request.subjectId
        capability := request.capability
        providerId := request.providerId
        category := request.category
        assetId := request.assetId
        amountMinor := request.amountMinor
        now }
    match request.amountMinor with
    | none =>
      lift (.error { code := "TypeError", message := "Cannot convert undefined to a BigInt" })
    | some amount => do
      let storedMandate :=
        { mandate with utilizedMinor := mandate.utilizedMinor + amount, updatedAt := now }
      let reservation : Reservation H :=
        { reservationId := request.reservationId
          reservationHash
          mandateId := request.mandateId
          amountMinor := amount
          releasedMinor := 0
          createdAt := now }
      writeMandate storedMandate
      modify fun state ↦
        { state with
          reservations := state.reservations.set request.reservationId reservation }
      pure { mandate := storedMandate, reservation, replayed := false }

/-- Gives back an amount of a reservation; the same request again gives the stored release. -/
def releaseUtilization (request : ReleaseRequest) (now : ℕ) :
    Throwing DomainError (MandateState H) (ReleaseResult H) := do
  lift (assertNonEmptyString "releaseId" request.releaseId)
  lift (assertNonEmptyString "reason" request.reason)
  let amount ← lift (assertPositiveMinorUnits request.amountMinor "amountMinor")
  let releaseHash := hashId (.mandateRelease request)
  let state ← get
  match state.releases.get request.releaseId with
  | some existingRelease => do
    lift (throwIf (existingRelease.releaseHash ≠ releaseHash) "mandate_release_conflict"
      "release id was reused with different terms")
    let mandate ← lift (requireMandate state request.mandateId)
    pure { mandate, release := existingRelease, replayed := true }
  | none => do
    let mandate ← lift (requireMandate state request.mandateId)
    let reservation ← lift
      (match state.reservations.get request.reservationId with
      | some reservation => do
        throwIf (reservation.mandateId ≠ request.mandateId) "mandate_reservation_not_found"
          "mandate reservation not found"
        pure reservation
      | none =>
        .error
          { code := "mandate_reservation_not_found"
            message := "mandate reservation not found" })
    lift (throwIf (reservation.amountMinor - reservation.releasedMinor < amount ∨
        mandate.utilizedMinor < amount)
      "mandate_release_exceeds_reservation" "release exceeds reserved utilization")
    let released := { reservation with releasedMinor := reservation.releasedMinor + amount }
    let updated :=
      { mandate with utilizedMinor := mandate.utilizedMinor - amount, updatedAt := now }
    let release : Release H :=
      { releaseId := request.releaseId
        releaseHash
        mandateId := request.mandateId
        reservationId := request.reservationId
        amountMinor := amount
        reason := request.reason
        createdAt := now }
    modify fun state ↦
      { state with reservations := state.reservations.set request.reservationId released }
    writeMandate updated
    modify fun state ↦ { state with releases := state.releases.set request.releaseId release }
    pure { mandate := updated, release, replayed := false }

end Service

/-- A call on the service. -/
inductive MandateInput where
  | createMandate (input : CreateMandateInput)
  | activateMandate (mandateId : ℕ) (actorId : Option String) (now : ℕ)
  | suspendMandate (mandateId : ℕ) (actorId : Option String) (reason : String) (now : ℕ)
  | revokeMandate (mandateId : ℕ) (actorId : Option String) (reason : String) (now : ℕ)
  | assertAuthorized (input : AuthorizationInput)
  | reserveUtilization (request : ReservationRequest) (now : ℕ)
  | releaseUtilization (request : ReleaseRequest) (now : ℕ)

/-- One call of a method of the service. -/
def mandateStep {H : Type} [DecidableEq H] (hashId : MandatePreimage → H) (state : MandateState H) :
    MandateInput → MandateState H
  | .createMandate input => (createMandate hashId input state).2
  | .activateMandate mandateId actorId now => (activateMandate mandateId actorId now state).2
  | .suspendMandate mandateId actorId reason now =>
    (suspendMandate mandateId actorId reason now state).2
  | .revokeMandate mandateId actorId reason now =>
    (revokeMandate mandateId actorId reason now state).2
  | .assertAuthorized input => (assertAuthorized input state).2
  | .reserveUtilization request now => (reserveUtilization hashId request now state).2
  | .releaseUtilization request now => (releaseUtilization hashId request now state).2

end Authorization
end IpoOne
