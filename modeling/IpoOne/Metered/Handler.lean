import IpoOne.Lib.InsertionMap
import IpoOne.Metered.Evidence
import IpoOne.SpendPolicy.Service

/-!
# Admitting metered usage

`admitMeteredUsageCommandHandler`: a worker hands in the evidence of a provider, and the handler
plans the admission, the posting, the reservation against the mandate or its release, and the day's
spending.  The plan is written in one transaction, which fails as a whole if a record is there
already; commands run one after another.

What the policy resolver and the signature verifier answer comes with the command.  The state is
that of one tenant.
-/

set_option autoImplicit false

namespace IpoOne
namespace Metered

open Fallible

variable {H : Type}

/-! ## State -/

/-- A `mandate.v3`. -/
structure UsageMandate where
  mandateId : String
  subjectId : String
  principalId : String
  capabilities : List Authorization.MandateCapability
  allowedProviderIds : List String
  assetIds : List String
  perActionLimitMinor : ℤ
  aggregateLimitMinor : ℤ
  utilizedMinor : ℤ
  validFrom : ℕ
  expiresAt : ℕ
  status : Authorization.MandateStatus
  sandboxOnly : Bool
  productionAuthority : Bool
  schemaVersion : String
  updatedAt : ℕ
  deriving DecidableEq

/-- Whether a lockbox can be used. -/
inductive LockboxStatus where
  | active
  | closed
  deriving DecidableEq, Repr

/-- What the handler reads of a lockbox. -/
structure UsageLockbox where
  obligationId : String
  subjectId : String
  principalId : String
  mandateId : String
  creditLineId : String
  assetId : String
  allowedProviderIds : List String
  status : LockboxStatus
  sandboxOnly : Bool
  productionFundsMoved : Bool
  withdrawable : Bool
  deriving DecidableEq

/-- A stored reservation, and how much of it was released. -/
structure MeteredReservation (H : Type) extends ReservationTerms H where
  reservationHash : H
  releasedMinor : ℤ
  createdAt : ℕ
  deriving DecidableEq

/-- A stored release. -/
structure MeteredRelease (H : Type) extends ReleaseTerms H where
  releaseHash : H
  deriving DecidableEq

/-- The spend request that records a charge. -/
structure MeteredSpendRequest (H : Type) where
  spendRequestId : H
  subjectId : String
  mandateId : String
  providerId : String
  spendPolicyId : String
  assetId : String
  amountMinor : ℤ
  purposeCode : String
  createdAt : ℕ
  deriving DecidableEq

/-- The tables that the handler reads and writes. -/
structure UsageStore (H : Type) where
  evidence : List (MeteredUsageEvidence H)
  admissions : List (MeteredUsageAdmission H)
  reservations : InsertionMap H (MeteredReservation H)
  releases : List (MeteredRelease H)
  obligations : InsertionMap String UsageObligation
  mandates : InsertionMap String UsageMandate
  lockboxes : InsertionMap String UsageLockbox
  spendPolicies : InsertionMap String SpendPolicy.Policy
  providers : InsertionMap String SpendPolicy.Provider
  spendRequests : List (MeteredSpendRequest H)
  transactions : List (UsageTransaction H)

/-! ## Commands -/

/-- A command with its context: who gives it, what it is authorized for, and what the resolver and
the verifier answer. -/
structure AdmitCommand (H : Type) where
  tenantId : String
  isSystemWorker : Bool
  authorizedObligationId : Option String
  now : ℕ
  /-- The evidence with the digest that was handed in with it. -/
  evidence : MeteredUsageEvidence H
  expectedPolicyHash : H
  providerSignature : String
  resolvedPolicy : Option UsagePolicyTerms
  signatureVerified : Bool

/-- The error that tells nothing about what is missing. -/
def unavailable : DomainError :=
  { code := "tenant_resource_unavailable", message := "The requested resource is not available." }

/-- A record that has to be there. -/
def orUnavailable {α : Type} : Option α → Domain α
  | none => .error unavailable
  | some value => pure value

@[simp] theorem orUnavailable_eq_ok {α : Type} {x : Option α} {value : α} :
    orUnavailable x = .ok value ↔ x = some value := by
  cases x <;> simp [orUnavailable]

theorem errorsIn_orUnavailable {α : Type} {P : DomainError → Prop} {x : Option α}
    (h : P unavailable) : ErrorsIn P (orUnavailable x) := by
  rintro e he
  cases x with
  | none => exact Except.error.inj he ▸ h
  | some value => cases he

section Plan

variable (hashId : UsagePreimage H → H) [DecidableEq H]

/-- The evidence of a command, whose digest has to be its own. -/
def normalizePayload (command : AdmitCommand H) : Domain (MeteredUsageEvidence H) := do
  failIf (utf16Length command.providerSignature < 16 ∨
    2048 < utf16Length command.providerSignature) unavailable
  let evidence ← createMeteredUsageEvidence hashId command.evidence.toEvidenceTerms
  failIf (command.evidence.usageEvidenceHash ≠ evidence.usageEvidenceHash) unavailable
  pure evidence

/-- The checks before the transaction: the payload, and the provider's signature. -/
def preflight (command : AdmitCommand H) : Domain Unit := do
  let _ ← normalizePayload hashId command
  throwIf (command.signatureVerified = false) "metered_usage_signature_rejected"
    "Metered Usage signature is unavailable"

/-- An evidence with this identity was recorded before. -/
def isConsumed (store : UsageStore H) (evidence : EvidenceTerms) : Prop :=
  ∃ recorded ∈ store.evidence, recorded.usageEvidenceId = evidence.usageEvidenceId ∨
    (recorded.scope.providerId = evidence.scope.providerId ∧
      (recorded.providerEventId = evidence.providerEventId ∨
        hashId (.nonce recorded.nonce) = hashId (.nonce evidence.nonce)))

instance (store : UsageStore H) (evidence : EvidenceTerms) :
    Decidable (isConsumed hashId store evidence) :=
  inferInstanceAs (Decidable (∃ recorded ∈ store.evidence, _))

/-! ## Authority -/

/-- The records that a command is checked against. -/
structure UsageRecords where
  obligation : UsageObligation
  mandate : UsageMandate
  lockbox : UsageLockbox
  spendPolicy : SpendPolicy.Policy
  provider : SpendPolicy.Provider
  deriving DecidableEq

/-- The obligation is active and the one of the evidence. -/
def obligationExact (evidence : EvidenceTerms) (obligation : UsageObligation) : Prop :=
  obligation.schemaVersion = "obligation.v2" ∧
    obligation.obligationId = evidence.scope.obligationId ∧
    obligation.subjectId = evidence.scope.subjectId ∧
    obligation.principalId = evidence.scope.principalId ∧
    obligation.mandateId = evidence.scope.mandateId ∧
    obligation.creditOfferAcceptanceId = evidence.scope.authorizationId ∧
    obligation.assetId = evidence.scope.assetId ∧ obligation.executionStatus = .executed ∧
    obligation.status = .active ∧ obligation.sandboxOnly = true ∧
    obligation.productionFundsMoved = false ∧ obligation.withdrawable = false

/-- The mandate is active and covers the evidence, its charge apart. -/
def mandateExact (evidence : EvidenceTerms) (mandate : UsageMandate) (now : ℕ) : Prop :=
  mandate.schemaVersion = "mandate.v3" ∧ mandate.status = .active ∧
    mandate.mandateId = evidence.scope.mandateId ∧
    mandate.subjectId = evidence.scope.subjectId ∧
    mandate.principalId = evidence.scope.principalId ∧ mandate.sandboxOnly = true ∧
    mandate.productionAuthority = false ∧ .providerSpend ∈ mandate.capabilities ∧
    evidence.scope.providerId ∈ mandate.allowedProviderIds ∧
    evidence.scope.assetId ∈ mandate.assetIds ∧ mandate.validFrom ≤ now ∧ now < mandate.expiresAt

/-- The lockbox is active and the one of the evidence. -/
def lockboxExact (evidence : EvidenceTerms) (lockbox : UsageLockbox) : Prop :=
  lockbox.status = .active ∧ lockbox.obligationId = evidence.scope.obligationId ∧
    lockbox.subjectId = evidence.scope.subjectId ∧
    lockbox.principalId = evidence.scope.principalId ∧
    lockbox.mandateId = evidence.scope.mandateId ∧
    lockbox.creditLineId = evidence.scope.facilityId ∧
    lockbox.assetId = evidence.scope.assetId ∧ lockbox.sandboxOnly = true ∧
    lockbox.productionFundsMoved = false ∧ lockbox.withdrawable = false ∧
    evidence.scope.providerId ∈ lockbox.allowedProviderIds

/-- The spend policy is active and the one of the evidence. -/
def spendPolicyExact (evidence : EvidenceTerms) (policyId : String)
    (spendPolicy : SpendPolicy.Policy) : Prop :=
  spendPolicy.status = .active ∧ spendPolicy.spendPolicyId = policyId ∧
    spendPolicy.subjectId = evidence.scope.subjectId ∧
    spendPolicy.providerId = evidence.scope.providerId ∧
    spendPolicy.assetId = evidence.scope.assetId

/-- The provider is allowed and the one of the evidence. -/
def providerExact (evidence : EvidenceTerms) (provider : SpendPolicy.Provider) : Prop :=
  provider.status = .allowlisted ∧ provider.providerId = evidence.scope.providerId

/-- The whole charge is within the limits of the mandate and of the spend policy, also for a
correction. -/
def chargeWithinLimits (charge : ℕ) (mandate : UsageMandate) (spendPolicy : SpendPolicy.Policy) :
    Prop :=
  charge ≤ mandate.perActionLimitMinor ∧
    mandate.utilizedMinor + charge ≤ mandate.aggregateLimitMinor ∧
    charge ≤ spendPolicy.perTxLimitMinor ∧ charge ≤ spendPolicy.obligationCapMinor

/-- The worker is authorized for the obligation of the evidence, under the policy it expects. -/
def callerExact (command : AdmitCommand H) (policy : MeteredUsagePolicy H) : Prop :=
  command.isSystemWorker = true ∧
    command.authorizedObligationId = some command.evidence.scope.obligationId ∧
    command.tenantId = command.evidence.scope.tenantId ∧
    policy.scope.tenantId = command.tenantId ∧ policy.policyHash = command.expectedPolicyHash

/-- What `assertExactAuthority` asks for.  All of its checks throw the same error. -/
def exactAuthority (command : AdmitCommand H) (policy : MeteredUsagePolicy H)
    (records : UsageRecords) : Prop :=
  callerExact command policy ∧ obligationExact command.evidence.toEvidenceTerms records.obligation ∧
    mandateExact command.evidence.toEvidenceTerms records.mandate command.now ∧
    lockboxExact command.evidence.toEvidenceTerms records.lockbox ∧
    spendPolicyExact command.evidence.toEvidenceTerms policy.policyId records.spendPolicy ∧
    providerExact command.evidence.toEvidenceTerms records.provider ∧
    chargeWithinLimits command.evidence.chargeMinor records.mandate records.spendPolicy

section Decidable

variable (evidence : EvidenceTerms) (command : AdmitCommand H) (policy : MeteredUsagePolicy H)
  (records : UsageRecords)

instance (obligation : UsageObligation) : Decidable (obligationExact evidence obligation) :=
  inferInstanceAs (Decidable (_ ∧ _))

instance (mandate : UsageMandate) (now : ℕ) : Decidable (mandateExact evidence mandate now) :=
  inferInstanceAs (Decidable (_ ∧ _))

instance (lockbox : UsageLockbox) : Decidable (lockboxExact evidence lockbox) :=
  inferInstanceAs (Decidable (_ ∧ _))

instance (policyId : String) (spendPolicy : SpendPolicy.Policy) :
    Decidable (spendPolicyExact evidence policyId spendPolicy) :=
  inferInstanceAs (Decidable (_ ∧ _))

instance (provider : SpendPolicy.Provider) : Decidable (providerExact evidence provider) :=
  inferInstanceAs (Decidable (_ ∧ _))

instance (charge : ℕ) (mandate : UsageMandate) (spendPolicy : SpendPolicy.Policy) :
    Decidable (chargeWithinLimits charge mandate spendPolicy) :=
  inferInstanceAs (Decidable (_ ∧ _))

instance : Decidable (callerExact command policy) := inferInstanceAs (Decidable (_ ∧ _))

instance : Decidable (exactAuthority command policy records) :=
  inferInstanceAs (Decidable (_ ∧ _))

end Decidable

/-- The records of the evidence, which the handler reads in its transaction. -/
def readRecords (store : UsageStore H) (evidence : EvidenceTerms) (policyId : String) :
    Domain UsageRecords := do
  let obligation ← orUnavailable (store.obligations.get evidence.scope.obligationId)
  let mandate ← orUnavailable (store.mandates.get evidence.scope.mandateId)
  let lockbox ← orUnavailable (store.lockboxes.get evidence.scope.obligationId)
  let spendPolicy ← orUnavailable (store.spendPolicies.get policyId)
  let provider ← orUnavailable (store.providers.get evidence.scope.providerId)
  pure { obligation, mandate, lockbox, spendPolicy, provider }

/-! ## The plan -/

/-- The evidence with this identifier. -/
def findEvidence (store : UsageStore H) (usageEvidenceId : String) :
    Option (MeteredUsageEvidence H) :=
  store.evidence.find? (·.usageEvidenceId = usageEvidenceId)

/-- The admission of the evidence with this identifier. -/
def findAdmission (store : UsageStore H) (usageEvidenceId : String) :
    Option (MeteredUsageAdmission H) :=
  store.admissions.find? (·.usageEvidenceId = usageEvidenceId)

/-- An admission with the window of its evidence, as the join of the two tables. -/
def windowOf (store : UsageStore H) (admission : MeteredUsageAdmission H) : Option UsageWindow :=
  (findEvidence store admission.usageEvidenceId).map (·.window)

/-- `getMeteredUsageWindowChargeInTransaction` -/
def getMeteredUsageWindowCharge (store : UsageStore H) (policyId : String) (window : UsageWindow) :
    ℤ :=
  ((store.admissions.filter fun admission ↦
    admission.policyId = policyId ∧ windowOf store admission = some window).map
      (·.chargeDeltaMinor)).sum

/-- What the handler reads about the evidence that is corrected. -/
def readPrior (store : UsageStore H) (evidence : EvidenceTerms) : Domain (PriorUsage H) :=
  match evidence.correctionOfUsageEvidenceId with
  | none => pure ⟨none, none⟩
  | some corrected => do
    throwIf (∃ recorded ∈ store.evidence, recorded.correctionOfUsageEvidenceId = some corrected)
      "metered_usage_replay_conflict" "Metered Usage correction source was already consumed"
    pure ⟨findEvidence store corrected, findAdmission store corrected⟩

/-- The reservation for a charge. -/
def createReservation (admission : MeteredUsageAdmission H) (evidence : EvidenceTerms)
    (category : String) (now : ℕ) : MeteredReservation H :=
  let terms : ReservationTerms H :=
    { mandateId := evidence.scope.mandateId
      reservationId := admission.admissionHash
      subjectId := evidence.scope.subjectId
      providerId := evidence.scope.providerId
      category
      assetId := evidence.scope.assetId
      amountMinor := admission.chargeDeltaMinor }
  { terms with
    reservationHash := hashId (.reservation terms)
    releasedMinor := 0
    createdAt := now }

/-- The release of the reservation that the corrected evidence has made. -/
def releaseReservation (prior : Option (MeteredReservation H)) (mandateId : String)
    (releaseMinor : ℤ) (now : ℕ) : Domain (MeteredReservation H × MeteredRelease H) := do
  let reservation ← orUnavailable prior
  failIf (reservation.mandateId ≠ mandateId ∨
    reservation.amountMinor < reservation.releasedMinor + releaseMinor) unavailable
  let terms : ReleaseTerms H :=
    { mandateId
      reservationId := reservation.reservationId
      amountMinor := releaseMinor
      createdAt := now }
  pure ({ reservation with releasedMinor := reservation.releasedMinor + releaseMinor },
    { terms with releaseHash := hashId (.release terms) })

/-- `now.toISOString().slice(0, 10)`, as the days since the epoch. -/
def dayOf (now : ℕ) : ℕ := now / (24 * 60 * 60 * 1000)

/-- What the spend policy has spent on the day of the command. -/
def dailySpentBefore (spendPolicy : SpendPolicy.Policy) (now : ℕ) : ℤ :=
  if spendPolicy.dailySpentDate = dayOf now then spendPolicy.dailySpentMinor else 0

/-- The writes of a command. -/
structure UsagePlan (H : Type) where
  evidence : MeteredUsageEvidence H
  admission : MeteredUsageAdmission H
  reservation : Option (MeteredReservation H)
  release : Option (MeteredRelease H)
  mandate : UsageMandate
  spendPolicy : SpendPolicy.Policy
  spendRequest : Option (MeteredSpendRequest H)
  transaction : UsageTransaction H

/-- The spend request of a charge. -/
def createSpendRequest (admission : MeteredUsageAdmission H) (evidence : EvidenceTerms)
    (category : String) (now : ℕ) : MeteredSpendRequest H where
  spendRequestId := admission.admissionHash
  subjectId := evidence.scope.subjectId
  mandateId := evidence.scope.mandateId
  providerId := evidence.scope.providerId
  spendPolicyId := admission.policyId
  assetId := evidence.scope.assetId
  amountMinor := admission.chargeDeltaMinor
  purposeCode := category
  createdAt := now

/-- What a charge reserves, or what taking back a part of one releases. -/
def settleReservation (store : UsageStore H) (admission : MeteredUsageAdmission H)
    (evidence : EvidenceTerms) (prior : PriorUsage H) (records : UsageRecords) (now : ℕ) :
    Domain (Option (MeteredReservation H) × Option (MeteredRelease H)) :=
  if 0 < admission.chargeDeltaMinor then
    pure (some (createReservation hashId admission evidence records.spendPolicy.category now), none)
  else if admission.chargeDeltaMinor < 0 then do
    let found := prior.priorAdmission.bind fun prior ↦ store.reservations.get prior.admissionHash
    let (reservation, release) ← releaseReservation hashId found records.mandate.mandateId
      (-admission.chargeDeltaMinor) now
    pure (some reservation, some release)
  else pure (none, none)

/-- `plan`, from where the records have been read and checked. -/
def planAdmission (store : UsageStore H) (command : AdmitCommand H) (policy : MeteredUsagePolicy H)
    (evidence : MeteredUsageEvidence H) (records : UsageRecords) : Domain (UsagePlan H) := do
  let before := getMeteredUsageWindowCharge store policy.policyId evidence.window
  let prior ← readPrior store evidence.toEvidenceTerms
  let admission ← admitMeteredUsageEvidence hashId policy evidence prior before command.now
  let transaction ← createMeteredUsageLedgerPosting hashId records.obligation admission
  let delta := admission.chargeDeltaMinor
  let (reservation, release) ← settleReservation hashId store admission
    evidence.toEvidenceTerms prior
    records command.now
  failIf (records.mandate.utilizedMinor + delta < 0) unavailable
  let dailySpentAfter := dailySpentBefore records.spendPolicy command.now + delta
  failIf (dailySpentAfter < 0 ∨ records.spendPolicy.dailyLimitMinor < dailySpentAfter) unavailable
  pure
    { evidence
      admission
      reservation
      release
      mandate :=
        { records.mandate with
          utilizedMinor := records.mandate.utilizedMinor + delta
          updatedAt := command.now }
      spendPolicy :=
        { records.spendPolicy with
          dailySpentMinor := dailySpentAfter
          dailySpentDate := dayOf command.now }
      spendRequest := if 0 < delta then
          some (createSpendRequest admission evidence.toEvidenceTerms records.spendPolicy.category
            command.now)
        else none
      transaction }

/-- What a command writes, or why it is refused. -/
def plan (store : UsageStore H) (command : AdmitCommand H) : Domain (UsagePlan H) := do
  let evidence ← normalizePayload hashId command
  let policyValue ← orUnavailable command.resolvedPolicy
  let policy ← createMeteredUsagePolicy hashId policyValue
  throwIf (isConsumed hashId store evidence.toEvidenceTerms) "metered_usage_replay_conflict"
    "Metered Usage identity was already consumed"
  let records ← readRecords store evidence.toEvidenceTerms policy.policyId
  failIf (¬ exactAuthority command policy records) unavailable
  planAdmission hashId store command policy evidence records

/-! ## The transaction -/

/-- The transaction that writes a plan.  The tables refuse a second record with the digest of an
evidence or of an admission. -/
def commit (store : UsageStore H) (plan : UsagePlan H) : Domain (UsageStore H) := do
  throwIf (∃ recorded ∈ store.evidence,
      recorded.usageEvidenceHash = plan.evidence.usageEvidenceHash)
    "unique_violation" "metered_usage_evidence_tenant_hash_key"
  throwIf (∃ recorded ∈ store.admissions, recorded.admissionHash = plan.admission.admissionHash)
    "unique_violation" "metered_usage_admissions_tenant_hash_key"
  pure
    { store with
      evidence := store.evidence ++ [plan.evidence]
      admissions := store.admissions ++ [plan.admission]
      reservations := match plan.reservation with
        | none => store.reservations
        | some reservation => store.reservations.set reservation.reservationId reservation
      releases := store.releases ++ plan.release.toList
      mandates := store.mandates.set plan.mandate.mandateId plan.mandate
      spendPolicies := store.spendPolicies.set plan.spendPolicy.spendPolicyId plan.spendPolicy
      spendRequests := store.spendRequests ++ plan.spendRequest.toList
      transactions := store.transactions ++ [plan.transaction] }

/-- `admitMeteredUsageCommandHandler`: what a command comes to. -/
def admitMeteredUsage (store : UsageStore H) (command : AdmitCommand H) :
    Domain (UsageStore H × MeteredUsageAdmission H) := do
  preflight hashId command
  let planned ← plan hashId store command
  let next ← commit store planned
  pure (next, planned.admission)

/-- A command is admitted, or changes nothing. -/
def step (store : UsageStore H) (command : AdmitCommand H) : UsageStore H :=
  match admitMeteredUsage hashId store command with
  | .ok (next, _) => next
  | .error _ => store

end Plan

end Metered
end IpoOne
