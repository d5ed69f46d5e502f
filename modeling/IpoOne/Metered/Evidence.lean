import IpoOne.Credit.Ledger
import IpoOne.Domain.Validators
import Mathlib

/-!
# Metered usage

`metered-usage-evidence.js`: a provider's evidence of what was used in a window, the policy under
which it may be charged, the admission of an evidence under a policy, and the posting of the charge
to the ledger.  An evidence may correct an earlier one; what is admitted then is the difference of
the charges, which may be negative.

Instants are in milliseconds.  The identifier of a record that is a prefix and a digest is the
digest, and that of a ledger account is what the digest is taken of.
-/

set_option autoImplicit false

namespace IpoOne
namespace Metered

open Fallible

variable {H : Type}

/-! ## Records -/

/-- What a policy and an evidence have to agree on. -/
structure UsageScope where
  tenantId : String
  subjectId : String
  principalId : String
  mandateId : String
  facilityId : String
  authorizationId : String
  obligationId : String
  providerId : String
  resourceClass : String
  measurementUnit : String
  priceScheduleHash : String
  unitPriceMinor : ℕ
  assetId : String
  deriving DecidableEq, Repr

/-- Whether a policy stands. -/
inductive UsagePolicyStatus where
  | active
  | revoked
  deriving DecidableEq, Repr

/-- The fields of a policy that its hash covers. -/
structure UsagePolicyTerms where
  policyId : String
  scope : UsageScope
  maxQuantityPerEvent : ℕ
  maxChargePerEventMinor : ℕ
  maxChargePerWindowMinor : ℕ
  validFrom : ℕ
  expiresAt : ℕ
  status : UsagePolicyStatus
  deriving DecidableEq, Repr

/-- A policy with its hash. -/
structure MeteredUsagePolicy (H : Type) extends UsagePolicyTerms where
  policyHash : H
  deriving DecidableEq, Repr

/-- Whether a usage is final. -/
inductive UsageFinality where
  | pending
  | finalized
  deriving DecidableEq, Repr

/-- Whether a usage is reconciled with the provider. -/
inductive UsageReconciliation where
  | pending
  | reconciled
  | disputed
  deriving DecidableEq, Repr

/-- The window in which something was used. -/
@[ext]
structure UsageWindow where
  windowStartedAt : ℕ
  windowEndedAt : ℕ
  deriving DecidableEq, Repr

/-- The fields of an evidence that its hash covers. -/
structure EvidenceTerms where
  usageEvidenceId : String
  providerEventId : String
  nonce : String
  correctionOfUsageEvidenceId : Option String
  scope : UsageScope
  quantity : ℕ
  chargeMinor : ℕ
  window : UsageWindow
  observedAt : ℕ
  finality : UsageFinality
  reconciliation : UsageReconciliation
  providerKeyId : String
  providerPayloadHash : String
  deriving DecidableEq, Repr

/-- The evidence of a usage, or of its correction. -/
structure MeteredUsageEvidence (H : Type) extends EvidenceTerms where
  usageEvidenceHash : H
  deriving DecidableEq, Repr

/-- The fields of an admission that its hash covers. -/
structure AdmissionTerms (H : Type) where
  policyId : String
  policyHash : H
  usageEvidenceId : String
  usageEvidenceHash : H
  correctionOfUsageEvidenceId : Option String
  obligationId : String
  chargeMinor : ℕ
  chargeDeltaMinor : ℤ
  windowChargeBeforeMinor : ℤ
  windowChargeAfterMinor : ℤ
  admittedAt : ℕ
  deriving DecidableEq, Repr

/-- The admission of an evidence, with the change it makes to the charge. -/
structure MeteredUsageAdmission (H : Type) extends AdmissionTerms H where
  admissionHash : H
  deriving DecidableEq, Repr

/-- What is hashed of a reservation. -/
structure ReservationTerms (H : Type) where
  mandateId : String
  reservationId : H
  subjectId : String
  providerId : String
  category : String
  assetId : String
  amountMinor : ℤ
  deriving DecidableEq, Repr

/-- What is hashed of a release. -/
structure ReleaseTerms (H : Type) where
  mandateId : String
  reservationId : H
  amountMinor : ℤ
  createdAt : ℕ
  deriving DecidableEq, Repr

/-- What `hashId` is applied to, with the name it is given. -/
inductive UsagePreimage (H : Type) where
  | policy (terms : UsagePolicyTerms)
  | evidence (terms : EvidenceTerms)
  | nonce (nonce : String)
  | admission (terms : AdmissionTerms H)
  | reservation (terms : ReservationTerms H)
  | release (terms : ReleaseTerms H)
  | ledgerIdempotency (admissionHash : H)
  deriving DecidableEq, Repr

/-! ## The checks of the records -/

/-- `ID` -/
def isId (value : String) : Bool :=
  match value.toList with
  | [] => false
  | c :: rest => isAlphanumeric c && rest.length ≤ 255 &&
    rest.all fun c ↦ isAlphanumeric c || ":._/%-".toList.contains c

/-- `HASH` -/
def isHash (value : String) : Bool :=
  value.toList.length = 66 && "0x".toList.isPrefixOf value.toList &&
    (value.toList.drop 2).all fun c ↦ ('0' ≤ c && c ≤ '9') || ('a' ≤ c && c ≤ 'f')

/-- The value is an identifier. -/
def assertId (name value : String) : Domain Unit :=
  throwIf (isId value = false) "metered_usage_invalid" (name ++ " is invalid")

/-- The value is a digest. -/
def assertDigest (name value : String) : Domain Unit :=
  throwIf (isHash value = false) "metered_usage_invalid" (name ++ " is invalid")

/-- `integer(name, value, true)` -/
def assertPositive (name : String) (value : ℕ) : Domain Unit :=
  throwIf (value = 0 ∨ 10 ^ 78 ≤ value) "metered_usage_invalid" (name ++ " is invalid")

/-- The checks of the first fields that a policy and an evidence share. -/
def assertParties (scope : UsageScope) : Domain Unit := do
  assertId "tenantId" scope.tenantId
  assertId "subjectId" scope.subjectId
  assertId "principalId" scope.principalId
  assertId "mandateId" scope.mandateId
  assertId "facilityId" scope.facilityId
  assertId "authorizationId" scope.authorizationId
  assertId "obligationId" scope.obligationId
  assertId "providerId" scope.providerId
  assertId "resourceClass" scope.resourceClass
  assertId "measurementUnit" scope.measurementUnit

/-- The policy with its hash, after the checks on its fields. -/
def createMeteredUsagePolicy (hashId : UsagePreimage H → H) (input : UsagePolicyTerms) :
    Domain (MeteredUsagePolicy H) := do
  assertId "policyId" input.policyId
  assertParties input.scope
  assertDigest "priceScheduleHash" input.scope.priceScheduleHash
  assertPositive "unitPriceMinor" input.scope.unitPriceMinor
  assertId "assetId" input.scope.assetId
  assertPositive "maxQuantityPerEvent" input.maxQuantityPerEvent
  assertPositive "maxChargePerEventMinor" input.maxChargePerEventMinor
  assertPositive "maxChargePerWindowMinor" input.maxChargePerWindowMinor
  throwIf (input.expiresAt ≤ input.validFrom) "metered_usage_invalid"
    "policy validity window is invalid"
  pure { input with policyHash := hashId (.policy input) }

/-- The evidence with its hash, after the checks on its fields. -/
def createMeteredUsageEvidence (hashId : UsagePreimage H → H) (input : EvidenceTerms) :
    Domain (MeteredUsageEvidence H) := do
  assertId "usageEvidenceId" input.usageEvidenceId
  assertId "providerEventId" input.providerEventId
  assertId "nonce" input.nonce
  input.correctionOfUsageEvidenceId.forM (assertId "correctionOfUsageEvidenceId")
  assertParties input.scope
  assertPositive "quantity" input.quantity
  assertDigest "priceScheduleHash" input.scope.priceScheduleHash
  assertPositive "unitPriceMinor" input.scope.unitPriceMinor
  assertPositive "chargeMinor" input.chargeMinor
  assertId "assetId" input.scope.assetId
  assertId "providerKeyId" input.providerKeyId
  assertDigest "providerPayloadHash" input.providerPayloadHash
  throwIf (input.window.windowEndedAt ≤ input.window.windowStartedAt ∨
      input.observedAt < input.window.windowEndedAt)
    "metered_usage_invalid" "usage chronology is invalid"
  throwIf (input.quantity * input.scope.unitPriceMinor ≠ input.chargeMinor)
    "metered_usage_charge_mismatch" "charge does not equal quantity times unit price"
  pure { input with usageEvidenceHash := hashId (.evidence input) }

/-! ## Admission -/

/-- The first field, in the order of the source, in which two scopes differ. -/
def UsageScope.mismatch (a b : UsageScope) : Option String :=
  ([("tenantId", decide (a.tenantId = b.tenantId)),
    ("subjectId", decide (a.subjectId = b.subjectId)),
    ("principalId", decide (a.principalId = b.principalId)),
    ("mandateId", decide (a.mandateId = b.mandateId)),
    ("facilityId", decide (a.facilityId = b.facilityId)),
    ("authorizationId", decide (a.authorizationId = b.authorizationId)),
    ("obligationId", decide (a.obligationId = b.obligationId)),
    ("providerId", decide (a.providerId = b.providerId)),
    ("resourceClass", decide (a.resourceClass = b.resourceClass)),
    ("measurementUnit", decide (a.measurementUnit = b.measurementUnit)),
    ("priceScheduleHash", decide (a.priceScheduleHash = b.priceScheduleHash)),
    ("unitPriceMinor", decide (a.unitPriceMinor = b.unitPriceMinor)),
    ("assetId", decide (a.assetId = b.assetId))].find? fun field ↦ !field.2).map Prod.fst

@[simp] theorem UsageScope.mismatch_eq_none {a b : UsageScope} : a.mismatch b = none ↔ a = b := by
  rw [UsageScope.mismatch, Option.map_eq_none_iff, List.find?_eq_none]
  simp only [List.mem_cons, List.not_mem_nil, or_false, forall_eq_or_imp, forall_eq,
    Bool.not_eq_true, Bool.not_eq_false', decide_eq_true_eq]
  cases a
  cases b
  simp only [UsageScope.mk.injEq]

/-- Throw if the scopes differ, with a message that names the field. -/
def assertSameScope (a b : UsageScope) (code text : String) : Domain Unit :=
  match a.mismatch b with
  | none => pure ()
  | some key => .error { code, message := key ++ text }

@[simp] theorem assertSameScope_eq_ok {a b : UsageScope} {code text : String} {u : Unit} :
    assertSameScope a b code text = .ok u ↔ a = b := by
  rw [assertSameScope, ← UsageScope.mismatch_eq_none]
  rcases a.mismatch b with _ | key <;> simp

/-- The evidence that is corrected, with its admission. -/
structure PriorUsage (H : Type) where
  priorEvidence : Option (MeteredUsageEvidence H)
  priorAdmission : Option (MeteredUsageAdmission H)

/-- What an evidence adds to the charge: all of its own charge, or for a correction the difference
from the evidence that it corrects. -/
def chargeDelta (hashId : UsagePreimage H → H) (policy : MeteredUsagePolicy H)
    (evidence : MeteredUsageEvidence H) (prior : PriorUsage H) : Domain ℤ :=
  match evidence.correctionOfUsageEvidenceId with
  | none => do
    throwIf (prior.priorEvidence.isSome = true ∨ prior.priorAdmission.isSome = true)
      "metered_usage_correction_invalid" "initial usage cannot bind correction state"
    pure evidence.chargeMinor
  | some corrected =>
    match prior.priorEvidence, prior.priorAdmission with
    | some priorEvidence, some priorAdmission => do
      let previous ← createMeteredUsageEvidence hashId priorEvidence.toEvidenceTerms
      throwIf (previous.usageEvidenceId ≠ corrected ∨
          priorAdmission.usageEvidenceId ≠ previous.usageEvidenceId ∨
          priorAdmission.obligationId ≠ evidence.scope.obligationId ∨
          priorAdmission.policyId ≠ policy.policyId)
        "metered_usage_correction_invalid" "correction source does not match the admitted usage"
      assertSameScope previous.scope evidence.scope "metered_usage_correction_invalid"
        " cannot change in a correction"
      throwIf (previous.window.windowStartedAt ≠ evidence.window.windowStartedAt)
        "metered_usage_correction_invalid" "windowStartedAt cannot change in a correction"
      throwIf (previous.window.windowEndedAt ≠ evidence.window.windowEndedAt)
        "metered_usage_correction_invalid" "windowEndedAt cannot change in a correction"
      throwIf ((evidence.chargeMinor : ℤ) - previous.chargeMinor = 0)
        "metered_usage_correction_invalid" "correction delta cannot be zero"
      pure ((evidence.chargeMinor : ℤ) - previous.chargeMinor)
    | _, _ => .error
      { code := "metered_usage_correction_missing", message := "correction source is unavailable" }

/-- Admits an evidence under a policy, within the caps of the policy. -/
def admitMeteredUsageEvidence (hashId : UsagePreimage H → H) (policy : MeteredUsagePolicy H)
    (evidence : MeteredUsageEvidence H) (prior : PriorUsage H) (windowChargeBeforeMinor : ℤ)
    (admittedAt : ℕ) : Domain (MeteredUsageAdmission H) := do
  let currentPolicy ← createMeteredUsagePolicy hashId policy.toUsagePolicyTerms
  let currentEvidence ← createMeteredUsageEvidence hashId evidence.toEvidenceTerms
  throwIf (currentPolicy.status ≠ .active) "metered_usage_policy_inactive" "policy is not active"
  throwIf (admittedAt < currentPolicy.validFrom ∨ currentPolicy.expiresAt ≤ admittedAt)
    "metered_usage_policy_expired" "policy is outside its validity window"
  assertSameScope currentPolicy.scope currentEvidence.scope "metered_usage_scope_mismatch"
    " does not match policy"
  throwIf (currentEvidence.finality ≠ .finalized ∨ currentEvidence.reconciliation ≠ .reconciled)
    "metered_usage_not_reconciled" "usage is not finalized and reconciled"
  throwIf (windowChargeBeforeMinor < 0 ∨ 10 ^ 78 ≤ windowChargeBeforeMinor) "metered_usage_invalid"
    "windowChargeBeforeMinor is invalid"
  let delta ← chargeDelta hashId currentPolicy currentEvidence prior
  let after := windowChargeBeforeMinor + delta
  throwIf (currentPolicy.maxQuantityPerEvent < currentEvidence.quantity ∨
      currentPolicy.maxChargePerEventMinor < currentEvidence.chargeMinor ∨
      after < 0 ∨ currentPolicy.maxChargePerWindowMinor < after)
    "metered_usage_cap_exceeded" "usage exceeds an exact policy cap"
  let terms : AdmissionTerms H :=
    { policyId := currentPolicy.policyId
      policyHash := currentPolicy.policyHash
      usageEvidenceId := currentEvidence.usageEvidenceId
      usageEvidenceHash := currentEvidence.usageEvidenceHash
      correctionOfUsageEvidenceId := currentEvidence.correctionOfUsageEvidenceId
      obligationId := currentEvidence.scope.obligationId
      chargeMinor := currentEvidence.chargeMinor
      chargeDeltaMinor := delta
      windowChargeBeforeMinor
      windowChargeAfterMinor := after
      admittedAt }
  pure { terms with admissionHash := hashId (.admission terms) }

/-! ## The ledger -/

/-- What the posting reads of an obligation, and the handler too. -/
structure UsageObligation where
  obligationId : String
  subjectId : String
  principalId : String
  mandateId : String
  creditOfferAcceptanceId : String
  assetId : String
  outstandingPrincipalMinor : ℤ
  executionStatus : Credit.ObligationExecutionStatus
  status : Credit.ObligationStatus
  sandboxOnly : Bool
  productionFundsMoved : Bool
  withdrawable : Bool
  schemaVersion : String
  deriving DecidableEq, Repr

/-- The accounts of metered usage. -/
inductive UsageAccountType where
  | meteredServiceExpense
  | syntheticProviderPayable
  deriving DecidableEq, Repr

/-- `meteredLedgerAccount`: what its identifier is the digest of. -/
structure UsageAccount where
  ownerId : String
  assetId : String
  accountType : UsageAccountType
  deriving DecidableEq, Repr

/-- A charge, or its correction. -/
inductive UsageTransactionType where
  | meteredServiceCharge
  | meteredServiceCorrection
  deriving DecidableEq, Repr

/-- The posting of an admission. -/
structure UsageTransaction (H : Type) where
  idempotencyKey : H
  transactionType : UsageTransactionType
  assetId : String
  /-- The admission that it is posted for. -/
  referenceId : H
  entries : List (Credit.LedgerEntry UsageAccount)
  debitTotalMinor : ℤ
  creditTotalMinor : ℤ
  deriving DecidableEq

/-- The account of what the obligation used. -/
def expenseAccount (obligation : UsageObligation) : UsageAccount :=
  ⟨obligation.obligationId, obligation.assetId, .meteredServiceExpense⟩

/-- The account of what the provider is owed. -/
def payableAccount (obligation : UsageObligation) : UsageAccount :=
  ⟨obligation.obligationId, obligation.assetId, .syntheticProviderPayable⟩

/-- A charge debits the expense and credits the payable; what is taken back goes the other way. -/
def postingEntries (obligation : UsageObligation) (delta : ℤ) :
    List (Credit.LedgerEntry UsageAccount) :=
  if 0 < delta then
    [⟨expenseAccount obligation, .debit, |delta|, 0⟩,
      ⟨payableAccount obligation, .credit, |delta|, 1⟩]
  else
    [⟨payableAccount obligation, .debit, |delta|, 0⟩,
      ⟨expenseAccount obligation, .credit, |delta|, 1⟩]

/-- The posting of an admission against an active sandbox obligation. -/
def createMeteredUsageLedgerPosting (hashId : UsagePreimage H → H) (obligation : UsageObligation)
    (admission : MeteredUsageAdmission H) : Domain (UsageTransaction H) := do
  throwIf (obligation.schemaVersion ≠ "obligation.v2" ∨
      obligation.obligationId ≠ admission.obligationId ∨ obligation.assetId = "" ∨
      obligation.executionStatus ≠ .executed ∨ obligation.status ≠ .active ∨
      obligation.sandboxOnly ≠ true ∨ obligation.productionFundsMoved ≠ false ∨
      obligation.withdrawable ≠ false)
    "metered_usage_obligation_unavailable" "active sandbox Obligation is required"
  throwIf (admission.chargeDeltaMinor = 0 ∨ 10 ^ 78 ≤ |admission.chargeDeltaMinor|)
    "metered_usage_invalid" "chargeDeltaMinor is invalid"
  throwIf (0 < admission.chargeDeltaMinor ∧
      obligation.outstandingPrincipalMinor < admission.chargeDeltaMinor)
    "metered_usage_credit_exceeded" "charge exceeds the current Obligation balance"
  pure
    { idempotencyKey := hashId (.ledgerIdempotency admission.admissionHash)
      transactionType := if admission.correctionOfUsageEvidenceId = none then .meteredServiceCharge
        else .meteredServiceCorrection
      assetId := obligation.assetId
      referenceId := admission.admissionHash
      entries := postingEntries obligation admission.chargeDeltaMinor
      debitTotalMinor := |admission.chargeDeltaMinor|
      creditTotalMinor := |admission.chargeDeltaMinor| }

end Metered
end IpoOne
