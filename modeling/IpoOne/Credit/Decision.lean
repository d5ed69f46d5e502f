import IpoOne.Credit.Additivity
import Mathlib

/-!
# The decision on an application

`credit-decision.js` and the part of `credit-contracts.js` it builds on: a submitted intent is held
against the policy of the sandbox, and an approved one gets an offer whose terms are computed from
the term and the frequency that were asked for.

Terms and counts are natural numbers, as `createCreditIntent` makes sure, and times are
milliseconds.  The identifiers that are made of a digest are that digest.  The checks for personal
data read names of fields, which are fixed here.

* `createDeterministicCreditDecisionOutcome_eq_ok` — what an offer is made of.
* `approved_offer_schedules` — the schedule that acceptance derives from an offer exists, and agrees
  with the offer's terms.
* `created_intent_decided` — every intent that can be created is decided, by the closed policy.
-/

set_option autoImplicit false

namespace IpoOne
namespace Credit

open Fallible

/-! ## Records -/

/-- The states of a credit intent. -/
inductive CreditIntentStatus where
  | submitted
  | decided
  | withdrawn
  | expired
  deriving DecidableEq, Repr

/-- How a decision ends. -/
inductive RiskDecisionStatus where
  | approved
  | rejected
  | frozen
  deriving DecidableEq, Repr

/-- A borrower's request for credit. -/
structure CreditIntent where
  creditIntentId : String
  subjectId : String
  principalId : String
  authorityType : CreditAuthorityType
  authorityRef : String
  assetId : String
  requestedPrincipalMinor : ℤ
  purposeCode : String
  requestedTermDays : ℕ
  repaymentFrequency : RepaymentFrequency
  installmentCount : ℕ
  sandboxOnly : Bool
  productionFundsRequested : Bool
  status : CreditIntentStatus
  schemaVersion : String
  deriving DecidableEq

/-- What a decision reads of the snapshot of the features it rests on. -/
structure RiskFeatureSnapshot (H : Type) where
  riskFeatureSnapshotId : H
  featureSnapshotHash : H
  featureSetVersion : String
  policyVersion : String
  policyHash : H
  asOf : ℕ
  schemaVersion : String
  deriving DecidableEq

/-- What `createCreditApplicationRiskDecision` hashes. -/
structure RiskDecisionCore (H : Type) where
  creditIntentId : String
  subjectId : String
  principalId : String
  authorityType : CreditAuthorityType
  authorityRef : String
  assetId : String
  status : RiskDecisionStatus
  modelVersion : String
  limitMinor : ℤ
  utilizationMinor : ℤ
  action : String
  reasons : List String
  createdAt : ℕ
  policyHash : Option H
  riskFeatureSnapshotId : Option H
  featureSnapshotHash : Option H
  deriving DecidableEq

/-- A line of `reasonLineage`. -/
structure ReasonLineage where
  reasonCode : String
  featureKeys : List String
  sourceRoles : List String
  deriving DecidableEq

/-- What `createRiskDecisionPassport` hashes. -/
structure PassportCore (H : Type) where
  riskDecisionId : H
  decisionHash : H
  riskFeatureSnapshotId : H
  featureSnapshotHash : H
  featureSetVersion : String
  policyVersion : String
  policyHash : H
  reasonLineage : List ReasonLineage
  asOf : ℕ
  deriving DecidableEq

/-- A decision on an intent, with the passport of the features it was made from. -/
structure RiskDecision (H : Type) extends RiskDecisionCore H where
  riskDecisionId : H
  decisionHash : H
  decisionPassport : Option (PassportCore H × H)
  schemaVersion : String
  deriving DecidableEq

/-- `termsCore` of `createCreditOffer` -/
structure CreditTerms where
  assetId : String
  approvedPrincipalMinor : ℤ
  annualRateBps : ℕ
  originationFeeMinor : ℤ
  repaymentFrequency : RepaymentFrequency
  installmentCount : ℕ
  firstPaymentAt : ℕ
  maturityAt : ℕ
  disclosureRef : String
  deriving DecidableEq

/-- `offerCore` of `createCreditOffer` -/
structure CreditOfferCore (H : Type) extends CreditTerms where
  creditIntentId : String
  subjectId : String
  riskDecisionId : H
  validUntil : ℕ
  reasonCodes : List String
  deriving DecidableEq

/-- The offer as it is issued. -/
structure IssuedOffer (H : Type) extends CreditOfferCore H where
  creditOfferHash : H
  termsHash : H
  createdAt : ℕ
  deriving DecidableEq

/-- What acceptance reads of an issued offer and of its intent. -/
def IssuedOffer.accepted {H : Type} (offer : IssuedOffer H) (intent : CreditIntent) :
    CreditOffer where
  subjectId := offer.subjectId
  principalId := intent.principalId
  authorityType := intent.authorityType
  assetId := offer.assetId
  approvedPrincipalMinor := offer.approvedPrincipalMinor
  annualRateBps := offer.annualRateBps
  repaymentFrequency := offer.repaymentFrequency
  installmentCount := offer.installmentCount
  firstPaymentAt := offer.firstPaymentAt
  maturityAt := offer.maturityAt

/-- The payloads that are hashed on the way to an offer. -/
inductive DecisionPreimage (H : Type) where
  | riskPolicyManifest
  | creditApplicationRiskDecision (core : RiskDecisionCore H)
  | riskDecisionPassport (core : PassportCore H)
  | creditOffer (core : CreditOfferCore H)
  | creditTerms (core : CreditTerms)

/-! ## The policy -/

namespace SandboxCreditDecisionPolicy

/-- The one asset that the policy lends. -/
def assetId : String := "urn:ipo-one:sandbox-asset:usd-cent"

/-- The largest principal of the policy. -/
def maximumPrincipalMinor : ℤ := 500000

/-- The longest term of the policy. -/
def maximumTermDays : ℕ := 366

/-- The policy takes no fee. -/
def originationFeeMinor : ℤ := 0

/-- An offer stands for a day. -/
def offerValidityMs : ℕ := 24 * 60 * 60 * 1000

/-- The disclosure that every offer refers to. -/
def disclosureRef : String := "urn:ipo.one:sandbox:credit-offer-disclosure:v1"

/-- The version of the rules. -/
def modelVersion : String := "credit-application-rules.v1"

end SandboxCreditDecisionPolicy

/-- `APPROVED_CREDIT_REASON_CODES.common` -/
def approvedCommon : List String := ["authority_scope_current", "principal_and_subject_eligible"]

/-- `APPROVED_CREDIT_REASON_CODES.tail` -/
def approvedTail : List String :=
  ["no_adverse_obligation", "within_sandbox_policy_cap", "sandbox_rules_v1_approved"]

/-- `APPROVED` -/
def approvedReasonCodes : List String :=
  approvedCommon ++ ["identity_evidence_current", "principal_binding_current"] ++ approvedTail

/-- `DENIED_CREDIT_REASON_CODES` -/
def deniedCreditReasonCodes : List String :=
  ["application_not_eligible", "authority_not_current", "identity_evidence_not_current",
    "adverse_obligation_open", "credit_state_frozen", "sandbox_cap_exceeded",
    "unsupported_sandbox_asset", "invalid_requested_schedule"]

/-- `CREDIT_REASON_LINEAGE` -/
def creditReasonLineage : String → Option (List String × List String)
  | "authority_scope_current" => some (["authorityCurrent"], ["authority"])
  | "principal_and_subject_eligible" =>
    some (["subjectEligible", "principalEligible"], ["subject", "principal"])
  | "identity_evidence_current" =>
    some (["identityEvidenceCurrent"], ["authority", "human_identity_reference"])
  | "principal_binding_current" =>
    some (["principalBindingCurrent"], ["subject", "principal", "authority"])
  | "no_adverse_obligation" =>
    some (["adverseObligationCount", "frozenCreditLineCount"], ["risk_state_attestation"])
  | "within_sandbox_policy_cap" =>
    some (["assetSupported", "principalWithinCap", "termWithinCap", "scheduleValid"],
      ["credit_intent"])
  | "sandbox_rules_v1_approved" =>
    some (["allRequiredFeaturesSatisfied"], ["credit_intent", "risk_state_attestation"])
  | "application_not_eligible" =>
    some (["subjectEligible", "principalEligible"], ["subject", "principal"])
  | "authority_not_current" => some (["authorityCurrent"], ["authority"])
  | "identity_evidence_not_current" =>
    some (["identityEvidenceCurrent"], ["authority", "human_identity_reference"])
  | "adverse_obligation_open" => some (["adverseObligationCount"], ["risk_state_attestation"])
  | "credit_state_frozen" =>
    some (["subjectSuspended", "frozenCreditLineCount"], ["subject", "risk_state_attestation"])
  | "sandbox_cap_exceeded" => some (["principalWithinCap", "termWithinCap"], ["credit_intent"])
  | "unsupported_sandbox_asset" => some (["assetSupported"], ["credit_intent"])
  | "invalid_requested_schedule" => some (["scheduleValid"], ["credit_intent"])
  | _ => none

/-! ## The source's functions -/

section Decide

variable {H : Type} [DecidableEq H] (hashId : DecisionPreimage H → H)

/-- An intent that can be decided on: submitted, and for the sandbox only. -/
def assertIntent (intent : CreditIntent) : Domain Unit :=
  throwIf (intent.schemaVersion ≠ "credit_intent.v1" ∨ intent.status ≠ .submitted ∨
      intent.sandboxOnly ≠ true ∨ intent.productionFundsRequested ≠ false)
    "invalid_credit_intent" "evaluation requires one submitted sandbox Credit Intent"

/-- The date `days` after `now`, if there is one. -/
def addUtcDays (now days : ℕ) : Domain ℕ := toISOString (now + days * 86400000)

/-- `expectedInstallmentCount`, whose division of the term is rounded up. -/
def expectedInstallmentCount (repaymentFrequency : RepaymentFrequency) (termDays : ℕ) :
    Domain ℕ := do
  throwIf (termDays < 1) "invalid_credit_term" "requestedTermDays must be a positive integer"
  match intervalDays repaymentFrequency with
  | none => pure 1
  | some interval => pure ((termDays + interval - 1) / interval)

/-- The yearly rate by the length of the term. -/
def annualRateBpsForTerm (termDays : ℕ) : Domain ℕ := do
  throwIf (termDays < 1 ∨ 366 < termDays) "invalid_credit_term"
    "sandbox term must be between 1 and 366 days"
  pure (if termDays ≤ 30 then 600 else if termDays ≤ 90 then 900
    else if termDays ≤ 180 then 1200 else 1500)

/-- The code under which the policy denies an intent, `none` where it does not. -/
def deriveSandboxCreditPolicyDenial (intent : CreditIntent) : Domain (Option String) := do
  assertIntent intent
  if intent.assetId ≠ SandboxCreditDecisionPolicy.assetId then
    return some "unsupported_sandbox_asset"
  let principal ← assertPositiveMinorUnits intent.requestedPrincipalMinor "requestedPrincipalMinor"
  if SandboxCreditDecisionPolicy.maximumPrincipalMinor < principal then
    return some "sandbox_cap_exceeded"
  if intent.requestedTermDays < 1 ∨
      SandboxCreditDecisionPolicy.maximumTermDays < intent.requestedTermDays then
    return some "sandbox_cap_exceeded"
  -- a count that cannot be computed is caught, and is no other than a wrong one
  match expectedInstallmentCount intent.repaymentFrequency intent.requestedTermDays with
  | .ok count => return if count ≠ intent.installmentCount then some "invalid_requested_schedule"
      else none
  | .error _ => return some "invalid_requested_schedule"

/-- The reasons of a decision, distinct ones of those that the policy has for the status. -/
def normalizeReasonCodes (status : RiskDecisionStatus) (reasonCodes : List String) :
    Domain (List String) := do
  throwIf (reasonCodes.length = 0 ∨ 8 < reasonCodes.length) "invalid_credit_reason_codes"
    "Decision reasons are invalid"
  let allowed := if status = .approved then approvedReasonCodes else deniedCreditReasonCodes
  throwIf (¬ reasonCodes.Nodup ∨ ∃ code ∈ reasonCodes, code ∉ allowed)
    "invalid_credit_reason_codes" "Decision reasons are outside the closed policy"
  pure reasonCodes

/-- The reasons that an approval gives. -/
def approvedCreditReasonCodes (authorityType : CreditAuthorityType) : List String :=
  approvedCommon ++
    [if authorityType = .consent then "identity_evidence_current" else "principal_binding_current"]
    ++ approvedTail

/-- The passport of a decision: which features each of its reasons comes from. -/
def createRiskDecisionPassport (riskDecisionId : H) (core : RiskDecisionCore H)
    (riskFeatureSnapshot : RiskFeatureSnapshot H) (policyHash : H) :
    Domain (PassportCore H × H) := do
  throwIf (riskFeatureSnapshot.schemaVersion ≠ "risk_feature_snapshot.v1" ∨
      riskFeatureSnapshot.policyHash ≠ policyHash ∨
      riskFeatureSnapshot.policyVersion ≠ core.modelVersion)
    "invalid_risk_evidence" "Decision passport provenance is inconsistent"
  let reasonLineage ← core.reasons.mapM fun code ↦
    match creditReasonLineage code with
    | none => .error { code := "invalid_risk_evidence"
                       message := "Decision reason has no closed lineage" }
    | some (featureKeys, sourceRoles) => pure { reasonCode := code, featureKeys, sourceRoles }
  let passport : PassportCore H :=
    { riskDecisionId
      decisionHash := riskDecisionId
      riskFeatureSnapshotId := riskFeatureSnapshot.riskFeatureSnapshotId
      featureSnapshotHash := riskFeatureSnapshot.featureSnapshotHash
      featureSetVersion := riskFeatureSnapshot.featureSetVersion
      policyVersion := core.modelVersion
      policyHash
      reasonLineage
      asOf := riskFeatureSnapshot.asOf }
  pure (passport, hashId (.riskDecisionPassport passport))

/-- `SANDBOX_CREDIT_POLICY_HASH` -/
def sandboxCreditPolicyHash : H := hashId .riskPolicyManifest

/-- The decision with its hashes; it has a passport where there is a snapshot of the features. -/
def createCreditApplicationRiskDecision (intent : CreditIntent) (status : RiskDecisionStatus)
    (reasonCodes : List String) (riskFeatureSnapshot : Option (RiskFeatureSnapshot H))
    (now : ℕ) : Domain (RiskDecision H) := do
  assertIntent intent
  let reasons ← normalizeReasonCodes status reasonCodes
  let createdAt ← toISOString now
  let core : RiskDecisionCore H :=
    { creditIntentId := intent.creditIntentId
      subjectId := intent.subjectId
      principalId := intent.principalId
      authorityType := intent.authorityType
      authorityRef := intent.authorityRef
      assetId := intent.assetId
      status
      modelVersion := SandboxCreditDecisionPolicy.modelVersion
      limitMinor := if status = .approved then intent.requestedPrincipalMinor else 0
      utilizationMinor := 0
      action := "credit_application_evaluation"
      reasons
      createdAt
      policyHash := none
      riskFeatureSnapshotId := none
      featureSnapshotHash := none }
  match riskFeatureSnapshot with
  | none =>
    let decisionHash := hashId (.creditApplicationRiskDecision core)
    pure { core with
      riskDecisionId := decisionHash
      decisionHash
      decisionPassport := none
      schemaVersion := "risk_decision.v2" }
  | some snapshot =>
    throwIf (snapshot.schemaVersion ≠ "risk_feature_snapshot.v1" ∨
        snapshot.policyVersion ≠ SandboxCreditDecisionPolicy.modelVersion ∨
        snapshot.policyHash ≠ sandboxCreditPolicyHash hashId ∨ snapshot.asOf ≠ createdAt)
      "invalid_risk_evidence"
      "Risk feature snapshot is inconsistent with the current policy Decision"
    let core : RiskDecisionCore H :=
      { core with
        policyHash := some (sandboxCreditPolicyHash hashId)
        riskFeatureSnapshotId := some snapshot.riskFeatureSnapshotId
        featureSnapshotHash := some snapshot.featureSnapshotHash }
    let decisionHash := hashId (.creditApplicationRiskDecision core)
    let passport ← createRiskDecisionPassport hashId decisionHash core snapshot
      (sandboxCreditPolicyHash hashId)
    pure { core with
      riskDecisionId := decisionHash
      decisionHash
      decisionPassport := some passport
      schemaVersion := "risk_decision.v3" }

/-- `/^[a-z][a-z0-9_.-]{1,95}$/`, the pattern of a reason code. -/
def isReasonCode (value : String) : Bool :=
  match value.toList with
  | [] => false
  | first :: rest =>
    ('a' ≤ first && first ≤ 'z') && (1 ≤ rest.length && rest.length ≤ 95) &&
      rest.all fun c ↦ ('a' ≤ c && c ≤ 'z') || ('0' ≤ c && c ≤ '9') || c = '_' || c = '.' || c = '-'

/-- Distinct machine-readable codes, 1 to 16 of them. -/
def uniqueReasonCodes (values : List String) : Domain (List String) := do
  throwIf (values.length = 0 ∨ 16 < values.length) "invalid_credit_reason_codes"
    "reasonCodes must contain between 1 and 16 values"
  let normalized ← values.mapM fun value ↦ do
    assertNonEmptyString "reasonCode" value
    throwIf (isReasonCode value ≠ true) "invalid_credit_code"
      "reasonCode must use a stable machine-readable code"
    pure value
  throwIf (¬ normalized.Nodup) "duplicate_credit_reason_code"
    "reasonCodes cannot contain duplicates"
  pure normalized

/-- `assertSafeIntegerRange` -/
def assertRange (name : String) (value minimum maximum : ℕ) : Domain Unit :=
  throwIf (value < minimum ∨ maximum < value) "invalid_credit_term"
    (name ++ " must be an integer between " ++ toString minimum ++ " and " ++ toString maximum)

/-- `/^[a-z][a-z0-9_.-]{1,63}$/`, the pattern of a purpose. -/
def isPurposeCode (value : String) : Bool := isReasonCode value && value.toList.length ≤ 64

/-- What `createCreditIntent` takes. -/
structure CreditIntentInput where
  subjectId : String
  principalId : String
  authorityType : CreditAuthorityType
  authorityRef : String
  assetId : String
  requestedPrincipalMinor : ℤ
  purposeCode : String
  requestedTermDays : ℕ
  repaymentFrequency : RepaymentFrequency
  installmentCount : ℕ

/-- `createCreditIntent`, with the identifier that was drawn. -/
def createCreditIntent (creditIntentId : String) (input : CreditIntentInput) :
    Domain CreditIntent := do
  assertNonEmptyString "subjectId" input.subjectId
  assertNonEmptyString "principalId" input.principalId
  assertNonEmptyString "authorityRef" input.authorityRef
  assertNonEmptyString "assetId" input.assetId
  let _ ← assertPositiveMinorUnits input.requestedPrincipalMinor "requestedPrincipalMinor"
  assertNonEmptyString "purposeCode" input.purposeCode
  throwIf (isPurposeCode input.purposeCode ≠ true) "invalid_credit_code"
    "purposeCode must use a stable machine-readable code"
  assertRange "requestedTermDays" input.requestedTermDays 1 3660
  assertRange "installmentCount" input.installmentCount 1 520
  pure
    { creditIntentId
      subjectId := input.subjectId
      principalId := input.principalId
      authorityType := input.authorityType
      authorityRef := input.authorityRef
      assetId := input.assetId
      requestedPrincipalMinor := input.requestedPrincipalMinor
      purposeCode := input.purposeCode
      requestedTermDays := input.requestedTermDays
      repaymentFrequency := input.repaymentFrequency
      installmentCount := input.installmentCount
      sandboxOnly := true
      productionFundsRequested := false
      status := .submitted
      schemaVersion := "credit_intent.v1" }

/-- `createCreditOffer`; the identifier of the decision is a digest and never empty. -/
def createCreditOffer (creditIntentId subjectId : String) (riskDecisionId : H)
    (terms : CreditTerms) (validUntil : ℕ) (reasonCodes : List String) (now : ℕ) :
    Domain (IssuedOffer H) := do
  assertNonEmptyString "creditIntentId" creditIntentId
  assertNonEmptyString "subjectId" subjectId
  assertNonEmptyString "assetId" terms.assetId
  assertNonEmptyString "disclosureRef" terms.disclosureRef
  let _ ← assertPositiveMinorUnits terms.approvedPrincipalMinor "approvedPrincipalMinor"
  let fee ← toMinorUnitBigInt terms.originationFeeMinor "originationFeeMinor"
  throwIf (terms.approvedPrincipalMinor < fee) "invalid_credit_fee"
    "originationFeeMinor cannot exceed approvedPrincipalMinor"
  assertRange "annualRateBps" terms.annualRateBps 0 100000
  assertRange "installmentCount" terms.installmentCount 1 520
  let createdAt ← toISOString now
  throwIf (validUntil ≤ now) "expired_credit_offer" "validUntil must be after offer creation"
  throwIf (terms.firstPaymentAt ≤ now) "invalid_credit_schedule"
    "firstPaymentAt must be after offer creation"
  throwIf (terms.maturityAt < terms.firstPaymentAt) "invalid_credit_schedule"
    "maturityAt cannot precede firstPaymentAt"
  let normalizedReasonCodes ← uniqueReasonCodes reasonCodes
  let core : CreditOfferCore H :=
    { terms with
      creditIntentId
      subjectId
      riskDecisionId
      validUntil
      reasonCodes := normalizedReasonCodes }
  pure { core with
    creditOfferHash := hashId (.creditOffer core)
    termsHash := hashId (.creditTerms terms)
    createdAt }

/-- The days between two payments of an offer: the whole term if there is only one. -/
def repaymentIntervalDays (intent : CreditIntent) : ℕ :=
  (intervalDays intent.repaymentFrequency).getD intent.requestedTermDays

/-- The decision on an intent, and the offer where it is approved. -/
def createDeterministicCreditDecisionOutcome (intent : CreditIntent) (denialCode : Option String)
    (frozen : Bool) (riskFeatureSnapshot : Option (RiskFeatureSnapshot H)) (now : ℕ) :
    Domain (RiskDecision H × Option (IssuedOffer H)) := do
  assertIntent intent
  throwIf (maxDateMs < now) "invalid_tenant_command_clock" "trusted evaluation time is invalid"
  let policyDenial ← deriveSandboxCreditPolicyDenial intent
  let effectiveDenial := denialCode <|> policyDenial
  throwIf (∃ denial ∈ effectiveDenial, denial ∉ deniedCreditReasonCodes)
    "invalid_credit_reason_codes" "denialCode is outside the closed policy"
  match effectiveDenial with
  | some denial =>
    let status := if frozen = true ∨ denial = "credit_state_frozen" then .frozen else .rejected
    let decision ← createCreditApplicationRiskDecision hashId intent status [denial]
      riskFeatureSnapshot now
    pure (decision, none)
  | none =>
    let reasonCodes := approvedCreditReasonCodes intent.authorityType
    let decision ← createCreditApplicationRiskDecision hashId intent .approved reasonCodes
      riskFeatureSnapshot now
    let maturityAt ← addUtcDays now intent.requestedTermDays
    let firstPaymentAt ← addUtcDays now (min (repaymentIntervalDays intent)
      intent.requestedTermDays)
    let validUntil ← toISOString (now + SandboxCreditDecisionPolicy.offerValidityMs)
    let annualRateBps ← annualRateBpsForTerm intent.requestedTermDays
    let offer ← createCreditOffer hashId intent.creditIntentId intent.subjectId
      decision.riskDecisionId
      { assetId := intent.assetId
        approvedPrincipalMinor := intent.requestedPrincipalMinor
        annualRateBps
        originationFeeMinor := SandboxCreditDecisionPolicy.originationFeeMinor
        repaymentFrequency := intent.repaymentFrequency
        installmentCount := intent.installmentCount
        firstPaymentAt
        maturityAt
        disclosureRef := SandboxCreditDecisionPolicy.disclosureRef }
      validUntil reasonCodes now
    pure (decision, some offer)

end Decide

/-! ## What an offer is made of -/

section Offer

variable {H : Type} [DecidableEq H] {hashId : DecisionPreimage H → H} {intent : CreditIntent}
  {denialCode : Option String} {frozen : Bool}
  {riskFeatureSnapshot : Option (RiskFeatureSnapshot H)} {now : ℕ} {decision : RiskDecision H}
  {offer : IssuedOffer H}

/-- What the policy of the sandbox asks of an intent. -/
structure WithinPolicy (intent : CreditIntent) : Prop where
  asset : intent.assetId = SandboxCreditDecisionPolicy.assetId
  principal_pos : 0 < intent.requestedPrincipalMinor
  principal_le : intent.requestedPrincipalMinor ≤ SandboxCreditDecisionPolicy.maximumPrincipalMinor
  term_pos : 1 ≤ intent.requestedTermDays
  term_le : intent.requestedTermDays ≤ SandboxCreditDecisionPolicy.maximumTermDays
  count : intent.installmentCount
    = (intent.requestedTermDays + repaymentIntervalDays intent - 1) / repaymentIntervalDays intent

theorem expectedInstallmentCount_eq (hterm : 1 ≤ intent.requestedTermDays) :
    expectedInstallmentCount intent.repaymentFrequency intent.requestedTermDays
      = .ok ((intent.requestedTermDays + repaymentIntervalDays intent - 1)
        / repaymentIntervalDays intent) := by
  have hthrow : throwIf (intent.requestedTermDays < 1) "invalid_credit_term"
      "requestedTermDays must be a positive integer" = .ok () := throwIf_eq_ok.2 (by omega)
  rw [expectedInstallmentCount, bind_of_ok hthrow, repaymentIntervalDays]
  cases hinterval : intervalDays intent.repaymentFrequency with
  | some interval => rfl
  | none =>
    have hone : (intent.requestedTermDays + intent.requestedTermDays - 1)
        / intent.requestedTermDays = 1 :=
      Nat.div_eq_of_lt_le (by omega) (by omega)
    simp only [Option.getD_none, hone]
    rfl

/-- **The policy denies nothing of an intent exactly if the intent is within it.** -/
theorem deriveSandboxCreditPolicyDenial_eq_none :
    deriveSandboxCreditPolicyDenial intent = .ok none ↔
      assertIntent intent = .ok () ∧ WithinPolicy intent := by
  rw [deriveSandboxCreditPolicyDenial, bind_eq_ok]
  constructor
  · rintro ⟨_, hintent, h⟩
    refine ⟨hintent, ?_⟩
    split at h
    · cases pure_eq_ok.1 h
    · rename_i hasset
      obtain ⟨principal, hprincipal, h⟩ := bind_eq_ok.1 h
      obtain ⟨rfl, hpos⟩ := assertPositiveMinorUnits_ok hprincipal
      split at h
      · cases pure_eq_ok.1 h
      · split at h
        · cases pure_eq_ok.1 h
        · rename_i hcap hterm
          have hterm' : 1 ≤ intent.requestedTermDays ∧
              intent.requestedTermDays ≤ SandboxCreditDecisionPolicy.maximumTermDays := by omega
          rw [expectedInstallmentCount_eq hterm'.1] at h
          have hcount := pure_eq_ok.1 h
          split at hcount
          · cases hcount
          · rename_i hne
            exact ⟨not_not.1 hasset, hpos, not_lt.1 hcap, hterm'.1, hterm'.2, (not_not.1 hne).symm⟩
  · rintro ⟨hintent, hpolicy⟩
    refine ⟨(), hintent, ?_⟩
    have hprincipal : assertPositiveMinorUnits intent.requestedPrincipalMinor
        "requestedPrincipalMinor" = .ok intent.requestedPrincipalMinor :=
      assertPositiveMinorUnits_eq_ok.2 ⟨⟨hpolicy.principal_pos, lt_of_le_of_lt hpolicy.principal_le
        (by decide)⟩, rfl⟩
    rw [if_neg (not_not.2 hpolicy.asset), bind_of_ok hprincipal,
      if_neg (not_lt.2 hpolicy.principal_le),
      if_neg (by have := hpolicy.term_pos; have := hpolicy.term_le; omega),
      expectedInstallmentCount_eq hpolicy.term_pos]
    exact pure_eq_ok.2 (if_neg (not_not.2 hpolicy.count.symm))

/-- **An offer has the terms that the intent asked for**, and times that are counted from now. -/
theorem createDeterministicCreditDecisionOutcome_eq_ok
    (h : createDeterministicCreditDecisionOutcome hashId intent denialCode frozen
      riskFeatureSnapshot now = .ok (decision, some offer)) :
    WithinPolicy intent ∧ offer.approvedPrincipalMinor = intent.requestedPrincipalMinor ∧
      offer.repaymentFrequency = intent.repaymentFrequency ∧
      offer.installmentCount = intent.installmentCount ∧
      offer.firstPaymentAt
        = now + min (repaymentIntervalDays intent) intent.requestedTermDays * dayMs ∧
      offer.maturityAt = now + intent.requestedTermDays * dayMs ∧
      1 ≤ intent.installmentCount ∧ intent.installmentCount ≤ 520 := by
  obtain ⟨_, hintent, h⟩ := bind_eq_ok.1 h
  obtain ⟨_, _, h⟩ := bind_eq_ok.1 h
  obtain ⟨policyDenial, hpolicy, h⟩ := bind_eq_ok.1 h
  obtain ⟨_, _, h⟩ := bind_eq_ok.1 h
  -- a denied intent gets no offer
  obtain ⟨rfl, rfl⟩ : denialCode = none ∧ policyDenial = none := by
    rcases denialCode with _ | denial
    · rcases policyDenial with _ | denial
      · exact ⟨rfl, rfl⟩
      · obtain ⟨_, _, h⟩ := bind_eq_ok.1 h
        cases pure_eq_ok.1 h
    · obtain ⟨_, _, h⟩ := bind_eq_ok.1 h
      cases pure_eq_ok.1 h
  obtain ⟨decided, _, h⟩ := bind_eq_ok.1 h
  obtain ⟨maturityAt, hmaturity, h⟩ := bind_eq_ok.1 h
  obtain ⟨firstPaymentAt, hfirst, h⟩ := bind_eq_ok.1 h
  obtain ⟨-, rfl⟩ := toISOString_eq_ok.1 hmaturity
  obtain ⟨-, rfl⟩ := toISOString_eq_ok.1 hfirst
  obtain ⟨validUntil, _, h⟩ := bind_eq_ok.1 h
  obtain ⟨annualRateBps, _, h⟩ := bind_eq_ok.1 h
  obtain ⟨issued, hissued, h⟩ := bind_eq_ok.1 h
  obtain ⟨_, hoffer⟩ := Prod.mk.inj (pure_eq_ok.1 h)
  obtain rfl := Option.some.inj hoffer
  simp only [createCreditOffer, assertRange, bind_eq_ok, throwIf_eq_ok, pure_eq_ok] at hissued
  obtain ⟨_, _, _, _, _, _, _, _, _, _, _, _, _, _, _, _, _, hcount, _, _, _, _, _, _, _, _, _, _,
    rfl⟩ := hissued
  exact ⟨(deriveSandboxCreditPolicyDenial_eq_none.1 hpolicy).2, rfl, rfl, rfl, rfl, rfl,
    by omega, by omega⟩

end Offer

/-! ## The schedule of an offer -/

section Schedule

variable {H : Type} {obligationId : String} {offer : CreditOffer}

/-- When the rows of a schedule fall due. -/
def dueInstants (rows : List (Installment H)) : List ℕ := rows.map (·.dueAt)

/-- Equal shares, with the remainder in the last one, make up the whole. -/
theorem sum_shares {count : ℕ} (hcount : 1 ≤ count) (principal : ℤ) :
    ((List.range count).map fun index : ℕ ↦
      principal / count + if index + 1 = count then principal % count else 0).sum = principal := by
  obtain ⟨n, rfl⟩ : ∃ n, count = n + 1 := ⟨count - 1, by omega⟩
  have hinit : (List.range n).map (fun index : ℕ ↦ principal / ((n + 1 : ℕ) : ℤ)
      + if index + 1 = n + 1 then principal % ((n + 1 : ℕ) : ℤ) else 0)
        = (List.range n).map fun _ ↦ principal / ((n + 1 : ℕ) : ℤ) :=
    List.map_congr_left fun index hindex ↦ by
      have hlt := List.mem_range.1 hindex
      rw [if_neg (by omega), add_zero]
  rw [List.range_succ, List.map_append, List.sum_append, hinit, List.map_const', List.sum_replicate,
    List.length_range, List.map_singleton, List.sum_singleton, if_pos rfl]
  calc n • (principal / ((n + 1 : ℕ) : ℤ))
        + (principal / ((n + 1 : ℕ) : ℤ) + principal % ((n + 1 : ℕ) : ℤ))
      = ((n + 1 : ℕ) : ℤ) * (principal / ((n + 1 : ℕ) : ℤ)) + principal % ((n + 1 : ℕ) : ℤ) := by
        push_cast
        rw [nsmul_eq_mul]
        ring
    _ = principal := Int.mul_ediv_add_emod principal _

/-- A schedule is derived from terms that are in order, and has one row for each installment. -/
theorem createObligationSchedule_isOk (hashId : SandboxPreimage H → H)
    (hid : assertNonEmptyString "obligationId" obligationId = .ok ())
    (hprincipal : IsMinorUnits offer.approvedPrincipalMinor)
    (hcount : 1 ≤ offer.installmentCount ∧ offer.installmentCount ≤ 520)
    (htimes : offer.firstPaymentAt ≤ offer.maturityAt)
    (hinterval : 1 < offer.installmentCount → intervalDays offer.repaymentFrequency ≠ none)
    (hincreasing : ∀ index, index + 1 < offer.installmentCount →
      dueAtIndex offer index < dueAtIndex offer (index + 1)) :
    ∃ rows : List (Installment H), createObligationSchedule hashId obligationId offer = .ok rows ∧
      dueInstants rows = (List.range offer.installmentCount).map (dueAtIndex offer) ∧
      (rows.map (·.scheduledPrincipalMinor)).sum = offer.approvedPrincipalMinor := by
  have hsum : (((List.range offer.installmentCount).map fun index ↦
      scheduledRow hashId obligationId (index + 1) (dueAtIndex offer index)
        (offer.approvedPrincipalMinor / offer.installmentCount
          + if index + 1 = offer.installmentCount
            then offer.approvedPrincipalMinor % offer.installmentCount else 0) 0 0 1).map
      (·.scheduledPrincipalMinor)).sum = offer.approvedPrincipalMinor := by
    rw [List.map_map]
    exact sum_shares hcount.1 offer.approvedPrincipalMinor
  refine ⟨_, ?_, ?_, hsum⟩
  · simp only [createObligationSchedule, bind_eq_ok, throwIf_eq_ok, pure_eq_ok]
    refine ⟨(), hid, _, assertPositiveMinorUnits_eq_ok.2 ⟨hprincipal, rfl⟩, (), by omega, (),
      by omega, (), fun h ↦ hinterval h.1 h.2, (), ?_, (), not_not.2 hsum, rfl⟩
    simp only [List.any_eq_true, List.mem_range, decide_eq_true_eq, not_exists, not_and, not_le]
    exact fun index hindex ↦ hincreasing index (by omega)
  · rw [dueInstants, List.map_map]
    rfl

/-- The terms of an offer for `term` days, of which there are `interval` between two payments. -/
structure TermsFor (offer : CreditOffer) (now interval term : ℕ) : Prop where
  interval_pos : 1 ≤ interval
  term_pos : 1 ≤ term
  count : offer.installmentCount = (term + interval - 1) / interval
  first : offer.firstPaymentAt = now + min interval term * dayMs
  maturity : offer.maturityAt = now + term * dayMs
  interval_eq : 1 < offer.installmentCount →
    intervalDays offer.repaymentFrequency = some interval

namespace TermsFor

variable {now interval term : ℕ} (h : TermsFor offer now interval term)

include h

/-- The last payment is the one that the term does not leave room for another one after. -/
theorem lt_count_iff {index : ℕ} : index < offer.installmentCount ↔ index * interval < term := by
  have hpos := h.interval_pos
  rw [h.count, Nat.lt_iff_add_one_le, Nat.le_div_iff_mul_le hpos, Nat.add_mul]
  omega

/-- **Every due instant has the same form**, whether it is an early one or the last. -/
theorem dueAtIndex_eq {index : ℕ} (hindex : index < offer.installmentCount) :
    dueAtIndex offer index = now + min ((index + 1) * interval) term * dayMs := by
  rw [dueAtIndex]
  split
  · rename_i hlast
    have hterm : term ≤ (index + 1) * interval :=
      not_lt.1 fun hlt ↦ (h.lt_count_iff.2 hlt).ne hlast
    rw [h.maturity, Nat.min_eq_right hterm]
  · have hnext : index + 1 < offer.installmentCount := by omega
    have hterm : (index + 1) * interval < term := h.lt_count_iff.1 hnext
    have hfirst : interval ≤ (index + 1) * interval := Nat.le_mul_of_pos_left _ (Nat.succ_pos _)
    rw [h.first, h.interval_eq (by omega), Option.getD_some, Nat.min_eq_left hterm.le,
      Nat.min_eq_left (by omega)]
    ring

theorem dueAtIndex_lt {index : ℕ} (hindex : index + 1 < offer.installmentCount) :
    dueAtIndex offer index < dueAtIndex offer (index + 1) := by
  have hpos := h.interval_pos
  have hterm := h.lt_count_iff.1 hindex
  rw [h.dueAtIndex_eq (Nat.lt_of_succ_lt hindex), h.dueAtIndex_eq hindex, Nat.add_mul (index + 1)]
  have hlt : min ((index + 1) * interval) term
      < min ((index + 1) * interval + 1 * interval) term := by omega
  have := Nat.mul_lt_mul_of_pos_right hlt (show 0 < dayMs by decide)
  omega

theorem dueAtIndex_le {index : ℕ} (hindex : index + 1 < offer.installmentCount) :
    dueAtIndex offer (index + 1) ≤ dueAtIndex offer index + interval * dayMs := by
  rw [h.dueAtIndex_eq (Nat.lt_of_succ_lt hindex), h.dueAtIndex_eq hindex, Nat.add_mul (index + 1)]
  have hle : min ((index + 1) * interval + 1 * interval) term
      ≤ min ((index + 1) * interval) term + interval := by omega
  calc now + min ((index + 1) * interval + 1 * interval) term * dayMs
      ≤ now + (min ((index + 1) * interval) term + interval) * dayMs :=
        Nat.add_le_add_left (Nat.mul_le_mul_right dayMs hle) now
    _ = now + min ((index + 1) * interval) term * dayMs + interval * dayMs := by
        rw [Nat.add_mul, Nat.add_assoc]

theorem lt_dueAtIndex {index : ℕ} (hindex : index < offer.installmentCount) :
    now < dueAtIndex offer index := by
  have hpos : 1 ≤ (index + 1) * interval :=
    Nat.mul_pos (Nat.succ_pos _) h.interval_pos
  have hterm := h.term_pos
  rw [h.dueAtIndex_eq hindex]
  have := Nat.mul_le_mul_right dayMs (show 1 ≤ min ((index + 1) * interval) term by omega)
  have : 0 < dayMs := by decide
  omega

end TermsFor

end Schedule

section Offered

variable {H : Type} [DecidableEq H] {hashId : DecisionPreimage H → H} {intent : CreditIntent}
  {denialCode : Option String} {frozen : Bool}
  {riskFeatureSnapshot : Option (RiskFeatureSnapshot H)} {now : ℕ} {decision : RiskDecision H}
  {offer : IssuedOffer H}

theorem repaymentIntervalDays_pos (hterm : 1 ≤ intent.requestedTermDays) :
    1 ≤ repaymentIntervalDays intent := by
  rw [repaymentIntervalDays]
  cases intent.repaymentFrequency <;> simp [intervalDays, hterm]

/-- An issued offer has terms that are counted from the decision. -/
theorem termsFor_accepted
    (h : createDeterministicCreditDecisionOutcome hashId intent denialCode frozen
      riskFeatureSnapshot now = .ok (decision, some offer)) :
    TermsFor (offer.accepted intent) now (repaymentIntervalDays intent)
      intent.requestedTermDays := by
  obtain ⟨hpolicy, -, hfrequency, hcount, hfirst, hmaturity, -⟩ :=
    createDeterministicCreditDecisionOutcome_eq_ok h
  refine ⟨repaymentIntervalDays_pos hpolicy.term_pos, hpolicy.term_pos,
    hcount.trans hpolicy.count, hfirst, hmaturity, fun hmany ↦ ?_⟩
  show intervalDays offer.repaymentFrequency = _
  rw [hfrequency, repaymentIntervalDays]
  cases hinterval : intervalDays intent.repaymentFrequency with
  | some interval => rfl
  | none =>
    -- a payment at the end of the term is the only one
    have hpos := hpolicy.term_pos
    have hone : offer.installmentCount = 1 := by
      rw [hcount, hpolicy.count, repaymentIntervalDays, hinterval, Option.getD_none]
      exact Nat.div_eq_of_lt_le (by omega) (by omega)
    exact absurd hmany (by rw [show (offer.accepted intent).installmentCount = 1 from hone]; omega)

/-- **An approved offer can always be scheduled**, and the schedule keeps to the offer's terms: one
row for each installment, the whole principal, and due instants that rise from the first payment to
maturity by no more than the interval of repayment. -/
theorem approved_offer_schedules (scheduleHash : SandboxPreimage H → H) {obligationId : String}
    (h : createDeterministicCreditDecisionOutcome hashId intent denialCode frozen
      riskFeatureSnapshot now = .ok (decision, some offer))
    (hid : assertNonEmptyString "obligationId" obligationId = .ok ()) :
    ∃ rows : List (Installment H),
      createObligationSchedule scheduleHash obligationId (offer.accepted intent) = .ok rows ∧
      rows.length = offer.installmentCount ∧
      (rows.map (·.scheduledPrincipalMinor)).sum = offer.approvedPrincipalMinor ∧
      (dueInstants rows).Pairwise (· < ·) ∧
      (∀ instant ∈ dueInstants rows, now < instant) ∧
      (dueInstants rows).head? = some offer.firstPaymentAt ∧
      (dueInstants rows).getLast? = some offer.maturityAt ∧
      (dueInstants rows).IsChain
        (fun instant next ↦ next ≤ instant + repaymentIntervalDays intent * dayMs) := by
  obtain ⟨hpolicy, hprincipal, -, hcount, hfirst, hmaturity, hbounds⟩ :=
    createDeterministicCreditDecisionOutcome_eq_ok h
  have hterms := termsFor_accepted h
  have hinstallments : (offer.accepted intent).installmentCount = offer.installmentCount := rfl
  obtain ⟨rows, hrows, hdue, hsum⟩ := createObligationSchedule_isOk scheduleHash hid
    (by
      show IsMinorUnits offer.approvedPrincipalMinor
      rw [hprincipal]
      exact ⟨hpolicy.principal_pos, lt_of_le_of_lt hpolicy.principal_le (by decide)⟩)
    (by rw [hinstallments, hcount]; exact hbounds)
    (by
      rw [hterms.first, hterms.maturity]
      have := Nat.mul_le_mul_right dayMs (Nat.min_le_right (repaymentIntervalDays intent)
        intent.requestedTermDays)
      omega)
    (fun hmany ↦ by rw [hterms.interval_eq hmany]; exact Option.some_ne_none _)
    fun index hindex ↦ hterms.dueAtIndex_lt hindex
  rw [hinstallments] at hdue
  obtain ⟨n, hn⟩ : ∃ n, offer.installmentCount = n + 1 := ⟨offer.installmentCount - 1, by omega⟩
  refine ⟨rows, hrows, ?_, hsum, ?_, ?_, ?_, ?_, ?_⟩
  · have hlength := congrArg List.length hdue
    rwa [dueInstants, List.length_map, List.length_map, List.length_range] at hlength
  · rw [hdue, ← List.isChain_iff_pairwise, List.isChain_map, List.isChain_range]
    exact fun index hindex ↦ hterms.dueAtIndex_lt (by omega)
  · rw [hdue]
    rintro instant hinstant
    obtain ⟨index, hindex, rfl⟩ := List.mem_map.1 hinstant
    exact hterms.lt_dueAtIndex (List.mem_range.1 hindex)
  · rw [hdue, hn, List.range_succ_eq_map, List.map_cons, List.head?_cons,
      hterms.dueAtIndex_eq (by omega), hfirst, Nat.zero_add, Nat.one_mul]
  · rw [hdue, hn, List.range_succ, List.map_append, List.map_singleton, List.getLast?_concat,
      dueAtIndex, if_pos (by omega)]
    rfl
  · rw [hdue, List.isChain_map, List.isChain_range]
    exact fun index hindex ↦ hterms.dueAtIndex_le (by omega)

end Offered

namespace Sample

/-- An application for six weeks and three days, to be repaid week by week. -/
def weeklyIntent : CreditIntent where
  creditIntentId := "credit_intent_1"
  subjectId := "subject_1"
  principalId := "principal_1"
  authorityType := .mandate
  authorityRef := "mandate_1"
  assetId := SandboxCreditDecisionPolicy.assetId
  requestedPrincipalMinor := 100000
  purposeCode := "working_capital"
  requestedTermDays := 45
  repaymentFrequency := .weekly
  installmentCount := 7
  sandboxOnly := true
  productionFundsRequested := false
  status := .submitted
  schemaVersion := "credit_intent.v1"

/-- The offer that `weeklyIntent` gets at `1000`. -/
def weeklyOffer : IssuedOffer ℕ where
  assetId := SandboxCreditDecisionPolicy.assetId
  approvedPrincipalMinor := 100000
  annualRateBps := 900
  originationFeeMinor := 0
  repaymentFrequency := .weekly
  installmentCount := 7
  firstPaymentAt := 1000 + 7 * dayMs
  maturityAt := 1000 + 45 * dayMs
  disclosureRef := SandboxCreditDecisionPolicy.disclosureRef
  creditIntentId := "credit_intent_1"
  subjectId := "subject_1"
  riskDecisionId := 0
  validUntil := 1000 + dayMs
  reasonCodes := approvedCreditReasonCodes .mandate
  creditOfferHash := 0
  termsHash := 0
  createdAt := 1000

end Sample

theorem approved_offer_schedules_weekly :
    ∃ rows : List (Installment ℕ),
      createObligationSchedule (fun _ ↦ 0) "obligation_1"
        (Sample.weeklyOffer.accepted Sample.weeklyIntent) = .ok rows ∧ rows.length = 7 := by
  have hoffered : (createDeterministicCreditDecisionOutcome (fun _ ↦ 0) Sample.weeklyIntent none
      false none 1000).toOption.map (·.2) = some (some Sample.weeklyOffer) := by
    decide +kernel
  obtain ⟨⟨decision, offer⟩, houtcome, rfl⟩ := Option.map_eq_some_iff.1 hoffered
  have hdecision := toOption_eq_some.1 houtcome
  obtain ⟨rows, hrows, hlength, -⟩ :=
    approved_offer_schedules (fun _ ↦ 0) hdecision (show assertNonEmptyString "obligationId"
      "obligation_1" = .ok () from rfl)
  exact ⟨rows, hrows, hlength⟩

/-! ## Every intent is decided -/

section Decided

variable {H : Type} [DecidableEq H] {hashId : DecisionPreimage H → H} {intent : CreditIntent}
  {denialCode : Option String} {frozen : Bool}
  {riskFeatureSnapshot : Option (RiskFeatureSnapshot H)} {now : ℕ}

/-- The snapshot was taken for the decision that is made now, under the policy in force. -/
structure SnapshotFor (hashId : DecisionPreimage H → H) (snapshot : RiskFeatureSnapshot H)
    (now : ℕ) : Prop where
  schemaVersion : snapshot.schemaVersion = "risk_feature_snapshot.v1"
  policyVersion : snapshot.policyVersion = SandboxCreditDecisionPolicy.modelVersion
  policyHash : snapshot.policyHash = sandboxCreditPolicyHash hashId
  asOf : snapshot.asOf = now

/-- The reasons of a decision are of the closed policy. -/
def Closed (reasons : List String) : Prop :=
  ∀ code ∈ reasons, code ∈ approvedReasonCodes ∨ code ∈ deniedCreditReasonCodes

/-- **Every reason of the closed policy has its lineage.** -/
theorem creditReasonLineage_isSome {code : String}
    (h : code ∈ approvedReasonCodes ∨ code ∈ deniedCreditReasonCodes) :
    (creditReasonLineage code).isSome = true := by
  have hall : ∀ code ∈ approvedReasonCodes ++ deniedCreditReasonCodes,
      (creditReasonLineage code).isSome = true := by decide
  exact hall code (List.mem_append.2 h)

theorem createRiskDecisionPassport_isOk {riskDecisionId : H} {core : RiskDecisionCore H}
    {snapshot : RiskFeatureSnapshot H} (h : SnapshotFor hashId snapshot now)
    (hversion : core.modelVersion = SandboxCreditDecisionPolicy.modelVersion)
    (hclosed : Closed core.reasons) :
    ∃ passport, createRiskDecisionPassport hashId riskDecisionId core snapshot
      (sandboxCreditPolicyHash hashId) = .ok passport := by
  have hcheck : throwIf (snapshot.schemaVersion ≠ "risk_feature_snapshot.v1" ∨
      snapshot.policyHash ≠ sandboxCreditPolicyHash hashId ∨
      snapshot.policyVersion ≠ core.modelVersion)
      "invalid_risk_evidence" "Decision passport provenance is inconsistent" = .ok () :=
    throwIf_eq_ok.2 (by
      rw [h.schemaVersion, h.policyHash, h.policyVersion, hversion]
      simp)
  rw [createRiskDecisionPassport, bind_of_ok hcheck]
  refine exists_bind_eq_ok (exists_mapM_eq_ok fun code hcode ↦ ?_) fun lineages _ ↦ ⟨_, rfl⟩
  obtain ⟨lineage, hlineage⟩ := Option.isSome_iff_exists.1
    (creditReasonLineage_isSome (hclosed code hcode))
  exact ⟨_, by rw [hlineage]; rfl⟩

/-- A decision on an intent with reasons of the policy is made. -/
theorem createCreditApplicationRiskDecision_isOk {status : RiskDecisionStatus}
    {reasonCodes : List String} (hintent : assertIntent intent = .ok ())
    (hreasons : normalizeReasonCodes status reasonCodes = .ok reasonCodes)
    (hclosed : Closed reasonCodes) (hnow : now ≤ maxDateMs)
    (hsnapshot : ∀ snapshot ∈ riskFeatureSnapshot, SnapshotFor hashId snapshot now) :
    ∃ decision, createCreditApplicationRiskDecision hashId intent status reasonCodes
        riskFeatureSnapshot now = .ok decision ∧ decision.status = status ∧
      decision.reasons = reasonCodes ∧
      decision.limitMinor = (if status = .approved then intent.requestedPrincipalMinor else 0) ∧
      decision.decisionPassport.isSome = riskFeatureSnapshot.isSome := by
  rw [createCreditApplicationRiskDecision, bind_of_ok hintent, bind_of_ok hreasons,
    bind_of_ok (toISOString_eq_ok.2 ⟨hnow, rfl⟩)]
  cases riskFeatureSnapshot with
  | none => exact ⟨_, rfl, rfl, rfl, rfl, rfl⟩
  | some snapshot =>
    have hfor := hsnapshot snapshot rfl
    have hcheck : throwIf (snapshot.schemaVersion ≠ "risk_feature_snapshot.v1" ∨
        snapshot.policyVersion ≠ SandboxCreditDecisionPolicy.modelVersion ∨
        snapshot.policyHash ≠ sandboxCreditPolicyHash hashId ∨ snapshot.asOf ≠ now)
        "invalid_risk_evidence"
        "Risk feature snapshot is inconsistent with the current policy Decision" = .ok () :=
      throwIf_eq_ok.2 (by
        rw [hfor.schemaVersion, hfor.policyVersion, hfor.policyHash, hfor.asOf]
        simp)
    simp only
    rw [bind_of_ok hcheck]
    simp only [bind_eq_ok, pure_eq_ok]
    have hpassport (riskDecisionId : H) (core : RiskDecisionCore H)
        (hversion : core.modelVersion = SandboxCreditDecisionPolicy.modelVersion)
        (hcore : core.reasons = reasonCodes) :
        ∃ passport, createRiskDecisionPassport hashId riskDecisionId core snapshot
          (sandboxCreditPolicyHash hashId) = .ok passport :=
      createRiskDecisionPassport_isOk hfor hversion (by rw [hcore]; exact hclosed)
    refine ⟨_, ⟨_, (hpassport _ _ ?_ ?_).choose_spec, rfl⟩, ?_⟩
    · rfl
    · rfl
    · exact ⟨rfl, rfl, rfl, rfl⟩

/-- The policy has an answer for every intent, and denies for a reason of its own. -/
theorem deriveSandboxCreditPolicyDenial_isOk (hintent : assertIntent intent = .ok ())
    (hprincipal : IsMinorUnits intent.requestedPrincipalMinor) :
    ∃ denial, deriveSandboxCreditPolicyDenial intent = .ok denial ∧
      ∀ code ∈ denial, code ∈ deniedCreditReasonCodes := by
  have hclosed : ∀ code ∈ ["unsupported_sandbox_asset", "sandbox_cap_exceeded",
      "invalid_requested_schedule"], code ∈ deniedCreditReasonCodes := by decide
  rw [deriveSandboxCreditPolicyDenial, bind_of_ok hintent]
  split
  · exact ⟨_, rfl, by rintro _ ⟨⟩; exact hclosed _ (by simp)⟩
  · rw [bind_of_ok (assertPositiveMinorUnits_eq_ok.2 ⟨hprincipal, rfl⟩)]
    split
    · exact ⟨_, rfl, by rintro _ ⟨⟩; exact hclosed _ (by simp)⟩
    · split
      · exact ⟨_, rfl, by rintro _ ⟨⟩; exact hclosed _ (by simp)⟩
      · split
        · refine ⟨_, rfl, fun code hcode ↦ ?_⟩
          split at hcode
          · obtain rfl := Option.some.inj hcode
            exact hclosed _ (by simp)
          · cases hcode
        · exact ⟨_, rfl, by rintro _ ⟨⟩; exact hclosed _ (by simp)⟩

theorem normalizeReasonCodes_denied {status : RiskDecisionStatus} {denial : String}
    (hstatus : status ≠ .approved) (h : denial ∈ deniedCreditReasonCodes) :
    normalizeReasonCodes status [denial] = .ok [denial] := by
  simp only [normalizeReasonCodes, bind_eq_ok, throwIf_eq_ok, pure_eq_ok]
  exact ⟨(), by simp, (), by simp [hstatus, h], trivial⟩

theorem normalizeReasonCodes_approved (authorityType : CreditAuthorityType) :
    normalizeReasonCodes .approved (approvedCreditReasonCodes authorityType)
      = .ok (approvedCreditReasonCodes authorityType) := by
  cases authorityType <;> rfl

theorem uniqueReasonCodes_approved (authorityType : CreditAuthorityType) :
    uniqueReasonCodes (approvedCreditReasonCodes authorityType)
      = .ok (approvedCreditReasonCodes authorityType) := by
  cases authorityType <;> rfl

theorem approvedCreditReasonCodes_closed (authorityType : CreditAuthorityType) :
    Closed (approvedCreditReasonCodes authorityType) := by
  have hall : ∀ code ∈ approvedCreditReasonCodes authorityType, code ∈ approvedReasonCodes := by
    cases authorityType <;> decide
  exact fun code hcode ↦ .inl (hall code hcode)

theorem annualRateBpsForTerm_isOk {termDays : ℕ} (h : 1 ≤ termDays ∧ termDays ≤ 366) :
    ∃ annualRateBps, annualRateBpsForTerm termDays = .ok annualRateBps ∧ annualRateBps ≤ 1500 := by
  have hcheck : throwIf (termDays < 1 ∨ 366 < termDays) "invalid_credit_term"
      "sandbox term must be between 1 and 366 days" = .ok () := throwIf_eq_ok.2 (by omega)
  rw [annualRateBpsForTerm, bind_of_ok hcheck]
  refine ⟨_, rfl, ?_⟩
  split
  · omega
  · split
    · omega
    · split <;> omega

/-- What is known of an intent that was created. -/
theorem createCreditIntent_ok {creditIntentId : String} {input : CreditIntentInput}
    (h : createCreditIntent creditIntentId input = .ok intent) :
    assertIntent intent = .ok () ∧ intent.creditIntentId = creditIntentId ∧
      assertNonEmptyString "subjectId" intent.subjectId = .ok () ∧
      IsMinorUnits intent.requestedPrincipalMinor ∧
      1 ≤ intent.installmentCount ∧ intent.installmentCount ≤ 520 := by
  simp only [createCreditIntent, assertRange, bind_eq_ok, throwIf_eq_ok, pure_eq_ok] at h
  obtain ⟨_, hsubject, _, -, _, -, _, -, _, hpositive, _, -, _, -, _, -, _, hcount, rfl⟩ := h
  have hbounds : 1 ≤ input.installmentCount ∧ input.installmentCount ≤ 520 := by omega
  exact ⟨rfl, rfl, hsubject, (assertPositiveMinorUnits_eq_ok.1 hpositive).1, hbounds⟩

/-- The dates of an offer exist as long as the longest term of the policy ends on one. -/
theorem offerDates_eq_ok (hpolicy : WithinPolicy intent)
    (hdate : now + SandboxCreditDecisionPolicy.maximumTermDays * dayMs ≤ maxDateMs) :
    addUtcDays now intent.requestedTermDays = .ok (now + intent.requestedTermDays * dayMs) ∧
      addUtcDays now (min (repaymentIntervalDays intent) intent.requestedTermDays)
        = .ok (now + min (repaymentIntervalDays intent) intent.requestedTermDays * dayMs) ∧
      toISOString (now + SandboxCreditDecisionPolicy.offerValidityMs)
        = .ok (now + SandboxCreditDecisionPolicy.offerValidityMs) := by
  have hterm : now + intent.requestedTermDays * dayMs ≤ maxDateMs :=
    le_trans (Nat.add_le_add_left (Nat.mul_le_mul_right dayMs hpolicy.term_le) now) hdate
  have hfirst : now + min (repaymentIntervalDays intent) intent.requestedTermDays * dayMs
      ≤ now + intent.requestedTermDays * dayMs :=
    Nat.add_le_add_left (Nat.mul_le_mul_right dayMs (Nat.min_le_right ..)) now
  have hvalid : SandboxCreditDecisionPolicy.offerValidityMs
      ≤ SandboxCreditDecisionPolicy.maximumTermDays * dayMs := by
    decide
  exact ⟨toISOString_eq_ok.2 ⟨hterm, rfl⟩, toISOString_eq_ok.2 ⟨hfirst.trans hterm, rfl⟩,
    toISOString_eq_ok.2 ⟨le_trans (Nat.add_le_add_left hvalid now) hdate, rfl⟩⟩

omit [DecidableEq H] in
/-- An offer is made to an intent within the policy. -/
theorem createCreditOffer_isOk (hashId : DecisionPreimage H → H) (riskDecisionId : H)
    (hnow : now ≤ maxDateMs) {annualRateBps : ℕ}
    (hid : assertNonEmptyString "creditIntentId" intent.creditIntentId = .ok ())
    (hsubject : assertNonEmptyString "subjectId" intent.subjectId = .ok ())
    (hprincipal : IsMinorUnits intent.requestedPrincipalMinor)
    (hcount : 1 ≤ intent.installmentCount ∧ intent.installmentCount ≤ 520)
    (hpolicy : WithinPolicy intent) (hrate : annualRateBps ≤ 1500) :
    ∃ offer, createCreditOffer hashId intent.creditIntentId intent.subjectId riskDecisionId
      { assetId := intent.assetId
        approvedPrincipalMinor := intent.requestedPrincipalMinor
        annualRateBps
        originationFeeMinor := SandboxCreditDecisionPolicy.originationFeeMinor
        repaymentFrequency := intent.repaymentFrequency
        installmentCount := intent.installmentCount
        firstPaymentAt
          := now + min (repaymentIntervalDays intent) intent.requestedTermDays * dayMs
        maturityAt := now + intent.requestedTermDays * dayMs
        disclosureRef := SandboxCreditDecisionPolicy.disclosureRef }
      (now + SandboxCreditDecisionPolicy.offerValidityMs)
      (approvedCreditReasonCodes intent.authorityType) now = .ok offer := by
  have hasset : assertNonEmptyString "assetId" intent.assetId = .ok () := by
    rw [hpolicy.asset]
    rfl
  have hdisclosure : assertNonEmptyString "disclosureRef" SandboxCreditDecisionPolicy.disclosureRef
      = .ok () := rfl
  have hfee : toMinorUnitBigInt SandboxCreditDecisionPolicy.originationFeeMinor
      "originationFeeMinor" = .ok 0 := rfl
  have hinterval := repaymentIntervalDays_pos hpolicy.term_pos
  have hterm := hpolicy.term_pos
  have hpos := hprincipal.1
  simp only [createCreditOffer, assertRange, bind_eq_ok, throwIf_eq_ok, pure_eq_ok]
  refine ⟨_, (), hid, (), hsubject, (), hasset, (), hdisclosure, _,
    assertPositiveMinorUnits_eq_ok.2 ⟨hprincipal, rfl⟩, 0, hfee, (), by omega, (), by omega, (),
    by omega, _, toISOString_eq_ok.2 ⟨hnow, rfl⟩, (), ?_, (), ?_, (), ?_, _,
    uniqueReasonCodes_approved intent.authorityType, rfl⟩
  · rw [SandboxCreditDecisionPolicy.offerValidityMs]
    omega
  · rw [dayMs]
    omega
  · rw [dayMs]
    omega

variable (hashId denialCode frozen riskFeatureSnapshot now) in
/-- **Every intent that can be created is decided.**  For an intent that `createCreditIntent`
returns, a denial of the closed policy or none, a snapshot taken for the decision or none, and a
time that the longest term of the policy does not carry past the last date, the decision is made: it
is approved, for the whole principal and with an offer, exactly if nothing was denied and the intent
is within the policy; its reasons are those of the policy, and it has a passport exactly if it has a
snapshot. -/
theorem created_intent_decided {creditIntentId : String} {input : CreditIntentInput}
    (hcreated : createCreditIntent creditIntentId input = .ok intent)
    (hid : assertNonEmptyString "creditIntentId" creditIntentId = .ok ())
    (hdenial : ∀ code ∈ denialCode, code ∈ deniedCreditReasonCodes)
    (hsnapshot : ∀ snapshot ∈ riskFeatureSnapshot, SnapshotFor hashId snapshot now)
    (hdate : now + SandboxCreditDecisionPolicy.maximumTermDays * dayMs ≤ maxDateMs) :
    ∃ (decision : RiskDecision H) (offer : Option (IssuedOffer H)),
      createDeterministicCreditDecisionOutcome hashId intent denialCode frozen riskFeatureSnapshot
        now = .ok (decision, offer) ∧
      (offer.isSome = true ↔ denialCode = none ∧ WithinPolicy intent) ∧
      (decision.status = .approved ↔ offer.isSome = true) ∧
      decision.limitMinor = (if offer.isSome = true then intent.requestedPrincipalMinor else 0) ∧
      Closed decision.reasons ∧
      decision.decisionPassport.isSome = riskFeatureSnapshot.isSome := by
  obtain ⟨hintent, rfl, hsubject, hprincipal, hcount⟩ := createCreditIntent_ok hcreated
  have hnow : now ≤ maxDateMs := le_trans (Nat.le_add_right ..) hdate
  have hclock : throwIf (maxDateMs < now) "invalid_tenant_command_clock"
      "trusted evaluation time is invalid" = .ok () := throwIf_eq_ok.2 (not_lt.2 hnow)
  obtain ⟨policyDenial, hpolicy, hclosed⟩ := deriveSandboxCreditPolicyDenial_isOk hintent hprincipal
  have hwithin : policyDenial = none ↔ WithinPolicy intent := by
    constructor
    · rintro rfl
      exact (deriveSandboxCreditPolicyDenial_eq_none.1 hpolicy).2
    · intro h
      exact Except.ok.inj (hpolicy.symm.trans
        (deriveSandboxCreditPolicyDenial_eq_none.2 ⟨hintent, h⟩))
  cases heffective : (denialCode <|> policyDenial) with
  | some denial =>
    have hmem : denial ∈ deniedCreditReasonCodes := by
      cases denialCode with
      | none => exact hclosed denial heffective
      | some code => exact hdenial denial heffective
    have hnot : ¬ (denialCode = none ∧ WithinPolicy intent) := by
      rintro ⟨rfl, h⟩
      rw [hwithin.2 h] at heffective
      cases heffective
    have hcheck : throwIf (∃ code ∈ some denial, code ∉ deniedCreditReasonCodes)
        "invalid_credit_reason_codes" "denialCode is outside the closed policy" = .ok () :=
      throwIf_eq_ok.2 (by rintro ⟨_, ⟨⟩, h⟩; exact h hmem)
    have hstatus : (if frozen = true ∨ denial = "credit_state_frozen"
        then RiskDecisionStatus.frozen else .rejected) ≠ .approved := by
      split <;> decide
    obtain ⟨decision, hdecision, hdecided, hreasons, hlimit, hpassport⟩ :=
      createCreditApplicationRiskDecision_isOk hintent (normalizeReasonCodes_denied hstatus hmem)
        (fun code hcode ↦ .inr (List.mem_singleton.1 hcode ▸ hmem)) hnow hsnapshot
    refine ⟨decision, none, ?_, by simpa using hnot, ?_, ?_, ?_, hpassport⟩
    · rw [createDeterministicCreditDecisionOutcome, bind_of_ok hintent, bind_of_ok hclock,
        bind_of_ok hpolicy]
      simp only [heffective]
      rw [bind_of_ok hcheck, bind_of_ok hdecision]
      rfl
    · simpa [hdecided] using hstatus
    · rw [hlimit, if_neg hstatus]
      rfl
    · rw [hreasons]
      exact fun code hcode ↦ .inr (List.mem_singleton.1 hcode ▸ hmem)
  | none =>
    obtain ⟨rfl, rfl⟩ : denialCode = none ∧ policyDenial = none := by
      cases denialCode with
      | none => exact ⟨rfl, heffective⟩
      | some code => cases heffective
    have hpol := hwithin.1 rfl
    obtain ⟨decision, hdecision, hdecided, hreasons, hlimit, hpassport⟩ :=
      createCreditApplicationRiskDecision_isOk hintent
        (normalizeReasonCodes_approved intent.authorityType)
        (approvedCreditReasonCodes_closed intent.authorityType) hnow hsnapshot
    obtain ⟨annualRateBps, hrate, hle⟩ := annualRateBpsForTerm_isOk ⟨hpol.term_pos, hpol.term_le⟩
    obtain ⟨offer, hoffer⟩ := createCreditOffer_isOk hashId decision.riskDecisionId hnow hid
      hsubject
      hprincipal hcount hpol hle
    obtain ⟨hmaturity, hfirst, hvalid⟩ := offerDates_eq_ok hpol hdate
    refine ⟨decision, some offer, ?_, by simpa using hpol, by simp [hdecided], ?_, ?_, hpassport⟩
    · rw [createDeterministicCreditDecisionOutcome, bind_of_ok hintent, bind_of_ok hclock,
        bind_of_ok hpolicy]
      have hcheck : throwIf (∃ code ∈ (none : Option String), code ∉ deniedCreditReasonCodes)
          "invalid_credit_reason_codes" "denialCode is outside the closed policy" = .ok () :=
        throwIf_eq_ok.2 (by simp)
      simp only [heffective]
      rw [bind_of_ok hcheck, bind_of_ok hdecision, bind_of_ok hmaturity, bind_of_ok hfirst,
        bind_of_ok hvalid, bind_of_ok hrate, bind_of_ok hoffer]
      rfl
    · rw [hlimit]
      rfl
    · rw [hreasons]
      exact approvedCreditReasonCodes_closed intent.authorityType

end Decided

namespace Sample

/-- What `weeklyIntent` was created from. -/
def weeklyInput : CreditIntentInput where
  subjectId := "subject_1"
  principalId := "principal_1"
  authorityType := .mandate
  authorityRef := "mandate_1"
  assetId := SandboxCreditDecisionPolicy.assetId
  requestedPrincipalMinor := 100000
  purposeCode := "working_capital"
  requestedTermDays := 45
  repaymentFrequency := .weekly
  installmentCount := 7

end Sample

/-- The weekly application is approved, and denied if a debt is open. -/
theorem created_intent_decided_weekly :
    (∃ (decision : RiskDecision ℕ) (offer : IssuedOffer ℕ),
      createDeterministicCreditDecisionOutcome (fun _ ↦ 0) Sample.weeklyIntent none false none 1000
        = .ok (decision, some offer) ∧ decision.status = .approved) ∧
    ∃ decision : RiskDecision ℕ,
      createDeterministicCreditDecisionOutcome (fun _ ↦ 0) Sample.weeklyIntent
        (some "adverse_obligation_open") false none 1000 = .ok (decision, none) ∧
      decision.status ≠ .approved := by
  have hcreated : createCreditIntent "credit_intent_1" Sample.weeklyInput
      = .ok Sample.weeklyIntent := rfl
  have hwithin : WithinPolicy Sample.weeklyIntent :=
    ⟨rfl, by decide, by decide, by decide, by decide, by decide⟩
  constructor
  · obtain ⟨decision, offer, houtcome, hoffer, hstatus, -⟩ := created_intent_decided
      (fun _ ↦ 0) none false none 1000 hcreated rfl (fun _ h ↦ by cases h) (fun _ h ↦ by cases h)
      (by decide)
    have hsome := hoffer.2 ⟨rfl, hwithin⟩
    obtain ⟨issued, rfl⟩ := Option.isSome_iff_exists.1 hsome
    exact ⟨decision, issued, houtcome, hstatus.2 hsome⟩
  · obtain ⟨decision, offer, houtcome, hoffer, hstatus, -⟩ := created_intent_decided
      (fun _ ↦ 0) (some "adverse_obligation_open") false none 1000 hcreated rfl (by decide)
      (fun _ h ↦ by cases h) (by decide)
    have hnot : ¬ offer.isSome = true := fun hsome ↦ by cases (hoffer.1 hsome).1
    obtain rfl := Option.not_isSome_iff_eq_none.1 hnot
    exact ⟨decision, houtcome, fun happroved ↦ hnot (hstatus.1 happroved)⟩

end Credit
end IpoOne
