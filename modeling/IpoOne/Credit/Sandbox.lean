import IpoOne.Credit.Ledger
import IpoOne.Domain.Validators

/-!
# The sandbox rail

`credit-acceptance.js`, `sandbox-credit.js` and `sandbox-servicing.js`: an accepted offer becomes an
obligation with a schedule, which is executed, repaid, serviced as time goes by, and may be
restructured, repurchased or written off.

Times are milliseconds.  The checks on who may act and on personal data, and the provenance of an
offer, do not touch an amount or a status and are left out; so are the random identifiers of
transactions and entries.
-/

set_option autoImplicit false

namespace IpoOne
namespace Credit

open Fallible

/-- `DAY_MS` -/
def dayMs : ℕ := 86400000

/-! ## Records -/

/-- How often an offer is repaid. -/
inductive RepaymentFrequency where
  | weekly
  | biweekly
  | monthly
  | endOfTerm
  deriving DecidableEq, Repr

/-- Where a repayment comes from; all sources are synthetic. -/
inductive SandboxRepaymentSource where
  | syntheticWallet
  | syntheticBank
  | syntheticRevenue
  deriving DecidableEq, Repr

/-- What `createAcceptedOfferObligation` reads of an offer and of the intent behind it. -/
structure CreditOffer where
  subjectId : String
  principalId : String
  authorityType : CreditAuthorityType
  assetId : String
  approvedPrincipalMinor : ℤ
  annualRateBps : ℕ
  repaymentFrequency : RepaymentFrequency
  installmentCount : ℕ
  firstPaymentAt : ℕ
  maturityAt : ℕ

/-- The signed receipt of the sandbox rail's adapter. -/
structure AdapterReceipt where
  obligationId : String
  assetId : String
  amountMinor : ℤ
  sandboxOnly : Bool
  productionFundsMoved : Bool
  withdrawable : Bool
  adapterId : String
  adapterVersion : String
  adapterKeyId : String
  messageHash : String
  signature : String
  issuedAt : Option ℕ
  /-- `providerId`, `providerCategory` and `purposeCode`, where one of them is there. -/
  provider : Option (String × String × String)
  deriving DecidableEq

/-- What `postSandboxRepayment` hashes. -/
structure RepaymentCore (H : Type) where
  obligationId : String
  subjectId : String
  assetId : String
  requestedMinor : ℤ
  appliedMinor : ℤ
  appliedFeeMinor : ℤ
  appliedInterestMinor : ℤ
  appliedPrincipalMinor : ℤ
  surplusMinor : ℤ
  remainingPrincipalMinor : ℤ
  remainingInterestMinor : ℤ
  remainingFeesMinor : ℤ
  sourceCode : SandboxRepaymentSource
  actorHash : H
  accruedInterestMinor : ℤ
  accrualDays : ℕ
  occurredAt : ℕ
  deriving DecidableEq

/-- `moneySnapshot` -/
structure MoneySnapshot where
  outstandingPrincipalMinor : ℤ
  outstandingInterestMinor : ℤ
  outstandingFeesMinor : ℤ
  totalRepaidMinor : ℤ
  deriving DecidableEq

/-- What an obligation owes and was repaid, as its repayments record it. -/
def moneySnapshot {H : Type} (obligation : Obligation H) : MoneySnapshot where
  outstandingPrincipalMinor := obligation.outstandingPrincipalMinor
  outstandingInterestMinor := obligation.outstandingInterestMinor
  outstandingFeesMinor := obligation.outstandingFeesMinor
  totalRepaidMinor := obligation.totalRepaidMinor

/-- What `createServicingAction` hashes. -/
structure ServicingAction (H : Type) where
  obligationId : String
  subjectId : String
  actionType : String
  previousStatus : ObligationStatus
  nextStatus : ObligationStatus
  previousClassification : ServicingClassification
  nextClassification : ServicingClassification
  daysPastDue : ℕ
  oldestUnpaidInstallmentId : Option H
  reasonCode : String
  source : String
  actorHash : H
  scheduleSequenceBefore : ℕ
  scheduleSequenceAfter : ℕ
  balancesBefore : MoneySnapshot
  balancesAfter : MoneySnapshot
  approval : Option (String × String)
  effectiveAt : ℕ
  deriving DecidableEq

/-- The payloads that are hashed on this rail. -/
inductive SandboxPreimage (H : Type) where
  | obligationInstallment (obligationId : String) (installmentNumber dueAt : ℕ)
      (principal interest fee : ℤ) (scheduleSequence : ℕ)
  | sandboxLedgerAccount (ownerId assetId : String) (accountType : LedgerAccountType)
  | sandboxExecutionReceipt (subjectId : String) (receipt : AdapterReceipt) (executedAt : ℕ)
  | sandboxExecutionLedgerIdempotency (obligationId : String) (receiptHash : H)
  | actor (actorId : String)
  | sandboxRepayment (core : RepaymentCore H)
  | sandboxRepaymentLedgerIdempotency (repaymentId repaymentHash : H)
  | sandboxInterestLedgerIdempotency (obligationId : String) (lastAccruedAt : ℕ)
      (accruedInterestMinor : ℤ)
  | sandboxWriteOffLedgerIdempotency (obligationId : String) (servicingActionId : H)
  | sandboxServicingAction (core : ServicingAction H)
  | ledgerTransaction (core : LedgerTransactionCore H)

section Rail

variable {H : Type} (hashId : SandboxPreimage H → H)

/-! ## Acceptance -/

/-- `INTERVAL_DAYS` -/
def intervalDays : RepaymentFrequency → Option ℕ
  | .weekly => some 7
  | .biweekly => some 14
  | .monthly => some 30
  | .endOfTerm => none

/-- A row that nothing has been paid of. -/
def scheduledRow (obligationId : String) (installmentNumber dueAt : ℕ)
    (principal interest fee : ℤ) (scheduleSequence : ℕ) : Installment H where
  installmentId := hashId (.obligationInstallment obligationId installmentNumber dueAt principal
    interest fee scheduleSequence)
  installmentNumber
  dueAt
  scheduledPrincipalMinor := principal
  scheduledInterestMinor := interest
  scheduledFeeMinor := fee
  paidPrincipalMinor := 0
  paidInterestMinor := 0
  paidFeeMinor := 0
  status := .scheduled
  scheduleSequence

/-- When the installment at `index` falls due: the last one at maturity. -/
def dueAtIndex (offer : CreditOffer) (index : ℕ) : ℕ :=
  if index + 1 = offer.installmentCount then offer.maturityAt
  else offer.firstPaymentAt + index * (intervalDays offer.repaymentFrequency).getD 0 * dayMs

/-- `createObligationSchedule`: equal shares of the principal, and the remainder in the last. -/
def createObligationSchedule (obligationId : String) (offer : CreditOffer) :
    Domain (List (Installment H)) := do
  assertNonEmptyString "obligationId" obligationId
  let principal ← assertPositiveMinorUnits offer.approvedPrincipalMinor "approvedPrincipalMinor"
  let count := offer.installmentCount
  throwIf (count < 1 ∨ 520 < count) "invalid_credit_schedule" "Offer installment count is invalid"
  throwIf (offer.maturityAt < offer.firstPaymentAt) "invalid_credit_schedule"
    "Offer schedule timestamps are invalid"
  throwIf (1 < count ∧ intervalDays offer.repaymentFrequency = none) "invalid_credit_schedule"
    "Offer frequency cannot produce multiple installments"
  throwIf ((List.range (count - 1)).any (fun index ↦
      dueAtIndex offer (index + 1) ≤ dueAtIndex offer index) = true)
    "invalid_credit_schedule" "Offer schedule is not strictly increasing"
  let installments := (List.range count).map fun index ↦
    scheduledRow hashId obligationId (index + 1) (dueAtIndex offer index)
      (principal / count + if index + 1 = count then principal % count else 0) 0 0 1
  throwIf ((installments.map (·.scheduledPrincipalMinor)).sum ≠ principal)
    "invalid_credit_schedule" "normalized schedule does not reconcile to Offer terms"
  pure installments

/-- The obligation of an accepted offer, before it is paid out. -/
def createAcceptedOfferObligation (obligationId : String) (offer : CreditOffer) (now : ℕ) :
    Domain (Obligation H) := do
  let installments ← createObligationSchedule hashId obligationId offer
  pure
    { obligationId
      subjectId := offer.subjectId
      principalId := offer.principalId
      authorityType := offer.authorityType
      assetId := offer.assetId
      originalPrincipalMinor := offer.approvedPrincipalMinor
      outstandingPrincipalMinor := offer.approvedPrincipalMinor
      annualRateBps := offer.annualRateBps
      accruedInterestMinor := 0
      interestAccrualRemainder := 0
      outstandingInterestMinor := 0
      outstandingFeesMinor := 0
      totalRepaidMinor := 0
      scheduleSequence := 1
      installments
      writtenOffPrincipalMinor := 0
      writtenOffInterestMinor := 0
      writtenOffFeesMinor := 0
      executionStatus := .pending
      status := .created
      servicingClassification := .current
      daysPastDue := 0
      oldestUnpaidInstallmentId := installments.head?.map (·.installmentId)
      servicingReasonCode := "obligation_created"
      servicingEffectiveAt := now
      servicingOwnerCode := .platform
      resolution := none
      sandboxExecutionReceiptId := none
      poolExecutionReceiptId := none
      poolObligationBindingId := none
      executedAt := none
      lastAccruedAt := none
      updatedAt := now
      sandboxOnly := true
      productionFundsMoved := false }

/-! ## The ledger -/

/-- `accounts[accountType].ledgerAccountId` of `createSandboxLedgerAccounts` -/
def sandboxAccountId (obligation : Obligation H) (accountType : LedgerAccountType) : H :=
  hashId (.sandboxLedgerAccount obligation.obligationId obligation.assetId accountType)

/-- An entry of `entryInputs`. -/
structure EntryInput (H : Type) where
  ledgerAccountId : H
  direction : LedgerEntryDirection
  amountMinor : ℤ

/-- The entries with their place in the transaction. -/
def numbered (start : ℕ) : List (EntryInput H) → List (LedgerEntry H)
  | [] => []
  | entry :: rest =>
    { ledgerAccountId := entry.ledgerAccountId, direction := entry.direction
      amountMinor := entry.amountMinor, sequence := start } :: numbered (start + 1) rest

/-- A transaction of positive entries whose debits and credits are equal. -/
def createBalancedTransaction (idempotencyKey : H) (transactionType : String)
    (obligation : Obligation H) (reference : LedgerReference H)
    (entryInputs : List (EntryInput H)) : Domain (LedgerTransaction H) := do
  let _ ← entryInputs.mapM fun entry ↦ assertPositiveMinorUnits entry.amountMinor "ledger amount"
  let entries := numbered 0 entryInputs
  let debits := sideTotal .debit entries
  let credits := sideTotal .credit entries
  throwIf (debits = 0 ∨ debits ≠ credits) "unbalanced_ledger_transaction"
    "sandbox accounting transaction must balance"
  let core : LedgerTransactionCore H :=
    { idempotencyKey, transactionType, assetId := obligation.assetId, reference
      obligationId := obligation.obligationId, entries }
  pure { core with
    transactionHash := hashId (.ledgerTransaction core)
    ledgerEntryIds := []
    debitTotalMinor := debits
    creditTotalMinor := credits }

/-- The credits of the receivables that something was paid or lost of. -/
def receivableCredits (obligation : Obligation H) (amounts : List (LedgerAccountType × ℤ)) :
    List (EntryInput H) :=
  (amounts.filter fun amount ↦ 0 < amount.2).map fun amount ↦
    { ledgerAccountId := sandboxAccountId hashId obligation amount.1, direction := .credit
      amountMinor := amount.2 }

/-! ## Execution -/

/-- The hash of a receipt that names the obligation, its asset and its principal. -/
def createSandboxExecutionReceipt (obligation : Obligation H) (adapterReceipt : AdapterReceipt)
    (now : ℕ) : Domain H := do
  assertSharedObligation obligation
  throwIf (adapterReceipt.obligationId ≠ obligation.obligationId ∨
      adapterReceipt.assetId ≠ obligation.assetId ∨
      adapterReceipt.amountMinor ≠ obligation.originalPrincipalMinor ∨
      adapterReceipt.sandboxOnly ≠ true ∨ adapterReceipt.productionFundsMoved ≠ false ∨
      adapterReceipt.withdrawable ≠ false)
    "sandbox_rail_unavailable" "sandbox rail receipt does not match the Obligation"
  assertNonEmptyString "adapterId" adapterReceipt.adapterId
  assertNonEmptyString "adapterVersion" adapterReceipt.adapterVersion
  assertNonEmptyString "adapterKeyId" adapterReceipt.adapterKeyId
  assertNonEmptyString "messageHash" adapterReceipt.messageHash
  assertNonEmptyString "signature" adapterReceipt.signature
  throwIf (adapterReceipt.issuedAt = none) "sandbox_rail_unavailable"
    "sandbox rail receipt timestamp is invalid"
  throwIf (adapterReceipt.provider.any (fun provider ↦
      provider.1 = "" ∨ provider.2.1 = "" ∨ provider.2.2 = "") = true)
    "sandbox_rail_unavailable" "sandbox Provider target binding is invalid"
  pure (hashId (.sandboxExecutionReceipt obligation.subjectId adapterReceipt now))

/-- Pays an obligation out. -/
def executeSandboxObligation (obligation : Obligation H) (adapterReceipt : AdapterReceipt)
    (now : ℕ) : Domain (Obligation H × LedgerTransaction H) := do
  assertSharedObligation obligation
  throwIf (obligation.poolObligationBindingId.isSome = true) "obligation_execution_rail_conflict"
    "Pool-bound Obligation cannot execute through the sandbox rail"
  throwIf (obligation.status ≠ .created ∨ obligation.executionStatus ≠ .pending)
    "obligation_not_executable" "Obligation is not pending sandbox execution"
  let receiptHash ← createSandboxExecutionReceipt hashId obligation adapterReceipt now
  let ledgerTransaction ← createBalancedTransaction hashId
    (hashId (.sandboxExecutionLedgerIdempotency obligation.obligationId receiptHash))
    "sandbox_credit_execution" obligation (.sandboxExecutionReceipt receiptHash)
    [{ ledgerAccountId := sandboxAccountId hashId obligation .principalReceivable
       direction := .debit, amountMinor := obligation.originalPrincipalMinor },
      { ledgerAccountId := sandboxAccountId hashId obligation .sandboxFundingSource
        direction := .credit, amountMinor := obligation.originalPrincipalMinor }]
  pure ({ obligation with
    executionStatus := .executed
    sandboxExecutionReceiptId := some receiptHash
    executedAt := some now
    lastAccruedAt := some now
    interestAccrualRemainder := 0
    status := .active
    updatedAt := now }, ledgerTransaction)

/-! ## Servicing -/

/-- `SANDBOX_SERVICING_GRACE_DAYS` -/
def sandboxServicingGraceDays : ℕ := 3

/-- `SANDBOX_SERVICING_DEFAULT_DPD` -/
def sandboxServicingDefaultDpd : ℕ := 90

/-- What a row still owes. -/
def installmentOutstandingMinor (row : Installment H) : ℤ :=
  row.scheduledPrincipalMinor - row.paidPrincipalMinor + row.scheduledInterestMinor
    - row.paidInterestMinor + row.scheduledFeeMinor - row.paidFeeMinor

/-- `assertSharedServicingObligation` -/
def assertSharedServicingObligation (obligation : Obligation H) (executed : Bool) : Domain Unit :=
  throwIf (obligation.sandboxOnly ≠ true ∨ obligation.productionFundsMoved ≠ false ∨
      obligation.installments = [] ∨
      executed = true ∧ obligation.executionStatus ≠ .executed)
    "servicing_state_unavailable" "shared sandbox servicing state is unavailable"

/-- What an obligation still owes. -/
def totalOutstanding (obligation : Obligation H) : ℤ :=
  obligation.outstandingPrincipalMinor + obligation.outstandingInterestMinor
    + obligation.outstandingFeesMinor

/-- The status of an obligation that is not past due. -/
def basePerformingStatus (obligation : Obligation H) : ObligationStatus :=
  if totalOutstanding obligation = 0 then .fullyRepaid
  else if obligation.status ∈ [.restructured, .repurchased] ∧
      obligation.servicingClassification ∈ [.restructured, .repurchased] then obligation.status
  else if 0 < obligation.totalRepaidMinor then .partiallyRepaid else .active

/-- The classification by the days past due. -/
def classificationForDpd (daysPastDue : ℕ) : ServicingClassification :=
  if daysPastDue ≤ sandboxServicingGraceDays then .gracePeriod
  else if daysPastDue ≤ 30 then .dpd1To30
  else if daysPastDue ≤ 60 then .dpd31To60
  else if daysPastDue ≤ 89 then .dpd61To89
  else .defaulted

/-- `reasonForClassification`; the classifications that are not derived have none. -/
def reasonForClassification : ServicingClassification → String
  | .current => "servicing_current"
  | .gracePeriod => "servicing_grace_period"
  | .dpd1To30 => "servicing_dpd_1_30"
  | .dpd31To60 => "servicing_dpd_31_60"
  | .dpd61To89 => "servicing_dpd_61_89"
  | .defaulted => "servicing_default_threshold"
  | _ => ""

/-- `allowedPairs` -/
def allowedClassifications : ObligationStatus → List ServicingClassification
  | .created => [.current]
  | .active => [.current, .cured]
  | .partiallyRepaid => [.current, .cured]
  | .fullyRepaid => [.current, .cured]
  | .delinquent => [.gracePeriod, .dpd1To30, .dpd31To60, .dpd61To89]
  | .defaulted => [.defaulted]
  | .restructured => [.restructured]
  | .repurchased => [.repurchased]
  | .writtenOff => [.writtenOff]
  | .overdue => []
  | .closed => []

/-- The status, the classification and the days past due fit each other. -/
def assertSandboxServicingState (obligation : Obligation H) : Domain Unit := do
  assertSharedServicingObligation obligation false
  throwIf (¬ isSafeInteger obligation.daysPastDue ∨ ¬ isSafeInteger obligation.scheduleSequence ∨
      obligation.scheduleSequence < 1)
    "invalid_servicing_state" "sandbox servicing state is invalid"
  throwIf (obligation.servicingClassification ∉ allowedClassifications obligation.status)
    "invalid_servicing_state" "Obligation lifecycle and servicing classification conflict"
  throwIf (obligation.servicingClassification = .current ∧ obligation.daysPastDue ≠ 0 ∨
      obligation.status = .defaulted ∧ obligation.daysPastDue < sandboxServicingDefaultDpd ∨
      obligation.oldestUnpaidInstallmentId = none ∧ obligation.daysPastDue ≠ 0)
    "invalid_servicing_state" "Obligation DPD fields conflict with servicing state"

/-- The first of two rows in the order of `unpaid.sort`; a row stays before its equals. -/
def earlier (row other : Installment H) : Installment H :=
  if other.dueAt < row.dueAt ∨
      other.dueAt = row.dueAt ∧ other.installmentNumber < row.installmentNumber then other else row

/-- `unpaid[0]`, the first of the unpaid rows when they are sorted. -/
def oldestUnpaid (rows : List (Installment H)) : Option (Installment H) :=
  match rows.filter fun row ↦ 0 < installmentOutstandingMinor row with
  | [] => none
  | row :: rest => some (rest.foldl earlier row)

/-- What `deriveSandboxServicing` returns. -/
structure DerivedServicing (H : Type) where
  status : ObligationStatus
  servicingClassification : ServicingClassification
  daysPastDue : ℕ
  oldestUnpaidInstallmentId : Option H
  servicingReasonCode : String
  deriving DecidableEq

/-- The servicing of an obligation that is not past due. -/
def currentServicing (obligation : Obligation H) (oldest : Option (Installment H)) :
    DerivedServicing H where
  status := basePerformingStatus obligation
  servicingClassification :=
    if obligation.status ∈ [.restructured, .repurchased] then obligation.servicingClassification
    else .current
  daysPastDue := 0
  oldestUnpaidInstallmentId := oldest.map (·.installmentId)
  servicingReasonCode := "servicing_current"

/-- The servicing of an obligation that is past due since `oldest`. -/
def pastDueServicing (oldest : Installment H) (now : ℕ) : DerivedServicing H :=
  let daysPastDue := (now - oldest.dueAt) / dayMs
  let servicingClassification := classificationForDpd daysPastDue
  { status := if servicingClassification = .defaulted then .defaulted else .delinquent
    servicingClassification
    daysPastDue
    oldestUnpaidInstallmentId := some oldest.installmentId
    servicingReasonCode := reasonForClassification servicingClassification }

/-- The servicing state that the oldest unpaid row gives at `now`. -/
def deriveSandboxServicing (obligation : Obligation H) (now : ℕ) :
    Domain (DerivedServicing H) := do
  assertSharedServicingObligation obligation true
  match oldestUnpaid obligation.installments with
  | none => pure (currentServicing obligation none)
  | some oldest =>
    if now ≤ oldest.dueAt then pure (currentServicing obligation (some oldest))
    else pure (pastDueServicing oldest now)

/-- `applyDerivedServicing`, without a reason code of its own. -/
def applyDerivedServicing (previous : Obligation H) (derived : DerivedServicing H) (now : ℕ) :
    Domain (Obligation H) := do
  let next := { previous with
    status := derived.status
    servicingClassification := derived.servicingClassification
    daysPastDue := derived.daysPastDue
    oldestUnpaidInstallmentId := derived.oldestUnpaidInstallmentId
    servicingEffectiveAt := now
    servicingReasonCode := derived.servicingReasonCode
    updatedAt := now }
  assertSandboxServicingState next
  pure next

section Actions

variable [DecidableEq H]

/-- `advanceSandboxServicing`: the obligation, and whether it was changed. -/
def advanceSandboxServicing (obligation : Obligation H) (actorId : String) (now : ℕ) :
    Domain (Obligation H × Bool) := do
  assertNonEmptyString "actorId" actorId
  let derived ← deriveSandboxServicing obligation now
  if obligation.status ≠ derived.status ∨
      obligation.servicingClassification ≠ derived.servicingClassification ∨
      obligation.daysPastDue ≠ derived.daysPastDue ∨
      obligation.oldestUnpaidInstallmentId ≠ derived.oldestUnpaidInstallmentId ∨
      obligation.servicingReasonCode ≠ derived.servicingReasonCode then do
    let next ← applyDerivedServicing obligation derived now
    pure (next, true)
  else pure (obligation, false)

end Actions

/-- `wasAdverse` -/
def wasAdverse (previous : Obligation H) : Prop :=
  previous.status ∈ [.delinquent, .defaulted] ∨
    previous.servicingClassification ∈ [.gracePeriod, .dpd1To30, .dpd31To60, .dpd61To89, .defaulted]

instance (previous : Obligation H) : Decidable (wasAdverse previous) :=
  inferInstanceAs (Decidable (_ ∨ _))

/-- `applySandboxServicingAfterRepayment`, without the action it records. -/
def applySandboxServicingAfterRepayment (previous repaid : Obligation H) (actorId : String)
    (now : ℕ) : Domain (Obligation H) := do
  assertNonEmptyString "actorId" actorId
  let derived ← deriveSandboxServicing repaid now
  let nextDerived :=
    if wasAdverse previous ∧ derived.daysPastDue = 0 then
      { derived with
        status := basePerformingStatus repaid
        servicingClassification := .cured
        servicingReasonCode := "servicing_cured_by_repayment" }
    else derived
  applyDerivedServicing repaid nextDerived now

/-! ## Repayments -/

/-- `ACTUAL_365_DENOMINATOR` -/
def actual365Denominator : ℤ := 3650000

/-- What `accrueSimpleInterest` returns. -/
structure SimpleAccrual (H : Type) where
  obligation : Obligation H
  elapsedDays : ℕ
  accruedInterestMinor : ℤ

/-- Interest cannot be added to a schedule without rows: `target` is then `undefined`. -/
def accrueSimpleInterest (obligation : Obligation H) (now : ℕ) : Domain (SimpleAccrual H) := do
  assertSharedObligation obligation
  let start ←
    (match obligation.executionStatus, obligation.lastAccruedAt with
    | .executed, some start => .ok start
    | _, _ => .error { code := "obligation_not_repayable"
                       message := "Obligation has not been executed" })
  throwIf (now < start) "invalid_accrual_time" "interest accrual time cannot move backwards"
  let elapsedDays := (now - start) / dayMs
  let previousRemainder := obligation.interestAccrualRemainder
  throwIf (previousRemainder < 0 ∨ actual365Denominator ≤ previousRemainder)
    "invalid_interest_remainder" "interest accrual remainder is invalid"
  let numerator :=
    previousRemainder + obligation.outstandingPrincipalMinor * obligation.annualRateBps *
      elapsedDays
  let accruedInterest := numerator.tdiv actual365Denominator
  throwIf (0 < accruedInterest ∧ obligation.installments = []) "TypeError"
    "Cannot read properties of undefined (reading 'scheduledInterestMinor')"
  let installments :=
    if 0 < accruedInterest then addInterest accruedInterest obligation.installments
    else obligation.installments
  pure
    { obligation := { obligation with
        accruedInterestMinor := obligation.accruedInterestMinor + accruedInterest
        outstandingInterestMinor := obligation.outstandingInterestMinor + accruedInterest
        interestAccrualRemainder := numerator.tmod actual365Denominator
        lastAccruedAt := some (start + elapsedDays * dayMs)
        installments
        updatedAt := now }
      elapsedDays
      accruedInterestMinor := accruedInterest }

/-- A part of the repayment found no row. -/
def scheduleAllocationMismatch : DomainError where
  code := "schedule_allocation_mismatch"
  message := "repayment cannot reconcile to the installment schedule"

/-- `allocateAcrossInstallments` of `sandbox-credit.js` -/
def allocateAcrossSchedule (installments : List (Installment H)) (component : Component)
    (amount : ℤ) : Domain (List (Installment H)) := do
  let (rows, remaining) := allocateRows component installments amount
  failIf (remaining ≠ 0) scheduleAllocationMismatch
  pure rows

/-- The statuses in which an obligation can be repaid. -/
def repayableStatuses : List ObligationStatus :=
  [.active, .partiallyRepaid, .overdue, .delinquent, .defaulted, .restructured, .repurchased]

/-- What a payment of `requested` covers: fees first, then interest, then principal. -/
structure Applied where
  fee : ℤ
  interest : ℤ
  principal : ℤ

/-- All that a payment applies. -/
def Applied.total (applied : Applied) : ℤ := applied.fee + applied.interest + applied.principal

/-- A payment goes to the fee first, then to the interest, then to the principal. -/
def applyPayment (current : Obligation H) (requested : ℤ) : Applied :=
  let fee := min requested current.outstandingFeesMinor
  let interest := min (requested - fee) current.outstandingInterestMinor
  let principal := min (requested - fee - interest) current.outstandingPrincipalMinor
  { fee, interest, principal }

/-- The obligation after a payment, before it is serviced. -/
def updatedByRepayment (current : Obligation H) (applied : Applied)
    (installments : List (Installment H)) (now : ℕ) : Obligation H :=
  let outstandingPrincipal := current.outstandingPrincipalMinor - applied.principal
  let outstandingInterest := current.outstandingInterestMinor - applied.interest
  let outstandingFees := current.outstandingFeesMinor - applied.fee
  { current with
    outstandingPrincipalMinor := outstandingPrincipal
    outstandingInterestMinor := outstandingInterest
    outstandingFeesMinor := outstandingFees
    totalRepaidMinor := current.totalRepaidMinor + applied.total
    installments
    status := if outstandingPrincipal + outstandingInterest + outstandingFees = 0
      then .fullyRepaid else .partiallyRepaid
    updatedAt := now }

/-- What `postSandboxRepayment` hashes, for a payment with its surplus. -/
def repaymentCore (accrual : SimpleAccrual H) (requested : ℤ) (applied : Applied)
    (sourceCode : SandboxRepaymentSource) (actorId : String) (now : ℕ) : RepaymentCore H :=
  let current := accrual.obligation
  { obligationId := current.obligationId
    subjectId := current.subjectId
    assetId := current.assetId
    requestedMinor := requested
    appliedMinor := applied.total
    appliedFeeMinor := applied.fee
    appliedInterestMinor := applied.interest
    appliedPrincipalMinor := applied.principal
    surplusMinor := requested - applied.total
    remainingPrincipalMinor := current.outstandingPrincipalMinor - applied.principal
    remainingInterestMinor := current.outstandingInterestMinor - applied.interest
    remainingFeesMinor := current.outstandingFeesMinor - applied.fee
    sourceCode
    actorHash := hashId (.actor actorId)
    accruedInterestMinor := accrual.accruedInterestMinor
    accrualDays := accrual.elapsedDays
    occurredAt := now }

/-- The transaction for the interest that has accrued, if any has. -/
def interestTransaction (accrual : SimpleAccrual H) : Domain (Option (LedgerTransaction H)) :=
  let current := accrual.obligation
  if accrual.accruedInterestMinor = 0 then pure none
  else do
    let transaction ← createBalancedTransaction hashId
      (hashId (.sandboxInterestLedgerIdempotency current.obligationId
        (current.lastAccruedAt.getD 0) accrual.accruedInterestMinor))
      "sandbox_interest_accrual" current (.obligation current.obligationId)
      [{ ledgerAccountId := sandboxAccountId hashId current .interestReceivable
         direction := .debit, amountMinor := accrual.accruedInterestMinor },
        { ledgerAccountId := sandboxAccountId hashId current .syntheticInterestIncome
          direction := .credit, amountMinor := accrual.accruedInterestMinor }]
    pure (some transaction)

/-- What `postSandboxRepayment` returns. -/
structure SandboxRepayment (H : Type) where
  obligation : Obligation H
  repayment : RepaymentCore H
  ledgerTransaction : LedgerTransaction H
  interestTransaction : Option (LedgerTransaction H)

/-- Takes a repayment: accrues the interest, allocates the payment over the rows, books it and
services the obligation. -/
def postSandboxRepayment (obligation : Obligation H) (amountMinor : ℤ)
    (sourceCode : SandboxRepaymentSource) (actorId : String) (now : ℕ) :
    Domain (SandboxRepayment H) := do
  assertSharedObligation obligation
  throwIf (obligation.poolExecutionReceiptId.isSome = true) "obligation_execution_rail_conflict"
    "Pool-executed Obligation must be repaid through finalized Pool effects"
  throwIf (obligation.executionStatus ≠ .executed ∨ obligation.status ∉ repayableStatuses)
    "obligation_not_repayable" "Obligation is not in a repayable state"
  let requested ← assertPositiveMinorUnits amountMinor "amountMinor"
  assertNonEmptyString "actorId" actorId
  let accrual ← accrueSimpleInterest obligation now
  let current := accrual.obligation
  let applied := applyPayment current requested
  throwIf (applied.total = 0) "obligation_not_repayable" "Obligation has no repayable balance"
  let installments ← allocateAcrossSchedule current.installments .fee applied.fee
  let installments ← allocateAcrossSchedule installments .interest applied.interest
  let installments ← allocateAcrossSchedule installments .principal applied.principal
  let installments := updateStatuses installments
  let repayment := repaymentCore hashId accrual requested applied sourceCode actorId now
  let repaymentHash := hashId (.sandboxRepayment repayment)
  let ledgerTransaction ← createBalancedTransaction hashId
    (hashId (.sandboxRepaymentLedgerIdempotency repaymentHash repaymentHash)) "sandbox_repayment"
    current (.repayment repaymentHash)
    ({ ledgerAccountId := sandboxAccountId hashId current .repaymentClearing, direction := .debit
       amountMinor := applied.total } ::
      receivableCredits hashId current [(.feeReceivable, applied.fee),
        (.interestReceivable, applied.interest), (.principalReceivable, applied.principal)])
  let interestTransaction ← interestTransaction hashId accrual
  let servicing ← applySandboxServicingAfterRepayment obligation
    (updatedByRepayment current applied installments now) actorId now
  pure { obligation := servicing, repayment, ledgerTransaction, interestTransaction }

/-! ## Resolutions -/

/-- What dual control adds to a resolution. -/
structure ResolutionContext where
  reasonCode : String
  actorId : String
  approvalProposalId : String
  approvalExecutionId : String

/-- The obligation is in one of the states that the resolution is for. -/
def assertResolutionEligible (obligation : Obligation H)
    (allowedStatuses : List ObligationStatus) : Domain Unit := do
  assertSharedServicingObligation obligation true
  throwIf (obligation.status ∉ allowedStatuses) "servicing_resolution_unavailable"
    "Obligation is not eligible for this resolution"

/-- `resolve`: `changed` is the obligation with the changes of the resolution. -/
def resolve (obligation changed : Obligation H) (status : ObligationStatus)
    (classification : ServicingClassification) (resolutionType : SandboxServicingResolution)
    (actionType : String) (context : ResolutionContext) (now : ℕ) :
    Domain (Obligation H × H) := do
  assertNonEmptyString "reasonCode" context.reasonCode
  assertNonEmptyString "actorId" context.actorId
  assertNonEmptyString "approvalProposalId" context.approvalProposalId
  assertNonEmptyString "approvalExecutionId" context.approvalExecutionId
  let next := { changed with
    status
    servicingClassification := classification
    servicingReasonCode := context.reasonCode
    servicingEffectiveAt := now
    resolution := some
      { resolutionType, resolutionReasonCode := context.reasonCode, resolutionAt := now }
    updatedAt := now }
  assertSandboxServicingState next
  let action : ServicingAction H :=
    { obligationId := obligation.obligationId
      subjectId := obligation.subjectId
      actionType
      previousStatus := obligation.status
      nextStatus := next.status
      previousClassification := obligation.servicingClassification
      nextClassification := next.servicingClassification
      daysPastDue := next.daysPastDue
      oldestUnpaidInstallmentId := next.oldestUnpaidInstallmentId
      reasonCode := context.reasonCode
      source := "dual_control"
      actorHash := hashId (.actor context.actorId)
      scheduleSequenceBefore := obligation.scheduleSequence
      scheduleSequenceAfter := next.scheduleSequence
      balancesBefore := moneySnapshot obligation
      balancesAfter := moneySnapshot next
      approval := some (context.approvalProposalId, context.approvalExecutionId)
      effectiveAt := now }
  pure (next, hashId (.sandboxServicingAction action))

/-- Replaces the schedule by a single row, due after at most 90 days. -/
def restructureSandboxObligation (obligation : Obligation H) (additionalTermDays : ℕ)
    (context : ResolutionContext) (now : ℕ) : Domain (Obligation H × H) := do
  assertResolutionEligible obligation [.delinquent, .defaulted]
  throwIf (additionalTermDays < 1 ∨ 90 < additionalTermDays) "invalid_servicing_resolution"
    "restructure term must be between 1 and 90 days"
  let dueAt := now + additionalTermDays * dayMs
  let scheduleSequence := obligation.scheduleSequence + 1
  let installment := scheduledRow hashId obligation.obligationId 1 dueAt
    obligation.outstandingPrincipalMinor obligation.outstandingInterestMinor
    obligation.outstandingFeesMinor scheduleSequence
  resolve hashId obligation
    { obligation with
      scheduleSequence
      installments := [installment]
      daysPastDue := 0
      oldestUnpaidInstallmentId := some installment.installmentId }
    .restructured .restructured .restructure "restructure" context now

/-- Hands the servicing over to the other owner. -/
def repurchaseSandboxObligation (obligation : Obligation H)
    (servicingOwnerCode : SandboxServicingOwner) (context : ResolutionContext) (now : ℕ) :
    Domain (Obligation H × H) := do
  assertResolutionEligible obligation [.delinquent, .defaulted, .restructured]
  throwIf (servicingOwnerCode = obligation.servicingOwnerCode) "invalid_servicing_resolution"
    "repurchase must change the sandbox servicing owner"
  resolve hashId obligation { obligation with servicingOwnerCode } .repurchased .repurchased
    .repurchase "repurchase" context now

/-- Writes off all that is owed. -/
def writeOffSandboxObligation (obligation : Obligation H) (context : ResolutionContext)
    (now : ℕ) : Domain (Obligation H × H) := do
  assertResolutionEligible obligation [.defaulted, .restructured, .repurchased]
  throwIf (totalOutstanding obligation = 0) "servicing_resolution_unavailable"
    "Obligation has no balance to write off"
  resolve hashId obligation
    { obligation with
      writtenOffPrincipalMinor := obligation.outstandingPrincipalMinor
      writtenOffInterestMinor := obligation.outstandingInterestMinor
      writtenOffFeesMinor := obligation.outstandingFeesMinor }
    .writtenOff .writtenOff .writeOff "write_off" context now

/-- Books a write-off: the loss against the receivables. -/
def createSandboxWriteOffTransaction (obligation : Obligation H) (servicingActionId : H) :
    Domain (LedgerTransaction H) := do
  assertSharedObligation obligation
  throwIf (totalOutstanding obligation = 0) "servicing_resolution_unavailable"
    "Obligation has no balance to write off"
  createBalancedTransaction hashId
    (hashId (.sandboxWriteOffLedgerIdempotency obligation.obligationId servicingActionId))
    "sandbox_write_off" obligation (.sandboxServicingAction servicingActionId)
    ({ ledgerAccountId := sandboxAccountId hashId obligation .writeOffLoss, direction := .debit
       amountMinor := totalOutstanding obligation } ::
      receivableCredits hashId obligation
        [(.principalReceivable, obligation.outstandingPrincipalMinor),
          (.interestReceivable, obligation.outstandingInterestMinor),
          (.feeReceivable, obligation.outstandingFeesMinor)])

end Rail

end Credit
end IpoOne
