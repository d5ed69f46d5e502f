import IpoOne.Domain.Errors
import Mathlib

/-!
# Obligations and their ledger

The records of `enums.js`, `models.js` and `sandbox-credit.js` that every rail of credit shares: an
obligation with its schedule of installments, and the double-entry transactions posted about it.

Amounts are `BigInt`s in the source, which may be negative, so they are integers here.  Identifiers
that are a prefix followed by a digest are the digest, of the arbitrary type `H`.
-/

set_option autoImplicit false

namespace IpoOne
namespace Credit

open Fallible

/-- The states of an obligation. -/
inductive ObligationStatus where
  | created
  | active
  | partiallyRepaid
  | fullyRepaid
  | delinquent
  | overdue
  | defaulted
  | restructured
  | repurchased
  | writtenOff
  | closed
  deriving DecidableEq, Repr

/-- Whether an obligation was paid out. -/
inductive ObligationExecutionStatus where
  | pending
  | executed
  | failed
  deriving DecidableEq, Repr

/-- How an obligation is classified in servicing. -/
inductive ServicingClassification where
  | current
  | gracePeriod
  | dpd1To30
  | dpd31To60
  | dpd61To89
  | defaulted
  | cured
  | restructured
  | repurchased
  | writtenOff
  deriving DecidableEq, Repr

/-- The resolutions of a loan that is past due. -/
inductive SandboxServicingResolution where
  | restructure
  | repurchase
  | writeOff
  deriving DecidableEq, Repr

/-- Who services an obligation. -/
inductive SandboxServicingOwner where
  | platform
  | originator
  deriving DecidableEq, Repr

/-- What a credit intent is authorised by. -/
inductive CreditAuthorityType where
  | consent
  | mandate
  deriving DecidableEq, Repr

/-- How far an installment is paid. -/
inductive InstallmentStatus where
  | scheduled
  | partlyPaid
  | paid
  deriving DecidableEq, Repr

/-- One row of the schedule. -/
structure Installment (H : Type) where
  installmentId : H
  installmentNumber : ℕ
  dueAt : ℕ
  scheduledPrincipalMinor : ℤ
  scheduledInterestMinor : ℤ
  scheduledFeeMinor : ℤ
  paidPrincipalMinor : ℤ
  paidInterestMinor : ℤ
  paidFeeMinor : ℤ
  status : InstallmentStatus
  scheduleSequence : ℕ
  deriving DecidableEq

/-- How and when servicing ended otherwise than by repayment. -/
structure Resolution where
  resolutionType : SandboxServicingResolution
  resolutionReasonCode : String
  resolutionAt : ℕ
  deriving DecidableEq

/-- An `obligation.v2`.  The remainder of the accrual is `0` where the source has none yet. -/
structure Obligation (H : Type) where
  obligationId : String
  subjectId : String
  principalId : String
  authorityType : CreditAuthorityType
  assetId : String
  originalPrincipalMinor : ℤ
  outstandingPrincipalMinor : ℤ
  annualRateBps : ℕ
  accruedInterestMinor : ℤ
  interestAccrualRemainder : ℤ
  outstandingInterestMinor : ℤ
  outstandingFeesMinor : ℤ
  totalRepaidMinor : ℤ
  scheduleSequence : ℕ
  installments : List (Installment H)
  writtenOffPrincipalMinor : ℤ
  writtenOffInterestMinor : ℤ
  writtenOffFeesMinor : ℤ
  executionStatus : ObligationExecutionStatus
  status : ObligationStatus
  servicingClassification : ServicingClassification
  daysPastDue : ℕ
  oldestUnpaidInstallmentId : Option H
  servicingReasonCode : String
  servicingEffectiveAt : ℕ
  servicingOwnerCode : SandboxServicingOwner
  resolution : Option Resolution
  sandboxExecutionReceiptId : Option H
  poolExecutionReceiptId : Option H
  poolObligationBindingId : Option H
  executedAt : Option ℕ
  lastAccruedAt : Option ℕ
  updatedAt : ℕ
  sandboxOnly : Bool
  productionFundsMoved : Bool
  deriving DecidableEq

/-! ## The ledger -/

/-- The accounts that an obligation has in the ledger. -/
inductive LedgerAccountType where
  | sandboxFundingSource
  | principalReceivable
  | interestReceivable
  | feeReceivable
  | syntheticInterestIncome
  | syntheticFeeIncome
  | repaymentClearing
  | writeOffLoss
  deriving DecidableEq, Repr

/-- The side of an entry. -/
inductive LedgerEntryDirection where
  | debit
  | credit
  deriving DecidableEq, Repr

/-- An entry before it has an identifier. -/
structure LedgerEntry (H : Type) where
  ledgerAccountId : H
  direction : LedgerEntryDirection
  amountMinor : ℤ
  sequence : ℕ
  deriving DecidableEq

/-- What a transaction was posted for: `referenceType` with `referenceId`. -/
inductive LedgerReference (H : Type) where
  | poolFinalizedEffect (effectHash : H)
  | sandboxExecutionReceipt (sandboxExecutionReceiptId : H)
  | repayment (repaymentId : H)
  | obligation (obligationId : String)
  | sandboxServicingAction (servicingActionId : H)
  deriving DecidableEq

/-- What `createLedgerTransaction` hashes. -/
structure LedgerTransactionCore (H : Type) where
  idempotencyKey : H
  transactionType : String
  assetId : String
  reference : LedgerReference H
  obligationId : String
  entries : List (LedgerEntry H)
  deriving DecidableEq

/-- A posted transaction, with the identifiers of its entries. -/
structure LedgerTransaction (H : Type) extends LedgerTransactionCore H where
  transactionHash : H
  ledgerEntryIds : List H
  debitTotalMinor : ℤ
  creditTotalMinor : ℤ
  deriving DecidableEq

/-- `assertSharedObligation`, as far as the type does not say it already. -/
def assertSharedObligation {H : Type} (obligation : Obligation H) : Domain Unit :=
  throwIf (obligation.sandboxOnly ≠ true ∨ obligation.productionFundsMoved ≠ false)
    "obligation_not_executable" "shared sandbox Obligation is unavailable"

end Credit
end IpoOne
