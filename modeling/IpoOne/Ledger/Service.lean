import IpoOne.Domain.Validators
import IpoOne.Lib.InsertionMap
import IpoOne.Lib.Throwing
import Mathlib

/-!
# The ledger service

`LedgerService`: accounts are opened and transactions are posted to them, each a list of entries
whose debits and credits are the same.  A transaction is posted once for its idempotency key.

An operational identifier is a random one, which is never drawn twice; here it is the number of
identifiers drawn before.  A method has written what it writes before it appends its event, and the
event store may still throw; of what it checks only the subject was not checked before.
-/

set_option autoImplicit false

namespace IpoOne
namespace Ledger

open Fallible
open Throwing (get modify lift)
open StableSerialize (Json)

/-- The states of an account. -/
inductive LedgerAccountStatus where
  | active
  | frozen
  | closed
  deriving DecidableEq, Repr

/-- The side of an entry. -/
inductive LedgerEntryDirection where
  | debit
  | credit
  deriving DecidableEq, Repr

/-- The side on which an account grows. -/
inductive LedgerNormalSide where
  | debit
  | credit
  deriving DecidableEq, Repr

/-- What an account is for. -/
inductive LedgerAccountType where
  | lockboxAsset
  | externalRevenue
  | repaymentClearing
  | sandboxFundingSource
  | principalReceivable
  | interestReceivable
  | feeReceivable
  | syntheticInterestIncome
  | syntheticFeeIncome
  | writeOffLoss
  deriving DecidableEq, Repr

/-- The names of the types. -/
def LedgerAccountType.text : LedgerAccountType → String
  | .lockboxAsset => "lockbox_asset"
  | .externalRevenue => "external_revenue"
  | .repaymentClearing => "repayment_clearing"
  | .sandboxFundingSource => "sandbox_funding_source"
  | .principalReceivable => "principal_receivable"
  | .interestReceivable => "interest_receivable"
  | .feeReceivable => "fee_receivable"
  | .syntheticInterestIncome => "synthetic_interest_income"
  | .syntheticFeeIncome => "synthetic_fee_income"
  | .writeOffLoss => "write_off_loss"

/-- What `createOperationalId` returns. -/
abbrev OperationalId : Type := ℕ

/-- `createLedgerAccount` -/
structure LedgerAccount where
  ledgerAccountId : OperationalId
  ownerType : String
  ownerId : String
  assetId : String
  accountType : LedgerAccountType
  normalSide : LedgerNormalSide
  status : LedgerAccountStatus
  deriving DecidableEq

/-- An entry of a transaction, as the caller gives it. -/
structure EntryInput where
  ledgerAccountId : OperationalId
  direction : LedgerEntryDirection
  amountMinor : ℤ
  deriving DecidableEq

/-- An entry with its place in the transaction. -/
structure NormalizedEntry extends EntryInput where
  sequence : ℕ
  deriving DecidableEq

/-- An entry as it is stored. -/
structure LedgerEntry extends NormalizedEntry where
  ledgerTransactionId : OperationalId
  deriving DecidableEq

/-- What `createLedgerTransaction` hashes, but for the entries. -/
structure TransactionTerms where
  idempotencyKey : String
  transactionType : String
  assetId : String
  referenceType : String
  referenceId : String
  metadata : Json

/-- The content of a transaction. -/
structure TransactionCore extends TransactionTerms where
  entries : List NormalizedEntry

/-- The same content, up to the order of the keys of the metadata and to the keys whose value is
`undefined`, which `hashId` does not see. -/
def TransactionCore.Same (a b : TransactionCore) : Prop :=
  { a with metadata := b.metadata } = b ∧ StableSerialize.Same a.metadata.value b.metadata.value

/-- `metadata ?? {}` -/
def recordedMetadata (metadata : Json) : Json :=
  match metadata.value with
  | .null => ⟨.object [], StableSerialize.isJson_object_nil⟩
  | _ => metadata

/-- The terms as a transaction keeps them. -/
def TransactionTerms.recorded (terms : TransactionTerms) : TransactionTerms :=
  { terms with metadata := recordedMetadata terms.metadata }

/-- The content as a transaction keeps it. -/
def TransactionCore.recorded (core : TransactionCore) : TransactionCore :=
  { core with metadata := recordedMetadata core.metadata }

/-- `createLedgerTransaction` -/
structure LedgerTransaction (H : Type) extends TransactionTerms where
  ledgerTransactionId : OperationalId
  transactionHash : H
  debitTotalMinor : ℤ
  creditTotalMinor : ℤ
  entryCount : ℕ

/-- The fields of the service. -/
structure LedgerState (H : Type) where
  accounts : InsertionMap OperationalId LedgerAccount
  accountIdsByNaturalKey : InsertionMap String OperationalId
  transactions : InsertionMap OperationalId (LedgerTransaction H)
  transactionIdsByIdempotencyKey : InsertionMap String OperationalId
  entries : List LedgerEntry
  /-- How many identifiers were drawn. -/
  drawn : ℕ

/-- A new ledger. -/
def LedgerState.new {H : Type} : LedgerState H where
  accounts := .empty
  accountIdsByNaturalKey := .empty
  transactions := .empty
  transactionIdsByIdempotencyKey := .empty
  entries := []
  drawn := 0

/-- The arguments of `openAccount`. -/
structure OpenAccountInput where
  ownerType : String
  ownerId : String
  assetId : String
  accountType : LedgerAccountType
  normalSide : LedgerNormalSide
  subjectId : Option String

/-- The arguments of `postTransaction`.  Metadata that are left out are an empty object. -/
structure PostTransactionInput extends TransactionTerms where
  entries : List EntryInput
  subjectId : Option String

/-- `getTransaction` returns a transaction with its entries. -/
structure TransactionView (H : Type) extends LedgerTransaction H where
  entries : List LedgerEntry

/-- What `postTransaction` answers. -/
structure PostResult (H : Type) where
  transaction : TransactionView H
  replayed : Bool

/-- What `getTrialBalance` answers. -/
structure TrialBalance where
  assetId : String
  debitTotalMinor : ℤ
  creditTotalMinor : ℤ
  balanced : Bool
  deriving DecidableEq

/-- What `verifyIntegrity` answers. -/
structure IntegrityReport where
  balanced : Bool
  transactionCount : ℕ
  violations : List OperationalId
  deriving DecidableEq

/-- `eventStore.appendCreditEvent` of an event about a subject. -/
def appendCreditEvent (subjectId : Option String) : Domain Unit :=
  match subjectId with
  | none => pure ()
  | some subjectId => assertNonEmptyString "correlationId" subjectId

section Service

variable {H : Type}

/-- `#requireAccount` -/
def requireAccount (ledger : LedgerState H) (ledgerAccountId : OperationalId) :
    Domain LedgerAccount :=
  match ledger.accounts.get ledgerAccountId with
  | none => .error { code := "ledger_account_not_found", message := "ledger account not found" }
  | some account => pure account

/-- The account that `openAccount` looks for: `ownerType`, `ownerId`, `assetId` and `accountType`
with a null character between them. -/
def OpenAccountInput.naturalKey (input : OpenAccountInput) : String :=
  input.ownerType ++ "\x00" ++ input.ownerId ++ "\x00" ++ input.assetId ++ "\x00"
    ++ input.accountType.text

/-- Opens an account; under a natural key that is there, the account that has it. -/
def openAccount (input : OpenAccountInput) :
    Throwing DomainError (LedgerState H) LedgerAccount := do
  lift (assertNonEmptyString "ownerType" input.ownerType)
  lift (assertNonEmptyString "ownerId" input.ownerId)
  lift (assertNonEmptyString "assetId" input.assetId)
  let ledger ← get
  match ledger.accountIdsByNaturalKey.get input.naturalKey with
  | some existingId => do
    let existing ← lift (requireAccount ledger existingId)
    lift (throwIf (existing.normalSide ≠ input.normalSide) "ledger_account_conflict"
      "ledger account natural key has a different normal side")
    pure existing
  | none => do
    let account : LedgerAccount :=
      { ledgerAccountId := ledger.drawn
        ownerType := input.ownerType
        ownerId := input.ownerId
        assetId := input.assetId
        accountType := input.accountType
        normalSide := input.normalSide
        status := .active }
    modify fun ledger ↦
      { ledger with
        accounts := ledger.accounts.set account.ledgerAccountId account
        accountIdsByNaturalKey :=
          ledger.accountIdsByNaturalKey.set input.naturalKey account.ledgerAccountId
        drawn := ledger.drawn + 1 }
    lift (appendCreditEvent input.subjectId)
    pure account

/-- The entries of a transaction, from `sequence` on; `seenAccountIds` came before. -/
def normalizeEntries (ledger : LedgerState H) (assetId : String) :
    List EntryInput → List OperationalId → ℕ → Domain (List NormalizedEntry)
  | [], _, _ => pure []
  | entry :: rest, seenAccountIds, sequence => do
    let amount ← assertPositiveMinorUnits entry.amountMinor "amountMinor"
    throwIf (entry.ledgerAccountId ∈ seenAccountIds) "duplicate_ledger_account_entry"
      "an account may appear only once per transaction"
    let account ← requireAccount ledger entry.ledgerAccountId
    throwIf (account.status ≠ .active) "ledger_account_not_active"
      "ledger posting requires active accounts"
    throwIf (account.assetId ≠ assetId) "ledger_asset_mismatch"
      "all ledger accounts must match the transaction asset"
    let normalized ← normalizeEntries ledger assetId rest (entry.ledgerAccountId :: seenAccountIds)
      (sequence + 1)
    pure ({ entry with amountMinor := amount, sequence } :: normalized)

/-- The debits, or the credits, of some entries. -/
def sideTotal (direction : LedgerEntryDirection) (entries : List NormalizedEntry) : ℤ :=
  ((entries.filter fun entry ↦ entry.direction = direction).map (·.amountMinor)).sum

/-- What `postTransaction` checks before it looks for its key. -/
def checkTransaction (ledger : LedgerState H) (input : PostTransactionInput) :
    Domain (List NormalizedEntry) := do
  assertNonEmptyString "idempotencyKey" input.idempotencyKey
  assertNonEmptyString "transactionType" input.transactionType
  assertNonEmptyString "assetId" input.assetId
  assertNonEmptyString "referenceType" input.referenceType
  assertNonEmptyString "referenceId" input.referenceId
  assertNoRawPiiReference "ledger.metadata" input.metadata.value
  throwIf (input.entries.length < 2) "ledger_entries_required"
    "ledger transaction requires at least two entries"
  let normalizedEntries ← normalizeEntries ledger input.assetId input.entries [] 0
  throwIf (sideTotal .debit normalizedEntries ≠ sideTotal .credit normalizedEntries)
    "unbalanced_ledger_transaction" "ledger debits and credits must balance"
  pure normalizedEntries

/-- `entries.filter((entry) => entry.ledgerTransactionId === ledgerTransactionId)` -/
def LedgerState.entriesOf (ledger : LedgerState H) (ledgerTransactionId : OperationalId) :
    List LedgerEntry :=
  ledger.entries.filter fun entry ↦ entry.ledgerTransactionId = ledgerTransactionId

/-- The stored transaction with its entries. -/
def getTransaction (ledger : LedgerState H) (ledgerTransactionId : OperationalId) :
    Domain (TransactionView H) :=
  match ledger.transactions.get ledgerTransactionId with
  | none =>
    .error { code := "ledger_transaction_not_found", message := "ledger transaction not found" }
  | some transaction =>
    pure
      { transaction with
        entries := (ledger.entriesOf ledgerTransactionId).mergeSort fun left right ↦
          left.sequence ≤ right.sequence }

variable [DecidableEq H]

/-- Posts a balanced transaction; the same one again under the key gives the stored one. -/
def postTransaction (hashId : TransactionCore → H) (input : PostTransactionInput) :
    Throwing DomainError (LedgerState H) (PostResult H) := do
  let ledger ← get
  let normalizedEntries ← lift (checkTransaction ledger input)
  let transactionHash := hashId { input.toTransactionTerms with entries := normalizedEntries }
  match ledger.transactionIdsByIdempotencyKey.get input.idempotencyKey with
  | some existingTransactionId => do
    let existing ← lift (getTransaction ledger existingTransactionId)
    lift (throwIf (existing.transactionHash ≠ transactionHash) "ledger_idempotency_conflict"
      "idempotency key was reused with a different transaction")
    pure { transaction := existing, replayed := true }
  | none => do
    let transaction : LedgerTransaction H :=
      { input.toTransactionTerms.recorded with
        ledgerTransactionId := ledger.drawn
        transactionHash
        debitTotalMinor := sideTotal .debit normalizedEntries
        creditTotalMinor := sideTotal .credit normalizedEntries
        entryCount := normalizedEntries.length }
    modify fun ledger ↦
      { ledger with
        transactions := ledger.transactions.set transaction.ledgerTransactionId transaction
        transactionIdsByIdempotencyKey := ledger.transactionIdsByIdempotencyKey.set
          input.idempotencyKey transaction.ledgerTransactionId
        entries := ledger.entries ++ normalizedEntries.map fun entry ↦
          { entry with ledgerTransactionId := transaction.ledgerTransactionId }
        drawn := ledger.drawn + 1 }
    lift (appendCreditEvent input.subjectId)
    let ledger ← get
    let transaction ← lift (getTransaction ledger transaction.ledgerTransactionId)
    pure { transaction, replayed := false }

/-! ## Reports -/

omit [DecidableEq H]

/-- All that was posted to an account on one side. -/
def getAccountTurnover (ledger : LedgerState H) (ledgerAccountId : OperationalId)
    (direction : LedgerEntryDirection) : Domain ℤ := do
  let _ ← requireAccount ledger ledgerAccountId
  pure (((ledger.entries.filter fun entry ↦
    entry.ledgerAccountId = ledgerAccountId ∧ entry.direction = direction).map
      (·.amountMinor)).sum)

/-- The balance of an account, on the side on which it grows. -/
def getAccountBalance (ledger : LedgerState H) (ledgerAccountId : OperationalId) : Domain ℤ := do
  let account ← requireAccount ledger ledgerAccountId
  let debits ← getAccountTurnover ledger ledgerAccountId .debit
  let credits ← getAccountTurnover ledger ledgerAccountId .credit
  pure (match account.normalSide with
    | .debit => debits - credits
    | .credit => credits - debits)

/-- The loop of `getTrialBalance`: the debits and the credits so far, and the next entry. -/
def addToTrialBalance (accountIds : List OperationalId) (totals : ℤ × ℤ) (entry : LedgerEntry) :
    ℤ × ℤ :=
  if entry.ledgerAccountId ∉ accountIds then totals
  else
    match entry.direction with
    | .debit => (totals.1 + entry.amountMinor, totals.2)
    | .credit => (totals.1, totals.2 + entry.amountMinor)

/-- The debits and the credits of all accounts of an asset. -/
def getTrialBalance (ledger : LedgerState H) (assetId : String) : Domain TrialBalance := do
  assertNonEmptyString "assetId" assetId
  let accountIds := (ledger.accounts.values.filter fun account ↦ account.assetId = assetId).map
    (·.ledgerAccountId)
  let totals := ledger.entries.foldl (addToTrialBalance accountIds) (0, 0)
  pure
    { assetId
      debitTotalMinor := totals.1
      creditTotalMinor := totals.2
      balanced := totals.1 = totals.2 }

/-- Looks for transactions with fewer than two entries, or with entries that do not balance. -/
def verifyIntegrity (ledger : LedgerState H) : IntegrityReport :=
  let violations := (ledger.transactions.values.filter fun transaction ↦
    let entries := ledger.entriesOf transaction.ledgerTransactionId
    entries.length < 2 ∨ sideTotal .debit (entries.map (·.toNormalizedEntry)) ≠
      sideTotal .credit (entries.map (·.toNormalizedEntry))).map (·.ledgerTransactionId)
  { balanced := violations.length = 0
    transactionCount := ledger.transactions.entries.length
    violations }

end Service

/-- A call on the service. -/
inductive LedgerInput where
  | openAccount (input : OpenAccountInput)
  | postTransaction (input : PostTransactionInput)

/-- One call of a method of the ledger. -/
def ledgerStep {H : Type} [DecidableEq H] (hashId : TransactionCore → H) (ledger : LedgerState H) :
    LedgerInput → LedgerState H
  | .openAccount input => (openAccount input ledger).2
  | .postTransaction input => (postTransaction hashId input ledger).2

end Ledger
end IpoOne
