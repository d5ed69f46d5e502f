import IpoOne.Ledger.Service
import IpoOne.Lib.Run

/-!
# The ledger is balanced

Whatever calls are made on the ledger service, in every state it reaches the debits of each asset
are its credits, every transaction is balanced by itself, and every entry is on an account of its
transaction's asset; and so the balances of the accounts that debits add to are those of the others.
A key that was used is never used for another transaction, as far as the hash of a transaction tells
them apart: it does so up to the order of the keys of the metadata (`TransactionCore.Same`).

`postTransaction_cases` and `openAccount_cases` say all that a call can write; the rest is about
these two ways to write.
-/

set_option autoImplicit false

namespace IpoOne
namespace Ledger

open Fallible
open StableSerialize (Json)

section Integrity

variable {H : Type}

/-! ## What a call writes -/

/-- The entries of a transaction with their places in it. -/
def numbered : List EntryInput → ℕ → List NormalizedEntry
  | [], _ => []
  | entry :: rest, sequence => { entry with sequence } :: numbered rest (sequence + 1)

theorem requireAccount_eq_ok {ledger : LedgerState H} {id : OperationalId}
    {account : LedgerAccount} :
    requireAccount ledger id = .ok account ↔ ledger.accounts.get id = some account := by
  rw [requireAccount]
  cases ledger.accounts.get id <;> simp

theorem normalizeEntries_ok {ledger : LedgerState H} {assetId : String}
    (entries : List EntryInput) :
    ∀ {seen : List OperationalId} {sequence : ℕ} {normalized : List NormalizedEntry},
      normalizeEntries ledger assetId entries seen sequence = .ok normalized →
      normalized = numbered entries sequence ∧
        ∀ entry ∈ normalized, ∃ account, ledger.accounts.get entry.ledgerAccountId = some account ∧
          account.assetId = assetId := by
  induction entries with
  | nil =>
    intro seen sequence normalized h
    rw [normalizeEntries, pure_eq_ok] at h
    subst h
    exact ⟨rfl, nofun⟩
  | cons entry rest ih =>
    intro seen sequence normalized h
    simp only [normalizeEntries, bind_eq_ok, throwIf_eq_ok, not_not, pure_eq_ok,
      requireAccount_eq_ok] at h
    obtain ⟨amount, hamount, _, -, account, haccount, _, -, _, hasset, rest', hrest, rfl⟩ := h
    obtain ⟨rfl, hall⟩ := ih hrest
    obtain ⟨rfl, -⟩ := assertPositiveMinorUnits_ok hamount
    refine ⟨rfl, fun other hother ↦ ?_⟩
    rcases List.mem_cons.1 hother with rfl | hmem
    · exact ⟨account, haccount, hasset⟩
    · exact hall other hmem

theorem numbered_length (entries : List EntryInput) (sequence : ℕ) :
    (numbered entries sequence).length = entries.length := by
  induction entries generalizing sequence with
  | nil => rfl
  | cons entry rest ih => rw [numbered, List.length_cons, ih, List.length_cons]

/-- What a transaction that passed its checks is like. -/
structure Checked (ledger : LedgerState H) (input : PostTransactionInput)
    (normalized : List NormalizedEntry) : Prop where
  normalized_eq : normalized = numbered input.entries 0
  two_le : 2 ≤ normalized.length
  balanced : sideTotal .debit normalized = sideTotal .credit normalized
  on_accounts : ∀ entry ∈ normalized, ∃ account,
    ledger.accounts.get entry.ledgerAccountId = some account ∧ account.assetId = input.assetId

theorem checkTransaction_ok {ledger : LedgerState H} {input : PostTransactionInput}
    {normalized : List NormalizedEntry} (h : checkTransaction ledger input = .ok normalized) :
    Checked ledger input normalized := by
  simp only [checkTransaction, bind_eq_ok, throwIf_eq_ok, not_not, pure_eq_ok] at h
  obtain ⟨_, -, _, -, _, -, _, -, _, -, _, -, _, htwo, _, hnormalized, _, hbalanced, rfl⟩ := h
  obtain ⟨hnumbered, hall⟩ := normalizeEntries_ok _ hnormalized
  refine ⟨hnumbered, ?_, hbalanced, hall⟩
  rw [hnumbered, numbered_length]
  exact Nat.le_of_not_lt htwo

/-- The ledger after a transaction was written. -/
def LedgerState.posted (hashId : TransactionCore → H) (ledger : LedgerState H)
    (input : PostTransactionInput) (normalized : List NormalizedEntry) : LedgerState H :=
  { ledger with
    transactions := ledger.transactions.set ledger.drawn
      { input.toTransactionTerms.recorded with
        ledgerTransactionId := ledger.drawn
        transactionHash := hashId { input.toTransactionTerms with entries := normalized }
        debitTotalMinor := sideTotal .debit normalized
        creditTotalMinor := sideTotal .credit normalized
        entryCount := normalized.length }
    transactionIdsByIdempotencyKey :=
      ledger.transactionIdsByIdempotencyKey.set input.idempotencyKey ledger.drawn
    entries := ledger.entries ++ normalized.map fun entry ↦
      { entry with ledgerTransactionId := ledger.drawn }
    drawn := ledger.drawn + 1 }

theorem postTransaction_cases [DecidableEq H] (hashId : TransactionCore → H)
    (input : PostTransactionInput) (ledger : LedgerState H) :
    (postTransaction hashId input ledger).2 = ledger ∨
      ∃ normalized, Checked ledger input normalized ∧
        ledger.transactionIdsByIdempotencyKey.get input.idempotencyKey = none ∧
        (postTransaction hashId input ledger).2 = ledger.posted hashId input normalized := by
  rw [postTransaction, Throwing.bind_apply, Throwing.get_apply]
  dsimp only
  rw [Throwing.bind_apply, Throwing.lift_apply]
  rcases hcheck : checkTransaction ledger input with e | normalized
  · exact .inl rfl
  · dsimp only
    rcases hkey : ledger.transactionIdsByIdempotencyKey.get input.idempotencyKey with _ | existingId
    · refine .inr ⟨normalized, checkTransaction_ok hcheck, rfl, ?_⟩
      -- the event and the answer only read
      refine Throwing.left_bind (fun _ ↦ ?_) ledger
      refine Throwing.reads_bind (Throwing.reads_lift _) fun _ ↦ ?_
      refine Throwing.reads_bind Throwing.reads_get fun _ ↦ ?_
      exact Throwing.reads_bind (Throwing.reads_lift _) fun _ ↦ Throwing.reads_pure _
    · refine .inl ?_
      refine Throwing.reads_bind (Throwing.reads_lift _) (fun _ ↦ ?_) ledger
      exact Throwing.reads_bind (Throwing.reads_lift _) fun _ ↦ Throwing.reads_pure _

/-- The ledger after an account was opened. -/
def LedgerState.opened (ledger : LedgerState H) (input : OpenAccountInput) : LedgerState H :=
  { ledger with
    accounts := ledger.accounts.set ledger.drawn
      { ledgerAccountId := ledger.drawn
        ownerType := input.ownerType
        ownerId := input.ownerId
        assetId := input.assetId
        accountType := input.accountType
        normalSide := input.normalSide
        status := .active }
    accountIdsByNaturalKey := ledger.accountIdsByNaturalKey.set input.naturalKey ledger.drawn
    drawn := ledger.drawn + 1 }

theorem openAccount_cases (input : OpenAccountInput) (ledger : LedgerState H) :
    (openAccount input ledger).2 = ledger ∨ (openAccount input ledger).2 = ledger.opened input := by
  let P := fun left ↦ left = ledger ∨ left = ledger.opened input
  refine Throwing.left_lift_bind P (.inl rfl) fun _ _ ↦ ?_
  refine Throwing.left_lift_bind P (.inl rfl) fun _ _ ↦ ?_
  refine Throwing.left_lift_bind P (.inl rfl) fun _ _ ↦ ?_
  rw [Throwing.bind_apply, Throwing.get_apply]
  dsimp only
  rcases ledger.accountIdsByNaturalKey.get input.naturalKey with _ | existingId
  · refine .inr (Throwing.left_bind (fun _ ↦ ?_) ledger)
    exact Throwing.reads_bind (Throwing.reads_lift _) fun _ ↦ Throwing.reads_pure _
  · refine .inl (Throwing.reads_bind (Throwing.reads_lift _) (fun _ ↦ ?_) ledger)
    exact Throwing.reads_bind (Throwing.reads_lift _) fun _ ↦ Throwing.reads_pure _

/-! ## The invariant -/

/-- An entry counts for the debits, or against them. -/
def LedgerEntry.signed (entry : LedgerEntry) : ℤ :=
  match entry.direction with
  | .debit => entry.amountMinor
  | .credit => -entry.amountMinor

/-- The account of an entry has this asset. -/
def LedgerState.hasAsset (ledger : LedgerState H) (assetId : String) (entry : LedgerEntry) : Prop :=
  (ledger.accounts.get entry.ledgerAccountId).map (·.assetId) = some assetId

instance (ledger : LedgerState H) (assetId : String) (entry : LedgerEntry) :
    Decidable (ledger.hasAsset assetId entry) :=
  inferInstanceAs (Decidable (_ = _))

/-- Debits less credits of an asset. -/
def LedgerState.assetBalance (ledger : LedgerState H) (assetId : String) : ℤ :=
  ((ledger.entries.filter fun entry ↦ ledger.hasAsset assetId entry).map (·.signed)).sum

/-- The content of a transaction in the ledger. -/
def LedgerState.contentOf (ledger : LedgerState H) (transaction : LedgerTransaction H) :
    TransactionCore where
  toTransactionTerms := transaction.toTransactionTerms
  entries := (ledger.entriesOf transaction.ledgerTransactionId).map (·.toNormalizedEntry)

/-- What holds of a ledger. -/
structure Sound (hashId : TransactionCore → H) (ledger : LedgerState H) : Prop where
  account_id : ∀ id account, ledger.accounts.get id = some account →
    account.ledgerAccountId = id ∧ id < ledger.drawn
  transaction_id : ∀ id transaction, ledger.transactions.get id = some transaction →
    transaction.ledgerTransactionId = id ∧ id < ledger.drawn
  entry_posted : ∀ entry ∈ ledger.entries, ∃ transaction,
    ledger.transactions.get entry.ledgerTransactionId = some transaction ∧
      ledger.hasAsset transaction.assetId entry
  two_le : ∀ id transaction, ledger.transactions.get id = some transaction →
    2 ≤ (ledger.contentOf transaction).entries.length
  balanced : ∀ id transaction, ledger.transactions.get id = some transaction →
    sideTotal .debit (ledger.contentOf transaction).entries
      = sideTotal .credit (ledger.contentOf transaction).entries
  /-- A transaction has the hash of what it was posted with. -/
  posted_as : ∀ id transaction, ledger.transactions.get id = some transaction →
    ∃ core, transaction.transactionHash = hashId core ∧
      ledger.contentOf transaction = core.recorded
  key_posted : ∀ key id, ledger.transactionIdsByIdempotencyKey.get key = some id →
    ∃ transaction, ledger.transactions.get id = some transaction ∧
      transaction.idempotencyKey = key
  assetBalance_eq : ∀ assetId, ledger.assetBalance assetId = 0

variable {hashId : TransactionCore → H} {ledger : LedgerState H}

theorem sound_new : Sound hashId (.new : LedgerState H) where
  account_id := nofun
  transaction_id := nofun
  entry_posted := nofun
  two_le := nofun
  balanced := nofun
  posted_as := nofun
  key_posted := nofun
  assetBalance_eq := fun _ ↦ rfl

theorem Sound.hasAsset_opened (h : Sound hashId ledger) (input : OpenAccountInput)
    {entry : LedgerEntry} (hentry : entry ∈ ledger.entries) (assetId : String) :
    (ledger.opened input).hasAsset assetId entry ↔ ledger.hasAsset assetId entry := by
  obtain ⟨transaction, -, hasset⟩ := h.entry_posted entry hentry
  obtain ⟨account, haccount, -⟩ := Option.map_eq_some_iff.1 hasset
  have hne : entry.ledgerAccountId ≠ ledger.drawn := (h.account_id _ _ haccount).2.ne
  rw [LedgerState.hasAsset, LedgerState.opened, InsertionMap.get_set_of_ne _ _ hne,
    LedgerState.hasAsset]

theorem Sound.opened (h : Sound hashId ledger) (input : OpenAccountInput) :
    Sound hashId (ledger.opened input) where
  account_id := by
    intro id account hget
    rw [LedgerState.opened, InsertionMap.get_set] at hget
    split at hget
    · rename_i hid
      cases hget
      exact ⟨hid.symm, hid ▸ Nat.lt_succ_self _⟩
    · obtain ⟨hid, hlt⟩ := h.account_id id account hget
      exact ⟨hid, Nat.lt_succ_of_lt hlt⟩
  transaction_id := by
    intro id transaction hget
    obtain ⟨hid, hlt⟩ := h.transaction_id id transaction hget
    exact ⟨hid, Nat.lt_succ_of_lt hlt⟩
  entry_posted := by
    intro entry hentry
    obtain ⟨transaction, hget, hasset⟩ := h.entry_posted entry hentry
    exact ⟨transaction, hget, (h.hasAsset_opened input hentry _).2 hasset⟩
  two_le := h.two_le
  balanced := h.balanced
  posted_as := h.posted_as
  key_posted := h.key_posted
  assetBalance_eq := by
    intro assetId
    rw [← h.assetBalance_eq assetId, LedgerState.assetBalance, LedgerState.assetBalance]
    congr 2
    refine List.filter_congr fun entry hentry ↦ ?_
    rw [decide_eq_decide]
    exact h.hasAsset_opened input hentry assetId

/-- The entries of a transaction under its identifier. -/
def stored (ledgerTransactionId : OperationalId) (normalized : List NormalizedEntry) :
    List LedgerEntry :=
  normalized.map fun entry ↦ { entry with ledgerTransactionId }

theorem sum_signed_stored (id : OperationalId) (normalized : List NormalizedEntry) :
    ((stored id normalized).map (·.signed)).sum
      = sideTotal .debit normalized - sideTotal .credit normalized := by
  induction normalized with
  | nil => rfl
  | cons entry rest ih =>
    rw [stored, List.map_cons, List.map_cons, List.sum_cons, ← stored, ih]
    cases hdirection : entry.direction <;>
      simp [sideTotal, LedgerEntry.signed, hdirection] <;> omega

theorem entriesOf_stored (id other : OperationalId) (normalized : List NormalizedEntry) :
    (stored id normalized).filter (fun entry ↦ entry.ledgerTransactionId = other)
      = if id = other then stored id normalized else [] := by
  rw [stored, List.filter_map]
  split <;> simp_all [Function.comp_def]

section Posted

variable {input : PostTransactionInput} {normalized : List NormalizedEntry}

theorem posted_entries : (ledger.posted hashId input normalized).entries
    = ledger.entries ++ stored ledger.drawn normalized := rfl

/-- The transactions that are there keep their content. -/
theorem Sound.contentOf_posted (h : Sound hashId ledger) {id : OperationalId}
    {transaction : LedgerTransaction H} (hget : ledger.transactions.get id = some transaction) :
    (ledger.posted hashId input normalized).contentOf transaction
      = ledger.contentOf transaction := by
  obtain ⟨rfl, hlt⟩ := h.transaction_id id transaction hget
  rw [LedgerState.contentOf, LedgerState.contentOf, LedgerState.entriesOf, posted_entries,
    List.filter_append, entriesOf_stored, if_neg hlt.ne', List.append_nil, LedgerState.entriesOf]

/-- And the new one has the content it was posted with. -/
theorem Sound.contentOf_new (h : Sound hashId ledger) {transaction : LedgerTransaction H}
    (hid : transaction.ledgerTransactionId = ledger.drawn) :
    (ledger.posted hashId input normalized).contentOf transaction
      = ⟨transaction.toTransactionTerms, normalized⟩ := by
  have hnone : ledger.entries.filter (fun entry ↦ entry.ledgerTransactionId = ledger.drawn)
      = [] := by
    refine List.filter_eq_nil_iff.2 fun entry hentry heq ↦ ?_
    obtain ⟨transaction, hget, -⟩ := h.entry_posted entry hentry
    exact (h.transaction_id _ _ hget).2.ne (of_decide_eq_true heq)
  rw [LedgerState.contentOf, LedgerState.entriesOf, posted_entries, hid, List.filter_append, hnone,
    entriesOf_stored, if_pos rfl, List.nil_append, stored, List.map_map]
  exact congrArg _ (List.map_id normalized)

theorem Sound.posted (h : Sound hashId ledger) (hchecked : Checked ledger input normalized) :
    Sound hashId (ledger.posted hashId input normalized) := by
  have hcases : ∀ id transaction,
      (ledger.posted hashId input normalized).transactions.get id = some transaction →
      ledger.transactions.get id = some transaction ∧ id ≠ ledger.drawn ∨
        id = ledger.drawn ∧ transaction.ledgerTransactionId = ledger.drawn ∧
          transaction.toTransactionTerms = input.toTransactionTerms.recorded ∧
          transaction.transactionHash = hashId ⟨input.toTransactionTerms, normalized⟩ := by
    intro id transaction hget
    rw [LedgerState.posted, InsertionMap.get_set] at hget
    split at hget
    · rename_i hid
      cases hget
      exact .inr ⟨hid, rfl, rfl, rfl⟩
    · rename_i hid
      exact .inl ⟨hget, hid⟩
  have hold : ∀ {id transaction}, ledger.transactions.get id = some transaction →
      (ledger.posted hashId input normalized).transactions.get id = some transaction := by
    intro id transaction hget
    exact (InsertionMap.get_set_of_ne _ _ (h.transaction_id id transaction hget).2.ne).trans hget
  refine ⟨?_, ?_, ?_, ?_, ?_, ?_, ?_, ?_⟩
  · intro id account hget
    obtain ⟨hid, hlt⟩ := h.account_id id account hget
    exact ⟨hid, Nat.lt_succ_of_lt hlt⟩
  · intro id transaction hget
    rcases hcases id transaction hget with ⟨hget, -⟩ | ⟨hid, htransaction, -⟩
    · obtain ⟨hid, hlt⟩ := h.transaction_id id transaction hget
      exact ⟨hid, Nat.lt_succ_of_lt hlt⟩
    · exact ⟨htransaction.trans hid.symm, hid ▸ Nat.lt_succ_self _⟩
  · intro entry hentry
    rw [posted_entries, List.mem_append] at hentry
    rcases hentry with hentry | hentry
    · obtain ⟨transaction, hget, hasset⟩ := h.entry_posted entry hentry
      exact ⟨transaction, hold hget, hasset⟩
    · obtain ⟨entry, hmem, rfl⟩ := List.mem_map.1 hentry
      obtain ⟨account, haccount, hasset⟩ := hchecked.on_accounts entry hmem
      refine ⟨_, InsertionMap.get_set_self .., ?_⟩
      exact Option.map_eq_some_iff.2 ⟨account, haccount, hasset⟩
  · intro id transaction hget
    rcases hcases id transaction hget with ⟨hget, -⟩ | ⟨-, htransaction, -⟩
    · rw [h.contentOf_posted hget]
      exact h.two_le id transaction hget
    · rw [h.contentOf_new htransaction]
      exact hchecked.two_le
  · intro id transaction hget
    rcases hcases id transaction hget with ⟨hget, -⟩ | ⟨-, htransaction, -⟩
    · rw [h.contentOf_posted hget]
      exact h.balanced id transaction hget
    · rw [h.contentOf_new htransaction]
      exact hchecked.balanced
  · intro id transaction hget
    rcases hcases id transaction hget with ⟨hget, -⟩ | ⟨-, htransaction, hterms, hhash⟩
    · rw [h.contentOf_posted hget]
      exact h.posted_as id transaction hget
    · refine ⟨⟨input.toTransactionTerms, normalized⟩, hhash, ?_⟩
      rw [h.contentOf_new htransaction, hterms]
      rfl
  · intro key id hget
    rw [LedgerState.posted, InsertionMap.get_set] at hget
    split at hget
    · rename_i hkey
      cases hget
      exact ⟨_, InsertionMap.get_set_self .., hkey.symm⟩
    · obtain ⟨transaction, htransaction, hkey⟩ := h.key_posted key id hget
      exact ⟨transaction, hold htransaction, hkey⟩
  · intro assetId
    have hall : ∀ entry ∈ stored ledger.drawn normalized, ledger.hasAsset input.assetId entry := by
      intro entry hentry
      obtain ⟨entry, hmem, rfl⟩ := List.mem_map.1 hentry
      obtain ⟨account, haccount, hasset⟩ := hchecked.on_accounts entry hmem
      exact Option.map_eq_some_iff.2 ⟨account, haccount, hasset⟩
    have hnew : (((stored ledger.drawn normalized).filter
        fun entry ↦ ledger.hasAsset assetId entry).map (·.signed)).sum = 0 := by
      by_cases hasset : input.assetId = assetId
      · rw [List.filter_eq_self.2 fun entry hentry ↦ ?_, sum_signed_stored, hchecked.balanced,
          sub_self]
        exact decide_eq_true (hasset ▸ hall entry hentry)
      · rw [List.filter_eq_nil_iff.2 fun entry hentry heq ↦ ?_]
        · rfl
        · have hboth := (hall entry hentry).symm.trans (of_decide_eq_true heq)
          exact hasset (Option.some.inj hboth)
    have hsplit : (ledger.posted hashId input normalized).assetBalance assetId
        = ledger.assetBalance assetId + (((stored ledger.drawn normalized).filter
          fun entry ↦ ledger.hasAsset assetId entry).map (·.signed)).sum := by
      rw [LedgerState.assetBalance, posted_entries, List.filter_append, List.map_append,
        List.sum_append]
      rfl
    rw [hsplit, h.assetBalance_eq, hnew, add_zero]

end Posted

/-! ## Reports -/

/-- The loop of the trial balance keeps the difference of its totals. -/
theorem foldl_addToTrialBalance (accountIds : List OperationalId) (entries : List LedgerEntry)
    (totals : ℤ × ℤ) :
    let result := entries.foldl (addToTrialBalance accountIds) totals
    result.1 - result.2 = totals.1 - totals.2 +
      ((entries.filter fun entry ↦ entry.ledgerAccountId ∈ accountIds).map (·.signed)).sum := by
  induction entries generalizing totals with
  | nil => simp
  | cons entry rest ih =>
    intro result
    have hrest := ih (addToTrialBalance accountIds totals entry)
    rw [show result = rest.foldl (addToTrialBalance accountIds)
      (addToTrialBalance accountIds totals entry) from rfl, hrest, addToTrialBalance]
    by_cases hmem : entry.ledgerAccountId ∈ accountIds
    · rw [if_neg (not_not.2 hmem), List.filter_cons, if_pos (decide_eq_true hmem), List.map_cons,
        List.sum_cons]
      cases hdirection : entry.direction <;> simp [LedgerEntry.signed, hdirection] <;> omega
    · rw [if_pos hmem, List.filter_cons, if_neg (mt of_decide_eq_true hmem)]

/-- The accounts that the trial balance is about are those of its asset. -/
theorem Sound.mem_accountIds (h : Sound hashId ledger) (assetId : String) (entry : LedgerEntry) :
    entry.ledgerAccountId ∈ (ledger.accounts.values.filter fun account ↦
        account.assetId = assetId).map (·.ledgerAccountId) ↔
      ledger.hasAsset assetId entry := by
  rw [List.mem_map, LedgerState.hasAsset, Option.map_eq_some_iff]
  constructor
  · rintro ⟨account, hmem, hid⟩
    rw [List.mem_filter, InsertionMap.mem_values_iff, decide_eq_true_eq] at hmem
    obtain ⟨⟨id, hget⟩, hasset⟩ := hmem
    rw [(h.account_id id account hget).1] at hid
    exact ⟨account, hid ▸ hget, hasset⟩
  · rintro ⟨account, hget, hasset⟩
    refine ⟨account, ?_, (h.account_id _ _ hget).1⟩
    rw [List.mem_filter, InsertionMap.mem_values_iff, decide_eq_true_eq]
    exact ⟨⟨_, hget⟩, hasset⟩

theorem Sound.trialBalance (h : Sound hashId ledger) {assetId : String} {trial : TrialBalance}
    (htrial : getTrialBalance ledger assetId = .ok trial) :
    trial.debitTotalMinor = trial.creditTotalMinor ∧ trial.balanced = true := by
  simp only [getTrialBalance, bind_eq_ok, pure_eq_ok] at htrial
  obtain ⟨_, -, rfl⟩ := htrial
  have hfold := foldl_addToTrialBalance ((ledger.accounts.values.filter fun account ↦
    account.assetId = assetId).map (·.ledgerAccountId)) ledger.entries (0, 0)
  have hsum := h.assetBalance_eq assetId
  rw [LedgerState.assetBalance] at hsum
  simp only [h.mem_accountIds, hsum] at hfold
  have heq := Int.eq_of_sub_eq_zero hfold
  exact ⟨heq, decide_eq_true heq⟩

theorem Sound.verifyIntegrity (h : Sound hashId ledger) :
    (verifyIntegrity ledger).balanced = true ∧ (Ledger.verifyIntegrity ledger).violations = [] := by
  have hnone : (Ledger.verifyIntegrity ledger).violations = [] := by
    rw [Ledger.verifyIntegrity, List.map_eq_nil_iff, List.filter_eq_nil_iff]
    intro transaction hmem hviolation
    obtain ⟨id, hget⟩ := (InsertionMap.mem_values_iff _ _).1 hmem
    have htwo := h.two_le id transaction hget
    have hbalanced := h.balanced id transaction hget
    rw [LedgerState.contentOf, List.length_map] at htwo
    rcases of_decide_eq_true hviolation with hlt | hne
    · exact absurd htwo (Nat.not_le_of_lt hlt)
    · exact hne hbalanced
  refine ⟨?_, hnone⟩
  rw [Ledger.verifyIntegrity, List.map_eq_nil_iff] at hnone
  rw [Ledger.verifyIntegrity, hnone]
  rfl

/-! ### Balances -/

/-- The accounts of an asset with a normal side. -/
def LedgerState.accountIds (ledger : LedgerState H) (assetId : String) (side : LedgerNormalSide) :
    List OperationalId :=
  ((ledger.accounts.values.filter fun account ↦ account.assetId = assetId).filter fun account ↦
    account.normalSide = side).map (·.ledgerAccountId)

/-- Whether debits or credits add to an account. -/
def LedgerNormalSide.sign : LedgerNormalSide → ℤ
  | .debit => 1
  | .credit => -1

/-- Debits less credits of an account. -/
def LedgerState.net (ledger : LedgerState H) (ledgerAccountId : OperationalId) : ℤ :=
  ((ledger.entries.filter fun entry ↦ entry.ledgerAccountId = ledgerAccountId).map (·.signed)).sum

theorem net_eq (entries : List LedgerEntry) (id : OperationalId) :
    ((entries.filter fun entry ↦ entry.ledgerAccountId = id ∧ entry.direction = .debit).map
        (·.amountMinor)).sum
      - ((entries.filter fun entry ↦ entry.ledgerAccountId = id ∧ entry.direction = .credit).map
        (·.amountMinor)).sum
      = ((entries.filter fun entry ↦ entry.ledgerAccountId = id).map (·.signed)).sum := by
  induction entries with
  | nil => rfl
  | cons entry rest ih =>
    by_cases hid : entry.ledgerAccountId = id <;> cases hdirection : entry.direction <;>
      simp [hid, hdirection, LedgerEntry.signed] at ih ⊢ <;> omega

/-- What an account has on its normal side. -/
theorem getAccountBalance_eq {id : OperationalId} {account : LedgerAccount}
    (hget : ledger.accounts.get id = some account) :
    getAccountBalance ledger id = .ok (account.normalSide.sign * ledger.net id) := by
  have hrequire := requireAccount_eq_ok.2 hget
  have hnet := net_eq ledger.entries id
  simp only [getAccountBalance, getAccountTurnover, bind_eq_ok, pure_eq_ok]
  refine ⟨account, hrequire, _, ⟨account, hrequire, rfl⟩, _, ⟨account, hrequire, rfl⟩, ?_⟩
  rw [LedgerState.net, ← hnet]
  cases account.normalSide with
  | debit => exact (one_mul _).symm
  | credit => exact ((neg_one_mul _).trans (neg_sub _ _)).symm

/-- Accounts add up to the entries that are on one of them. -/
theorem sum_net {ids : List OperationalId} (hids : ids.Nodup) :
    (ids.map ledger.net).sum
      = ((ledger.entries.filter fun entry ↦ entry.ledgerAccountId ∈ ids).map (·.signed)).sum := by
  induction ids with
  | nil => simp
  | cons id rest ih =>
    obtain ⟨hid, hrest⟩ := List.nodup_cons.1 hids
    rw [List.map_cons, List.sum_cons, ih hrest, LedgerState.net]
    generalize ledger.entries = entries
    induction entries with
    | nil => rfl
    | cons entry others ih =>
      by_cases heq : entry.ledgerAccountId = id
      · have hnot : entry.ledgerAccountId ∉ rest := heq ▸ hid
        simp [heq, hid] at ih ⊢
        omega
      · by_cases hmem : entry.ledgerAccountId ∈ rest <;> simp [heq, hmem] at ih ⊢ <;> omega

/-- Each account has a normal side. -/
theorem sum_sides (accounts : List LedgerAccount) (f : LedgerAccount → ℤ) :
    ((accounts.filter fun account ↦ account.normalSide = .debit).map f).sum
      + ((accounts.filter fun account ↦ account.normalSide = .credit).map f).sum
      = (accounts.map f).sum := by
  induction accounts with
  | nil => rfl
  | cons account rest ih =>
    cases hside : account.normalSide <;> simp [hside] <;> omega

theorem Sound.nodup_ids (h : Sound hashId ledger) :
    (ledger.accounts.values.map (·.ledgerAccountId)).Nodup := by
  have hkeys : ledger.accounts.values.map (·.ledgerAccountId)
      = ledger.accounts.entries.map Prod.fst := by
    rw [InsertionMap.values, List.map_map]
    refine List.map_congr_left fun entry hentry ↦ ?_
    exact (h.account_id _ _ ((InsertionMap.mem_entries_iff _ _ _).1 hentry)).1
  rw [hkeys]
  exact ledger.accounts.nodup

/-- The balances of some accounts of one normal side. -/
theorem Sound.mapM_getAccountBalance (h : Sound hashId ledger) (assetId : String)
    (side : LedgerNormalSide) :
    (ledger.accountIds assetId side).mapM (getAccountBalance ledger)
      = .ok ((ledger.accountIds assetId side).map fun id ↦ side.sign * ledger.net id) := by
  rw [mapM_eq_ok, List.forall₂_map_right_iff, List.forall₂_same]
  intro id hid
  obtain ⟨account, hmem, rfl⟩ := List.mem_map.1 hid
  obtain ⟨haccount, hside⟩ := List.mem_filter.1 hmem
  obtain ⟨key, hget⟩ := (InsertionMap.mem_values_iff _ _).1 (List.mem_filter.1 haccount).1
  rw [(h.account_id key account hget).1, getAccountBalance_eq hget, of_decide_eq_true hside]

/-- **The accounts that debits add to balance the others.** -/
theorem Sound.balances (h : Sound hashId ledger) (assetId : String) :
    ∃ debits credits,
      (ledger.accountIds assetId .debit).mapM (getAccountBalance ledger) = .ok debits ∧
        (ledger.accountIds assetId .credit).mapM (getAccountBalance ledger) = .ok credits ∧
          debits.sum = credits.sum := by
  refine ⟨_, _, h.mapM_getAccountBalance assetId .debit, h.mapM_getAccountBalance assetId .credit,
    ?_⟩
  have hnodup : ((ledger.accounts.values.filter fun account ↦ account.assetId = assetId).map
      (·.ledgerAccountId)).Nodup :=
    h.nodup_ids.sublist (List.filter_sublist.map _)
  have hall := @sum_net H ledger _ hnodup
  simp only [h.mem_accountIds] at hall
  have hzero := h.assetBalance_eq assetId
  rw [LedgerState.assetBalance] at hzero
  rw [hzero, List.map_map, ← sum_sides] at hall
  rw [List.sum_map_mul_left, List.sum_map_mul_left, LedgerState.accountIds, LedgerState.accountIds,
    List.map_map, List.map_map, LedgerNormalSide.sign, LedgerNormalSide.sign]
  omega

/-! ## Keys -/

variable [DecidableEq H]

/-- A call under a key that was used writes nothing. -/
theorem postTransaction_used {input : PostTransactionInput} {id : OperationalId}
    (hused : ledger.transactionIdsByIdempotencyKey.get input.idempotencyKey = some id) :
    (postTransaction hashId input ledger).2 = ledger := by
  rcases postTransaction_cases hashId input ledger with hsame | ⟨_, -, hnew, -⟩
  · exact hsame
  · cases hnew.symm.trans hused

theorem same_recordedMetadata {a b : Json} (h : StableSerialize.Same a.value b.value) :
    StableSerialize.Same (recordedMetadata a).value (recordedMetadata b).value := by
  obtain ⟨v, hv⟩ := a
  obtain ⟨w, hw⟩ := b
  cases h with
  | null => exact .object fun _ ↦ .none
  | bool value => exact .bool value
  | number value => exact .number value
  | string value => exact .string value
  | array items => exact .array items
  | object properties => exact .object properties

theorem TransactionCore.Same.entries_eq {a b : TransactionCore} (h : a.Same b) :
    a.entries = b.entries := by
  rw [← h.1]

theorem TransactionCore.Same.recorded {a b : TransactionCore} (h : a.Same b) :
    a.recorded.Same b.recorded := by
  obtain ⟨hrest, hmetadata⟩ := h
  refine ⟨?_, same_recordedMetadata hmetadata⟩
  rw [← hrest]
  rfl

/-- A call under a key that was used goes through only if its content has the hash of the content
that the key was used for. -/
theorem Sound.postTransaction_replay (h : Sound hashId ledger) {input : PostTransactionInput}
    {id : OperationalId} {result : PostResult H}
    (hused : ledger.transactionIdsByIdempotencyKey.get input.idempotencyKey = some id)
    (hok : (postTransaction hashId input ledger).1 = .ok result) :
    ∃ transaction core, ledger.transactions.get id = some transaction ∧
      ledger.contentOf transaction = core.recorded ∧
        hashId core = hashId ⟨input.toTransactionTerms, numbered input.entries 0⟩ := by
  rw [postTransaction, Throwing.fst_get_bind, Throwing.fst_lift_bind_eq_ok] at hok
  obtain ⟨normalized, hcheck, hok⟩ := hok
  rw [hused] at hok
  simp only [Throwing.fst_lift_bind_eq_ok, throwIf_eq_ok, not_not, Throwing.pure_apply] at hok
  obtain ⟨existing, hexisting, _, hhash, -⟩ := hok
  obtain ⟨transaction, htransaction, -⟩ := h.key_posted _ _ hused
  obtain ⟨core, hposted, hcontent⟩ := h.posted_as id transaction htransaction
  rw [getTransaction, htransaction, pure_eq_ok] at hexisting
  subst hexisting
  refine ⟨transaction, core, htransaction, hcontent, ?_⟩
  rw [← (checkTransaction_ok hcheck).normalized_eq, ← hposted]
  exact hhash

theorem Sound.ledgerStep (h : Sound hashId ledger) (input : LedgerInput) :
    Sound hashId (ledgerStep hashId ledger input) := by
  cases input with
  | openAccount input =>
    rw [Ledger.ledgerStep]
    rcases openAccount_cases input ledger with hsame | hopened
    · rw [hsame]
      exact h
    · rw [hopened]
      exact h.opened input
  | postTransaction input =>
    rw [Ledger.ledgerStep]
    rcases postTransaction_cases hashId input ledger with hsame | ⟨normalized, hchecked, -, hposted⟩
    · rw [hsame]
      exact h
    · rw [hposted]
      exact h.posted hchecked

/-- What a reader of the ledger may rely on. -/
structure LedgerHolds (hashId : TransactionCore → H) (ledger : LedgerState H) : Prop where
  /-- For each asset the debits are the credits. -/
  trial_balance : ∀ assetId trial, getTrialBalance ledger assetId = .ok trial →
    trial.debitTotalMinor = trial.creditTotalMinor ∧ trial.balanced = true
  integrity : (verifyIntegrity ledger).balanced = true ∧ (verifyIntegrity ledger).violations = []
  entry_account : ∀ entry ∈ ledger.entries, ∃ transaction account,
    ledger.transactions.get entry.ledgerTransactionId = some transaction ∧
      ledger.accounts.get entry.ledgerAccountId = some account ∧
      account.assetId = transaction.assetId
  /-- For each asset the accounts with a debit balance are worth those with a credit balance. -/
  balances : ∀ assetId, ∃ debits credits,
    (ledger.accountIds assetId .debit).mapM (getAccountBalance ledger) = .ok debits ∧
      (ledger.accountIds assetId .credit).mapM (getAccountBalance ledger) = .ok credits ∧
        debits.sum = credits.sum
  /-- A key that was used posts nothing more. -/
  replay : ∀ input id,
    ledger.transactionIdsByIdempotencyKey.get input.idempotencyKey = some id →
      (postTransaction hashId input ledger).2 = ledger
  /-- A key that was used is refused for another content, if the hash tells contents apart. -/
  conflict : (∀ a b, hashId a = hashId b → a.Same b) → ∀ input id transaction,
    ledger.transactionIdsByIdempotencyKey.get input.idempotencyKey = some id →
      ledger.transactions.get id = some transaction →
      ¬ (ledger.contentOf transaction).Same
        (TransactionCore.recorded ⟨input.toTransactionTerms, numbered input.entries 0⟩) →
      ∃ e, (postTransaction hashId input ledger).1 = .error e

theorem Sound.ledgerHolds (h : Sound hashId ledger) : LedgerHolds hashId ledger where
  trial_balance := fun _ _ htrial ↦ h.trialBalance htrial
  integrity := h.verifyIntegrity
  entry_account := by
    intro entry hentry
    obtain ⟨transaction, hget, hasset⟩ := h.entry_posted entry hentry
    obtain ⟨account, haccount, heq⟩ := Option.map_eq_some_iff.1 hasset
    exact ⟨transaction, account, hget, haccount, heq⟩
  balances := h.balances
  replay := fun _ _ hused ↦ postTransaction_used hused
  conflict := by
    intro hsame input id transaction hused hget hne
    rcases hpost : (postTransaction hashId input ledger).1 with e | result
    · exact ⟨e, rfl⟩
    · obtain ⟨other, core, hother, hcontent, hhash⟩ := h.postTransaction_replay hused hpost
      rw [hget, Option.some.injEq] at hother
      subst hother
      refine absurd ?_ hne
      rw [hcontent]
      exact (hsame _ _ hhash).recorded

/-- **The ledger is balanced in every state of every run.** -/
theorem ledger_integrity (hashId : TransactionCore → H) (inputs : List LedgerInput) :
    Run.Along (ledgerStep hashId) (LedgerHolds hashId) .new inputs :=
  (Run.along_of_invariant (fun _ input h ↦ h.ledgerStep input) inputs sound_new).mono
    fun _ h ↦ h.ledgerHolds

end Integrity

namespace Sample

open StableSerialize (Same ascii)

/-- A hash that tells contents apart. -/
def hashContent (core : TransactionCore) :
    List String × NumberText.Text × List NormalizedEntry :=
  ([core.idempotencyKey, core.transactionType, core.assetId, core.referenceType, core.referenceId],
    StableSerialize.stableSerialize core.metadata.value, core.entries)

theorem hashContent_faithful (a b : TransactionCore) (h : hashContent a = hashContent b) :
    a.Same b := by
  simp only [hashContent, Prod.mk.injEq, List.cons.injEq] at h
  obtain ⟨⟨hkey, htype, hasset, hreference, hid, -⟩, htext, hentries⟩ := h
  refine ⟨?_, StableSerialize.same_of_stableSerialize_eq a.metadata.isJson b.metadata.isJson htext⟩
  rw [hkey, htype, hasset, hreference, hid, hentries]

theorem isJson_metadata (first second : NumberText.Text × NumberText.Text)
    (hne : first.1 ≠ second.1) :
    StableSerialize.IsJson
      (.object [(first.1, .string first.2), (second.1, .string second.2)]) := by
  refine .object ?_ ?_
  · exact List.nodup_cons.2 ⟨by simpa using hne, List.nodup_singleton _⟩
  · refine List.forall_mem_cons.2 ⟨.string _, List.forall_mem_cons.2 ⟨.string _, ?_⟩⟩
    exact List.forall_mem_nil _

/-- Where the money came from. -/
def metadata : Json :=
  ⟨_, isJson_metadata (ascii "source", ascii "provider") (ascii "batch", ascii "7") (by decide)⟩

/-- The same from another caller. -/
def metadata' : Json :=
  ⟨_, isJson_metadata (ascii "batch", ascii "7") (ascii "source", ascii "provider") (by decide)⟩

/-- An account of `ownerId` is opened. -/
def openInput (ownerId : String) (accountType : LedgerAccountType) (normalSide : LedgerNormalSide) :
    LedgerInput :=
  .openAccount
    { ownerType := "lockbox", ownerId, assetId := "usd", accountType, normalSide,
      subjectId := some "subject" }

/-- A posting of `amount` from the second account to the first. -/
def posting (metadata : Json) (amount : ℤ) : PostTransactionInput where
  idempotencyKey := "key"
  transactionType := "lockbox_revenue_capture"
  assetId := "usd"
  referenceType := "lockbox"
  referenceId := "box"
  metadata
  entries := [⟨0, .debit, amount⟩, ⟨1, .credit, amount⟩]
  subjectId := some "subject"

/-- Two accounts are opened, and a transaction is posted and replayed. -/
def inputs : List LedgerInput :=
  [openInput "box" .lockboxAsset .debit, openInput "revenue" .externalRevenue .credit,
    .postTransaction (posting metadata 500), .postTransaction (posting metadata' 500)]

/-- The ledger after these calls. -/
def ledger : LedgerState (List String × NumberText.Text × List NormalizedEntry) :=
  Run.run (ledgerStep hashContent) .new inputs

end Sample

/-- A transaction that is posted twice, with its metadata in another order, is written once, and
with another amount its key is refused. -/
theorem ledger_integrity_replayed :
    Run.Along (ledgerStep Sample.hashContent) (LedgerHolds Sample.hashContent) .new Sample.inputs ∧
      (getTrialBalance Sample.ledger "usd").toOption = some ⟨"usd", 500, 500, true⟩ ∧
        Sample.ledger.entries.length = 2 ∧
          ((postTransaction Sample.hashContent (Sample.posting Sample.metadata' 500)
            Sample.ledger).1.toOption.map (·.replayed)) = some true ∧
            ∃ e, (postTransaction Sample.hashContent (Sample.posting Sample.metadata 700)
              Sample.ledger).1 = .error e := by
  have halong := ledger_integrity Sample.hashContent Sample.inputs
  refine ⟨halong, by decide +kernel, by decide +kernel, by decide +kernel, ?_⟩
  have hholds : LedgerHolds Sample.hashContent Sample.ledger := halong.2.2.2.2
  have hposted : (Sample.ledger.transactions.get 2).map
      (fun transaction ↦ (Sample.ledger.contentOf transaction).entries)
        = some (numbered (Sample.posting Sample.metadata 500).entries 0) := by
    decide +kernel
  obtain ⟨transaction, hget, hentries⟩ := Option.map_eq_some_iff.1 hposted
  refine hholds.conflict Sample.hashContent_faithful (Sample.posting Sample.metadata 700) 2
    transaction (by decide +kernel) hget fun hsame ↦ ?_
  exact absurd (hentries.symm.trans hsame.entries_eq) (by decide)

end Ledger
end IpoOne
