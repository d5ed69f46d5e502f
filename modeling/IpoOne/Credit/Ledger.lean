import IpoOne.Credit.Schedule

/-!
# Balances of the ledger

A transaction debits some accounts and credits others; `balance` is what the transactions about an
account come to.  The accounts of an obligation are told apart by their identifiers, so everything
here is about a family of identifiers, one for each type of account, that are different from each
other.
-/

set_option autoImplicit false

namespace IpoOne
namespace Credit

variable {H : Type}

/-- An entry counts for its account if it is a debit, and against it if it is a credit. -/
def LedgerEntry.signed (entry : LedgerEntry H) : ℤ :=
  match entry.direction with
  | .debit => entry.amountMinor
  | .credit => -entry.amountMinor

/-- The debits, or the credits, of a list of entries. -/
def sideTotal (direction : LedgerEntryDirection) (entries : List (LedgerEntry H)) : ℤ :=
  ((entries.filter fun entry ↦ entry.direction = direction).map (·.amountMinor)).sum

/-- Debits and credits are the same, and what the transaction says they are. -/
structure LedgerTransactionCore.Balanced (core : LedgerTransactionCore H) (total : ℤ) : Prop where
  debit : sideTotal .debit core.entries = total
  credit : sideTotal .credit core.entries = total

/-- The entries balance, and both totals are theirs. -/
def LedgerTransaction.Balanced (transaction : LedgerTransaction H) : Prop :=
  transaction.toLedgerTransactionCore.Balanced transaction.debitTotalMinor ∧
    transaction.creditTotalMinor = transaction.debitTotalMinor

section Balance

variable [DecidableEq H]

/-- What the entries come to for one account. -/
def entryBalance (account : H) (entries : List (LedgerEntry H)) : ℤ :=
  (entries.map fun entry ↦ if entry.ledgerAccountId = account then entry.signed else 0).sum

/-- What the transactions come to for one account. -/
def balance (account : H) (transactions : List (LedgerTransaction H)) : ℤ :=
  (transactions.map fun transaction ↦ entryBalance account transaction.entries).sum

@[simp] theorem balance_nil (account : H) : balance account [] = 0 := rfl

@[simp] theorem balance_cons (account : H) (transaction : LedgerTransaction H)
    (transactions : List (LedgerTransaction H)) :
    balance account (transaction :: transactions)
      = entryBalance account transaction.entries + balance account transactions := by
  rw [balance, List.map_cons, List.sum_cons, balance]

@[simp] theorem balance_append (account : H) (xs ys : List (LedgerTransaction H)) :
    balance account (xs ++ ys) = balance account xs + balance account ys := by
  rw [balance, List.map_append, List.sum_append, balance, balance]

/-- What one entry comes to for an account of the family `accountId`. -/
theorem entryBalance_cons_accountId {accountId : LedgerAccountType → H}
    (hapart : Function.Injective accountId) (own posted : LedgerAccountType)
    (direction : LedgerEntryDirection) (amount : ℤ) (sequence : ℕ)
    (entries : List (LedgerEntry H)) :
    entryBalance (accountId own) (⟨accountId posted, direction, amount, sequence⟩ :: entries)
      = (if posted = own then (⟨accountId posted, direction, amount, sequence⟩ :
          LedgerEntry H).signed else 0) + entryBalance (accountId own) entries := by
  rw [entryBalance, List.map_cons, List.sum_cons, entryBalance]
  simp only [hapart.eq_iff]

@[simp] theorem entryBalance_nil (account : H) : entryBalance account [] = 0 := rfl

end Balance

end Credit
end IpoOne
